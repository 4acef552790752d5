/-!
# Why a configuration is refused
-/

namespace Bearer

/-- What is wrong with a configuration. -/
inductive ConfigError where
  /-- A variable is not set. -/
  | missing (name : String)
  /-- A value breaks a rule. -/
  | invalid (what : String)
  /-- A value is no base64 text. -/
  | undecodable (name : String)
  /-- A key has the wrong length. -/
  | wrongLength (rule : String)
deriving DecidableEq, Repr

namespace ConfigError

/-- The wording of an error. -/
def message : ConfigError → String
  | missing name => "missing env var " ++ name
  | invalid what => "invalid env var " ++ what
  | undecodable name => "decode error in " ++ name
  | wrongLength rule => rule

/-- The string inside an error. -/
def detail : ConfigError → String
  | missing name => name
  | invalid what => what
  | undecodable name => name
  | wrongLength rule => rule

end ConfigError

end Bearer
