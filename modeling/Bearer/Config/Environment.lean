import Bearer.Config.Basic
import Bearer.Json.Record
import Bearer.Table
import Bearer.Text.Base64
import Bearer.Text.Utf8

/-!
# Configurations from the environment

Nine variables hold a configuration. A variable whose bytes are no text counts as not set. Keys are
written in either of two spellings of base64, the list of secrets in JSON. The variables are read in
a fixed order, and the first that is wrong is reported.
-/

namespace Bearer

/-- The variables of a process: their bytes by name. -/
abbrev Environment := Table (List UInt8)

namespace Environment

/-- The value of a variable, if it is set to a text. -/
def text? (environment : Environment) (name : String) : Option String :=
  (environment.find? name).bind Text.ofBytes?

/-- The environment with a variable set to a text. -/
def set (environment : Environment) (name value : String) : Environment :=
  environment.insert name (Text.bytes value)

@[simp]
theorem text?_set (environment : Environment) (name other value : String) :
    (environment.set name value).text? other =
      if other = name then some value else environment.text? other := by
  by_cases same : other = name <;> simp [text?, set, same]

/-- The value of a variable that must be set. -/
def require (environment : Environment) (name : String) : Except ConfigError String :=
  match environment.text? name with
  | some value => .ok value
  | none => .error (.missing name)

/-- The integer in a variable that must be set. -/
def integer (environment : Environment) (name : String) : Except ConfigError Int := do
  let value ← environment.require name
  match Decimal.integer64? value.toList with
  | some number => return number
  | none => throw (.invalid name)

end Environment

namespace Config

/-- The bytes of a key, written in the unpadded spelling for URLs or the padded standard one. -/
def keyBytes? (text : String) : Option (List UInt8) :=
  (Base64.decode? Base64.urlSafe text.toList).or (Base64.decode? Base64.standard text.toList)

/-- The bytes of a key in a variable. -/
def keyBytes (name text : String) : Except ConfigError (List UInt8) :=
  match keyBytes? text with
  | some bytes => .ok bytes
  | none => .error (.undecodable name)

/-- A named secret as it is written: the members that were read so far. -/
structure WrittenKey where
  /-- The name, once read. -/
  name : Option String
  /-- The written secret, once read. -/
  secret : Option String

/-- The JSON form of a named secret. -/
def keyRecord : Json.Record WrittenKey (String × String) where
  title := "a named secret"
  blank := ⟨none, none⟩
  members :=
    [ { name := "kid"
        present := fun draft => draft.name.isSome
        read := fun draft => do
          return { draft with name := some (← Json.Reading.textValue "a string") } },
      { name := "secret_b64"
        present := fun draft => draft.secret.isSome
        read := fun draft => do
          return { draft with secret := some (← Json.Reading.textValue "a string") } } ]
  complete := fun draft => do
    let name ← Json.Record.need "kid" draft.name
    let secret ← Json.Record.need "secret_b64" draft.secret
    return (name, secret)

/-- The names and the written secrets in a JSON text. -/
def writtenKeys (text : String) : Except Json.Fault (List (String × String)) :=
  Json.Reading.whole (Json.Reading.listValue keyRecord.value "a sequence") (Text.bytes text)

/-- The named secrets in a variable that must be set. -/
def namedKeys (environment : Environment) (name : String) :
    Except ConfigError (List Token.NamedKey) := do
  let text ← environment.require name
  match writtenKeys text with
  | .error _ => throw (.invalid name)
  | .ok written => written.mapM fun (key, secret) => do return (key, ← keyBytes name secret)

/-- The time-out in the environment, if one is set. -/
def timeoutIn (environment : Environment) : Except ConfigError (Option Nat) :=
  match environment.text? "STORE_TIMEOUT_MS" with
  | none => .ok none
  | some value =>
    match Decimal.below? Number.bound64 value.toList with
    | some milliseconds => .ok (some milliseconds)
    | none => .error (.invalid "STORE_TIMEOUT_MS")

/-- The key for digests in the environment. -/
def hashKeyIn (environment : Environment) : Except ConfigError (List UInt8) := do
  let bytes ← keyBytes "SESSION_HASH_KEY_B64" (← environment.require "SESSION_HASH_KEY_B64")
  if bytes.length = 32 then return bytes
  else throw (.wrongLength "SESSION_HASH_KEY_B64 must decode to 32 bytes")

/-- The configuration in the environment. -/
def ofEnvironment (environment : Environment) : Except ConfigError Config := do
  let issuer ← environment.require "JWT_ISSUER"
  let audience ← environment.require "JWT_AUDIENCE"
  let accessSeconds ← environment.integer "ACCESS_TTL_SECONDS"
  let refreshSeconds ← environment.integer "REFRESH_TTL_SECONDS"
  let hashKey ← hashKeyIn environment
  let activeKey ← environment.require "JWT_ACTIVE_KID"
  let keys ← namedKeys environment "JWT_HS256_KEYS_JSON"
  let timeout ← timeoutIn environment
  let config ← new issuer audience accessSeconds refreshSeconds hashKey keys activeKey
  return (config.withHost ((environment.text? "REDIS_HOST").getD usualHost)).withTimeout timeout

end Config

end Bearer
