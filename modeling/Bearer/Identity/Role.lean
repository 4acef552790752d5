import Bearer.Json.Variant

/-!
# Roles

A caller acts as one of two kinds. The name of a role is how it is written everywhere;
`ofName?_name` says that the names tell the roles apart.
-/

namespace Bearer

/-- What kind of account a caller has. -/
inductive Role where
  | user
  | musician
deriving DecidableEq, Repr

namespace Role

/-- The written name of a role. -/
def name : Role → String
  | user => "user"
  | musician => "musician"

/-- The roles by name. -/
def choices : List (String × Role) :=
  [user, musician].map fun role => (role.name, role)

/-- The role with a name. -/
def ofName? (name : String) : Option Role :=
  choices.lookup name

/-- A role is found by its name. -/
@[simp]
theorem ofName?_name (role : Role) : ofName? role.name = some role := by
  cases role <;> decide

/-- Reads a role from JSON. -/
def reading : Json.Reading Role :=
  Json.Reading.variant choices

/-- The role that a JSON text holds. -/
def decode (text : List UInt8) : Except Json.Fault Role :=
  Json.Reading.whole reading text

end Role

end Bearer
