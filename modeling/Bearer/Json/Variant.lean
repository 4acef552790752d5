import Bearer.Json.Record

/-!
# One of several names

A choice without content is written as its name, or as an object whose only member has that name
and the value null.
-/

namespace Bearer.Json.Reading

variable {α : Type}

/-- The choice that a name stands for, from its opening quote on. -/
def named (choices : List (String × α)) : Reading α := placed do
  skip
  let name ← text
  match choices.lookup name with
  | some choice => return choice
  | none => refuse (.unknownVariant name (choices.map Prod.fst))

/-- The choice that the only member of an object is named for. -/
def memberNamed (choices : List (String × α)) : Reading α := do
  match ← peekToken with
  | none => failAhead .endOfObject
  | some '"' => named choices
  | some '}' => failAhead .expectedValue
  | some _ => failAhead .keyNotText

/-- A choice among names. -/
def variant (choices : List (String × α)) : Reading α := do
  match ← peekToken with
  | none => failAhead .endOfValue
  | some '"' => named choices
  | some '{' => do
    skip
    let choice ← memberNamed choices
    colon
    nullValue "unit"
    match ← peekToken with
    | some '}' => do
      skip
      return choice
    | some _ => fail .expectedValue
    | none => fail .endOfObject
  | some _ => failAhead .expectedValue

end Bearer.Json.Reading
