import Bearer.Json.Record

/-!
# Values of any kind

Where the kind of a value decides what an object means, the value is read first and looked at later.
Lists and objects may be nested up to a limit.
-/

namespace Bearer.Json

/-- Any value. Numbers are read and forgotten: no use asks for one. -/
inductive Value where
  | null
  | boolean (value : Bool)
  | number
  | text (value : String)
  | list (elements : List Value)
  | object (members : List (String × Value))

namespace Reading

/-- The members of an object up to its brace, in reverse. -/
def pairs {α : Type} (member : Reading α) :
    Nat → Bool → List (String × α) → Reading (List (String × α))
  | 0, _, _ => fail .endOfObject
  | steps + 1, first, read => do
    match ← nextName first with
    | none => return read
    | some name => do
      colon
      let value ← member
      pairs member steps false ((name, value) :: read)

/-- A value of any kind, nested less deeply than the limit. -/
def anyValue : Nat → Reading Value
  | 0 => do
    match ← peekToken with
    | none => failAhead .endOfValue
    | some _ => failAhead .tooDeep
  | limit + 1 => do
    match ← peekToken with
    | none => failAhead .endOfValue
    | some 'n' => do
      skip
      word ['u', 'l', 'l']
      return .null
    | some 't' => do
      skip
      word ['r', 'u', 'e']
      return .boolean true
    | some 'f' => do
      skip
      word ['a', 'l', 's', 'e']
      return .boolean false
    | some '"' => do
      skip
      return .text (← text)
    | some '[' =>
      if limit = 0 then failAhead .tooDeep
      else do
        skip
        let read ← closedBy (bounded (elements (anyValue limit) · true [])) endList
        return .list read.reverse
    | some '{' =>
      if limit = 0 then failAhead .tooDeep
      else do
        skip
        let read ← closedBy (bounded (pairs (anyValue limit) · true [])) endObject
        return .object read.reverse
    | some byte =>
      if byte = '-' ∨ byte.isDigit then do
        discard number
        return .number
      else failAhead .expectedValue

end Reading

end Bearer.Json
