import Bearer.Json.Numeral
import Bearer.Json.Text

/-!
# Values that nobody asked for

An unknown member of an object is read over: its form is checked, its content is not kept.
-/

namespace Bearer.Json.Reading

/-- The colon after the name of a member. -/
def colon : Reading Unit := do
  match ← peekToken with
  | none => failAhead .endOfObject
  | some ':' => skip
  | some _ => failAhead .expectedColon

mutual

/-- Reads over a value. -/
def skipValueWithin : Nat → Reading Unit
  | 0 => fail .endOfValue
  | steps + 1 => do
    match ← peekToken with
    | none => failAhead .endOfValue
    | some 'n' => do skip; word ['u', 'l', 'l']
    | some 't' => do skip; word ['r', 'u', 'e']
    | some 'f' => do skip; word ['a', 'l', 's', 'e']
    | some '"' => do skip; skipText
    | some '[' => do
      skip
      match ← peekToken with
      | none => failAhead .endOfList
      | some ']' => skip
      | some _ => skipElements steps
    | some '{' => do
      skip
      match ← peekToken with
      | none => failAhead .endOfObject
      | some '}' => skip
      | some _ => skipMembers steps
    | some byte => if byte = '-' ∨ byte.isDigit then skipNumber else failAhead .expectedValue

/-- Reads over the elements of a list, of which there is one, and its bracket. -/
def skipElements : Nat → Reading Unit
  | 0 => fail .endOfList
  | steps + 1 => do
    skipValueWithin steps
    match ← peekToken with
    | none => failAhead .endOfList
    | some ']' => skip
    | some ',' => do skip; skipElements steps
    | some _ => failAhead .expectedCommaOrBracket

/-- Reads over the members of an object, of which there is one, and its brace. -/
def skipMembers : Nat → Reading Unit
  | 0 => fail .endOfObject
  | steps + 1 => do
    match ← peekToken with
    | none => failAhead .endOfObject
    | some '"' => skip
    | some _ => failAhead .keyNotText
    skipText
    colon
    skipValueWithin steps
    match ← peekToken with
    | none => failAhead .endOfObject
    | some '}' => skip
    | some ',' => do skip; skipMembers steps
    | some _ => failAhead .expectedCommaOrBrace

end

/-- Reads over a value, whatever it is. -/
def skipValue : Reading Unit := do
  skipValueWithin (2 * (← get).rest.length + 1)

end Bearer.Json.Reading
