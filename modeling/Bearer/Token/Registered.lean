import Bearer.Json.Record

/-!
# The registered claims of a token

The claims of a token are also read without regard to this library, for the registered names alone.
The names must not repeat. A time that is no number is passed over, but only as far as its first
bracket: what it holds then stands where the next member should.
-/

namespace Bearer.Token.Registered

open Json Json.Reading

/-- Reads a value without content, or the bracket that opens one with content. -/
def passOver : Reading Unit := do
  match ← peekToken with
  | some 'n' => do
    skip
    word ['u', 'l', 'l']
  | some 't' => do
    skip
    word ['r', 'u', 'e']
  | some 'f' => do
    skip
    word ['a', 'l', 's', 'e']
  | some '"' => do
    skip
    discard text
  | some '[' => do
    skip
    endList
  | some '{' => do
    skip
    endObject
  | some byte =>
    if byte = '-' ∨ byte.isDigit then discard number else failAhead .expectedValue
  | none => failAhead .endOfValue

/-- A registered claim whose value does not matter; the draft is the list of names read so far. -/
def member (name : String) : Member (List String) where
  name := name
  present := fun seen => seen.contains name
  read := fun seen => do
    discard (outcome passOver)
    return name :: seen

/-- The JSON form of the registered claims. -/
def record : Record (List String) Unit where
  title := "the registered claims"
  blank := []
  members := ["exp", "nbf", "sub", "iss", "aud"].map member
  complete := fun _ => .ok ()

/-- Whether a JSON text holds registered claims. -/
def accepts (text : List UInt8) : Bool :=
  (whole record.value text).toBool

end Bearer.Token.Registered
