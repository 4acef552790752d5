import Bearer.Json.Cursor
import Bearer.Number.Width

/-!
# Numbers inside JSON

A number has an optional minus sign, digits without a leading zero, an optional fraction and an
optional exponent. Without the last two it is an integer if it fits into 64 bits. Everything else
becomes the double number of its leading digits, as many as fit into 64 bits, and a power of ten.
-/

namespace Bearer.Json

/-- The value of an ASCII digit. -/
def digit? (character : Char) : Option Nat :=
  if character.isDigit then some (character.toNat - '0'.toNat) else none

/-- The greatest exponent that is kept. -/
def greatestExponent : Nat := 2147483647

/-- An integer of 64 bits; a negative one beyond them and the negative zero are doubles. -/
def Number.ofInteger (negative : Bool) (size : Nat) : Option Number :=
  if negative then
    if size = 0 ∨ Number.signedBound64 < size then
      (Number.Binary64.nearest size 1).map fun rounded => .double ⟨true, rounded⟩
    else some (.negative size)
  else some (.natural size)

namespace Reading

/-- Reads over digits and counts them. -/
def skipDigits : Nat → Reading Nat
  | 0 => return 0
  | steps + 1 => do
    match (← peek).bind digit? with
    | some _ => do
      skip
      return (← skipDigits steps) + 1
    | none => return 0

/-- Reads digits into a significand, as long as it fits. Gives the significand, the number of digits
taken in and whether a digit remains that does not fit. -/
def significand : Nat → Nat → Reading (Nat × Nat × Bool)
  | 0, value => return (value, 0, false)
  | steps + 1, value => do
    match (← peek).bind digit? with
    | some digit =>
      if Number.bound64 ≤ value * 10 + digit then return (value, 0, true)
      else do
        skip
        let (value, taken, more) ← significand steps (value * 10 + digit)
        return (value, taken + 1, more)
    | none => return (value, 0, false)

/-- The double number of a significand and a power of ten. -/
def scaled (negative : Bool) (significand : Nat) (exponent : Int) : Reading Number :=
  match Number.Binary64.ofDecimal significand exponent with
  | some size => return .double ⟨negative, size⟩
  | none => fail .numberOutOfRange

/-- The digits of an exponent after the first one; none if it is too large. -/
def exponentDigits : Nat → Nat → Reading (Option Nat)
  | 0, value => return some value
  | steps + 1, value => do
    match (← peek).bind digit? with
    | some digit => do
      skip
      if greatestExponent < value * 10 + digit then return none
      else exponentDigits steps (value * 10 + digit)
    | none => return some value

/-- The rest of a number from the letter of its exponent on. -/
def exponent (negative : Bool) (significand : Nat) (shift : Int) : Reading Number := do
  skip
  let sign ← peek
  if sign = some '+' ∨ sign = some '-' then skip
  match ← take with
  | none => fail .endOfValue
  | some first =>
    match digit? first with
    | none => fail .invalidNumber
    | some first =>
      match ← bounded (exponentDigits · first) with
      | some size =>
        scaled negative significand (if sign = some '-' then shift - size else shift + size)
      | none =>
        if significand ≠ 0 ∧ sign ≠ some '-' then fail .numberOutOfRange
        else do
          discard (bounded skipDigits)
          return .double ⟨negative, Number.Binary64.zero⟩

/-- The rest of a number after its last digit before an exponent. -/
def afterDigits (negative : Bool) (significand : Nat) (shift : Int) : Reading Number := do
  let next ← peek
  if next = some 'e' ∨ next = some 'E' then exponent negative significand shift
  else scaled negative significand shift

/-- The rest of a number from its decimal point on. -/
def fraction (negative : Bool) (whole : Nat) (shift : Int) : Reading Number := do
  skip
  let (value, taken, more) ← bounded (significand · whole)
  if more then do
    discard (bounded skipDigits)
    afterDigits negative value (shift - taken)
  else if taken = 0 then
    failAhead (if (← peek).isSome then .invalidNumber else .endOfValue)
  else afterDigits negative value (shift - taken)

/-- The rest of a number after the digits of its whole part. -/
def afterWhole (negative : Bool) (whole : Nat) : Reading Number := do
  let next ← peek
  if next = some '.' then fraction negative whole 0
  else if next = some 'e' ∨ next = some 'E' then exponent negative whole 0
  else
    match Number.ofInteger negative whole with
    | some number => return number
    | none => fail .numberOutOfRange

/-- A number after its sign. -/
def unsigned (negative : Bool) : Reading Number := do
  match ← take with
  | none => fail .endOfValue
  | some first =>
    match digit? first with
    | none => fail .invalidNumber
    | some 0 =>
      if ((← peek).bind digit?).isSome then failAhead .invalidNumber
      else afterWhole negative 0
    | some first => do
      let (value, _, more) ← bounded (significand · first)
      if more then do
        let shift ← bounded skipDigits
        if (← peek) = some '.' then fraction negative value shift
        else afterDigits negative value shift
      else afterWhole negative value

/-- A number that begins with a minus sign or a digit. -/
def number : Reading Number := do
  if (← peek) = some '-' then do
    skip
    unsigned true
  else unsigned false

/-- Reads over an exponent from its letter on. -/
def skipExponent : Reading Unit := do
  skip
  let sign ← peek
  if sign = some '+' ∨ sign = some '-' then skip
  if ((← take).bind digit?).isNone then fail .invalidNumber
  discard (bounded skipDigits)

/-- Reads over an exponent if there is one. -/
def skipOptionalExponent : Reading Unit := do
  let next ← peek
  if next = some 'e' ∨ next = some 'E' then skipExponent

/-- Reads over a number that begins with a minus sign or a digit. Its size does not matter. -/
def skipNumber : Reading Unit := do
  if (← peek) = some '-' then skip
  match (← take).bind digit? with
  | none => fail .invalidNumber
  | some 0 => if ((← peek).bind digit?).isSome then failAhead .invalidNumber
  | some _ => discard (bounded skipDigits)
  if (← peek) = some '.' then do
    skip
    let taken ← bounded skipDigits
    if taken = 0 then failAhead .invalidNumber
  skipOptionalExponent

end Reading

end Bearer.Json
