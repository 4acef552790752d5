/-!
# Integers in decimal

Lifetimes, time-outs, ports and hash parameters are written in decimal. The readers differ in the
signs they accept and in the range; none accepts a blank, an underscore or a digit outside ASCII.
`natural?_ofNat` and `integer?_ofInt` read back what is written here, `below?_ofNat` and
`integer64?_ofInt` what is within bounds.
-/

namespace Bearer.Decimal

/-- The value of a non-empty run of ASCII digits. -/
def natural? (text : List Char) : Option Nat :=
  if text ≠ [] ∧ text.all Char.isDigit then some (Nat.ofDigitChars 10 text 0) else none

/-- A natural number below a bound, with an optional plus sign. -/
def below? (bound : Nat) (text : List Char) : Option Nat :=
  let digits := match text with
    | '+' :: rest => rest
    | _ => text
  (natural? digits).filter (· < bound)

/-- An integer with an optional sign. -/
def integer? : List Char → Option Int
  | '-' :: rest => (natural? rest).map fun magnitude => -Int.ofNat magnitude
  | '+' :: rest => (natural? rest).map Int.ofNat
  | text => (natural? text).map Int.ofNat

/-- The least integer of 64 bits. -/
def least64 : Int := -9223372036854775808

/-- The greatest integer of 64 bits. -/
def greatest64 : Int := 9223372036854775807

/-- An integer with an optional sign that fits into 64 bits. -/
def integer64? (text : List Char) : Option Int :=
  (integer? text).filter fun value => least64 ≤ value ∧ value ≤ greatest64

/-- The decimal text of a natural number. -/
def ofNat (value : Nat) : List Char :=
  Nat.toDigits 10 value

/-- The decimal text of an integer, with a minus sign where it is negative. -/
def ofInt (value : Int) : List Char :=
  if value < 0 then '-' :: ofNat value.natAbs else ofNat value.natAbs

theorem isDigit_of_mem_ofNat {value : Nat} {character : Char} (member : character ∈ ofNat value) :
    character.isDigit = true :=
  Nat.isDigit_of_mem_toDigits (by decide) (by decide) member

theorem ofNat_ne_nil (value : Nat) : ofNat value ≠ [] := by
  unfold ofNat
  rw [Nat.toDigits_eq_if (by decide)]
  split <;> simp

/-- A written natural number reads back. -/
@[simp]
theorem natural?_ofNat (value : Nat) : natural? (ofNat value) = some value := by
  have digits : (ofNat value).all Char.isDigit = true :=
    List.all_eq_true.2 fun _ member => isDigit_of_mem_ofNat member
  rw [natural?, if_pos ⟨ofNat_ne_nil value, digits⟩]
  exact congrArg some Nat.ofDigitChars_ten_toDigits

/-- A written integer reads back. -/
@[simp]
theorem integer?_ofInt (value : Int) : integer? (ofInt value) = some value := by
  unfold ofInt
  split
  · rename_i negative
    rw [integer?, natural?_ofNat]
    have magnitude : -Int.ofNat value.natAbs = value := by rw [Int.ofNat_eq_natCast]; omega
    exact congrArg some magnitude
  · rename_i nonnegative
    have read := natural?_ofNat value.natAbs
    have noSign : ∀ character ∈ ofNat value.natAbs, character ≠ '-' ∧ character ≠ '+' := by
      intro character member
      have := isDigit_of_mem_ofNat member
      constructor <;> rintro rfl <;> exact absurd this (by decide)
    unfold integer?
    split
    · rename_i rest shape
      exact absurd rfl (noSign '-' (by rw [shape]; simp)).1
    · rename_i rest shape
      exact absurd rfl (noSign '+' (by rw [shape]; simp)).2
    · rw [read]
      have magnitude : Int.ofNat value.natAbs = value := by rw [Int.ofNat_eq_natCast]; omega
      exact congrArg some magnitude

/-- A written natural number below the bound reads back. -/
theorem below?_ofNat {bound value : Nat} (small : value < bound) :
    below? bound (ofNat value) = some value := by
  have read := natural?_ofNat value
  unfold below?
  split
  · rename_i rest shape
    have digit : Char.isDigit '+' = true := isDigit_of_mem_ofNat (by rw [shape]; simp)
    exact absurd digit (by decide)
  · dsimp only
    rw [read]
    exact Option.filter_some_pos (decide_eq_true small)

/-- A written integer of 64 bits reads back. -/
theorem integer64?_ofInt {value : Int} (least : least64 ≤ value) (greatest : value ≤ greatest64) :
    integer64? (ofInt value) = some value := by
  rw [integer64?, integer?_ofInt]
  exact Option.filter_some_pos (decide_eq_true ⟨least, greatest⟩)

end Bearer.Decimal
