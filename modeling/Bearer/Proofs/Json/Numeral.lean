import Bearer.Proofs.Json.Record
import Bearer.Proofs.Text.Decimal

/-!
# Integers inside JSON read back

A written integer is an optional minus sign, a first digit that is zero only where it is alone, and
more digits. The reader takes the digits in as long as their number fits, so an integer of 64 bits
is read as it was written, before anything that cannot go on with a number: `reads_number`.
`reads_skipNumber` reads over an integer of any size.
-/

namespace Bearer.Json

/-- An integer of 64 bits. -/
def Number.Fits (value : Int) : Prop :=
  -Number.signedBound64 ≤ value ∧ value < Number.signedBound64

instance (value : Int) : Decidable (Number.Fits value) :=
  inferInstanceAs (Decidable (_ ∧ _))

/-- The number as which an integer of 64 bits is read. -/
def Number.ofInt (value : Int) : Number :=
  if value < 0 then .negative value.natAbs else .natural value.natAbs

namespace Reading

section Digits

variable {first : Char} {digits : List Char} {value start : Nat}

private theorem digit?_eq_some (decimal : first.isDigit = true) :
    digit? first = some (first.toNat - '0'.toNat) :=
  if_pos decimal

private theorem isToken_of_isDigit (decimal : first.isDigit = true) : IsToken first := by
  rw [Char.isDigit_iff_toNat] at decimal
  exact isToken_of_between (Nat.lt_of_lt_of_le (by decide) decimal.1)
    (Nat.lt_of_le_of_lt decimal.2 (by decide))

theorem le_ofDigitChars : start ≤ Nat.ofDigitChars 10 digits start := by
  induction digits generalizing start with
  | nil => exact Nat.le_refl _
  | cons digit digits ih =>
      rw [Nat.ofDigitChars_cons]
      exact Nat.le_trans (by omega) ih

private theorem ne_minus (decimal : first.isDigit = true) : some first ≠ some '-' := by
  intro same
  cases same
  cases decimal

private theorem isToken_minus : IsToken '-' := ⟨rfl, rfl, rfl⟩

theorem ofInt_eq_cons (value : Int) : ∃ first digits, Decimal.ofInt value = first :: digits ∧
    IsToken first ∧ (first = '-' ∨ first.isDigit) := by
  unfold Decimal.ofInt
  split
  · exact ⟨'-', _, rfl, isToken_minus, .inl rfl⟩
  · obtain ⟨first, digits, written, -⟩ := Decimal.ofNat_eq_cons value.natAbs
    have decimal : first.isDigit = true :=
      Decimal.isDigit_of_mem_ofNat (written ▸ List.mem_cons_self)
    exact ⟨first, digits, written, isToken_of_isDigit decimal, .inr decimal⟩

theorem ne_of_begins {letter : Char} (begins : first = '-' ∨ first.isDigit)
    (noMinus : letter ≠ '-') (noDigit : letter.isDigit = false) : some first ≠ some letter := by
  intro same
  cases same
  rcases begins with minus | digit
  · exact noMinus minus
  · exact absurd digit (by rw [noDigit]; exact Bool.false_ne_true)

end Digits

/-- A character, or the end of the text, that cannot go on with a number. -/
def Stops (found : Option Char) : Prop :=
  found.bind digit? = none ∧ found ≠ some '.' ∧ found ≠ some 'e' ∧ found ≠ some 'E'

/-- What follows cannot go on with a number. -/
def NumberEnds (rest : List UInt8) : Prop :=
  Stops (rest.head?.map Cursor.character)

theorem numberEnds_of_delimited {rest : List UInt8} (delimited : Delimited rest) :
    NumberEnds rest := by
  have blank : Stops (some ' ') := ⟨rfl, by decide, by decide, by decide⟩
  have lineFeed : Stops (some '\n') := ⟨rfl, by decide, by decide, by decide⟩
  have tab : Stops (some '\t') := ⟨rfl, by decide, by decide, by decide⟩
  have carriageReturn : Stops (some '\r') := ⟨rfl, by decide, by decide, by decide⟩
  have comma : Stops (some ',') := ⟨rfl, by decide, by decide, by decide⟩
  have brace : Stops (some '\x7d') := ⟨rfl, by decide, by decide, by decide⟩
  obtain ⟨character, ending, later, rfl⟩ := delimited
  simp only [Cursor.isGap, Bool.or_eq_true, decide_eq_true_eq] at ending
  obtain (((rfl | rfl) | rfl) | rfl) | rfl | rfl := ending
  · exact blank
  · exact lineFeed
  · exact tab
  · exact carriageReturn
  · exact comma
  · exact brace

variable {α β : Type} {follow : List UInt8 → Prop} {character : Char} {result : β}

/-- After the last digit of a number something is looked at that ends it. -/
theorem reads_peek_end {next : Option Char → Reading β}
    (second : ∀ found, Stops found → Reads NumberEnds (next found) [] result) :
    Reads NumberEnds (peek >>= next) [] result := by
  intro rest line column ends
  obtain ⟨nextLine, nextColumn, read⟩ := second _ ends rest line column ends
  exact ⟨nextLine, nextColumn, read⟩

theorem reads_take (token : IsToken character) :
    Reads Anything take [character] (some character) := by
  exact reads_peek token (reads_return (fun _ => some character) (reads_skip token))

variable {digits : List Char} {start : Nat}

private theorem reads_significand (decimal : ∀ digit ∈ digits, digit.isDigit = true) {steps : Nat}
    (room : digits.length < steps)
    (small : Nat.ofDigitChars 10 digits start < Number.bound64) :
    Reads NumberEnds (significand steps start) digits
      (Nat.ofDigitChars 10 digits start, digits.length, false) := by
  obtain ⟨left, rfl⟩ : ∃ left, steps = left + 1 := ⟨steps - 1, by omega⟩
  induction digits generalizing start left with
  | nil =>
      rw [significand]
      apply reads_peek_end
      intro found stops
      rw [stops.1]
      exact reads_pure _
  | cons digit digits ih =>
      have first := decimal digit List.mem_cons_self
      rw [Nat.ofDigitChars_cons] at small
      have fits : start * 10 + (digit.toNat - '0'.toNat) < Number.bound64 := by
        have := Nat.lt_of_le_of_lt le_ofDigitChars small
        omega
      obtain ⟨left, rfl⟩ : ∃ fewer, left = fewer + 1 := ⟨left - 1, by simp at room; omega⟩
      have rest := ih (fun other member => decimal other (List.mem_cons_of_mem _ member)) small
        left (by simpa using room)
      rw [significand]
      apply reads_peek (isToken_of_isDigit first)
      rw [Option.bind_some, digit?_eq_some first]
      dsimp only
      rw [if_neg (Nat.not_le.2 fits), Nat.mul_comm start, Nat.ofDigitChars_cons]
      exact reads_then (reads_skip (isToken_of_isDigit first))
        (reads_return (fun read => (read.1, read.2.1 + 1, read.2.2)) rest)

private theorem reads_skipDigits (decimal : ∀ digit ∈ digits, digit.isDigit = true) {steps : Nat}
    (room : digits.length < steps) :
    Reads NumberEnds (skipDigits steps) digits digits.length := by
  obtain ⟨left, rfl⟩ : ∃ left, steps = left + 1 := ⟨steps - 1, by omega⟩
  induction digits generalizing left with
  | nil =>
      rw [skipDigits]
      apply reads_peek_end
      intro found stops
      rw [stops.1]
      exact reads_pure _
  | cons digit digits ih =>
      have first := decimal digit List.mem_cons_self
      obtain ⟨left, rfl⟩ : ∃ fewer, left = fewer + 1 := ⟨left - 1, by simp at room; omega⟩
      have rest := ih (fun other member => decimal other (List.mem_cons_of_mem _ member)) left
        (by simpa using room)
      rw [skipDigits]
      apply reads_peek (isToken_of_isDigit first)
      rw [Option.bind_some, digit?_eq_some first]
      exact reads_then (reads_skip (isToken_of_isDigit first)) (reads_return (· + 1) rest)

private theorem length_le_encoded (written : List Char) :
    written.length ≤ (encoded written).length := by
  induction written with
  | nil => exact Nat.le_refl _
  | cons character written ih =>
      rw [encoded_cons, List.length_append, String.length_utf8EncodeChar, List.length_cons]
      have := Char.utf8Size_pos character
      omega

private theorem reads_afterWhole {negative : Bool} {size : Nat} {number : Number}
    (made : Number.ofInteger negative size = some number) :
    Reads NumberEnds (afterWhole negative size) [] number := by
  apply reads_peek_end
  rintro found ⟨-, noPoint, noLetter, noCapital⟩
  rw [if_neg noPoint, if_neg (not_or.2 ⟨noLetter, noCapital⟩), made]
  exact reads_pure number

private theorem reads_unsigned {negative : Bool} {value : Nat} {number : Number}
    (small : value < Number.bound64) (made : Number.ofInteger negative value = some number) :
    Reads NumberEnds (unsigned negative) (Decimal.ofNat value) number := by
  obtain ⟨first, digits, written, alone⟩ := Decimal.ofNat_eq_cons value
  have decimal : ∀ digit ∈ first :: digits, digit.isDigit = true := fun digit member =>
    Decimal.isDigit_of_mem_ofNat (written ▸ member)
  have firstDecimal := decimal first List.mem_cons_self
  have same : Nat.ofDigitChars 10 digits (first.toNat - '0'.toNat) = value := by
    have whole : Nat.ofDigitChars 10 (Nat.toDigits 10 value) 0 = value :=
      Nat.ofDigitChars_ten_toDigits
    rw [← Decimal.ofNat, written, Nat.ofDigitChars_cons] at whole
    simpa using whole
  rw [written, ← List.singleton_append]
  apply reads_then (reads_take (isToken_of_isDigit firstDecimal))
  dsimp only
  rw [digit?_eq_some firstDecimal]
  cases leading : first.toNat - '0'.toNat with
  | zero =>
      obtain rfl := alone leading
      rw [leading, Nat.ofDigitChars_nil] at same
      subst same
      apply reads_peek_end
      intro found stops
      rw [stops.1]
      exact reads_afterWhole made
  | succ ahead =>
      rw [leading] at same
      have taken : Reads NumberEnds (bounded (significand · (ahead + 1))) digits
          (value, digits.length, false) := by
        refine reads_bounded fun steps room => ?_
        rw [← same]
        exact reads_significand (fun digit member => decimal digit (List.mem_cons_of_mem _ member))
          (Nat.lt_of_le_of_lt (length_le_encoded digits) room) (same.symm ▸ small)
      rw [← List.append_nil digits]
      exact reads_bind taken (reads_afterWhole made) fun _ ends => ends

theorem reads_number {value : Int} (fits : Number.Fits value) :
    Reads NumberEnds number (Decimal.ofInt value) (Number.ofInt value) := by
  obtain ⟨least, most⟩ := fits
  have twice := Number.two_signedBound64
  rw [Decimal.ofInt, Number.ofInt]
  split
  · rename_i negative
    have made : Number.ofInteger true value.natAbs = some (.negative value.natAbs) := by
      rw [Number.ofInteger, if_pos rfl, if_neg (by omega)]
    refine reads_peek isToken_minus ?_
    rw [if_pos rfl]
    exact reads_then (reads_skip isToken_minus) (reads_unsigned (by omega) made)
  · obtain ⟨first, digits, written, -⟩ := Decimal.ofNat_eq_cons value.natAbs
    have decimal : first.isDigit = true :=
      Decimal.isDigit_of_mem_ofNat (written ▸ List.mem_cons_self)
    have read : Reads NumberEnds (unsigned false) (Decimal.ofNat value.natAbs)
        (.natural value.natAbs) := reads_unsigned (by omega) rfl
    rw [written] at read ⊢
    refine reads_peek (isToken_of_isDigit decimal) ?_
    rw [if_neg (ne_minus decimal)]
    exact read

theorem reads_integerValue (expected : String) {value : Int} (fits : Number.Fits value) :
    Reads NumberEnds (integerValue expected) (Decimal.ofInt value) value := by
  obtain ⟨first, digits, written, token, signed⟩ := ofInt_eq_cons value
  have read := reads_number fits
  rw [written] at read ⊢
  refine reads_placed (reads_peekToken token ?_)
  dsimp only
  rw [if_pos signed, ← List.append_nil (first :: digits)]
  refine reads_bind read ?_ fun _ ends => ends
  by_cases negative : value < 0
  · have size : -(value.natAbs : Int) = value := by omega
    simp only [Number.ofInt, if_pos negative, size]
    exact reads_pure value
  · have most := fits.2
    have small : value.natAbs < Number.signedBound64 := by omega
    have size : (value.natAbs : Int) = value := by omega
    simp only [Number.ofInt, if_neg negative, if_pos small, size]
    exact reads_pure value

/-- Reads over what may follow the whole part of a number. -/
private def skipTail : Reading Unit := do
  if (← peek) = some '.' then do
    skip
    let taken ← bounded skipDigits
    if taken = 0 then failAhead .invalidNumber
  skipOptionalExponent

/-- Reads over a number after its sign. -/
private def skipUnsigned : Reading Unit := do
  match (← take).bind digit? with
  | none => fail .invalidNumber
  | some 0 => if ((← peek).bind digit?).isSome then failAhead .invalidNumber
  | some _ => discard (bounded skipDigits)
  skipTail

private theorem reads_skipTail : Reads NumberEnds skipTail [] () := by
  apply reads_peek_end
  rintro found ⟨-, noPoint, -, -⟩
  rw [if_neg noPoint]
  apply reads_peek_end
  rintro found ⟨-, -, noLetter, noCapital⟩
  rw [if_neg (not_or.2 ⟨noLetter, noCapital⟩)]
  exact reads_pure ()

private theorem reads_skipUnsigned (value : Nat) :
    Reads NumberEnds skipUnsigned (Decimal.ofNat value) () := by
  obtain ⟨first, digits, written, alone⟩ := Decimal.ofNat_eq_cons value
  have decimal : ∀ digit ∈ first :: digits, digit.isDigit = true := fun digit member =>
    Decimal.isDigit_of_mem_ofNat (written ▸ member)
  have firstDecimal := decimal first List.mem_cons_self
  rw [written, ← List.singleton_append]
  apply reads_then (reads_take (isToken_of_isDigit firstDecimal))
  rw [Option.bind_some, digit?_eq_some firstDecimal]
  cases leading : first.toNat - '0'.toNat with
  | zero =>
      obtain rfl := alone leading
      apply reads_peek_end
      intro found stops
      rw [stops.1]
      exact reads_skipTail
  | succ ahead =>
      have skipped : Reads NumberEnds (discard (bounded skipDigits)) digits () :=
        reads_return (fun _ => ()) (reads_bounded fun steps room => reads_skipDigits
          (fun digit member => decimal digit (List.mem_cons_of_mem _ member))
          (Nat.lt_of_le_of_lt (length_le_encoded digits) room))
      rw [← List.append_nil digits]
      exact reads_bind skipped reads_skipTail fun _ ends => ends

/-- A written integer is read over, whatever its size. -/
theorem reads_skipNumber (value : Int) :
    Reads NumberEnds skipNumber (Decimal.ofInt value) () := by
  unfold Decimal.ofInt
  split
  · refine reads_peek isToken_minus ?_
    rw [if_pos rfl]
    exact reads_then (reads_skip isToken_minus) (reads_skipUnsigned _)
  · obtain ⟨first, digits, written, -⟩ := Decimal.ofNat_eq_cons value.natAbs
    have decimal : first.isDigit = true :=
      Decimal.isDigit_of_mem_ofNat (written ▸ List.mem_cons_self)
    have read := reads_skipUnsigned value.natAbs
    rw [written] at read ⊢
    refine reads_peek (isToken_of_isDigit decimal) ?_
    rw [if_neg (ne_minus decimal)]
    exact read

end Reading

end Bearer.Json
