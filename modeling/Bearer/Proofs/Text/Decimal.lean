import Bearer.Text.Decimal
import Mathlib.Data.List.Induction

/-!
# A number has one decimal text

A written number begins with a zero only where nothing else follows, and digits that begin in this
way are what their value is written as: `ofNat_eq_cons`, `ofNat_ofDigitChars`.
-/

namespace Bearer.Decimal

theorem ofNat_eq_if (value : Nat) :
    ofNat value =
      if value < 10 then [value.digitChar]
      else ofNat (value / 10) ++ [(value % 10).digitChar] :=
  Nat.toDigits_eq_if (by decide)

private theorem digitChar_of_isDigit {digit : Char} (decimal : digit.isDigit = true) :
    digit.toNat - '0'.toNat < 10 ∧ (digit.toNat - '0'.toNat).digitChar = digit := by
  rw [Char.isDigit_iff_toNat] at decimal
  have least : '0'.toNat ≤ digit.toNat := decimal.1
  have most : digit.toNat ≤ '9'.toNat := decimal.2
  have known : ∀ value < 10, value.digitChar = Char.ofNat ('0'.toNat + value) := by decide
  have small : digit.toNat - '0'.toNat < 10 := by
    have nine : '9'.toNat = '0'.toNat + 9 := rfl
    omega
  refine ⟨small, ?_⟩
  rw [known _ small, Nat.add_sub_cancel' least, Char.ofNat_toNat]

/-- A written natural number begins with a zero only where nothing else follows. -/
theorem ofNat_eq_cons (value : Nat) : ∃ first digits, ofNat value = first :: digits ∧
    (first.toNat - '0'.toNat = 0 → digits = []) := by
  induction value using Nat.strongRecOn with
  | ind value ih =>
      rw [ofNat_eq_if]
      split
      · exact ⟨_, [], rfl, fun _ => rfl⟩
      · rename_i large
        obtain ⟨first, digits, written, alone⟩ := ih (value / 10) (by omega)
        refine ⟨first, digits ++ [(value % 10).digitChar], by rw [written]; rfl, fun zero => ?_⟩
        -- The part before the last digit is not zero, so it does not begin with one.
        obtain rfl := alone zero
        have same : Nat.ofDigitChars 10 [first] 0 = value / 10 := by
          rw [← written, ofNat, Nat.ofDigitChars_ten_toDigits]
        rw [Nat.ofDigitChars_cons, Nat.ofDigitChars_nil] at same
        omega

/-- Digits without a leading zero are what their value is written as. -/
theorem ofNat_ofDigitChars {text : List Char} (filled : text ≠ [])
    (decimal : ∀ digit ∈ text, digit.isDigit = true)
    (leading : text.length ≠ 1 → text.head? ≠ some '0') :
    ofNat (Nat.ofDigitChars 10 text 0) = text := by
  induction text using List.reverseRecOn with
  | nil => exact absurd rfl filled
  | append_singleton front last ih =>
      obtain ⟨decimalFront, decimalLast⟩ := List.forall_mem_append.1 decimal
      obtain ⟨small, written⟩ := digitChar_of_isDigit (decimalLast last List.mem_cons_self)
      rw [Nat.ofDigitChars_append, Nat.ofDigitChars_cons, Nat.ofDigitChars_nil, ofNat_eq_if]
      cases front with
      | nil =>
          rw [Nat.ofDigitChars_nil, Nat.mul_zero, Nat.zero_add, if_pos small, written]
          rfl
      | cons first front =>
          have nonzero : first ≠ '0' := fun zero =>
            leading (by simp) (congrArg some zero)
          have same := ih (List.cons_ne_nil _ _) decimalFront fun _ zero =>
            nonzero (Option.some.inj zero)
          -- The part before the last digit is not zero, which would be written otherwise.
          have positive : Nat.ofDigitChars 10 (first :: front) 0 ≠ 0 := by
            intro zero
            rw [zero] at same
            exact nonzero (List.cons.inj same).1.symm
          rw [if_neg (by omega), Nat.mul_add_div (by decide), Nat.div_eq_of_lt small,
            Nat.mul_add_mod, Nat.mod_eq_of_lt small, written, Nat.add_zero, same]

end Bearer.Decimal
