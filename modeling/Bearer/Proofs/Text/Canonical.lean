import Bearer.Proofs.Text.Base64

/-!
# Canonical base64, bit by bit

Digits carry the bits of some bytes in order, six to a digit, and zeros where the last digit has
bits to spare; signs `=` fill a padded text up to a multiple of four. `Canonical` says this without
any grouping of the bytes, and `canonical_iff` says that it describes exactly the texts that bytes
are written as.
-/

namespace Bearer.Base64

/-- The last bits of a number, so many of them, with the most significant one in front. -/
def bitsOf : Nat → Nat → List Bool
  | 0, _ => []
  | width + 1, value => bitsOf width (value / 2) ++ [decide (value % 2 = 1)]

theorem length_bitsOf (width value : Nat) : (bitsOf width value).length = width := by
  induction width generalizing value with
  | zero => rfl
  | succ width ih => rw [bitsOf, List.length_append, ih, List.length_singleton]

theorem bitsOf_append (front back value : Nat) :
    bitsOf (front + back) value =
      bitsOf front (value / Nat.pow 2 back) ++ bitsOf back value := by
  induction back generalizing value with
  | zero =>
      rw [Nat.add_zero, bitsOf, List.append_nil]
      exact congrArg (bitsOf front) (Nat.div_one value).symm
  | succ back ih =>
      have halved : value / 2 / Nat.pow 2 back = value / Nat.pow 2 (back + 1) := by
        rw [Nat.div_div_eq_div_mul, Nat.mul_comm]
        rfl
      rw [← Nat.add_assoc, bitsOf, bitsOf, ih, halved, List.append_assoc]

theorem bitsOf_mod (width value : Nat) :
    bitsOf width (value % Nat.pow 2 width) = bitsOf width value := by
  induction width generalizing value with
  | zero => rfl
  | succ width ih =>
      have halved : value % Nat.pow 2 (width + 1) / 2 = value / 2 % Nat.pow 2 width :=
        Nat.mod_mul_left_div_self value 2 (Nat.pow 2 width)
      have last : value % Nat.pow 2 (width + 1) % 2 = value % 2 :=
        Nat.mod_mul_left_mod value (Nat.pow 2 width) 2
      rw [bitsOf, bitsOf, halved, last, ih]

/-- A small number is known by its bits. -/
theorem eq_of_bitsOf_eq {width value other : Nat} (small : value < Nat.pow 2 width)
    (smallOther : other < Nat.pow 2 width) (same : bitsOf width value = bitsOf width other) :
    value = other := by
  induction width generalizing value other with
  | zero =>
      have zero : value < 1 := small
      have zeroOther : other < 1 := smallOther
      omega
  | succ width ih =>
      have bounded : value < Nat.pow 2 width * 2 := small
      have boundedOther : other < Nat.pow 2 width * 2 := smallOther
      have lengths : (bitsOf width (value / 2)).length = (bitsOf width (other / 2)).length := by
        rw [length_bitsOf, length_bitsOf]
      obtain ⟨front, last⟩ := List.append_inj same lengths
      have halves := ih (by omega) (by omega) front
      have parity : value % 2 = 1 ↔ other % 2 = 1 := by simpa using last
      omega

private theorem length_flatMap_wide {α : Type} {width : Nat} {carried : α → List Bool}
    (wide : ∀ item, (carried item).length = width) (items : List α) :
    (items.flatMap carried).length = width * items.length := by
  induction items with
  | nil => rfl
  | cons item items ih =>
      rw [List.flatMap_cons, List.length_append, wide, ih, List.length_cons, Nat.mul_succ,
        Nat.add_comm]

private theorem bitsOf_three {first second third value : Nat} (small : second < 256)
    (low : third < 256) (sum : value = first * 65536 + second * 256 + third) :
    bitsOf 6 (value / 262144) ++ (bitsOf 6 (value / 4096 % 64) ++
        (bitsOf 6 (value / 64 % 64) ++ bitsOf 6 (value % 64))) =
      bitsOf 8 first ++ (bitsOf 8 second ++ bitsOf 8 third) := by
  have sixes : bitsOf 24 value = bitsOf 6 (value / 262144) ++ (bitsOf 6 (value / 4096) ++
      (bitsOf 6 (value / 64) ++ bitsOf 6 value)) := by
    have front : bitsOf 24 value = bitsOf 6 (value / 262144) ++ bitsOf 18 value :=
      bitsOf_append 6 18 value
    have middle : bitsOf 18 value = bitsOf 6 (value / 4096) ++ bitsOf 12 value :=
      bitsOf_append 6 12 value
    have back : bitsOf 12 value = bitsOf 6 (value / 64) ++ bitsOf 6 value :=
      bitsOf_append 6 6 value
    rw [front, middle, back]
  have eights : bitsOf 24 value = bitsOf 8 (value / 65536) ++ (bitsOf 8 (value / 256) ++
      bitsOf 8 value) := by
    have front : bitsOf 24 value = bitsOf 8 (value / 65536) ++ bitsOf 16 value :=
      bitsOf_append 8 16 value
    have back : bitsOf 16 value = bitsOf 8 (value / 256) ++ bitsOf 8 value :=
      bitsOf_append 8 8 value
    rw [front, back]
  have rest : ∀ value, bitsOf 6 (value % 64) = bitsOf 6 value := bitsOf_mod 6
  have restOfByte : ∀ value, bitsOf 8 (value % 256) = bitsOf 8 value := bitsOf_mod 8
  have firstEq : value / 65536 = first := by omega
  have secondEq : value / 256 % 256 = second := by omega
  have thirdEq : value % 256 = third := by omega
  rw [rest, rest, rest, ← sixes, eights, ← restOfByte (value / 256), ← restOfByte value, firstEq,
    secondEq, thirdEq]

/-- The groups of a byte sequence carry its bits, and zeros behind them. -/
theorem flatMap_sextets (bytes : List UInt8) :
    (sextets bytes).flatMap (bitsOf 6) =
      (bytes.flatMap fun byte => bitsOf 8 byte.toNat) ++
        List.replicate (4 * bytes.length % 6) false := by
  fun_induction sextets bytes with
  | case1 first second third rest whole ih =>
      have same := bitsOf_three second.toNat_lt third.toNat_lt (rfl : whole = _)
      have left : 4 * (rest.length + 1 + 1 + 1) % 6 = 4 * rest.length % 6 := by omega
      simp only [List.flatMap_cons, List.length_cons, left, ih, List.append_assoc]
      simp only [← List.append_assoc] at same ⊢
      rw [same]
  | case2 first second whole =>
      -- The same with a third byte of zeros, which the last group holds nothing but.
      have same := bitsOf_three second.toNat_lt (by decide : 0 < 256)
        (by omega : whole * 64 = first.toNat * 65536 + second.toNat * 256 + 0)
      have firstEq : whole * 64 / 262144 = whole / 4096 := by omega
      have secondEq : whole * 64 / 4096 = whole / 64 := by omega
      have thirdEq : whole * 64 / 64 = whole := by omega
      have lastEq : whole * 64 % 64 = 0 := by omega
      have zeros : bitsOf 8 0 = [false, false] ++ bitsOf 6 0 := rfl
      rw [firstEq, secondEq, thirdEq, lastEq, zeros] at same
      refine (List.append_left_inj (bitsOf 6 0)).1 ?_
      simpa [List.append_assoc] using same
  | case3 first whole =>
      have same := bitsOf_three (by decide : 0 < 256) (by decide : 0 < 256)
        (by omega : whole * 4096 = first.toNat * 65536 + 0 * 256 + 0)
      have firstEq : whole * 4096 / 262144 = whole / 64 := by omega
      have secondEq : whole * 4096 / 4096 = whole := by omega
      have thirdEq : whole * 4096 / 64 % 64 = 0 := by omega
      have lastEq : whole * 4096 % 64 = 0 := by omega
      have zeros : bitsOf 8 0 ++ bitsOf 8 0 =
          [false, false, false, false] ++ (bitsOf 6 0 ++ bitsOf 6 0) := rfl
      rw [firstEq, secondEq, thirdEq, lastEq, zeros] at same
      refine (List.append_left_inj (bitsOf 6 0 ++ bitsOf 6 0)).1 ?_
      simpa [List.append_assoc] using same
  | case4 => rfl

private theorem eq_of_flatMap_bitsOf {values others : List Nat}
    (small : ∀ value ∈ values, value < 64) (smallOthers : ∀ value ∈ others, value < 64)
    (same : values.flatMap (bitsOf 6) = others.flatMap (bitsOf 6)) : values = others := by
  have lengths : values.length = others.length := by
    have total := congrArg List.length same
    rw [length_flatMap_wide (length_bitsOf 6), length_flatMap_wide (length_bitsOf 6)] at total
    omega
  induction values generalizing others with
  | nil => exact (List.length_eq_zero_iff.1 lengths.symm).symm
  | cons value values ih =>
      obtain ⟨other, others, rfl⟩ := List.exists_cons_of_length_eq_add_one lengths.symm
      obtain ⟨least, small⟩ := List.forall_mem_cons.1 small
      obtain ⟨leastOther, smallOthers⟩ := List.forall_mem_cons.1 smallOthers
      rw [List.flatMap_cons, List.flatMap_cons] at same
      obtain ⟨first, rest⟩ := List.append_inj same (by rw [length_bitsOf, length_bitsOf])
      rw [eq_of_bitsOf_eq least leastOther first,
        ih small smallOthers rest (Nat.succ.inj lengths)]

/-- The digits of a spelling in the order of their values. -/
def Spelling.alphabet (spelling : Spelling) : List Char :=
  "ABCDEFGHIJKLMNOPQRSTUVWXYZabcdefghijklmnopqrstuvwxyz0123456789".toList ++
    [spelling.char62, spelling.char63]

/-- Digits carry the bits of some bytes, six to a digit, with fewer than six zeros behind them. -/
def Carries (spelling : Spelling) (bytes : List UInt8) (digits : List Char) : Prop :=
  ∃ (values : List Nat) (zeros : Nat), digits.map some = values.map (spelling.alphabet[·]?) ∧
    zeros < 6 ∧ values.flatMap (bitsOf 6) =
      (bytes.flatMap fun byte => bitsOf 8 byte.toNat) ++ List.replicate zeros false

/-- A text is the canonical one of some bytes: digits that carry them and, if the spelling is
padded, as many signs as are missing from a multiple of four. -/
def Canonical (spelling : Spelling) (bytes : List UInt8) (text : List Char) : Prop :=
  ∃ digits signs, Carries spelling bytes digits ∧ text = digits ++ List.replicate signs '=' ∧
    if spelling.padded then signs < 4 ∧ text.length % 4 = 0 else signs = 0

/-- The digits of a spelling are those of its alphabet. -/
def Spelling.IsOrdered (spelling : Spelling) : Prop :=
  ∀ value < 64, spelling.alphabet[value]? = some (spelling.digit value)

instance (spelling : Spelling) : Decidable spelling.IsOrdered :=
  inferInstanceAs (Decidable (∀ value < 64, _))

theorem urlSafe_isOrdered : urlSafe.IsOrdered := by
  decide

theorem standard_isOrdered : standard.IsOrdered := by
  decide

variable {spelling : Spelling}

private theorem lookedUp_iff (ordered : spelling.IsOrdered) {values : List Nat}
    {digits : List Char} :
    digits.map some = values.map (spelling.alphabet[·]?) ↔
      (∀ value ∈ values, value < 64) ∧ digits = values.map spelling.digit := by
  induction values generalizing digits with
  | nil => simp
  | cons value values ih =>
      constructor
      · intro lookedUp
        obtain ⟨digit, digits, rfl, first, rest⟩ := List.map_eq_cons_iff.1 lookedUp
        obtain ⟨small, same⟩ := ih.1 rest
        have found : spelling.alphabet[value]? = some digit := first.symm
        obtain ⟨least, -⟩ := List.getElem?_eq_some_iff.1 found
        rw [ordered value least] at found
        exact ⟨List.forall_mem_cons.2 ⟨least, small⟩,
          by rw [List.map_cons, Option.some.inj found, same]⟩
      · rintro ⟨small, rfl⟩
        obtain ⟨least, small⟩ := List.forall_mem_cons.1 small
        rw [List.map_cons, List.map_cons, List.map_cons, ordered value least,
          ih.2 ⟨small, rfl⟩]

/-- Digits that carry some bytes are the digits of their groups. -/
theorem carries_iff (ordered : spelling.IsOrdered) {bytes : List UInt8} {digits : List Char} :
    Carries spelling bytes digits ↔ digits = (sextets bytes).map spelling.digit := by
  constructor
  · rintro ⟨values, zeros, found, few, carried⟩
    obtain ⟨small, rfl⟩ := (lookedUp_iff ordered).1 found
    have total := congrArg List.length carried
    rw [length_flatMap_wide (length_bitsOf 6), List.length_append,
      length_flatMap_wide fun byte : UInt8 => length_bitsOf 8 byte.toNat,
      List.length_replicate] at total
    obtain rfl : zeros = 4 * bytes.length % 6 := by omega
    rw [← flatMap_sextets] at carried
    rw [eq_of_flatMap_bitsOf small (fun _ member => lt_of_mem_sextets member) carried]
  · rintro rfl
    refine ⟨sextets bytes, _, ?_, Nat.mod_lt _ (by decide), flatMap_sextets bytes⟩
    exact (lookedUp_iff ordered).2 ⟨fun _ member => lt_of_mem_sextets member, rfl⟩

/-- The canonical text of some bytes is what they are written as. -/
theorem canonical_iff (ordered : spelling.IsOrdered) {bytes : List UInt8} {text : List Char} :
    Canonical spelling bytes text ↔ text = encode spelling bytes := by
  simp only [Canonical, carries_iff ordered]
  cases padded : spelling.padded with
  | false =>
      have written : encode spelling bytes = (sextets bytes).map spelling.digit := by
        rw [encode, padded]
        rfl
      rw [written]
      constructor
      · rintro ⟨_, _, rfl, rfl, unfilled⟩
        rw [if_neg Bool.false_ne_true] at unfilled
        rw [unfilled]
        exact List.append_nil _
      · rintro rfl
        exact ⟨_, 0, rfl, (List.append_nil _).symm, rfl⟩
  | true =>
      have written : encode spelling bytes = (sextets bytes).map spelling.digit ++
          padding ((sextets bytes).map spelling.digit).length := by
        rw [encode, padded]
        rfl
      rw [written]
      constructor
      · rintro ⟨digits, signs, rfl, rfl, few, filled⟩
        rw [List.length_append, List.length_replicate] at filled
        obtain rfl : signs = (4 - ((sextets bytes).map spelling.digit).length % 4) % 4 := by
          omega
        rfl
      · rintro rfl
        refine ⟨_, _, rfl, rfl, Nat.mod_lt _ (by decide), ?_⟩
        rw [List.length_append, padding, List.length_replicate]
        omega

end Bearer.Base64
