import Bearer.Text.Base64
import Mathlib.Data.List.Basic

/-!
# Base64 texts are canonical

A digit has one value and a value one digit, and six-bit groups that are accepted are the groups of
the bytes that they give. So a text is decoded exactly if it is the text that its bytes are written
as: `decode?_eq_some_iff` without padding, `decode?_eq_some_iff_of_padded` with padding. Two
spellings that share a digit give it one value, so a text in both has the same bytes in both:
`eq_of_encode_standard_eq_encode_urlSafe`.
-/

namespace Bearer.Base64

namespace Spelling

/-- A spelling in which every value below 64 is read back from its digit. -/
def IsProper (spelling : Spelling) : Prop :=
  ∀ value < 64, spelling.value? (spelling.digit value) = some value

instance (spelling : Spelling) : Decidable spelling.IsProper :=
  inferInstanceAs (Decidable (∀ value < 64, _))

variable {spelling : Spelling} {character : Char} {value : Nat}

private theorem digit_of_between {first last : Char} {start : Nat}
    (between : first ≤ character ∧ character ≤ last)
    (digits : ∀ offset, offset ≤ last.toNat - first.toNat →
      offset + start < 64 ∧ spelling.digit (offset + start) = Char.ofNat (first.toNat + offset)) :
    character.toNat - first.toNat + start < 64 ∧
      spelling.digit (character.toNat - first.toNat + start) = character := by
  have least : first.toNat ≤ character.toNat := between.1
  have most : character.toNat ≤ last.toNat := between.2
  obtain ⟨small, same⟩ := digits (character.toNat - first.toNat) (by omega)
  refine ⟨small, ?_⟩
  rw [same, Nat.add_sub_cancel' least, Char.ofNat_toNat]

private theorem digit_upper (offset : Nat) (small : offset ≤ 'Z'.toNat - 'A'.toNat) :
    offset + 0 < 64 ∧ spelling.digit (offset + 0) = Char.ofNat ('A'.toNat + offset) := by
  have : offset < 26 := Nat.lt_succ_of_le small
  refine ⟨by omega, ?_⟩
  rw [Nat.add_zero, digit, if_pos this]

private theorem digit_lower (offset : Nat) (small : offset ≤ 'z'.toNat - 'a'.toNat) :
    offset + 26 < 64 ∧ spelling.digit (offset + 26) = Char.ofNat ('a'.toNat + offset) := by
  have : offset < 26 := Nat.lt_succ_of_le small
  refine ⟨by omega, ?_⟩
  rw [digit, if_neg (by omega), if_pos (by omega), Nat.add_sub_cancel]

private theorem digit_decimal (offset : Nat) (small : offset ≤ '9'.toNat - '0'.toNat) :
    offset + 52 < 64 ∧ spelling.digit (offset + 52) = Char.ofNat ('0'.toNat + offset) := by
  have : offset < 10 := Nat.lt_succ_of_le small
  refine ⟨by omega, ?_⟩
  rw [digit, if_neg (by omega), if_neg (by omega), if_pos (by omega), Nat.add_sub_cancel]

theorem digit_of_value? (read : spelling.value? character = some value) :
    value < 64 ∧ spelling.digit value = character := by
  unfold value? at read
  split at read
  · rename_i between
    cases read
    exact digit_of_between between digit_upper
  · split at read
    · rename_i between
      cases read
      exact digit_of_between between digit_lower
    · split at read
      · rename_i between
        cases read
        exact digit_of_between between digit_decimal
      · split at read
        · rename_i same
          cases read
          exact ⟨by decide, same.symm⟩
        · split at read
          · rename_i same
            cases read
            exact ⟨by decide, same.symm⟩
          · cases read

end Spelling

private theorem toNat_toUInt8 {value : Nat} (small : value < 256) :
    value.toUInt8.toNat = value := by
  rw [Nat.toUInt8_eq, UInt8.toNat_ofNat']
  exact Nat.mod_eq_of_lt small

theorem sextets_of_ofSextets? {values : List Nat} {bytes : List UInt8}
    (small : ∀ value ∈ values, value < 64) (given : ofSextets? values = some bytes) :
    sextets bytes = values := by
  induction values using ofSextets?.induct generalizing bytes with
  | case1 first second third fourth rest ih =>
      obtain ⟨later, givenLater, rfl⟩ := Option.map_eq_some_iff.1 given
      have firstSmall := small first (by simp)
      have secondSmall := small second (by simp)
      have thirdSmall := small third (by simp)
      have fourthSmall := small fourth (by simp)
      rw [sextets, ih (fun value member => small value (by simp [member])) givenLater,
        toNat_toUInt8 (by omega), toNat_toUInt8 (by omega), toNat_toUInt8 (by omega)]
      simp only [List.cons.injEq, and_true]
      omega
  | case2 first second third bits =>
      rename_i exact
      rw [ofSextets?, if_pos exact] at given
      cases given
      have firstSmall := small first (by simp)
      have secondSmall := small second (by simp)
      have thirdSmall := small third (by simp)
      rw [sextets, toNat_toUInt8 (by omega), toNat_toUInt8 (by omega)]
      simp only [List.cons.injEq, and_true]
      omega
  | case3 first second third bits =>
      rename_i inexact
      rw [ofSextets?, if_neg inexact] at given
      cases given
  | case4 first second bits =>
      rename_i exact
      rw [ofSextets?, if_pos exact] at given
      cases given
      have firstSmall := small first (by simp)
      have secondSmall := small second (by simp)
      rw [sextets, toNat_toUInt8 (by omega)]
      simp only [List.cons.injEq, and_true]
      omega
  | case5 first second bits =>
      rename_i inexact
      rw [ofSextets?, if_neg inexact] at given
      cases given
  | case6 => cases given
  | case7 =>
      cases given
      rfl

variable {spelling : Spelling}

private theorem digits_of_mapM {text : List Char} {values : List Nat}
    (read : text.mapM spelling.value? = some values) :
    (∀ value ∈ values, value < 64) ∧ values.map spelling.digit = text := by
  induction text generalizing values with
  | nil =>
      cases read
      exact ⟨by simp, rfl⟩
  | cons character text ih =>
      simp only [List.mapM_cons, Option.bind_eq_bind, Option.bind_eq_some_iff, Option.pure_def,
        Option.some.injEq] at read
      obtain ⟨value, first, values, rest, rfl⟩ := read
      obtain ⟨small, same⟩ := Spelling.digit_of_value? first
      obtain ⟨smallRest, sameRest⟩ := ih rest
      refine ⟨?_, by rw [List.map_cons, same, sameRest]⟩
      rintro other member
      rcases List.mem_cons.1 member with rfl | member
      · exact small
      · exact smallRest other member

private theorem mapM_digits (proper : spelling.IsProper) {values : List Nat}
    (small : ∀ value ∈ values, value < 64) :
    (values.map spelling.digit).mapM spelling.value? = some values := by
  induction values with
  | nil => rfl
  | cons value values ih =>
      have first := proper value (small value List.mem_cons_self)
      have rest := ih fun other member => small other (List.mem_cons_of_mem value member)
      rw [List.map_cons, List.mapM_cons, first, rest]
      rfl

/-- A text without padding is decoded exactly if it is what its bytes are written as. -/
theorem decode?_eq_some_iff (proper : spelling.IsProper) (unpadded : spelling.padded = false)
    {text : List Char} {bytes : List UInt8} :
    decode? spelling text = some bytes ↔ text = encode spelling bytes := by
  rw [decode?, encode, unpadded, if_neg Bool.false_ne_true, if_neg Bool.false_ne_true]
  constructor
  · intro decoded
    obtain ⟨values, read, given⟩ := Option.bind_eq_some_iff.1 decoded
    obtain ⟨small, rfl⟩ := digits_of_mapM read
    rw [sextets_of_ofSextets? small given]
  · rintro rfl
    rw [mapM_digits proper fun value member => lt_of_mem_sextets member, Option.bind_some,
      ofSextets?_sextets]

theorem urlSafe_isProper : urlSafe.IsProper := by
  decide

theorem decode?_urlSafe_eq_some_iff {text : List Char} {bytes : List UInt8} :
    decode? urlSafe text = some bytes ↔ text = encode urlSafe bytes :=
  decode?_eq_some_iff urlSafe_isProper rfl

theorem encode_urlSafe_inj {bytes others : List UInt8}
    (same : encode urlSafe bytes = encode urlSafe others) : bytes = others :=
  Option.some.inj ((decode?_urlSafe_eq_some_iff.2 rfl).symm.trans
    (decode?_urlSafe_eq_some_iff.2 same))

theorem encode_urlSafe_ne_nil {bytes : List UInt8} (some : bytes ≠ []) :
    encode urlSafe bytes ≠ [] := by
  intro empty
  have decoded := decode?_urlSafe_eq_some_iff.2 empty.symm
  cases decoded
  exact some rfl

theorem mem_encode_urlSafe {bytes : List UInt8} {character : Char}
    (member : character ∈ encode urlSafe bytes) : character ∈
      "ABCDEFGHIJKLMNOPQRSTUVWXYZabcdefghijklmnopqrstuvwxyz0123456789-_".toList := by
  have known : ∀ value < 64, urlSafe.digit value ∈
      "ABCDEFGHIJKLMNOPQRSTUVWXYZabcdefghijklmnopqrstuvwxyz0123456789-_".toList := by decide
  obtain ⟨value, inside, rfl⟩ := List.mem_map.1 member
  exact known value (lt_of_mem_sextets inside)

theorem dot_not_mem_encode (bytes : List UInt8) : '.' ∉ encode urlSafe bytes :=
  fun member => absurd (mem_encode_urlSafe member) (by decide)

theorem length_sextets (bytes : List UInt8) :
    (sextets bytes).length = (4 * bytes.length + 2) / 3 := by
  fun_induction sextets bytes with
  | case1 first second third rest bits ih =>
      simp only [List.length_cons, ih]
      omega
  | case2 first second bits => simp
  | case3 first bits => simp
  | case4 => rfl

theorem length_encode_urlSafe (bytes : List UInt8) :
    (encode urlSafe bytes).length = (4 * bytes.length + 2) / 3 := by
  rw [← length_sextets]
  exact List.length_map _

/-! ## Padded texts -/

private theorem ne_padding_of_mem {values : List Nat} (proper : spelling.IsProper)
    (reserved : spelling.value? '=' = none) (small : ∀ value ∈ values, value < 64) :
    ∀ digit ∈ values.map spelling.digit, (digit != '=') = true := by
  rintro digit member
  obtain ⟨value, inside, rfl⟩ := List.mem_map.1 member
  have known := proper value (small value inside)
  rw [bne_iff_ne]
  rintro same
  rw [same, reserved] at known
  cases known

private theorem parted_padding {digits : List Char}
    (solid : ∀ digit ∈ digits, (digit != '=') = true) (count : Nat) :
    (digits ++ padding count).takeWhile (· != '=') = digits ∧
      (digits ++ padding count).dropWhile (· != '=') = padding count := by
  rw [List.takeWhile_append_of_pos solid, List.dropWhile_append_of_pos solid, padding,
    List.takeWhile_replicate, List.dropWhile_replicate]
  simp

/-- A text with padding is decoded exactly if it is what its bytes are written as. -/
theorem decode?_eq_some_iff_of_padded (proper : spelling.IsProper)
    (padded : spelling.padded = true) (reserved : spelling.value? '=' = none) {text : List Char}
    {bytes : List UInt8} :
    decode? spelling text = some bytes ↔ text = encode spelling bytes := by
  rw [decode?, encode, padded, if_pos rfl, if_pos rfl]
  dsimp only
  constructor
  · intro decoded
    split at decoded
    · rename_i filled
      obtain ⟨values, read, given⟩ := Option.bind_eq_some_iff.1 decoded
      obtain ⟨small, digits⟩ := digits_of_mapM read
      rw [sextets_of_ofSextets? small given, digits, ← filled, List.takeWhile_append_dropWhile]
    · cases decoded
  · rintro rfl
    have small : ∀ value ∈ sextets bytes, value < 64 := fun value member =>
      lt_of_mem_sextets member
    obtain ⟨digits, filled⟩ := parted_padding (ne_padding_of_mem proper reserved small)
      ((sextets bytes).map spelling.digit).length
    rw [digits, filled, if_pos rfl, mapM_digits proper small, Option.bind_some,
      ofSextets?_sextets]

theorem standard_isProper : standard.IsProper := by
  decide

theorem decode?_standard_eq_some_iff {text : List Char} {bytes : List UInt8} :
    decode? standard text = some bytes ↔ text = encode standard bytes :=
  decode?_eq_some_iff_of_padded standard_isProper rfl (by decide)

private theorem eq_of_digits {values others : List Nat} (small : ∀ value ∈ values, value < 64)
    (smallOthers : ∀ value ∈ others, value < 64)
    (same : values.map standard.digit = others.map urlSafe.digit) : values = others := by
  have shared : ∀ value < 64, urlSafe.value? (standard.digit value) = none ∨
      urlSafe.value? (standard.digit value) = some value := by decide
  induction values generalizing others with
  | nil => exact (List.map_eq_nil_iff.1 same.symm).symm
  | cons value values ih =>
      obtain ⟨other, others, rfl, first, rest⟩ := List.map_eq_cons_iff.1 same.symm
      obtain ⟨least, small⟩ := List.forall_mem_cons.1 small
      obtain ⟨leastOther, smallOthers⟩ := List.forall_mem_cons.1 smallOthers
      have read := urlSafe_isProper other leastOther
      rw [first] at read
      rcases shared value least with unknown | known
      · rw [unknown] at read
        cases read
      · rw [known] at read
        rw [Option.some.inj read, ih small smallOthers rest.symm]

/-- Bytes that are written alike in both spellings are the same. -/
theorem eq_of_encode_standard_eq_encode_urlSafe {bytes others : List UInt8}
    (same : encode standard bytes = encode urlSafe others) : bytes = others := by
  have unfilled : '=' ∉ encode standard bytes := by
    rw [same]
    exact fun member => absurd (mem_encode_urlSafe member) (by decide)
  have small : ∀ bytes : List UInt8, ∀ value ∈ sextets bytes, value < 64 :=
    fun _ _ member => lt_of_mem_sextets member
  have written : encode standard bytes = (sextets bytes).map standard.digit ++
      padding ((sextets bytes).map standard.digit).length := rfl
  rw [written] at same unfilled
  have empty : padding ((sextets bytes).map standard.digit).length = [] := by
    rw [padding, List.replicate_eq_nil_iff]
    by_contra some
    exact unfilled (List.mem_append_right _ (List.mem_replicate.2 ⟨some, rfl⟩))
  rw [empty, List.append_nil] at same
  have groups := eq_of_digits (small bytes) (small others) same
  exact Option.some.inj (by rw [← ofSextets?_sextets bytes, groups, ofSextets?_sextets])

end Bearer.Base64
