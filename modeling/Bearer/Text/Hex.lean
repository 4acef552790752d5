/-!
# Lowercase hexadecimal text

Digests are shown as two lowercase digits per byte, the high half first. `length_encode` gives
the length and `mem_encode` the characters, which is all that a store key relies on.
-/

namespace Bearer.Hex

/-- The sixteen digits in order. -/
def digit (value : Nat) : Char :=
  if value < 10 then Char.ofNat ('0'.toNat + value) else Char.ofNat ('a'.toNat + (value - 10))

/-- The value of a digit, in either case. -/
def value? (character : Char) : Option Nat :=
  if '0' ≤ character ∧ character ≤ '9' then some (character.toNat - '0'.toNat)
  else if 'a' ≤ character ∧ character ≤ 'f' then some (character.toNat - 'a'.toNat + 10)
  else if 'A' ≤ character ∧ character ≤ 'F' then some (character.toNat - 'A'.toNat + 10)
  else none

/-- The two digits of a byte. -/
def pair (byte : UInt8) : List Char :=
  [digit (byte.toNat / 16), digit (byte.toNat % 16)]

/-- All bytes, two digits each. -/
def encode (bytes : List UInt8) : List Char :=
  bytes.flatMap pair

/-- Two digits per byte, whatever the bytes are. -/
theorem length_encode (bytes : List UInt8) : (encode bytes).length = 2 * bytes.length := by
  induction bytes with
  | nil => rfl
  | cons byte rest ih =>
      have : encode (byte :: rest) = pair byte ++ encode rest := rfl
      simp [this, pair, ih]
      omega

theorem digit_mem (value : Nat) (small : value < 16) : digit value ∈ "0123456789abcdef".toList := by
  have : ∀ small : Fin 16, digit small.val ∈ "0123456789abcdef".toList := by decide
  exact this ⟨value, small⟩

/-- Only lowercase digits are written. -/
theorem mem_encode {character : Char} {bytes : List UInt8} (member : character ∈ encode bytes) :
    character ∈ "0123456789abcdef".toList := by
  simp only [encode, List.mem_flatMap, pair, List.mem_cons, List.not_mem_nil, or_false] at member
  obtain ⟨byte, -, rfl | rfl⟩ := member
  · exact digit_mem _ (by have := byte.toNat_lt; omega)
  · exact digit_mem _ (by omega)

end Bearer.Hex
