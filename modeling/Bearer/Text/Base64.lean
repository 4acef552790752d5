/-!
# Base64 in three spellings

Three bytes are written as four digits of six bits. The spellings differ in the two last digits of
the alphabet and in whether the text is filled up with `=` to a multiple of four. Decoding accepts
the canonical text only: no stray padding, no foreign digit, and zero bits where a last group is
shorter than three bytes. `ofSextets?_sextets` says that the groups of six bits lose nothing.
-/

namespace Bearer.Base64

/-- A way to write base64. -/
structure Spelling where
  /-- The digit for 62. -/
  char62 : Char
  /-- The digit for 63. -/
  char63 : Char
  /-- Whether the text is filled up with `=` to a multiple of four characters. -/
  padded : Bool
deriving DecidableEq, Repr

/-- The spelling of tokens: safe in a URL, without padding. -/
def urlSafe : Spelling := ⟨'-', '_', false⟩

/-- The spelling of files and mail: padded. -/
def standard : Spelling := ⟨'+', '/', true⟩

/-- The spelling of password hashes: the standard digits without padding. -/
def standardUnpadded : Spelling := ⟨'+', '/', false⟩

namespace Spelling

/-- The digit for a value below 64. -/
def digit (spelling : Spelling) (value : Nat) : Char :=
  if value < 26 then Char.ofNat ('A'.toNat + value)
  else if value < 52 then Char.ofNat ('a'.toNat + (value - 26))
  else if value < 62 then Char.ofNat ('0'.toNat + (value - 52))
  else if value = 62 then spelling.char62
  else spelling.char63

/-- The value of a digit of this spelling. -/
def value? (spelling : Spelling) (character : Char) : Option Nat :=
  if 'A' ≤ character ∧ character ≤ 'Z' then some (character.toNat - 'A'.toNat)
  else if 'a' ≤ character ∧ character ≤ 'z' then some (character.toNat - 'a'.toNat + 26)
  else if '0' ≤ character ∧ character ≤ '9' then some (character.toNat - '0'.toNat + 52)
  else if character = spelling.char62 then some 62
  else if character = spelling.char63 then some 63
  else none

end Spelling

/-- The six-bit groups of a byte sequence; a short last group is filled with zero bits. -/
def sextets : List UInt8 → List Nat
  | first :: second :: third :: rest =>
    let bits := first.toNat * 65536 + second.toNat * 256 + third.toNat
    bits / 262144 :: bits / 4096 % 64 :: bits / 64 % 64 :: bits % 64 :: sextets rest
  | [first, second] =>
    let bits := first.toNat * 1024 + second.toNat * 4
    [bits / 4096, bits / 64 % 64, bits % 64]
  | [first] =>
    let bits := first.toNat * 16
    [bits / 64, bits % 64]
  | [] => []

/-- The bytes of a sequence of six-bit groups, if its length and its last bits are canonical. -/
def ofSextets? : List Nat → Option (List UInt8)
  | first :: second :: third :: fourth :: rest =>
    let bits := first * 262144 + second * 4096 + third * 64 + fourth
    (ofSextets? rest).map
      ((bits / 65536).toUInt8 :: (bits / 256 % 256).toUInt8 :: (bits % 256).toUInt8 :: ·)
  | [first, second, third] =>
    let bits := first * 4096 + second * 64 + third
    if bits % 4 = 0 then some [(bits / 1024).toUInt8, (bits / 4 % 256).toUInt8] else none
  | [first, second] =>
    let bits := first * 64 + second
    if bits % 16 = 0 then some [(bits / 16).toUInt8] else none
  | [_] => none
  | [] => some []

/-- The padding a text with so many digits needs. -/
def padding (digits : Nat) : List Char :=
  List.replicate ((4 - digits % 4) % 4) '='

/-- The canonical text of a byte sequence. -/
def encode (spelling : Spelling) (bytes : List UInt8) : List Char :=
  let digits := (sextets bytes).map spelling.digit
  if spelling.padded then digits ++ padding digits.length else digits

/-- The bytes whose canonical text is given. -/
def decode? (spelling : Spelling) (text : List Char) : Option (List UInt8) :=
  if spelling.padded then
    let digits := text.takeWhile (· != '=')
    if text.dropWhile (· != '=') = padding digits.length then
      (digits.mapM spelling.value?).bind ofSextets?
    else none
  else
    (text.mapM spelling.value?).bind ofSextets?

theorem lt_of_mem_sextets {value : Nat} {bytes : List UInt8} (member : value ∈ sextets bytes) :
    value < 64 := by
  fun_induction sextets bytes with
  | case1 first second third rest bits ih =>
      have := first.toNat_lt
      have := second.toNat_lt
      have := third.toNat_lt
      simp only [List.mem_cons] at member
      rcases member with rfl | rfl | rfl | rfl | member
      · omega
      · omega
      · omega
      · omega
      · exact ih member
  | case2 first second bits =>
      have := first.toNat_lt
      have := second.toNat_lt
      simp only [List.mem_cons, List.not_mem_nil, or_false] at member
      rcases member with rfl | rfl | rfl <;> omega
  | case3 first bits =>
      have := first.toNat_lt
      simp only [List.mem_cons, List.not_mem_nil, or_false] at member
      rcases member with rfl | rfl <;> omega
  | case4 => simp at member

private theorem toUInt8_eq (byte : UInt8) (value : Nat) (equal : value = byte.toNat) :
    value.toUInt8 = byte := by
  subst equal
  simp

/-- The groups of a byte sequence give the bytes back. -/
theorem ofSextets?_sextets (bytes : List UInt8) : ofSextets? (sextets bytes) = some bytes := by
  fun_induction sextets bytes with
  | case1 first second third rest bits ih =>
      have := first.toNat_lt
      have := second.toNat_lt
      have := third.toNat_lt
      have firstEq := toUInt8_eq first
        ((bits / 262144 * 262144 + bits / 4096 % 64 * 4096 + bits / 64 % 64 * 64
          + bits % 64) / 65536) (by omega)
      have secondEq := toUInt8_eq second
        ((bits / 262144 * 262144 + bits / 4096 % 64 * 4096 + bits / 64 % 64 * 64
          + bits % 64) / 256 % 256) (by omega)
      have thirdEq := toUInt8_eq third
        ((bits / 262144 * 262144 + bits / 4096 % 64 * 4096 + bits / 64 % 64 * 64
          + bits % 64) % 256) (by omega)
      simp only [ofSextets?, ih, Option.map_some, firstEq, secondEq, thirdEq]
  | case2 first second bits =>
      have := first.toNat_lt
      have := second.toNat_lt
      have zero : (bits / 4096 * 4096 + bits / 64 % 64 * 64 + bits % 64) % 4 = 0 := by omega
      have firstEq := toUInt8_eq first
        ((bits / 4096 * 4096 + bits / 64 % 64 * 64 + bits % 64) / 1024) (by omega)
      have secondEq := toUInt8_eq second
        ((bits / 4096 * 4096 + bits / 64 % 64 * 64 + bits % 64) / 4 % 256) (by omega)
      simp only [ofSextets?, zero, if_true, firstEq, secondEq]
  | case3 first bits =>
      have := first.toNat_lt
      have zero : (bits / 64 * 64 + bits % 64) % 16 = 0 := by omega
      have firstEq := toUInt8_eq first
        ((bits / 64 * 64 + bits % 64) / 16) (by omega)
      simp only [ofSextets?, zero, if_true, firstEq]
  | case4 => rfl

end Bearer.Base64
