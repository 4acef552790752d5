import Bearer.Digest.Blake3
import Bearer.Text.Hex
import Bearer.Text.Utf8

/-!
# Session keys

A session is kept under a keyed digest of its refresh token, so that who reads the store cannot use
what it holds. `length_key` and `mem_key` say what such a key looks like, whatever the token.
-/

namespace Bearer.Session

/-- What every key begins with. -/
def keyStart : List Char := "session:".toList

/-- The characters of the key that belongs to a token. -/
def keyCharacters (hashKey : List UInt8) (token : String) : List Char :=
  keyStart ++ Hex.encode (Digest.Blake3.digest hashKey (Text.bytes token))

/-- The key that belongs to a token. -/
def key (hashKey : List UInt8) (token : String) : String :=
  String.ofList (keyCharacters hashKey token)

/-- A key has eight characters and two for each byte of the digest. -/
theorem length_key (hashKey : List UInt8) (token : String) : (key hashKey token).length = 72 := by
  rw [key, String.length_ofList, keyCharacters, List.length_append, Hex.length_encode,
    Digest.Blake3.length_digest]
  rfl

/-- A key ends in lowercase hexadecimal digits. -/
theorem mem_key {hashKey : List UInt8} {token : String} {character : Char}
    (member : character ∈ (key hashKey token).toList.drop 8) :
    character ∈ "0123456789abcdef".toList := by
  have shape : (key hashKey token).toList.drop 8 =
      Hex.encode (Digest.Blake3.digest hashKey (Text.bytes token)) := by
    rw [key, String.toList_ofList, keyCharacters]
    exact List.drop_left' rfl
  rw [shape] at member
  exact Hex.mem_encode member

/-- Whether a text looks like a key. -/
def isKey (text : String) : Bool :=
  let characters := text.toList
  keyStart.isPrefixOf characters && characters.length = 72 &&
    (characters.drop 8).all fun character => "0123456789abcdef".toList.contains character

@[simp]
theorem isKey_key (hashKey : List UInt8) (token : String) : isKey (key hashKey token) = true := by
  have begins : keyStart.isPrefixOf (key hashKey token).toList = true := by
    rw [key, String.toList_ofList, keyCharacters]
    exact List.isPrefixOf_iff_prefix.2 (List.prefix_append ..)
  have length : (key hashKey token).toList.length = 72 := length_key hashKey token
  have digits : ∀ character ∈ (key hashKey token).toList.drop 8,
      "0123456789abcdef".toList.contains character = true :=
    fun _ member => List.contains_iff_mem.2 (mem_key member)
  simp only [isKey, begins, length, decide_true, Bool.and_self, Bool.true_and]
  exact List.all_eq_true.2 digits

theorem exists_digits_of_isKey {text : String} (looks : isKey text = true) :
    ∃ digits : List Char, text.toList = keyStart ++ digits ∧ digits.length = 64 ∧
      ∀ digit ∈ digits, digit ∈ "0123456789abcdef".toList := by
  simp only [isKey, Bool.and_eq_true, decide_eq_true_eq, List.all_eq_true,
    List.contains_iff_mem] at looks
  obtain ⟨⟨begins, length⟩, listed⟩ := looks
  obtain ⟨digits, shape⟩ := List.isPrefixOf_iff_prefix.1 begins
  have eight : keyStart.length = 8 := rfl
  rw [← shape, List.length_append, eight] at length
  rw [← shape, List.drop_left' eight] at listed
  exact ⟨digits, shape.symm, by omega, listed⟩

end Bearer.Session
