/-!
# Text as bytes

Texts travel as UTF-8 bytes: they are hashed, signed, encoded and read byte by byte. The two
directions are `bytes` and `ofBytes?`; `ofBytes?_bytes` says that no text is lost on the way.
-/

namespace Bearer.Text

/-- The UTF-8 bytes of a text. -/
def bytes (text : String) : List UInt8 :=
  text.toByteArray.data.toList

/-- The text whose UTF-8 bytes are given, if they are well formed. -/
def ofBytes? (bytes : List UInt8) : Option String :=
  String.fromUTF8? ⟨bytes.toArray⟩

/-- Reading back the bytes of a text gives the text. -/
@[simp]
theorem ofBytes?_bytes (text : String) : ofBytes? (bytes text) = some text := by
  have valid : text.toByteArray.IsValidUTF8 := text.isValidUTF8
  simp [ofBytes?, bytes, String.fromUTF8?, valid, String.fromUTF8]

theorem bytes_ofList (characters : List Char) :
    bytes (String.ofList characters) = characters.flatMap String.utf8EncodeChar := by
  simp [bytes, List.utf8Encode]

theorem bytes_of_ofBytes? {source : List UInt8} {text : String}
    (read : ofBytes? source = some text) : bytes text = source := by
  unfold ofBytes? String.fromUTF8? at read
  split at read
  · simp only [Option.some.injEq] at read
    subst read
    simp [bytes, String.fromUTF8]
  · simp at read

/-- The UTF-8 bytes of one code point below 0x110000 that is no surrogate; others give none. -/
def codePointBytes (point : Nat) : List UInt8 :=
  if h : point.isValidChar then
    String.utf8EncodeChar (Char.ofNatAux point h)
  else
    []

end Bearer.Text
