import Bearer.Text.Utf8

/-!
# Text from any bytes

Bytes that are no text can still be shown: each longest beginning of a character that is not
completed, and each byte that begins no character, is replaced by one mark.
-/

namespace Bearer.Text

/-- The mark in place of bytes that are no text. -/
def replacementMark : Char := '\ufffd'

/-- The least and the greatest byte that may stand at a place. -/
structure ByteRange where
  /-- The least byte. -/
  low : UInt8
  /-- The greatest byte. -/
  high : UInt8

/-- Whether a byte lies in a range. -/
def ByteRange.contains (range : ByteRange) (byte : UInt8) : Bool :=
  range.low ≤ byte && byte ≤ range.high

/-- The bytes that may stand at any later place of a character. -/
def continuation : ByteRange := ⟨0x80, 0xBF⟩

/-- What must follow the first byte of a character; none for a byte that begins no character. -/
def following? (first : UInt8) : Option (List ByteRange) :=
  if first < 0x80 then some []
  else if first < 0xC2 then none
  else if first < 0xE0 then some [continuation]
  else if first = 0xE0 then some [⟨0xA0, 0xBF⟩, continuation]
  else if first = 0xED then some [⟨0x80, 0x9F⟩, continuation]
  else if first < 0xF0 then some [continuation, continuation]
  else if first = 0xF0 then some [⟨0x90, 0xBF⟩, continuation, continuation]
  else if first < 0xF4 then some [continuation, continuation, continuation]
  else if first = 0xF4 then some [⟨0x80, 0x8F⟩, continuation, continuation]
  else none

/-- How many bytes in front lie in the given ranges, one after the other. -/
def matching : List ByteRange → List UInt8 → Nat
  | range :: ranges, byte :: bytes =>
    if range.contains byte then matching ranges bytes + 1 else 0
  | _, _ => 0

/-- The text of some bytes, with marks for what is no text. -/
def lossy : List UInt8 → List Char
  | [] => []
  | first :: rest =>
    match following? first with
    | none => replacementMark :: lossy rest
    | some ranges =>
      let count := matching ranges rest
      let character := match ofBytes? (first :: rest.take count) with
        | some text => text.toList
        | none => [replacementMark]
      character ++ lossy (rest.drop count)
termination_by bytes => bytes.length
decreasing_by
  · simp
  · simp only [List.length_drop, List.length_cons]; omega

end Bearer.Text
