import Bearer.Json.Cursor
import Bearer.Text.Utf8
import Bearer.Text.Hex

/-!
# Texts inside JSON

A text stands between double quotes. A backslash begins an escape; `\uXXXX` names a UTF-16 unit, and
a high surrogate must be followed by a low one. `printText` writes the shortest escapes, and
`Reading.text` reads every spelling.
-/

namespace Bearer.Json

/-- The character that a one-letter escape stands for. -/
def escaped? : Char → Option Char
  | '"' => some '"'
  | '\\' => some '\\'
  | '/' => some '/'
  | 'b' => some '\x08'
  | 'f' => some '\x0c'
  | 'n' => some '\n'
  | 'r' => some '\r'
  | 't' => some '\t'
  | _ => none

/-- Whether a UTF-16 unit is the first of a pair. -/
def isHighSurrogate (unit : Nat) : Bool :=
  0xD800 ≤ unit && unit ≤ 0xDBFF

/-- Whether a UTF-16 unit is the second of a pair. -/
def isLowSurrogate (unit : Nat) : Bool :=
  0xDC00 ≤ unit && unit ≤ 0xDFFF

/-- The code point that a pair of UTF-16 units stands for. -/
def ofSurrogates (high low : Nat) : Nat :=
  (high - 0xD800) * 0x400 + (low - 0xDC00) + 0x10000

namespace Reading

/-- Four hexadecimal digits. A text that ends before the fourth is read to its end. -/
def unit : Reading Nat := do
  let cursor ← get
  match cursor.rest with
  | first :: second :: third :: fourth :: _ =>
    set (cursor.advanceBy 4)
    let digits := [first, second, third, fourth].mapM fun byte => Hex.value? (Cursor.character byte)
    match digits with
    | some values => return values.foldl (fun value digit => value * 16 + digit) 0
    | none => fail .invalidEscape
  | rest =>
    set (cursor.advanceBy rest.length)
    fail .endOfText

/-- A byte that must come next inside a text. Another byte is read before it is refused. -/
def expected (byte : Char) : Reading Unit := do
  match ← peek with
  | none => fail .endOfText
  | some found =>
    skip
    if found ≠ byte then fail .unfinishedSurrogatePair

/-- The code point of a `\u` escape, after the `u`. -/
def codePoint : Reading Nat := do
  let first ← unit
  if isLowSurrogate first then fail .loneSurrogate
  else if isHighSurrogate first then do
    expected '\\'
    expected 'u'
    let second ← unit
    if isLowSurrogate second then return ofSurrogates first second
    else fail .loneSurrogate
  else return first

/-- The bytes that an escape stands for, after the backslash. -/
def escape : Reading (List UInt8) := do
  match ← peek with
  | none => fail .endOfText
  | some letter =>
    skip
    match escaped? letter with
    | some character => return String.utf8EncodeChar character
    | none => if letter = 'u' then return Text.codePointBytes (← codePoint) else fail .invalidEscape

/-- The bytes of a text up to its closing quote, in reverse. -/
def textBytes : Nat → List UInt8 → Reading (List UInt8)
  | 0, _ => fail .endOfText
  | steps + 1, read => do
    match (← get).rest with
    | [] => fail .endOfText
    | byte :: _ =>
      skip
      match Cursor.character byte with
      | '"' => return read
      | '\\' => do textBytes steps ((← escape).reverse ++ read)
      | character =>
        if character.toNat < 0x20 then fail .controlCharacter
        else textBytes steps (byte :: read)

/-- A text, after the opening quote. -/
def text : Reading String := do
  let read ← bounded (textBytes · [])
  match Text.ofBytes? read.reverse with
  | some value => return value
  | none => fail .invalidCodePoint

/-- Reads over an escape, after the backslash. Surrogates need not be paired. -/
def skipEscape : Reading Unit := do
  match ← peek with
  | none => fail .endOfText
  | some letter =>
    skip
    if letter = 'u' then discard unit
    else if (escaped? letter).isNone then fail .invalidEscape

/-- Reads over a text up to its closing quote. -/
def skipTextBytes : Nat → Reading Unit
  | 0 => fail .endOfText
  | steps + 1 => do
    match ← peek with
    | none => fail .endOfText
    | some '"' => skip
    | some '\\' =>
      skip
      skipEscape
      skipTextBytes steps
    | some character =>
      if character.toNat < 0x20 then fail .controlCharacter
      else
        skip
        skipTextBytes steps

/-- Reads over a text, after the opening quote. Its bytes may be any. -/
def skipText : Reading Unit :=
  bounded skipTextBytes

end Reading

/-- A character inside a written text. -/
def printCharacter (character : Char) : List Char :=
  match character with
  | '"' => ['\\', '"']
  | '\\' => ['\\', '\\']
  | '\x08' => ['\\', 'b']
  | '\x0c' => ['\\', 'f']
  | '\n' => ['\\', 'n']
  | '\r' => ['\\', 'r']
  | '\t' => ['\\', 't']
  | _ =>
    if character.toNat < 0x20 then '\\' :: 'u' :: '0' :: '0' :: Hex.pair character.toNat.toUInt8
    else [character]

/-- A text between quotes, with the shortest escapes. -/
def printText (text : String) : List Char :=
  '"' :: text.toList.flatMap printCharacter ++ ['"']

end Bearer.Json
