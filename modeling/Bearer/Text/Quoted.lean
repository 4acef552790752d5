import Bearer.Text.Visible

/-!
# Quoted display of a text

A text is shown between double quotes so that a reader sees every character: quotes, backslashes
and the usual controls get a backslash, and what has no glyph of its own is given by its code point.
-/

namespace Bearer.Text

/-- A code point in lowercase hexadecimal between braces. -/
def codePointEscape (character : Char) : List Char :=
  '\\' :: 'u' :: '\x7b' :: Nat.toDigits 16 character.toNat ++ ['\x7d']

/-- How a character is shown inside quotes. -/
def shown (character : Char) : List Char :=
  if character = '\x00' then ['\\', '0']
  else if character = '\t' then ['\\', 't']
  else if character = '\r' then ['\\', 'r']
  else if character = '\n' then ['\\', 'n']
  else if character = '\\' ∨ character = '"' then ['\\', character]
  else if isVisible character then [character]
  else codePointEscape character

/-- A text between double quotes. -/
def quoted (text : String) : String :=
  String.ofList ('"' :: text.toList.flatMap shown ++ ['"'])

end Bearer.Text
