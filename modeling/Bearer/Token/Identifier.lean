import Bearer.Text.Hex

/-!
# Names of tokens

Each access token has a name of its own: sixteen random bytes, six bits of which say so, written in
groups of hexadecimal digits.
-/

namespace Bearer.Token.Identifier

/-- Sixteen bytes with the marks of a random name. -/
def marked (bytes : List UInt8) : List UInt8 :=
  bytes.mapIdx fun index byte =>
    if index = 6 then byte &&& 0x0f ||| 0x40
    else if index = 8 then byte &&& 0x3f ||| 0x80
    else byte

/-- Digits in groups of eight, four, four, four and twelve. -/
def grouped (digits : List Char) : List Char :=
  ['-'].intercalate
    [digits.take 8, (digits.drop 8).take 4, (digits.drop 12).take 4, (digits.drop 16).take 4,
      digits.drop 20]

/-- The written name made of sixteen random bytes. -/
def ofBytes (bytes : List UInt8) : String :=
  String.ofList (grouped (Hex.encode (marked bytes)))

/-- Whether a text is a written name: digits in groups, with the marks of a random one. -/
def isRandom (text : String) : Bool :=
  let characters := text.toList
  let digits := characters.filter (· != '-')
  characters == grouped digits && digits.length == 32 &&
    digits.all ("0123456789abcdef".toList.contains ·) && digits[12]? == some '4' &&
    (digits[16]?.any ("89ab".toList.contains ·))

end Bearer.Token.Identifier
