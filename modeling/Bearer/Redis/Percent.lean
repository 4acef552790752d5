import Bearer.Text.Hex
import Bearer.Text.Lossy

/-!
# Percent escapes and queries

In an address any byte can be written as a percent sign and two hexadecimal digits. A query is a
list of such names and values.
-/

namespace Bearer.Redis

/-- The byte that two hexadecimal digits stand for. -/
def escapedByte? (high low : UInt8) : Option UInt8 := do
  let high ← Hex.value? (Char.ofNat high.toNat)
  let low ← Hex.value? (Char.ofNat low.toNat)
  return (16 * high + low).toUInt8

/-- The bytes of a text with percent escapes. -/
def percentDecode : List UInt8 → List UInt8
  | 0x25 :: high :: low :: rest =>
    match escapedByte? high low with
    | some byte => byte :: percentDecode rest
    | none => 0x25 :: percentDecode (high :: low :: rest)
  | byte :: rest => byte :: percentDecode rest
  | [] => []

/-- The bytes of a text in an address. -/
def decoded (text : List Char) : List UInt8 :=
  percentDecode (Text.bytes (String.ofList text))

/-- A name or a value of a query, where a plus sign stands for a blank. -/
def queryText (text : List Char) : List Char :=
  Text.lossy (decoded (text.map fun character => if character = '+' then ' ' else character))

/-- The names and values of a query. -/
def queryPairs (query : List Char) : List (List Char × List Char) :=
  let parts := (query.splitOn '&').filter (· ≠ [])
  parts.map fun part =>
    (queryText (part.takeWhile (· ≠ '=')), queryText ((part.dropWhile (· ≠ '=')).drop 1))

end Bearer.Redis
