import Bearer.Text.Hex

/-!
# Numeric hosts

An address of sixteen bytes is written as eight groups of hexadecimal digits. Two colons in a row
stand for one or more groups of zeros, and four decimal numbers may stand for the last two groups.
-/

namespace Bearer.Redis.Ipv6

/-- Whether a text is a group: one to four hexadecimal digits. -/
def isGroup (text : List Char) : Bool :=
  text ≠ [] && text.length ≤ 4 && text.all fun character => (Hex.value? character).isSome

/-- Whether a text is a decimal number below 256 without a leading zero. -/
def isByte (text : List Char) : Bool :=
  text ≠ [] && text.length ≤ 3 && text.all Char.isDigit &&
    (text.length = 1 || text.head? ≠ some '0') && Nat.ofDigitChars 10 text 0 < 256

/-- Whether a text is four such numbers between dots. -/
def isDotted (text : List Char) : Bool :=
  let numbers := text.splitOn '.'
  numbers.length = 4 && numbers.all isByte

/-- The number of groups that a list of texts stands for; none if one is no group. Only the last
text of an address may stand for two. -/
def size? (final : Bool) : List (List Char) → Option Nat
  | [] => some 0
  | [last] => if isGroup last then some 1 else if final && isDotted last then some 2 else none
  | group :: rest => if isGroup group then (size? final rest).map (· + 1) else none

/-- The texts between colons; none in the empty text. -/
def groups (text : List Char) : List (List Char) :=
  if text = [] then [] else text.splitOn ':'

/-- The texts before and after the first two colons in a row. -/
def halves? : List Char → Option (List Char × List Char)
  | [] => none
  | ':' :: ':' :: rest => some ([], rest)
  | character :: rest => (halves? rest).map fun (left, right) => (character :: left, right)

/-- Whether a text is a numeric host. -/
def isAddress (text : List Char) : Bool :=
  match halves? text with
  | none => size? true (text.splitOn ':') = some 8
  | some (left, right) =>
    match size? false (groups left), size? true (groups right) with
    | some first, some second => first + second < 8
    | _, _ => false

end Bearer.Redis.Ipv6
