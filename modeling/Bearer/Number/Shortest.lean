import Bearer.Number.Binary64

/-!
# The fewest digits that read back

Among the decimals that round to a given binary number, the display takes one with the fewest
digits and, of those, the nearest. For each number of digits only the two neighbours of the value on
that decimal grid have to be tried, because an interval around the value that holds a point of the
grid holds one of them.
-/

namespace Bearer.Number

namespace Binary64

/-- The decimals that round to a number: a quarter of the spacing is the unit, and the ends belong
to the interval if the mantissa is even. -/
structure Neighbourhood where
  /-- Four times the number of units from zero to the lower end. -/
  low : Nat
  /-- Four times the number of units from zero to the value. -/
  value : Nat
  /-- Four times the number of units from zero to the upper end. -/
  high : Nat
  /-- What the three are counted in: this many make one. -/
  denominator : Nat
  /-- Whether the ends round to the number. -/
  closed : Bool

/-- The interval of the decimals that round to a number. -/
def neighbourhood (number : Binary64) : Neighbourhood :=
  let (scale, denominator) := Binary64.ratio ⟨1, number.exponent⟩
  let below := if number.mantissa = leastNormal ∧ leastExponent < number.exponent then 1 else 2
  { low := (4 * number.mantissa - below) * scale
    value := 4 * number.mantissa * scale
    high := (4 * number.mantissa + 2) * scale
    denominator := 4 * denominator
    closed := number.mantissa % 2 = 0 }

/-- A decimal `digits · 10 ^ exponent` as a ratio. -/
def decimalRatio (digits : Nat) (exponent : Int) : Nat × Nat :=
  if 0 ≤ exponent then (digits * Nat.pow 10 exponent.toNat, 1)
  else (digits, Nat.pow 10 (-exponent).toNat)

/-- Whether a decimal rounds to the number in the middle. -/
def Neighbourhood.contains (around : Neighbourhood) (digits : Nat) (exponent : Int) : Bool :=
  let (numerator, denominator) := decimalRatio digits exponent
  let point := numerator * around.denominator
  if around.closed then
    around.low * denominator ≤ point && point ≤ around.high * denominator
  else
    around.low * denominator < point && point < around.high * denominator

/-- The greatest power of ten that is not above a positive ratio. -/
def magnitude (numerator denominator : Nat) : Int :=
  if denominator ≤ numerator then
    ((Nat.toDigits 10 (numerator / denominator)).length : Int) - 1
  else
    match (List.range 400).find? fun shift => denominator ≤ numerator * Nat.pow 10 shift with
    | some shift => -(shift : Int)
    | none => -400

/-- The nearest decimal with so many digits that rounds to the number, if there is one. -/
def withDigits? (around : Neighbourhood) (count : Nat) : Option (Nat × Int) :=
  let exponent := magnitude around.value around.denominator + 1 - count
  let (numerator, denominator) := decimalRatio 1 exponent
  let scaled := around.value * denominator
  let unit := around.denominator * numerator
  let lower := scaled / unit
  let low := around.contains lower exponent
  let high := around.contains (lower + 1) exponent
  let lowerIsNearer := 2 * (scaled % unit) < unit ∨ (2 * (scaled % unit) = unit ∧ lower % 2 = 0)
  if low ∧ (¬high ∨ lowerIsNearer) then some (lower, exponent)
  else if high then some (lower + 1, exponent)
  else none

/-- The digits and the power of ten of the shortest decimal; seventeen digits always suffice. -/
def shortest (number : Binary64) : Nat × Int :=
  let around := number.neighbourhood
  ((List.range 17).findSome? fun count => withDigits? around (count + 1)).getD (0, 0)

end Binary64

/-- A number of the double format with its sign. -/
structure Double where
  /-- Whether the number is below zero or the negative zero. -/
  negative : Bool
  /-- The number without its sign. -/
  size : Binary64
deriving DecidableEq, Repr

namespace Double

/-- Digits without trailing zeros, of at least one digit. -/
def trimmed (digits : List Char) : List Char :=
  match (digits.reverse.dropWhile (· = '0')).reverse with
  | [] => ['0']
  | rest => rest

/-- The layout of a decimal: positional from 10^-5 below 10^16, else with a signed exponent. -/
def layout (digits : List Char) (exponent : Int) : List Char :=
  if -5 ≤ exponent ∧ exponent ≤ 15 then
    if exponent < 0 then
      '0' :: '.' :: List.replicate (-exponent - 1).toNat '0' ++ digits
    else
      let whole := exponent.toNat + 1
      let filled := digits ++ List.replicate (whole - digits.length) '0'
      let fraction := match filled.drop whole with
        | [] => ['0']
        | rest => rest
      filled.take whole ++ '.' :: fraction
  else
    let fraction := match digits.drop 1 with
      | [] => []
      | rest => '.' :: rest
    digits.take 1 ++ fraction ++ 'e' :: (if exponent < 0 then '-' else '+') ::
      Nat.toDigits 10 exponent.natAbs

/-- The display of a number: the fewest digits that read back. -/
def text (number : Double) : String :=
  let unsigned :=
    if number.size.mantissa = 0 then ['0', '.', '0']
    else
      let (digits, power) := number.size.shortest
      let written := Nat.toDigits 10 digits
      layout (trimmed written) (power + written.length - 1)
  String.ofList (if number.negative then '-' :: unsigned else unsigned)

end Double

end Bearer.Number
