/-!
# Binary numbers of double precision

A non-negative number of the double format is `mantissa · 2 ^ exponent` with fewer than 54 bits in
the mantissa. Every operation is the exact one followed by `nearest`, which rounds a ratio of
natural numbers and sends a tie to the even mantissa. All of it is arithmetic on natural numbers.
-/

namespace Bearer.Number

/-- A finite non-negative number of the double format. -/
structure Binary64 where
  /-- The significant bits, fewer than 54. -/
  mantissa : Nat
  /-- The power of two that the mantissa counts. -/
  exponent : Int
deriving DecidableEq, Repr

namespace Binary64

/-- The exponent of the smallest numbers. -/
def leastExponent : Int := -1074

/-- The exponent of the largest numbers. -/
def greatestExponent : Int := 971

/-- The least mantissa of 53 bits. -/
def leastNormal : Nat := 4503599627370496

/-- Zero. -/
def zero : Binary64 := ⟨0, leastExponent⟩

/-- A quotient rounded to the nearest natural number, a tie to the even one. -/
def roundHalfEven (numerator denominator : Nat) : Nat :=
  let quotient := numerator / denominator
  let twice := 2 * (numerator % denominator)
  if twice < denominator then quotient
  else if denominator < twice then quotient + 1
  else quotient + quotient % 2

/-- A ratio divided by a power of two. -/
def shifted (numerator denominator : Nat) (exponent : Int) : Nat × Nat :=
  if 0 ≤ exponent then (numerator, denominator <<< exponent.toNat)
  else (numerator <<< (-exponent).toNat, denominator)

/-- The number nearest to a ratio; none beyond the largest number. -/
def nearest (numerator denominator : Nat) : Option Binary64 :=
  if numerator = 0 then some zero
  else
    let guess : Int := (numerator.log2 : Int) - denominator.log2 - 52
    let (high, low) := shifted numerator denominator guess
    let fitting := if high < low * leastNormal then guess - 1 else guess
    let exponent := max fitting leastExponent
    let (high, low) := shifted numerator denominator exponent
    let mantissa := roundHalfEven high low
    let rounded : Binary64 :=
      if mantissa = 2 * leastNormal then ⟨leastNormal, exponent + 1⟩ else ⟨mantissa, exponent⟩
    if greatestExponent < rounded.exponent then none else some rounded

/-- The value as a ratio of natural numbers. -/
def ratio (number : Binary64) : Nat × Nat :=
  if 0 ≤ number.exponent then (number.mantissa <<< number.exponent.toNat, 1)
  else (number.mantissa, 1 <<< (-number.exponent).toNat)

/-- The rounded product. -/
def times (left right : Binary64) : Option Binary64 :=
  nearest (left.ratio.1 * right.ratio.1) (left.ratio.2 * right.ratio.2)

/-- The rounded quotient; the divisor is not zero. -/
def dividedBy (left right : Binary64) : Option Binary64 :=
  nearest (left.ratio.1 * right.ratio.2) (left.ratio.2 * right.ratio.1)

/-- The number nearest to a power of ten. -/
def powerOfTen (exponent : Nat) : Option Binary64 :=
  nearest (Nat.pow 10 exponent) 1

/-- Division by a power of ten, by 10^308 at a time. A significand of 64 bits is zero after three
such steps. -/
def downscale (exponent : Nat) : Nat → Binary64 → Option Binary64
  | 0, _ => some zero
  | steps + 1, number =>
    if exponent ≤ 308 then do number.dividedBy (← powerOfTen exponent)
    else if number.mantissa = 0 then some number
    else do downscale (exponent - 308) steps (← number.dividedBy (← powerOfTen 308))

/-- A significand of 64 bits times a power of ten, each step rounded; none if it is too large. -/
def ofDecimal (significand : Nat) (exponent : Int) : Option Binary64 := do
  let number ← nearest significand 1
  if exponent < 0 then downscale exponent.natAbs 4 number
  else if number.mantissa = 0 then number
  else if 308 < exponent then none
  else number.times (← powerOfTen exponent.toNat)

end Binary64

end Bearer.Number
