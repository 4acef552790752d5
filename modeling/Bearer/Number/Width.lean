/-!
# Numbers of a fixed width

The bounds of natural numbers and integers that fit into 32 or 64 bits. `two_signedBound64` says
that half of the numbers of 64 bits are taken for negative ones.
-/

namespace Bearer.Number

/-- One more than the greatest natural number of 32 bits. -/
def bound32 : Nat := 4294967296

/-- One more than the greatest natural number of 64 bits. -/
def bound64 : Nat := 18446744073709551616

/-- One more than the greatest integer of 64 bits, and the size of the least one. -/
def signedBound64 : Nat := 9223372036854775808

/-- Integers of 64 bits are as many as natural numbers of 64 bits. -/
theorem two_signedBound64 : 2 * signedBound64 = bound64 := rfl

end Bearer.Number
