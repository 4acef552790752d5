/-!
# Character classes as switch points

A class of characters is given by the code points at which membership changes, in increasing order:
the first one is the least member, the second the least later character outside, and so on.
`inside_cons_cons` reads a table as intervals.
-/

namespace Bearer.Text

/-- A class of characters, as the increasing code points at which membership changes. -/
structure CharClass where
  /-- The code points at which membership changes. -/
  switches : List Nat

namespace CharClass

/-- Membership after all switch points that are not above the code point. -/
def inside (point : Nat) : List Nat → Bool
  | [] => false
  | switch :: rest => if switch ≤ point then !inside point rest else false

/-- Whether a character belongs to the class. -/
def contains (set : CharClass) (character : Char) : Bool :=
  inside character.toNat set.switches

/-- The first interval decides, and beyond it the rest of the table. -/
theorem inside_cons_cons (point low high : Nat) (rest : List Nat) (ordered : low ≤ high) :
    inside point (low :: high :: rest) =
      ((decide (low ≤ point) && decide (point < high)) ||
        (decide (high ≤ point) && inside point rest)) := by
  by_cases above : high ≤ point
  · have notBelow : ¬point < high := by omega
    have low_le : low ≤ point := by omega
    simp [inside, above, notBelow, low_le]
  · have below : point < high := by omega
    by_cases low_le : low ≤ point <;> simp [inside, above, below, low_le]

end CharClass

end Bearer.Text
