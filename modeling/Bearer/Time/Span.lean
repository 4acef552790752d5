/-!
# Spans of time

A span is a number of nanoseconds, negative for one that leads back. Its length in milliseconds is
below 2^63: a longer one is no span. `ofMilliseconds?_eq_some_iff` and `ofSeconds?_eq_some_iff` give
the limits.
-/

namespace Bearer

/-- A length of time with a direction. -/
structure Span where
  /-- The nanoseconds in it. -/
  nanoseconds : Int
deriving DecidableEq, Repr

namespace Span

/-- The nanoseconds in a second. -/
def second : Int := 1000000000

/-- The nanoseconds in a millisecond. -/
def millisecond : Int := 1000000

/-- The greatest number of milliseconds in a span. -/
def greatestMilliseconds : Int := 9223372036854775807

/-- The greatest number of whole seconds in a span. -/
def greatestSeconds : Int := 9223372036854775

/-- A span of milliseconds, unless it is too long. -/
def ofMilliseconds? (count : Int) : Option Span :=
  if -greatestMilliseconds ≤ count ∧ count ≤ greatestMilliseconds then
    some ⟨count * millisecond⟩
  else none

/-- A span of whole seconds, unless it is too long. -/
def ofSeconds? (count : Int) : Option Span :=
  if -greatestSeconds ≤ count ∧ count ≤ greatestSeconds then some ⟨count * second⟩ else none

/-- The whole seconds in a span, toward zero. -/
def wholeSeconds (span : Span) : Int :=
  span.nanoseconds.tdiv second

/-- The whole milliseconds in a span, toward zero. -/
def wholeMilliseconds (span : Span) : Int :=
  span.nanoseconds.tdiv millisecond

/-- Milliseconds are a span exactly within the limit. -/
theorem ofMilliseconds?_eq_some_iff {count : Int} {span : Span} :
    ofMilliseconds? count = some span ↔
      (-greatestMilliseconds ≤ count ∧ count ≤ greatestMilliseconds) ∧
        span.nanoseconds = count * millisecond := by
  obtain ⟨nanoseconds⟩ := span
  unfold ofMilliseconds?
  split
  · rename_i within
    simp [within, eq_comm]
  · rename_i beyond
    simp [beyond]

/-- Whole seconds are a span exactly within the limit. -/
theorem ofSeconds?_eq_some_iff {count : Int} {span : Span} :
    ofSeconds? count = some span ↔
      (-greatestSeconds ≤ count ∧ count ≤ greatestSeconds) ∧ span.nanoseconds = count * second := by
  obtain ⟨nanoseconds⟩ := span
  unfold ofSeconds?
  split
  · rename_i within
    simp [within, eq_comm]
  · rename_i beyond
    simp [beyond]

theorem wholeMilliseconds_ofMilliseconds? {count : Int} {span : Span}
    (made : ofMilliseconds? count = some span) : span.wholeMilliseconds = count := by
  rw [wholeMilliseconds, (ofMilliseconds?_eq_some_iff.1 made).2]
  exact Int.mul_tdiv_cancel _ (by decide)

theorem wholeSeconds_ofSeconds? {count : Int} {span : Span} (made : ofSeconds? count = some span) :
    span.wholeSeconds = count := by
  rw [wholeSeconds, (ofSeconds?_eq_some_iff.1 made).2]
  exact Int.mul_tdiv_cancel _ (by decide)

end Span

end Bearer
