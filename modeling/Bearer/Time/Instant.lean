import Bearer.Time.Span

/-!
# Instants

An instant is a number of nanoseconds since the epoch within the calendar, which spans the years
-262143 to 262142. What would lie outside is no instant: `plus?_eq_some_iff` says when a sum is one.
-/

namespace Bearer

/-- A moment within the calendar. -/
structure Instant where
  /-- The nanoseconds since the epoch. -/
  nanoseconds : Int
  /-- The calendar has begun. -/
  begun : -8334601228800000000000 ≤ nanoseconds
  /-- The calendar has not ended. -/
  notEnded : nanoseconds < 8210266876800000000000
deriving DecidableEq

namespace Instant

@[ext]
theorem ext {left right : Instant} (same : left.nanoseconds = right.nanoseconds) :
    left = right := by
  cases left
  cases right
  simp_all

/-- The moment from which others are counted. -/
def epoch : Instant :=
  ⟨0, by decide, by decide⟩

/-- The instant so many nanoseconds after the epoch. -/
def ofNanoseconds? (count : Int) : Option Instant :=
  if within : -8334601228800000000000 ≤ count ∧ count < 8210266876800000000000 then
    some ⟨count, within.1, within.2⟩
  else none

theorem ofNanoseconds?_eq_some_iff {count : Int} {instant : Instant} :
    ofNanoseconds? count = some instant ↔ instant.nanoseconds = count := by
  obtain ⟨nanoseconds, begun, notEnded⟩ := instant
  unfold ofNanoseconds?
  split
  · simp [eq_comm]
  · rename_i outside
    constructor
    · simp
    · rintro rfl
      exact absurd ⟨begun, notEnded⟩ outside

/-- The instant so many milliseconds after the epoch. -/
def ofMilliseconds? (count : Int) : Option Instant :=
  ofNanoseconds? (count * Span.millisecond)

/-- The instant so many seconds after the epoch. -/
def ofSeconds? (count : Int) : Option Instant :=
  ofNanoseconds? (count * Span.second)

/-- The whole milliseconds since the epoch, rounded down. -/
def milliseconds (instant : Instant) : Int :=
  instant.nanoseconds / Span.millisecond

/-- The whole seconds since the epoch, rounded down. -/
def seconds (instant : Instant) : Int :=
  instant.nanoseconds / Span.second

/-- An instant moved by a span, if it stays within the calendar. -/
def plus? (instant : Instant) (span : Span) : Option Instant :=
  ofNanoseconds? (instant.nanoseconds + span.nanoseconds)

/-- A moved instant lies the span away. -/
theorem plus?_eq_some_iff {instant later : Instant} {span : Span} :
    instant.plus? span = some later ↔
      later.nanoseconds = instant.nanoseconds + span.nanoseconds :=
  ofNanoseconds?_eq_some_iff

/-- The last whole second that is not after an instant. -/
def wholeSecond (instant : Instant) : Instant where
  nanoseconds := instant.seconds * Span.second
  begun := by
    have := instant.begun
    simp only [seconds, Span.second]
    omega
  notEnded := by
    have := instant.notEnded
    simp only [seconds, Span.second]
    omega

@[simp]
theorem seconds_wholeSecond (instant : Instant) :
    instant.wholeSecond.seconds = instant.seconds := by
  simp [seconds, wholeSecond, Span.second]

/-- Earlier instants come first. -/
instance : LE Instant := ⟨fun left right => left.nanoseconds ≤ right.nanoseconds⟩

/-- An instant is before another one if it is not at or after it. -/
instance : LT Instant := ⟨fun left right => left.nanoseconds < right.nanoseconds⟩

/-- The order of instants is decided by their nanoseconds. -/
instance (left right : Instant) : Decidable (left ≤ right) :=
  inferInstanceAs (Decidable (left.nanoseconds ≤ right.nanoseconds))

/-- The strict order of instants is decided by their nanoseconds. -/
instance (left right : Instant) : Decidable (left < right) :=
  inferInstanceAs (Decidable (left.nanoseconds < right.nanoseconds))

theorem le_def {left right : Instant} : left ≤ right ↔ left.nanoseconds ≤ right.nanoseconds :=
  Iff.rfl

theorem lt_def {left right : Instant} : left < right ↔ left.nanoseconds < right.nanoseconds :=
  Iff.rfl

end Instant

end Bearer
