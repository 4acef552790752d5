import Bearer.Time.ManualClock

/-!
# Clocks

Operations look at a clock: the one of the system, which may show any instant, or one that is moved
by hand and counts milliseconds.
-/

namespace Bearer

/-- A clock that operations look at. -/
inductive Clock where
  /-- The clock of the system, at the instant that it shows. -/
  | system (shown : Instant)
  /-- A clock that is moved by hand. -/
  | manual (clock : ManualClock)
deriving DecidableEq

namespace Clock

/-- What the clock shows. -/
def now : Clock → Instant
  | system shown => shown
  | manual clock => clock.now

/-- A clock to be moved by hand, set to an instant. -/
def startingAt (start : Instant) : Clock :=
  manual (.startingAt start)

/-- The clock moved by a span. The clock of the system is not moved by anyone. -/
def advance : Clock → Span → Clock
  | system shown, _ => system shown
  | manual clock, span => manual (clock.advance span)

end Clock

end Bearer
