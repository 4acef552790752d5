import Bearer.Number.Width
import Bearer.Time.Instant

/-!
# A clock that moves when it is told to

The clock counts milliseconds in 64 bits. Setting rounds down, moving rounds toward zero and wraps
around; outside the calendar the clock shows the epoch. `toInt_advance` says what moving does to
the counter.
-/

namespace Bearer

/-- A clock that stands still between moves. -/
structure ManualClock where
  /-- The milliseconds since the epoch. -/
  counter : Int64
deriving DecidableEq, Repr

namespace ManualClock

/-- A clock set to an instant. -/
def startingAt (start : Instant) : ManualClock :=
  ⟨Int64.ofInt start.milliseconds⟩

/-- The clock moved by a span. -/
def advance (clock : ManualClock) (span : Span) : ManualClock :=
  ⟨clock.counter + Int64.ofInt span.wholeMilliseconds⟩

/-- What the clock shows. -/
def now (clock : ManualClock) : Instant :=
  (Instant.ofMilliseconds? clock.counter.toInt).getD Instant.epoch

/-- Moving adds the milliseconds of the span, modulo 2^64. -/
theorem toInt_advance (clock : ManualClock) (span : Span) :
    (clock.advance span).counter.toInt =
      (clock.counter.toInt + span.wholeMilliseconds).bmod Number.bound64 := by
  rw [advance, Int64.toInt_add, Int64.toInt_ofInt]
  exact Int.add_bmod_bmod

end ManualClock

end Bearer
