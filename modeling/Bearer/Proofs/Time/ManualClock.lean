import Bearer.Time.ManualClock
import Mathlib.Algebra.Ring.Int.Defs

/-!
# What a moved clock shows

Only the sum of all moves matters to the counter, and only modulo 2^64: `toInt_moved`. So a clock
that was moved out of the calendar, or around the whole range of the counter, shows the exact
instant as soon as the sum lies within the calendar, in whatever order it was moved: `shows_sum`.
-/

namespace Bearer

namespace Instant

/-- The calendar has a moment so many milliseconds from the epoch. -/
def InCalendar (count : Int) : Prop :=
  -8334601228800000 ≤ count ∧ count ≤ 8210266876799999

instance (count : Int) : Decidable (InCalendar count) :=
  inferInstanceAs (Decidable (_ ∧ _))

theorem exists_ofMilliseconds?_iff {count : Int} :
    (∃ instant, ofMilliseconds? count = some instant) ↔ InCalendar count := by
  unfold ofMilliseconds? ofNanoseconds? InCalendar Span.millisecond
  split
  · rename_i within
    exact ⟨fun _ => ⟨by omega, by omega⟩, fun _ => ⟨_, rfl⟩⟩
  · rename_i outside
    constructor
    · rintro ⟨_, made⟩
      cases made
    · intro within
      exact absurd ⟨by omega, by omega⟩ outside

end Instant

namespace ManualClock

/-- The clock that was set to an instant and moved by one span after another. -/
def moved (start : Instant) (spans : List Span) : ManualClock :=
  spans.foldl advance (startingAt start)

/-- The milliseconds that a clock would count without a limit. The start is rounded down, and each
move toward zero. -/
def exactCount (start : Instant) (spans : List Span) : Int :=
  start.milliseconds + (spans.map Span.wholeMilliseconds).sum

private theorem toInt_advanced (clock : ManualClock) (spans : List Span) :
    (spans.foldl advance clock).counter.toInt =
      (clock.counter.toInt + (spans.map Span.wholeMilliseconds).sum).bmod Number.bound64 := by
  induction spans generalizing clock with
  | nil =>
      rw [List.map_nil, List.sum_nil, Int.add_zero]
      exact (Int64.toInt_bmod clock.counter).symm
  | cons span spans ih =>
      rw [List.foldl_cons, ih, toInt_advance, Int.bmod_add_bmod, List.map_cons, List.sum_cons,
        Int.add_assoc]

/-- The counter is the exact count modulo 2^64. -/
theorem toInt_moved (start : Instant) (spans : List Span) :
    (moved start spans).counter.toInt = (exactCount start spans).bmod Number.bound64 := by
  rw [moved, toInt_advanced, startingAt, Int64.toInt_ofInt]
  exact Int.bmod_add_bmod

private theorem bmod_of_inCalendar {count : Int} (within : Instant.InCalendar count) :
    count.bmod Number.bound64 = count := by
  obtain ⟨begun, notEnded⟩ := within
  apply Int.bmod_eq_of_le <;> unfold Number.bound64 <;> omega

theorem now_of_inCalendar {clock : ManualClock}
    (within : Instant.InCalendar clock.counter.toInt) :
    clock.now.nanoseconds = clock.counter.toInt * Span.millisecond := by
  obtain ⟨instant, made⟩ := Instant.exists_ofMilliseconds?_iff.2 within
  rw [now, made]
  exact Instant.ofNanoseconds?_eq_some_iff.1 made

theorem now_of_not_inCalendar {clock : ManualClock}
    (outside : ¬ Instant.InCalendar clock.counter.toInt) : clock.now = .epoch := by
  cases made : Instant.ofMilliseconds? clock.counter.toInt with
  | none =>
      rw [now, made]
      rfl
  | some instant => exact absurd (Instant.exists_ofMilliseconds?_iff.1 ⟨instant, made⟩) outside

private theorem advance_advance (clock : ManualClock) (first second : Span) :
    (clock.advance first).advance second = (clock.advance second).advance first := by
  rw [advance, advance, advance, advance, Int64.add_assoc, Int64.add_comm (.ofInt _),
    ← Int64.add_assoc]

theorem moved_perm {start : Instant} {spans others : List Span} (same : spans.Perm others) :
    moved start others = moved start spans :=
  (same.foldl_eq' (fun first _ second _ clock => advance_advance clock first second) _).symm

/-- A clock that was moved counts the sum of its start and of all moves, modulo 2^64. It shows that
sum exactly wherever it lies within the calendar, whatever the clock showed on the way; it shows the
epoch if the counter lies outside; and the order of the moves does not matter. -/
theorem shows_sum (start : Instant) (spans : List Span) :
    (moved start spans).counter.toInt = (exactCount start spans).bmod Number.bound64 ∧
    (Instant.InCalendar (exactCount start spans) →
      (moved start spans).now.nanoseconds = exactCount start spans * Span.millisecond) ∧
    (¬ Instant.InCalendar (moved start spans).counter.toInt → (moved start spans).now = .epoch) ∧
    ∀ others, spans.Perm others → moved start others = moved start spans := by
  refine ⟨toInt_moved start spans, fun within => ?_, now_of_not_inCalendar,
    fun others => moved_perm⟩
  have counted : (moved start spans).counter.toInt = exactCount start spans := by
    rw [toInt_moved, bmod_of_inCalendar within]
  rw [← counted] at within ⊢
  exact now_of_inCalendar within

/-- The longest span. -/
def longest : Span :=
  ⟨Span.greatestMilliseconds * Span.millisecond⟩

/-- The longest span back. -/
def longestBack : Span :=
  ⟨-longest.nanoseconds⟩

/-- A clock set to a nanosecond before the epoch counts from the millisecond before. Two of the
longest spans take it around the range of the counter and two back return it; on the way it shows
the epoch, and parts of a millisecond are dropped from each move. -/
theorem shows_sum_wrapped :
    (moved ⟨-1, by decide, by decide⟩
        [longest, longest, longestBack, ⟨1999999⟩, longestBack, ⟨-2500000⟩]).now.nanoseconds =
      -2000000 ∧
    (moved ⟨-1, by decide, by decide⟩ [longest]).now = .epoch ∧
    moved .epoch [⟨-2500000⟩, longest] = moved .epoch [longest, ⟨-2500000⟩] := by
  refine ⟨(shows_sum _ _).2.1 ?_, (shows_sum _ _).2.2.1 ?_, (shows_sum _ _).2.2.2 _ ?_⟩
  · decide
  · rw [(shows_sum _ _).1]
    decide
  · exact List.Perm.swap _ _ _

end ManualClock

end Bearer
