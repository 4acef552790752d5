import Bearer.Session.Memory

/-!
# Uses of a store

A store is used by one call after the other, each at the instant that the clock shows then.
`Use.course` and `Visit.course` carry such calls out on any store, so that stores can be compared by
what they reply. `Visit.course_concat` takes the last call off a course.
-/

namespace Bearer

/-- Takes a step for each item, one after the other, and collects what comes out. -/
def inTurn {ι ω σ : Type} (step : ι → σ → ω × σ) : List ι → σ → List ω × σ
  | [], state => ([], state)
  | item :: later, state =>
    let next := step item state
    let rest := inTurn step later next.2
    (next.1 :: rest.1, rest.2)

theorem inTurn_concat {ι ω σ : Type} (step : ι → σ → ω × σ) (earlier : List ι) (last : ι)
    (state : σ) :
    inTurn step (earlier ++ [last]) state =
      ((inTurn step earlier state).1 ++ [(step last (inTurn step earlier state).2).1],
        (step last (inTurn step earlier state).2).2) := by
  induction earlier generalizing state with
  | nil => rfl
  | cons item earlier ih =>
      rw [List.cons_append, inTurn]
      rw [ih]
      rfl

namespace Session

/-- What a store is used for. -/
inductive Use where
  /-- Keep a payload under a key for a time. -/
  | set (key : String) (payload : Payload) (lifetime : Span)
  /-- Give the payload under a key. -/
  | get (key : String)
  /-- Remove a key and give its payload. -/
  | take (key : String)
  /-- Remove a key and say whether it was in use. -/
  | delete (key : String)
deriving DecidableEq

/-- What a use comes to. -/
inductive Use.Reply where
  /-- To a write; none beyond the calendar. -/
  | written (outcome : Option (Except Failure Unit))
  /-- To a question for a payload, whether or not it is removed. -/
  | found (outcome : Except Failure (Option Payload))
  /-- To a removal. -/
  | removed (outcome : Except Failure Bool)

/-- The reply of a store to a use at an instant, and the store after it. -/
def Use.on {σ : Type} [Store σ] (now : Instant) : Use → σ → Use.Reply × σ
  | set key payload lifetime, store => (Store.set store now key payload lifetime).map .written id
  | get key, store => (Store.get store now key).map .found id
  | take key, store => (Store.take store now key).map .found id
  | delete key, store => (Store.delete store now key).map .removed id

/-- The replies of a store to uses in turn, and the store after them. -/
def Use.course {σ : Type} [Store σ] : List (Instant × Use) → σ → List Use.Reply × σ :=
  inTurn fun timed => timed.2.on timed.1

/-- A store that tells how many sessions it has. -/
class Counted (σ : Type) extends Store σ where
  /-- The number of sessions at an instant. -/
  count : σ → Instant → Nat

/-- What a visitor of a store does. -/
inductive Visit where
  /-- To use the store. -/
  | use (use : Use)
  /-- To count its sessions. -/
  | count
deriving DecidableEq

/-- What a visitor hears. -/
inductive Visit.Reply where
  /-- The reply to a use. -/
  | used (reply : Use.Reply)
  /-- The number of sessions. -/
  | counted (number : Nat)

/-- The reply of a store to a visitor at an instant, and the store after it. -/
def Visit.on {σ : Type} [Counted σ] (now : Instant) : Visit → σ → Visit.Reply × σ
  | use wanted, store => (wanted.on now store).map .used id
  | count, store => (.counted (Counted.count store now), store)

/-- The replies of a store to visitors in turn, and the store after them. -/
def Visit.course {σ : Type} [Counted σ] : List (Instant × Visit) → σ → List Visit.Reply × σ :=
  inTurn fun timed => timed.2.on timed.1

/-- The last visitor meets the store that the earlier ones left. -/
theorem Visit.course_concat {σ : Type} [Counted σ] (earlier : List (Instant × Visit))
    (last : Instant × Visit) (store : σ) :
    Visit.course (earlier ++ [last]) store =
      ((Visit.course earlier store).1 ++ [(last.2.on last.1 (Visit.course earlier store).2).1],
        (last.2.on last.1 (Visit.course earlier store).2).2) :=
  inTurn_concat _ earlier last store

/-- Memory counts the sessions that are live. -/
instance : Counted Memory where
  count := Memory.count

end Session

end Bearer
