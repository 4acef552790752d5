import Bearer.Timed.Context

/-!
# Limits inside limits

A part of a computation may be limited on its own, by a context whose moments are counted from the
beginning of the whole. The part has to know when it begins: `bindAt` tells it, and `limitedFrom`
makes use of it.
-/

namespace Bearer.Timed

variable {σ α β : Type}

/-- One computation that begins at a moment, then another one that depends on its value and on the
moment at which it is over. -/
def bindAt : Nat → Timed σ α → (Nat → α → Timed σ β) → Timed σ β
  | now, finish value, next => next now value
  | _, overflow, _ => overflow
  | now, act change rest, next => act change fun state => bindAt now (rest state) next
  | now, pause milliseconds rest, next =>
    pause milliseconds (bindAt (now + milliseconds) rest next)
  | _, never, _ => never

/-- A computation inside a context, from a moment on. Nothing is begun if it was withdrawn by
then. -/
def limitedFrom (context : Context) (now : Nat) (timed : Timed σ α) :
    Timed σ (Except Interruption α) :=
  if context.isCanceledBy now then finish (.error .canceled) else timed.within context now

theorem limited_eq_limitedFrom (context : Context) (timed : Timed σ α) :
    timed.limited context = timed.limitedFrom context 0 := rfl

end Bearer.Timed
