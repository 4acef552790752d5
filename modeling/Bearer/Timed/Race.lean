import Bearer.Timed.Basic

/-!
# Two computations at once

Two computations share a state. Each acts when its own waiting is over; where both are ready, they
act one after the other, and the order changes with every moment at which one of them wakes: at
first the left one leads. `beside` is the single computation that does what the two do together;
`beside_act` and `beside_finish` say that the left one goes ahead while it need not wait.
-/

namespace Bearer.Timed

variable {σ α β : Type}

/-- Which of two computations acts first where both are ready. -/
inductive Lead where
  /-- The left one. -/
  | left
  /-- The right one. -/
  | right
deriving DecidableEq, Repr

/-- Who leads at the next moment. -/
def Lead.next : Lead → Lead
  | left => right
  | right => left

/-- The right computation acts while the left one waits for some milliseconds. What the left one
does then is given as a function of who leads, and of how long the right one still waits. -/
def meanwhile (resume : Lead → Nat → Timed σ β → Timed σ (α × β)) (left : Timed σ α) :
    Lead → Nat → Timed σ β → Timed σ (α × β)
  | _, milliseconds, finish value => wait milliseconds (left.mapped fun first => (first, value))
  | _, _, overflow => overflow
  | lead, milliseconds, act change next =>
    act change fun state => meanwhile resume left lead milliseconds (next state)
  | lead, milliseconds, pause others next =>
    if others = 0 then meanwhile resume left lead milliseconds next
    else if milliseconds = 0 then resume lead others next
    else if others < milliseconds then
      pause others (meanwhile resume left lead.next (milliseconds - others) next)
    else
      pause milliseconds
        (if milliseconds = others ∧ lead.next = .right then meanwhile resume left lead.next 0 next
        else resume lead.next (others - milliseconds) next)
  | _, milliseconds, never => wait milliseconds (left.bind fun _ => never)

/-- Two computations at once, of which the right one waits for some milliseconds first. -/
def besideAfter : Timed σ α → Lead → Nat → Timed σ β → Timed σ (α × β)
  | finish value, _, others, right => wait others (right.mapped fun second => (value, second))
  | overflow, _, _, _ => overflow
  | act change next, lead, others, right =>
    act change fun state => besideAfter (next state) lead others right
  | pause milliseconds left, lead, others, right =>
    if milliseconds = 0 then besideAfter left lead others right
    else if others = 0 then meanwhile (besideAfter left) left lead milliseconds right
    else if milliseconds < others then
      pause milliseconds (besideAfter left lead.next (others - milliseconds) right)
    else
      pause others
        (if milliseconds = others ∧ lead.next = .left then besideAfter left lead.next 0 right
        else meanwhile (besideAfter left) left lead.next (milliseconds - others) right)
  | never, _, others, right => wait others (right.bind fun _ => never)

/-- Two computations at once. -/
def beside (left : Timed σ α) (right : Timed σ β) : Timed σ (α × β) :=
  besideAfter left .left 0 right

/-- Beside a computation that is over, the other one runs as it is. -/
@[simp]
theorem beside_finish (value : α) (right : Timed σ β) :
    (finish value).beside right = right.mapped fun second => (value, second) := rfl

/-- The left computation acts first. -/
@[simp]
theorem beside_act (change : σ → σ) (next : σ → Timed σ α) (right : Timed σ β) :
    (act change next).beside right = act change fun state => (next state).beside right := rfl

end Bearer.Timed
