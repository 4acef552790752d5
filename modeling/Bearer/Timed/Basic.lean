/-!
# Computations in time

A timed computation acts on a state at some moments and waits between them. `Timed.run` carries it
out from a moment on; `run_bind` says that one after the other runs as the two runs in sequence.
-/

namespace Bearer

/-- A computation that acts on a state at some moments and waits between them. -/
inductive Timed (σ α : Type) where
  /-- The computation is over. -/
  | finish (value : α)
  /-- The computation breaks off: a moment lies beyond the calendar. -/
  | overflow
  /-- The state changes. What follows may depend on the state before. -/
  | act (change : σ → σ) (next : σ → Timed σ α)
  /-- Some milliseconds go by. -/
  | pause (milliseconds : Nat) (next : Timed σ α)
  /-- Nothing happens any more. -/
  | never

/-- How a computation ends. -/
inductive Ending (α : Type) where
  /-- With a value. -/
  | finished (value : α)
  /-- Beyond the calendar. -/
  | overflowed
  /-- Not at all. -/
  | hung
deriving DecidableEq, Repr

/-- What a run comes to. -/
structure Outcome (σ α : Type) where
  /-- How the computation ends. -/
  ending : Ending α
  /-- The moment at which it ends. -/
  time : Nat
  /-- The state that it leaves. -/
  state : σ

namespace Timed

variable {σ α β γ : Type}

/-- One computation, then another one that depends on its value. -/
def bind : Timed σ α → (α → Timed σ β) → Timed σ β
  | finish value, next => next value
  | overflow, _ => overflow
  | act change rest, next => act change fun state => (rest state).bind next
  | pause milliseconds rest, next => pause milliseconds (rest.bind next)
  | never, _ => never

instance : Monad (Timed σ) where
  pure := finish
  bind := bind

/-- The computation with its value changed. -/
def mapped (f : α → β) (timed : Timed σ α) : Timed σ β :=
  timed.bind fun value => finish (f value)

theorem bind_assoc (timed : Timed σ α) (second : α → Timed σ β) (third : β → Timed σ γ) :
    (timed.bind second).bind third = timed.bind fun value => (second value).bind third := by
  induction timed with
  | finish value => rfl
  | overflow => rfl
  | act change next ih => exact congrArg (act change) (funext ih)
  | pause milliseconds next ih => exact congrArg (pause milliseconds) ih
  | never => rfl

theorem mapped_bind (timed : Timed σ α) (f : α → β) (next : β → Timed σ γ) :
    (timed.mapped f).bind next = timed.bind fun value => next (f value) :=
  bind_assoc timed _ next

theorem mapped_mapped (timed : Timed σ α) (f : α → β) (g : β → γ) :
    (timed.mapped f).mapped g = timed.mapped fun value => g (f value) :=
  bind_assoc timed _ _

theorem mapped_self (timed : Timed σ α) : (timed.mapped fun value => value) = timed := by
  induction timed with
  | finish value => rfl
  | overflow => rfl
  | act change next ih => exact congrArg (act change) (funext ih)
  | pause milliseconds next ih => exact congrArg (pause milliseconds) ih
  | never => rfl

theorem mapped_congr {f g : α → β} (same : ∀ value, f value = g value) (timed : Timed σ α) :
    timed.mapped f = timed.mapped g := by
  rw [funext same]

/-- Waits for some milliseconds. To wait for none is not to wait. -/
def wait (milliseconds : Nat) (next : Timed σ α) : Timed σ α :=
  if milliseconds = 0 then next else pause milliseconds next

/-- What follows a waiting computation follows after the wait. -/
theorem bind_wait (milliseconds : Nat) (rest : Timed σ α) (next : α → Timed σ β) :
    (wait milliseconds rest).bind next = wait milliseconds (rest.bind next) := by
  unfold wait
  split <;> rfl

/-- Carries a computation out, from a moment and a state on. -/
def run : Timed σ α → Nat → σ → Outcome σ α
  | finish value, now, state => ⟨.finished value, now, state⟩
  | overflow, now, state => ⟨.overflowed, now, state⟩
  | act change next, now, state => (next state).run now (change state)
  | pause milliseconds next, now, state => next.run (now + milliseconds) state
  | never, now, state => ⟨.hung, now, state⟩

@[simp]
theorem run_wait (milliseconds : Nat) (next : Timed σ α) (now : Nat) (state : σ) :
    (wait milliseconds next).run now state = next.run (now + milliseconds) state := by
  unfold wait
  split
  · simp [*]
  · rfl

/-- What follows a run. -/
def resume (outcome : Outcome σ α) (next : α → Timed σ β) : Outcome σ β :=
  match outcome.ending with
  | .finished value => (next value).run outcome.time outcome.state
  | .overflowed => ⟨.overflowed, outcome.time, outcome.state⟩
  | .hung => ⟨.hung, outcome.time, outcome.state⟩

/-- One computation after the other runs as the two runs in sequence. -/
theorem run_bind (timed : Timed σ α) (next : α → Timed σ β) (now : Nat) (state : σ) :
    (timed.bind next).run now state = resume (timed.run now state) next := by
  induction timed generalizing now state with
  | finish value => rfl
  | overflow => rfl
  | act change rest ih => exact ih state now (change state)
  | pause milliseconds rest ih => exact ih (now + milliseconds) state
  | never => rfl

theorem le_time_run (timed : Timed σ α) (now : Nat) (state : σ) :
    now ≤ (timed.run now state).time := by
  induction timed generalizing now state with
  | finish value => exact Nat.le_refl _
  | overflow => exact Nat.le_refl _
  | act change next ih => exact ih state now (change state)
  | pause milliseconds next ih =>
      exact Nat.le_trans (Nat.le_add_right _ _) (ih (now + milliseconds) state)
  | never => exact Nat.le_refl _

end Timed

end Bearer
