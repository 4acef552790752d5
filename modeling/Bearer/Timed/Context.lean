import Bearer.Config.Basic
import Bearer.Timed.Basic
import Bearer.Token.Error

/-!
# Deadlines and cancellation

A context limits a computation: a caller may withdraw it at a moment, and it may have to end by a
moment. Only waiting can be interrupted. Work that is done at the deadline counts, and a withdrawal
comes before the work of the same moment. `limited_unlimited` says that a context without limits
changes nothing.
-/

namespace Bearer

/-- Why a computation is cut short. -/
inductive Interruption where
  /-- The caller withdrew it. -/
  | canceled
  /-- The deadline passed. -/
  | timedOut
deriving DecidableEq, Repr

/-- What an interruption means for a token operation. -/
def Interruption.error : Interruption → TokenError
  | canceled => .canceled
  | timedOut => .timedOut

/-- The limits of a computation that begins at the moment zero. -/
structure Context where
  /-- The moment of the withdrawal, zero if it came before the beginning. -/
  canceledAt : Option Nat
  /-- The moment by which the computation must end. -/
  deadline : Option Nat
deriving DecidableEq, Repr

namespace Context

/-- The context without limits. -/
def unlimited : Context :=
  ⟨none, none⟩

/-- The same context with a deadline in so many milliseconds, in place of any other. -/
def withTimeout (context : Context) (milliseconds : Nat) : Context :=
  { context with deadline := some milliseconds }

/-- A context that is withdrawn at a moment. -/
def canceled (moment : Nat) : Context :=
  ⟨some moment, none⟩

/-- The context that a configuration asks for. -/
def ofConfig (config : Config) : Context :=
  ⟨none, config.timeout⟩

/-- Whether the withdrawal has come by a moment. -/
def isCanceledBy (context : Context) (moment : Nat) : Bool :=
  context.canceledAt.any (· ≤ moment)

/-- Whether a moment is not after another one, which may never come. -/
def notAfter (moment : Nat) (limit : Option Nat) : Bool :=
  limit.all (moment ≤ ·)

/-- When and why waiting is interrupted, from a moment until another one that may never come. -/
def interruption? (context : Context) (now : Nat) (wake : Option Nat) :
    Option (Nat × Interruption) :=
  let withdrawal := context.canceledAt.filter fun moment =>
    notAfter moment context.deadline && notAfter moment wake
  let passing := context.deadline.filter fun moment => !(wake.any (· ≤ moment))
  match withdrawal, passing with
  | some moment, _ => some (max now moment, .canceled)
  | none, some moment => some (max now moment, .timedOut)
  | none, none => none

@[simp]
theorem interruption?_unlimited (now : Nat) (wake : Option Nat) :
    unlimited.interruption? now wake = none := rfl

end Context

namespace Timed

variable {σ α : Type}

/-- A computation inside a context, from a moment on. -/
def within (context : Context) : Nat → Timed σ α → Timed σ (Except Interruption α)
  | _, finish value => finish (.ok value)
  | _, overflow => overflow
  | now, act change next => act change fun state => (next state).within context now
  | now, pause milliseconds next =>
    match context.interruption? now (some (now + milliseconds)) with
    | some (moment, cause) => wait (moment - now) (finish (.error cause))
    | none => pause milliseconds (next.within context (now + milliseconds))
  | now, never =>
    match context.interruption? now none with
    | some (moment, cause) => wait (moment - now) (finish (.error cause))
    | none => never

/-- A computation inside a context. Nothing is begun if it was withdrawn before. -/
def limited (context : Context) (timed : Timed σ α) : Timed σ (Except Interruption α) :=
  if context.isCanceledBy 0 then finish (.error .canceled) else timed.within context 0

/-- Without limits a computation runs as it is. -/
theorem limited_unlimited (timed : Timed σ α) :
    timed.limited Context.unlimited = timed.mapped Except.ok := by
  have inside : ∀ now, timed.within Context.unlimited now = timed.mapped Except.ok := by
    induction timed with
    | finish value => intro now; rfl
    | overflow => intro now; rfl
    | act change next ih =>
        intro now
        exact congrArg (act change) (funext fun state => ih state now)
    | pause milliseconds next ih =>
        intro now
        exact congrArg (pause milliseconds) (ih (now + milliseconds))
    | never => intro now; rfl
  exact inside 0

end Timed

end Bearer
