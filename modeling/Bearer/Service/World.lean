import Bearer.Service.LogIn
import Bearer.Timed.Context
import Bearer.Time.Clock

/-!
# Operations among collaborators

A world holds what operations act on: a clock, a session store, two directories, and a record of the
calls and of what was logged. A conduct says how the collaborators behave: how long they take and
which requests they refuse. They may behave differently at each request. `Operation.timedBy` turns
an operation into a computation on such a world; `timedBy_bind` says that it keeps the order of
operations.
-/

namespace Bearer

/-- A request that was made. -/
structure Call where
  /-- What was asked. -/
  request : Request
  /-- Whether the collaborator did it and replied. -/
  done : Bool
deriving DecidableEq

/-- What operations act on. -/
structure World (σ : Type) where
  /-- The clock, which stands while an operation goes on. -/
  clock : Clock
  /-- The session store. -/
  store : σ
  /-- The accounts of users. -/
  users : Directory
  /-- The accounts of musicians. -/
  musicians : Directory
  /-- The requests in the order in which they were made. -/
  calls : List Call
  /-- What was logged, in order. -/
  log : List Event

namespace World

variable {σ : Type}

/-- The world with one more entry in the log. -/
def noted (world : World σ) (event : Event) : World σ :=
  { world with log := world.log ++ [event] }

/-- The world with one more call, which is not done. -/
def begun (world : World σ) (request : Request) : World σ :=
  { world with calls := world.calls ++ [⟨request, false⟩] }

/-- The world with a call done. -/
def settled (world : World σ) (index : Nat) : World σ :=
  { world with calls := world.calls.modify index fun call => { call with done := true } }

/-- The directory at a place. -/
def directory (world : World σ) : Place → Directory
  | .users => world.users
  | .musicians => world.musicians

end World

/-- How collaborators check passwords, how long they take and what they refuse. -/
structure Conduct where
  /-- How passwords are checked. -/
  comparator : Password.Comparator
  /-- How long a store call waits before it acts. -/
  storeBefore : Nat
  /-- How long a store call waits after it acted. -/
  storeAfter : Nat
  /-- The failure of calls to write. -/
  setFailure : Option Session.Failure
  /-- The failure of calls to take. -/
  takeFailure : Option Session.Failure
  /-- The failure of calls to delete. -/
  deleteFailure : Option Session.Failure
  /-- How long a look-up takes. -/
  findBefore : Nat
  /-- The outage of the users' directory. -/
  usersOutage : Option Directory.Outage
  /-- The outage of the musicians' directory. -/
  musiciansOutage : Option Directory.Outage
  /-- How long a password check takes. -/
  compareBefore : Nat

namespace Conduct

/-- Collaborators that take no time and refuse nothing. -/
def prompt (comparator : Password.Comparator) : Conduct :=
  { comparator, storeBefore := 0, storeAfter := 0, setFailure := none, takeFailure := none
    deleteFailure := none, findBefore := 0, usersOutage := none, musiciansOutage := none
    compareBefore := 0 }

/-- How long a request waits before it is served. -/
def before (conduct : Conduct) : Request → Nat
  | .set .. => conduct.storeBefore
  | .take _ => conduct.storeBefore
  | .delete _ => conduct.storeBefore
  | .find .. => conduct.findBefore
  | .compare .. => conduct.compareBefore

/-- How long a request waits after it was served. -/
def after (conduct : Conduct) : Request → Nat
  | .set .. => conduct.storeAfter
  | .take _ => conduct.storeAfter
  | .delete _ => conduct.storeAfter
  | .find .. => 0
  | .compare .. => 0

/-- The reply to a request that is refused. -/
def refusal? (conduct : Conduct) : (request : Request) → Option request.Reply
  | .set .. => conduct.setFailure.map .error
  | .take _ => conduct.takeFailure.map .error
  | .delete _ => conduct.deleteFailure.map .error
  | .find .users _ => conduct.usersOutage.map .error
  | .find .musicians _ => conduct.musiciansOutage.map .error
  | .compare .. => none

/-- The reply to a request that is served; none beyond the calendar. -/
def reply? {σ : Type} [Session.Store σ] (conduct : Conduct) (world : World σ) :
    (request : Request) → Option request.Reply
  | .set key payload lifetime =>
    (Session.Store.set world.store world.clock.now key payload lifetime).1
  | .take key => some (Session.Store.take world.store world.clock.now key).1
  | .delete key => some (Session.Store.delete world.store world.clock.now key).1
  | .find place name => some (.ok ((world.directory place).find? name))
  | .compare hash password => some (conduct.comparator hash password)

end Conduct

/-- How the collaborators behave at each request, by the number of requests made before it. -/
abbrev Conducts := Nat → Conduct

/-- The world after a request was served. -/
def World.served {σ : Type} [Session.Store σ] (world : World σ) : Request → World σ
  | .set key payload lifetime =>
    { world with
      store := (Session.Store.set world.store world.clock.now key payload lifetime).2 }
  | .take key => { world with store := (Session.Store.take world.store world.clock.now key).2 }
  | .delete key => { world with store := (Session.Store.delete world.store world.clock.now key).2 }
  | .find .. => world
  | .compare .. => world

namespace Operation

variable {σ α : Type} [Session.Store σ]

/-- A request in time: it is recorded, it waits, it is refused or served, and it waits again. -/
def asked (conduct : Conduct) (request : Request) (next : request.Reply → Timed (World σ) α) :
    Timed (World σ) α :=
  .act (·.begun request) fun world =>
    .wait (conduct.before request) <|
      match conduct.refusal? request with
      | some reply => next reply
      | none => .act (·.served request) fun before =>
        match conduct.reply? before request with
        | none => .overflow
        | some reply =>
          .wait (conduct.after request) <|
            .act (·.settled world.calls.length) fun _ => next reply

theorem asked_bind {β : Type} (conduct : Conduct) (request : Request)
    (next : request.Reply → Timed (World σ) α) (rest : α → Timed (World σ) β) :
    (asked conduct request next).bind rest =
      asked conduct request fun reply => (next reply).bind rest := by
  refine congrArg (Timed.act _) (funext fun world => ?_)
  rw [Timed.bind_wait]
  cases conduct.refusal? request with
  | some reply => rfl
  | none =>
      refine congrArg (Timed.wait _) (congrArg (Timed.act _) (funext fun before => ?_))
      dsimp only
      cases conduct.reply? before request with
      | none => rfl
      | some reply => exact Timed.bind_wait _ _ _

/-- An operation as a computation in time, where the collaborators behave differently at each
request. -/
def timedBy (conducts : Conducts) : Operation α → Timed (World σ) α
  | finish value => .finish value
  | overflow => .overflow
  | clock next => .act id fun world => (next world.clock.now).timedBy conducts
  | note event next => .act (·.noted event) fun _ => next.timedBy conducts
  | ask request next => .act id fun world =>
    asked (conducts world.calls.length) request fun reply => (next reply).timedBy conducts

/-- An operation as a computation in time, where the collaborators behave alike at each request. -/
def timed (conduct : Conduct) (operation : Operation α) : Timed (World σ) α :=
  operation.timedBy fun _ => conduct

/-- Operations in sequence are computations in sequence. -/
theorem timedBy_bind {β : Type} (conducts : Conducts) (operation : Operation α)
    (next : α → Operation β) :
    ((operation.bind next).timedBy conducts : Timed (World σ) β) =
      (operation.timedBy conducts).bind fun value => (next value).timedBy conducts := by
  induction operation with
  | finish value => rfl
  | overflow => rfl
  | clock rest ih => exact congrArg (Timed.act id) (funext fun world => ih world.clock.now)
  | note event rest ih => exact congrArg (Timed.act _) (funext fun _ => ih)
  | ask request rest ih =>
      refine congrArg (Timed.act id) (funext fun world => ?_)
      dsimp only
      rw [asked_bind]
      exact congrArg (asked _ request) (funext ih)

end Operation

end Bearer
