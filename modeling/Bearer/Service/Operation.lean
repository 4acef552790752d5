import Bearer.Identity.Directory
import Bearer.Service.Event
import Bearer.Time.Instant

/-!
# Operations of the service

An operation asks its collaborators one thing after the other: the session store, the directories
and the password check. What it asks is data, so that it can be answered in any way: by real
collaborators, by failing ones, and together with other operations in any order.
-/

namespace Bearer

/-- The two directories. -/
inductive Place where
  | users
  | musicians
deriving DecidableEq, Repr

/-- What an operation asks a collaborator. -/
inductive Request where
  /-- Keep a payload under a key for a time. -/
  | set (key : String) (payload : Payload) (lifetime : Span)
  /-- Remove a key and give its payload. -/
  | take (key : String)
  /-- Remove a key. -/
  | delete (key : String)
  /-- Look a name up. -/
  | find (place : Place) (name : String)
  /-- Check a password against a written hash. -/
  | compare (hash password : String)
deriving DecidableEq

/-- The reply that a request gets. -/
abbrev Request.Reply : Request → Type
  | .set .. => Except Session.Failure Unit
  | .take _ => Except Session.Failure (Option Payload)
  | .delete _ => Except Session.Failure Bool
  | .find .. => Except Directory.Outage (Option Account)
  | .compare .. => Bool

/-- A course of requests that depends on the replies. -/
inductive Operation (α : Type) where
  /-- The operation is over. -/
  | finish (value : α)
  /-- The operation breaks off: a moment lies beyond the calendar. -/
  | overflow
  /-- The clock is read. -/
  | clock (next : Instant → Operation α)
  /-- Something is logged. -/
  | note (event : Event) (next : Operation α)
  /-- A collaborator is asked. -/
  | ask (request : Request) (next : request.Reply → Operation α)

namespace Operation

variable {α β : Type}

/-- One operation, then another one that depends on its value. -/
def bind : Operation α → (α → Operation β) → Operation β
  | finish value, next => next value
  | overflow, _ => overflow
  | clock rest, next => clock fun now => (rest now).bind next
  | note event rest, next => note event (rest.bind next)
  | ask request rest, next => ask request fun reply => (rest reply).bind next

/-- The operation with its value changed. -/
def mapped (f : α → β) (operation : Operation α) : Operation β :=
  operation.bind fun value => finish (f value)

@[simp]
theorem bind_finish (operation : Operation α) : operation.bind finish = operation := by
  induction operation with
  | finish value => rfl
  | overflow => rfl
  | clock next ih => exact congrArg clock (funext ih)
  | note event next ih => exact congrArg (note event) ih
  | ask request next ih => exact congrArg (ask request) (funext ih)

theorem bind_assoc {γ : Type} (operation : Operation α) (second : α → Operation β)
    (third : β → Operation γ) :
    (operation.bind second).bind third = operation.bind fun value => (second value).bind third := by
  induction operation with
  | finish value => rfl
  | overflow => rfl
  | clock next ih => exact congrArg clock (funext ih)
  | note event next ih => exact congrArg (note event) ih
  | ask request next ih => exact congrArg (ask request) (funext ih)

end Operation

end Bearer
