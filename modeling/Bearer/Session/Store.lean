import Bearer.Identity.Payload
import Bearer.Time.Instant

/-!
# Session stores

A store keeps payloads under keys for a time. Its operations are functions on its state; each is
atomic. Writing may leave the calendar, in which case there is no answer.
-/

namespace Bearer.Session

/-- Why a store did not do what it was asked. -/
inductive Failure where
  /-- The store could not be reached. -/
  | unavailable (reason : String)
  /-- The store holds what cannot be read. -/
  | corrupted (reason : String)
  /-- The key is in use. -/
  | keyExists
deriving DecidableEq, Repr

/-- The wording of a failure. -/
def Failure.message : Failure → String
  | unavailable reason => "session store unavailable: " ++ reason
  | corrupted reason => "stored session could not be decoded: " ++ reason
  | keyExists => "session key already exists"

/-- The string inside a failure. -/
def Failure.detail? : Failure → Option String
  | unavailable reason => some reason
  | corrupted reason => some reason
  | keyExists => none

/-- The state of a store that keeps payloads under keys. -/
class Store (σ : Type) where
  /-- Keeps a payload for a time under a key that is not in use; none beyond the calendar. -/
  set : σ → Instant → String → Payload → Span → Option (Except Failure Unit) × σ
  /-- The payload under a key. -/
  get : σ → Instant → String → Except Failure (Option Payload) × σ
  /-- Removes a key and gives its payload. -/
  take : σ → Instant → String → Except Failure (Option Payload) × σ
  /-- Removes a key and says whether it was in use. -/
  delete : σ → Instant → String → Except Failure Bool × σ

end Bearer.Session
