import Bearer.Redis.Client
import Bearer.Session.Store

/-!
# Sessions on a server

A session is the JSON text of its payload, kept by the server for the whole seconds of its lifetime,
at least one. What the server holds is checked each time that it is read.
-/

namespace Bearer.Redis

open Session (Failure)

/-- A fault of the link as a failure of the store. -/
def unavailable (fault : Fault) : Failure :=
  .unavailable fault.message

/-- The payload in a value of the server. -/
def payloadIn : Option String → Except Failure (Option Payload)
  | none => .ok none
  | some value =>
    match Payload.decode (Text.bytes value) with
    | .ok payload => .ok (some payload)
    | .error fault => .error (.corrupted fault.message)

/-- The seconds for which a session is kept. -/
def secondsOf (lifetime : Span) : Nat :=
  (max 1 lifetime.wholeSeconds).toNat

namespace Link

/-- Keeps a payload under a key that has no value. -/
def setSession (link : Link) (key : String) (payload : Payload) (lifetime : Span) :
    Except Failure Unit × Link :=
  match link.setAbsent key (String.ofList payload.encode) (secondsOf lifetime) with
  | (.ok true, link) => (.ok (), link)
  | (.ok false, link) => (.error .keyExists, link)
  | (.error fault, link) => (.error (unavailable fault), link)

/-- The payload under a key. -/
def getSession (link : Link) (key : String) : Except Failure (Option Payload) × Link :=
  match link.get key with
  | (.ok value, link) => (payloadIn value, link)
  | (.error fault, link) => (.error (unavailable fault), link)

/-- Removes a key and gives its payload. The value is gone even if it is no payload. -/
def takeSession (link : Link) (key : String) : Except Failure (Option Payload) × Link :=
  match link.getDelete key with
  | (.ok value, link) => (payloadIn value, link)
  | (.error fault, link) => (.error (unavailable fault), link)

/-- Removes a key and says whether it had a value. -/
def deleteSession (link : Link) (key : String) : Except Failure Bool × Link :=
  let (deleted, link) := link.delete key
  (deleted.mapError unavailable, link)

/-- Sessions at the end of a link. The server has a clock of its own. -/
instance : Session.Store Link where
  set := fun link _ key payload lifetime =>
    let (result, link) := link.setSession key payload lifetime
    (some result, link)
  get := fun link _ key => link.getSession key
  take := fun link _ key => link.takeSession key
  delete := fun link _ key => link.deleteSession key

end Link

end Bearer.Redis
