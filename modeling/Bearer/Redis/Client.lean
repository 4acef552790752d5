import Bearer.Redis.Address
import Bearer.Redis.Server

/-!
# Talking to a server

A client reaches its server over a link, which may be down. Every command that arrives is recorded.
What cannot be sent changes nothing.
-/

namespace Bearer.Redis

/-- Why a client has no answer. -/
inductive Fault where
  /-- The server is not reached. -/
  | connection (reason : String)
  /-- A command was not done. -/
  | command (reason : String)
deriving DecidableEq, Repr

/-- The wording of a fault. -/
def Fault.message : Fault → String
  | connection reason => "error while connection to instance: " ++ reason
  | command reason => "error while performing CRUD action: " ++ reason

/-- The string inside a fault. -/
def Fault.detail : Fault → String
  | connection reason => reason
  | command reason => reason

/-- The way from a client to its server. -/
structure Link where
  /-- The server at the end. -/
  server : Server
  /-- Why the server is not reached, if it is not. -/
  outage : Option String
  /-- The commands that arrived, in order. -/
  sent : List Command

namespace Link

/-- The address of a host setting, as a client reports it. -/
def open? (setting : String) : Except Fault Address :=
  (Address.ofHost setting).mapError fun fault => .connection fault.message

/-- Sends a command. -/
def send (link : Link) (command : Command) : Except Fault Reply × Link :=
  match link.outage with
  | some reason => (.error (.connection reason), link)
  | none =>
    let (reply, server) := link.server.answer command
    (.ok reply, { link with server, sent := link.sent ++ [command] })

/-- The text in a reply. -/
def textIn : Reply → Option String
  | .text value => some value
  | .done => some "OK"
  | .count number => some (toString number)
  | .nothing => none

/-- Whether a reply says that something was done. -/
def isDone : Reply → Bool
  | .count number => 0 < number
  | reply => (textIn reply).isSome

/-- Sets a key for some seconds, at least one, and says whether it had no value before. -/
def setAbsent (link : Link) (key value : String) (seconds : Nat) : Except Fault Bool × Link :=
  let (reply, link) := link.send (.setAbsent key value (max 1 seconds))
  (reply.map isDone, link)

/-- The value of a key. -/
def get (link : Link) (key : String) : Except Fault (Option String) × Link :=
  let (reply, link) := link.send (.get key)
  (reply.map textIn, link)

/-- Removes a key and gives its value. -/
def getDelete (link : Link) (key : String) : Except Fault (Option String) × Link :=
  let (reply, link) := link.send (.getDelete key)
  (reply.map textIn, link)

/-- Removes a key and says whether it had a value. -/
def delete (link : Link) (key : String) : Except Fault Bool × Link :=
  let (reply, link) := link.send (.delete key)
  (reply.map isDone, link)

end Link

end Bearer.Redis
