import Bearer.Table

/-!
# What a server does

A server keeps texts under keys. It does one command after the other, each as a whole. Commands are
data: `Command.words` is what is sent, `Server.answer` what the server does. `find?_setAbsent`,
`find?_getDelete` and `find?_delete` say what each command does to the values.
-/

namespace Bearer.Redis

/-- What a client sends. -/
inductive Command where
  /-- Give the value of a key. -/
  | get (key : String)
  /-- Set a key for some seconds, unless it has a value. -/
  | setAbsent (key value : String) (seconds : Nat)
  /-- Remove a key and give its value. -/
  | getDelete (key : String)
  /-- Remove a key. -/
  | delete (key : String)
deriving DecidableEq, Repr

/-- The words of a command. -/
def Command.words : Command → List String
  | get key => ["GET", key]
  | setAbsent key value seconds => ["SET", key, value, "NX", "EX", toString seconds]
  | getDelete key => ["GETDEL", key]
  | delete key => ["DEL", key]

/-- What a server replies. -/
inductive Reply where
  /-- There is no value, or nothing was done. -/
  | nothing
  /-- The command was done. -/
  | done
  /-- A value. -/
  | text (value : String)
  /-- How many keys were concerned. -/
  | count (number : Nat)
deriving DecidableEq, Repr

/-- The values of a server by key. -/
abbrev Server := Table String

namespace Server

/-- A value as a reply. -/
def reply : Option String → Reply
  | some value => .text value
  | none => .nothing

/-- The reply to a command and the server after it. -/
def answer (server : Server) : Command → Reply × Server
  | .get key => (reply (server.find? key), server)
  | .setAbsent key value _ =>
    if (server.find? key).isSome then (.nothing, server) else (.done, server.insert key value)
  | .getDelete key => (reply (server.find? key), server.erase key)
  | .delete key => (.count (if (server.find? key).isSome then 1 else 0), server.erase key)

@[simp]
theorem answer_get (server : Server) (key : String) : (server.answer (.get key)).2 = server := rfl

/-- A key that has a value keeps it, whatever it is to be set to. -/
@[simp]
theorem find?_setAbsent (server : Server) (key value other : String) (seconds : Nat) :
    (server.answer (.setAbsent key value seconds)).2.find? other =
      if other = key then some ((server.find? key).getD value) else server.find? other := by
  cases held : server.find? key with
  | none => simp [answer, held]
  | some old =>
      by_cases same : other = key
      · subst same
        simp [answer, held]
      · simp [answer, held, same]

/-- What is removed and given has no value any more. -/
@[simp]
theorem find?_getDelete (server : Server) (key other : String) :
    (server.answer (.getDelete key)).2.find? other =
      if other = key then none else server.find? other :=
  Table.find?_erase server key other

/-- What is removed has no value any more. -/
@[simp]
theorem find?_delete (server : Server) (key other : String) :
    (server.answer (.delete key)).2.find? other =
      if other = key then none else server.find? other :=
  Table.find?_erase server key other

end Server

end Bearer.Redis
