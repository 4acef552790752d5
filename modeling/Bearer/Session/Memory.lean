import Bearer.Session.Store
import Bearer.Table

/-!
# Sessions in memory

Each session has an end. From then on it is as if the session were not there, although its row may
stay until a later operation removes it. `live?` is what can be seen of the store at an instant, and
the lemmas say what each operation does to it.
-/

namespace Bearer.Session

/-- A payload with the instant from which it no longer counts. -/
structure Entry where
  /-- Who is logged in. -/
  payload : Payload
  /-- The first instant at which the session is over. -/
  expiry : Instant
deriving DecidableEq

/-- Whether a session is not over. -/
def Entry.isLive (entry : Entry) (now : Instant) : Bool :=
  now < entry.expiry

theorem Entry.isLive_of_le {entry : Entry} {now later : Instant} (order : now ≤ later)
    (live : entry.isLive later = true) : entry.isLive now = true := by
  simp only [Entry.isLive, decide_eq_true_eq, Instant.lt_def] at live ⊢
  exact Int.lt_of_le_of_lt (Instant.le_def.1 order) live

/-- Sessions under their keys. -/
structure Memory where
  /-- All rows, including those of sessions that are over. -/
  table : Table Entry

namespace Memory

/-- The store without sessions. -/
def empty : Memory :=
  ⟨Table.empty⟩

/-- The live session under a key. -/
def live? (memory : Memory) (now : Instant) (key : String) : Option Entry :=
  (memory.table.find? key).filter (·.isLive now)

/-- The store without the rows of sessions that are over. -/
def purged (memory : Memory) (now : Instant) : Memory :=
  ⟨memory.table.filter fun _ entry => entry.isLive now⟩

/-- The number of live sessions. -/
def count (memory : Memory) (now : Instant) : Nat :=
  (memory.purged now).table.size

/-- Keeps a payload under a key that has no live session. What is over is removed first, even if the
end of the new session lies beyond the calendar. -/
def set (memory : Memory) (now : Instant) (key : String) (payload : Payload) (lifetime : Span) :
    Option (Except Failure Unit) × Memory :=
  if (memory.live? now key).isSome then (some (.error .keyExists), memory)
  else
    let purged := memory.purged now
    match now.plus? lifetime with
    | none => (none, purged)
    | some expiry => (some (.ok ()), ⟨purged.table.insert key ⟨payload, expiry⟩⟩)

/-- The payload of a live session. -/
def get (memory : Memory) (now : Instant) (key : String) : Option Payload :=
  (memory.live? now key).map (·.payload)

/-- Removes a key and gives the payload, if the session was live. -/
def take (memory : Memory) (now : Instant) (key : String) : Option Payload × Memory :=
  (memory.get now key, ⟨memory.table.erase key⟩)

/-- Removes a key and says whether its session was live. -/
def delete (memory : Memory) (now : Instant) (key : String) : Bool × Memory :=
  ((memory.live? now key).isSome, ⟨memory.table.erase key⟩)

/-- Memory never fails, apart from refusing a key in use. -/
instance : Store Memory where
  set := set
  get := fun memory now key => (.ok (memory.get now key), memory)
  take := fun memory now key =>
    let (payload, memory) := memory.take now key
    (.ok payload, memory)
  delete := fun memory now key =>
    let (existed, memory) := memory.delete now key
    (.ok existed, memory)

theorem live?_purged_of_le (memory : Memory) {now later : Instant} (order : now ≤ later)
    (key : String) : (memory.purged now).live? later key = memory.live? later key := by
  rw [live?, purged, Table.find?_filter, Option.filter_filter, live?]
  refine congrArg (fun keep => Option.filter keep _) (funext fun entry => ?_)
  cases live : entry.isLive later with
  | false => rw [Bool.and_false]
  | true => rw [Entry.isLive_of_le order live, Bool.and_self]

@[simp]
theorem live?_purged (memory : Memory) (now : Instant) (key : String) :
    (memory.purged now).live? now key = memory.live? now key :=
  live?_purged_of_le memory (Int.le_refl _) key

theorem set_of_live {memory : Memory} {now : Instant} {key : String} {entry : Entry}
    (live : memory.live? now key = some entry) (payload : Payload) (lifetime : Span) :
    memory.set now key payload lifetime = (some (.error .keyExists), memory) := by
  rw [set, live]
  rfl

theorem set_of_beyond {memory : Memory} {now : Instant} {key : String} {lifetime : Span}
    (free : memory.live? now key = none) (beyond : now.plus? lifetime = none) (payload : Payload) :
    memory.set now key payload lifetime = (none, memory.purged now) := by
  rw [set, free, beyond]
  rfl

/-- Under a free key a payload is kept up to its end. -/
theorem set_of_free {memory : Memory} {now expiry : Instant} {key : String} {lifetime : Span}
    (free : memory.live? now key = none) (ends : now.plus? lifetime = some expiry)
    (payload : Payload) : memory.set now key payload lifetime =
      (some (.ok ()), ⟨(memory.purged now).table.insert key ⟨payload, expiry⟩⟩) := by
  rw [set, free, ends]
  rfl

/-- A session that is set lives up to its end, and the others live on. -/
theorem live?_set {memory : Memory} {now later expiry : Instant} {key : String} {payload : Payload}
    {lifetime : Span} (free : memory.live? now key = none)
    (ends : now.plus? lifetime = some expiry) (order : now ≤ later) (other : String) :
    (memory.set now key payload lifetime).2.live? later other =
      if other = key then (some ⟨payload, expiry⟩ : Option Entry).filter (·.isLive later)
      else memory.live? later other := by
  rw [set_of_free free ends, live?, Table.find?_insert]
  split
  · rfl
  · exact live?_purged_of_le memory order other

@[simp]
theorem live?_take (memory : Memory) (now later : Instant) (key other : String) :
    (memory.take now key).2.live? later other =
      if other = key then none else memory.live? later other := by
  by_cases same : other = key <;> simp [take, live?, same]

theorem delete_eq_take (memory : Memory) (now : Instant) (key : String) :
    (memory.delete now key).2 = (memory.take now key).2 := rfl

end Memory

end Bearer.Session
