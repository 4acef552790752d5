import Bearer.Proofs.Identity.Payload
import Bearer.Redis.Sessions
import Bearer.Session.Memory

/-!
# Rows of a store

A row is what a store holds under a key, whether or not its session still counts. `Rows` says what
the operations of a store do to its rows: only a successful write puts one in, with the payload that
was written, and whoever is given a payload has removed its row. Both the store in memory and a
server at the end of a link are such stores.
-/

namespace Bearer

namespace Session

/-- No row appears or changes, but some may go. -/
def Fades (before after : String → Option (Option Payload)) : Prop :=
  ∀ key row, after key = some row → before key = some row

theorem Fades.refl (rows : String → Option (Option Payload)) : Fades rows rows :=
  fun _ _ held => held

/-- A store whose rows can be told. -/
class Rows (σ : Type) [Store σ] where
  /-- The row under a key, with its payload if it can be read. -/
  row? : σ → String → Option (Option Payload)
  /-- What the store may become by itself. -/
  Drifts : σ → σ → Prop
  /-- By itself a store only forgets. -/
  fades_drifts {before after : σ} : Drifts before after → Fades (row? before) (row? after)
  /-- What is written is the row under its key. -/
  row_set {store after : σ} {now : Instant} {key : String} {payload : Payload} {lifetime : Span} :
    Store.set store now key payload lifetime = (some (.ok ()), after) →
      row? after key = some (some payload)
  /-- A write adds no other row. -/
  row_set_other {store after : σ} {now : Instant} {key other : String} {payload : Payload}
    {lifetime : Span} {row : Option Payload} :
    Store.set store now key payload lifetime = (some (.ok ()), after) → other ≠ key →
      row? after other = some row → row? store other = some row
  /-- A write that does not succeed adds no row. -/
  fades_set {store after : σ} {now : Instant} {key : String} {payload : Payload} {lifetime : Span}
    {reply : Option (Except Failure Unit)} :
    Store.set store now key payload lifetime = (reply, after) → reply ≠ some (.ok ()) →
      Fades (row? store) (row? after)
  /-- A key that is in use has a row. -/
  row_of_keyExists {store : σ} {now : Instant} {key : String} {payload : Payload}
    {lifetime : Span} : (Store.set store now key payload lifetime).1 = some (.error .keyExists) →
      ∃ row, row? store key = some row
  /-- Taking adds no row. -/
  fades_take (store : σ) (now : Instant) (key : String) :
    Fades (row? store) (row? (Store.take store now key).2)
  /-- Who is given a payload has it from the row. -/
  row_of_take {store : σ} {now : Instant} {key : String} {payload : Payload} :
    (Store.take store now key).1 = .ok (some payload) → row? store key = some (some payload)
  /-- Nothing is left of a row whose payload was given. -/
  row_take {store : σ} {now : Instant} {key : String} {payload : Payload} :
    (Store.take store now key).1 = .ok (some payload) → row? (Store.take store now key).2 key = none
  /-- Deleting adds no row. -/
  fades_delete (store : σ) (now : Instant) (key : String) :
    Fades (row? store) (row? (Store.delete store now key).2)
  /-- What can be got can be taken. -/
  take_of_get {store : σ} {now : Instant} {key : String} {payload : Payload} :
    (Store.get store now key).1 = .ok (some payload) →
      (Store.take store now key).1 = .ok (some payload)

namespace Memory

/-- The row under a key, also of a session that is over. -/
def row? (memory : Memory) (key : String) : Option (Option Payload) :=
  (memory.table.find? key).map fun entry => some entry.payload

variable {memory : Memory} {now : Instant} {key : String} {payload : Payload} {lifetime : Span}

private theorem fades_of_keeps {after : Memory}
    (keeps : ∀ key entry, after.table.find? key = some entry →
      memory.table.find? key = some entry) : Fades memory.row? after.row? := by
  intro key row held
  rw [row?, Option.map_eq_some_iff] at held ⊢
  obtain ⟨entry, found, same⟩ := held
  exact ⟨entry, keeps key entry found, same⟩

private theorem fades_purged (memory : Memory) (now : Instant) :
    Fades memory.row? (memory.purged now).row? := by
  apply fades_of_keeps
  intro key entry found
  rw [purged, Table.find?_filter] at found
  exact (Option.filter_eq_some_iff.1 found).1

private theorem fades_erase (memory : Memory) (key : String) :
    Fades memory.row? (⟨memory.table.erase key⟩ : Memory).row? := by
  apply fades_of_keeps
  intro other entry found
  rw [Table.find?_erase] at found
  split at found
  · cases found
  · exact found

private theorem set_cases (memory : Memory) (now : Instant) (key : String) (payload : Payload)
    (lifetime : Span) :
    (memory.set now key payload lifetime = (some (.error .keyExists), memory) ∧
        ∃ entry, memory.live? now key = some entry) ∨
      memory.set now key payload lifetime = (none, memory.purged now) ∨
      ∃ expiry, memory.set now key payload lifetime =
        (some (.ok ()), ⟨(memory.purged now).table.insert key ⟨payload, expiry⟩⟩) := by
  cases used : memory.live? now key with
  | some entry => exact .inl ⟨set_of_live used payload lifetime, entry, rfl⟩
  | none =>
      cases ends : now.plus? lifetime with
      | none => exact .inr (.inl (set_of_beyond used ends payload))
      | some expiry => exact .inr (.inr ⟨expiry, set_of_free used ends payload⟩)

private theorem row_insert (expiry : Instant) (other : String) :
    (⟨memory.table.insert key ⟨payload, expiry⟩⟩ : Memory).row? other =
      if other = key then some (some payload) else memory.row? other := by
  rw [row?, Table.find?_insert]
  split
  · rfl
  · rfl

private theorem row_of_live {entry : Entry} (live : memory.live? now key = some entry) :
    memory.row? key = some (some entry.payload) := by
  rw [row?, (Option.filter_eq_some_iff.1 live).1, Option.map_some]

private theorem row_of_get (got : memory.get now key = some payload) :
    memory.row? key = some (some payload) := by
  obtain ⟨entry, live, rfl⟩ := Option.map_eq_some_iff.1 got
  exact row_of_live live

/-- The rows in memory stay as they are between the operations. -/
instance : Rows Memory where
  row? := row?
  Drifts := Eq
  fades_drifts := by
    rintro before after rfl
    exact .refl _
  row_set := by
    intro memory after now key payload lifetime written
    rcases set_cases memory now key payload lifetime with ⟨used, -⟩ | broken | ⟨expiry, done⟩
    · cases used.symm.trans written
    · cases broken.symm.trans written
    · cases done.symm.trans written
      rw [row_insert, if_pos rfl]
  row_set_other := by
    intro memory after now key other payload lifetime row written different held
    rcases set_cases memory now key payload lifetime with ⟨used, -⟩ | broken | ⟨expiry, done⟩
    · cases used.symm.trans written
    · cases broken.symm.trans written
    · cases done.symm.trans written
      rw [row_insert, if_neg different] at held
      exact fades_purged memory now other row held
  fades_set := by
    intro memory after now key payload lifetime reply written failed
    rcases set_cases memory now key payload lifetime with ⟨used, -⟩ | broken | ⟨expiry, done⟩
    · cases used.symm.trans written
      exact .refl _
    · cases broken.symm.trans written
      exact fades_purged memory now
    · cases done.symm.trans written
      exact absurd rfl failed
  row_of_keyExists := by
    intro memory now key payload lifetime refused
    rcases set_cases memory now key payload lifetime with
      ⟨_, entry, live⟩ | broken | ⟨expiry, done⟩
    · exact ⟨_, row_of_live live⟩
    · cases (congrArg Prod.fst broken).symm.trans refused
    · cases (congrArg Prod.fst done).symm.trans refused
  fades_take := fun memory _ key => fades_erase memory key
  row_of_take := fun taken => row_of_get (Except.ok.inj taken)
  row_take := by
    intro memory now key payload _
    change (⟨memory.table.erase key⟩ : Memory).row? key = none
    rw [row?, Table.find?_erase, if_pos rfl, Option.map_none]
  fades_delete := fun memory _ key => fades_erase memory key
  take_of_get := fun got => got

end Memory

end Session

namespace Redis.Link

open Session (Fades Rows Store)

/-- The row under a key of the server. -/
def row? (link : Link) (key : String) : Option (Option Payload) :=
  (link.server.find? key).map fun value => (Payload.decode (Text.bytes value)).toOption

variable {link after : Link} {key : String} {payload : Payload} {lifetime : Span}

private theorem fades_of_keeps
    (keeps : ∀ key value, after.server.find? key = some value →
      link.server.find? key = some value) : Fades link.row? after.row? := by
  intro key row held
  rw [row?, Option.map_eq_some_iff] at held ⊢
  obtain ⟨value, found, same⟩ := held
  exact ⟨value, keeps key value found, same⟩

private theorem fades_of_eq (same : after.server = link.server) : Fades link.row? after.row? := by
  apply fades_of_keeps
  intro key value found
  rwa [same] at found

private theorem fades_of_erase (erased : after.server = link.server.erase key) :
    Fades link.row? after.row? := by
  apply fades_of_keeps
  intro other value found
  rw [erased, Table.find?_erase] at found
  split at found
  · cases found
  · exact found

private theorem row_insert (written : after.server =
    link.server.insert key (String.ofList payload.encode)) (other : String) :
    after.row? other = if other = key then some (some payload) else link.row? other := by
  rw [row?, written, Table.find?_insert]
  split
  · rw [Option.map_some, Payload.decode_encode]
    rfl
  · rfl

private theorem send_cases (link : Link) (command : Command) :
    (∃ fault, link.send command = (.error fault, link)) ∨
      ∃ after, after.server = (link.server.answer command).2 ∧
        link.send command = (.ok (link.server.answer command).1, after) := by
  unfold send
  cases link.outage with
  | some reason => exact .inl ⟨.connection reason, rfl⟩
  | none => exact .inr ⟨_, rfl, rfl⟩

private theorem set_cases (link : Link) (now : Instant) (key : String) (payload : Payload)
    (lifetime : Span) :
    (∃ failure after, Store.set link now key payload lifetime = (some (.error failure), after) ∧
        after.server = link.server ∧
        (failure = .keyExists → ∃ value, link.server.find? key = some value)) ∨
      ∃ after, Store.set link now key payload lifetime = (some (.ok ()), after) ∧
        after.server = link.server.insert key (String.ofList payload.encode) := by
  change (∃ failure after, (link.setSession key payload lifetime).map some id = _ ∧ _) ∨
    ∃ after, (link.setSession key payload lifetime).map some id = _ ∧ _
  rcases send_cases link (.setAbsent key (String.ofList payload.encode)
    (max 1 (secondsOf lifetime))) with ⟨fault, sent⟩ | ⟨after, answered, sent⟩
  · left
    refine ⟨unavailable fault, link, ?_, rfl, fun used => by cases used⟩
    rw [setSession, setAbsent, sent]
    rfl
  · cases held : link.server.find? key with
    | some value =>
        left
        rw [Server.answer, held, Option.isSome_some, if_pos rfl] at answered sent
        refine ⟨.keyExists, after, ?_, answered, fun _ => ⟨value, rfl⟩⟩
        rw [setSession, setAbsent, sent]
        rfl
    | none =>
        right
        rw [Server.answer, held, Option.isSome_none, if_neg Bool.false_ne_true] at answered sent
        refine ⟨after, ?_, answered⟩
        rw [setSession, setAbsent, sent]
        rfl

private theorem takeSession_cases (link : Link) (key : String) :
    (∃ failure, link.takeSession key = (.error failure, link)) ∨
      ∃ after, link.takeSession key = (payloadIn (link.server.find? key), after) ∧
        after.server = link.server.erase key := by
  rcases send_cases link (.getDelete key) with ⟨fault, sent⟩ | ⟨after, answered, sent⟩
  · left
    refine ⟨unavailable fault, ?_⟩
    rw [takeSession, getDelete, sent]
    rfl
  · right
    refine ⟨after, ?_, answered⟩
    rw [takeSession, getDelete, sent]
    cases held : link.server.find? key with
    | none =>
        rw [Server.answer, held]
        rfl
    | some value =>
        rw [Server.answer, held]
        rfl

private theorem takeSession_eq_getSession (link : Link) (key : String) :
    (link.takeSession key).1 = (link.getSession key).1 := by
  unfold takeSession getSession getDelete get send
  cases link.outage with
  | some reason => rfl
  | none => rfl

private theorem row_of_payloadIn (read : payloadIn (link.server.find? key) = .ok (some payload)) :
    link.row? key = some (some payload) := by
  rw [row?]
  cases held : link.server.find? key with
  | none =>
      rw [held] at read
      cases read
  | some value =>
      rw [held, payloadIn] at read
      rw [Option.map_some]
      cases decoded : Payload.decode (Text.bytes value) with
      | error fault =>
          rw [decoded] at read
          cases read
      | ok found =>
          rw [decoded] at read
          cases read
          rfl

/-- A server forgets what it no longer has to keep. -/
instance : Rows Link where
  row? := row?
  Drifts := fun link after => ∀ key value, after.server.find? key = some value →
    link.server.find? key = some value
  fades_drifts := fades_of_keeps
  row_set := by
    intro link after now key payload lifetime written
    rcases set_cases link now key payload lifetime with
      ⟨_, _, failed, -, -⟩ | ⟨_, done, inserted⟩
    · cases failed.symm.trans written
    · cases done.symm.trans written
      rw [row_insert inserted, if_pos rfl]
  row_set_other := by
    intro link after now key other payload lifetime row written different held
    rcases set_cases link now key payload lifetime with
      ⟨_, _, failed, -, -⟩ | ⟨_, done, inserted⟩
    · cases failed.symm.trans written
    · cases done.symm.trans written
      rwa [row_insert inserted, if_neg different] at held
  fades_set := by
    intro link after now key payload lifetime reply written failed
    rcases set_cases link now key payload lifetime with
      ⟨_, _, refused, same, -⟩ | ⟨_, done, -⟩
    · cases refused.symm.trans written
      exact fades_of_eq same
    · cases done.symm.trans written
      exact absurd rfl failed
  row_of_keyExists := by
    intro link now key payload lifetime refused
    rcases set_cases link now key payload lifetime with ⟨_, _, failed, _, used⟩ | ⟨_, done, -⟩
    · cases Option.some.inj ((congrArg Prod.fst failed).symm.trans refused)
      obtain ⟨value, held⟩ := used rfl
      exact ⟨_, by rw [row?, held, Option.map_some]⟩
    · cases (congrArg Prod.fst done).symm.trans refused
  fades_take := by
    intro link now key
    rcases takeSession_cases link key with ⟨_, failed⟩ | ⟨after, taken, erased⟩
    · exact congrArg Prod.snd failed ▸ .refl _
    · exact congrArg Prod.snd taken ▸ fades_of_erase erased
  row_of_take := by
    intro link now key payload taken
    rcases takeSession_cases link key with ⟨_, failed⟩ | ⟨after, given, erased⟩
    · cases (congrArg Prod.fst failed).symm.trans taken
    · exact row_of_payloadIn ((congrArg Prod.fst given).symm.trans taken)
  row_take := by
    intro link now key payload taken
    rcases takeSession_cases link key with ⟨_, failed⟩ | ⟨after, given, erased⟩
    · cases (congrArg Prod.fst failed).symm.trans taken
    · have gone : after.row? key = none := by
        rw [row?, erased, Table.find?_erase, if_pos rfl, Option.map_none]
      exact congrArg Prod.snd given ▸ gone
  fades_delete := by
    intro link now key
    rcases send_cases link (.delete key) with ⟨fault, sent⟩ | ⟨after, answered, sent⟩
    · have same : (Store.delete link now key).2.server = link.server :=
        congrArg (fun sent => sent.2.server) sent
      exact fades_of_eq same
    · have erased : (Store.delete link now key).2.server = link.server.erase key :=
        (congrArg (fun sent => sent.2.server) sent).trans answered
      exact fades_of_erase erased
  take_of_get := fun got => (takeSession_eq_getSession _ _).trans got

end Redis.Link

end Bearer
