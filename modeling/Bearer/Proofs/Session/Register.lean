import Bearer.Proofs.Session.Uses
import Mathlib.Data.List.Induction
import Mathlib.Data.List.Nodup

/-!
# Sessions that end by themselves

A register drops each session at the first instant at which it is over. A store in memory keeps the
row until some later call removes it, but nobody can tell the difference: in every course of calls,
under a clock that is never turned back, both give the same replies (`expiry_invisible`). What they
have in common is that the store shows at every later instant what the register then holds
(`Mirrors`); each call preserves this. `leaves_set` says what a write does to the rows themselves.
-/

namespace Bearer.Session

/-- A payload with the moment at which it is dropped. -/
structure Lease where
  /-- Who is logged in. -/
  payload : Payload
  /-- The nanoseconds since the epoch at which the session is over, within the calendar or not. -/
  ends : Int
deriving DecidableEq

/-- Leases under their keys. -/
structure Register where
  /-- All leases. -/
  leases : Table Lease

namespace Register

/-- The register without leases. -/
def empty : Register :=
  ⟨Table.empty⟩

/-- The register at an instant: what is over has been dropped. -/
def asOf (register : Register) (now : Instant) : Register :=
  ⟨register.leases.filter fun _ lease => now.nanoseconds < lease.ends⟩

/-- The lease under a key. -/
def find? (register : Register) (key : String) : Option Lease :=
  register.leases.find? key

/-- Keeps a payload under a key that has no lease. -/
def set (register : Register) (now : Instant) (key : String) (payload : Payload)
    (lifetime : Span) : Option (Except Failure Unit) × Register :=
  if (register.find? key).isSome then (some (.error .keyExists), register)
  else if (now.plus? lifetime).isNone then (none, register)
  else
    (some (.ok ()),
      ⟨register.leases.insert key ⟨payload, now.nanoseconds + lifetime.nanoseconds⟩⟩)

/-- The register without a key. -/
def without (register : Register) (key : String) : Register :=
  ⟨register.leases.erase key⟩

/-- A register is a store whose leases end by themselves. -/
instance : Counted Register where
  set := fun register now key payload lifetime => (register.asOf now).set now key payload lifetime
  get := fun register now key =>
    (.ok (((register.asOf now).find? key).map (·.payload)), register.asOf now)
  take := fun register now key =>
    (.ok (((register.asOf now).find? key).map (·.payload)), (register.asOf now).without key)
  delete := fun register now key =>
    (.ok ((register.asOf now).find? key).isSome, (register.asOf now).without key)
  count := fun register now => (register.asOf now).leases.size

theorem find?_asOf_asOf (register : Register) {now later : Instant} (order : now ≤ later)
    (key : String) :
    ((register.asOf now).asOf later).find? key = (register.asOf later).find? key := by
  simp only [asOf, find?, Table.find?_filter, Option.filter_filter]
  refine congrArg (fun keep => Option.filter keep _) (funext fun lease => ?_)
  have earlier := Instant.le_def.1 order
  by_cases ends : later.nanoseconds < lease.ends
  · simp [ends, Int.lt_of_le_of_lt earlier ends]
  · simp [ends]

theorem find?_asOf_without (register : Register) (later : Instant) (key other : String) :
    ((register.without key).asOf later).find? other =
      if other = key then none else (register.asOf later).find? other := by
  simp only [asOf, without, find?, Table.find?_filter, Table.find?_erase]
  split <;> rfl

theorem find?_asOf_insert (register : Register) (later : Instant) (key other : String)
    (lease : Lease) :
    ((⟨register.leases.insert key lease⟩ : Register).asOf later).find? other =
      if other = key then (some lease).filter fun lease => later.nanoseconds < lease.ends
      else (register.asOf later).find? other := by
  simp only [asOf, find?, Table.find?_filter, Table.find?_insert]
  split <;> rfl

end Register

/-- The lease of an entry. -/
def Entry.lease (entry : Entry) : Lease :=
  ⟨entry.payload, entry.expiry.nanoseconds⟩

theorem Entry.filter_lease (entry : Entry) (now : Instant) :
    ((some entry.lease).filter fun lease => now.nanoseconds < lease.ends) =
      ((some entry).filter (·.isLive now)).map Entry.lease := by
  rw [Option.filter_some, Option.filter_some, apply_ite (Option.map Entry.lease)]
  rfl

variable {register : Register} {memory : Memory} {now later : Instant} {key other : String}

/-- From an instant on, what a store shows is what the register holds. -/
def Mirrors (register : Register) (memory : Memory) (now : Instant) : Prop :=
  ∀ later, now ≤ later → ∀ key,
    (register.asOf later).find? key = (memory.live? later key).map Entry.lease

theorem mirrors_empty (now : Instant) : Mirrors .empty .empty now :=
  fun _ _ _ => rfl

namespace Mirrors

theorem afterwards (mirrors : Mirrors register memory now) (order : now ≤ later) :
    Mirrors register memory later :=
  fun last after => mirrors last (Int.le_trans order after)

theorem asOf (mirrors : Mirrors register memory now) : Mirrors (register.asOf now) memory now := by
  intro later order key
  rw [Register.find?_asOf_asOf register order]
  exact mirrors later order key

theorem without (mirrors : Mirrors register memory now) (key : String) :
    Mirrors (register.without key) (memory.take now key).2 now := by
  intro later order other
  rw [Register.find?_asOf_without, Memory.live?_take, mirrors later order other]
  split <;> rfl

theorem payload (mirrors : Mirrors register memory now) (key : String) :
    ((register.asOf now).find? key).map (·.payload) = memory.get now key := by
  rw [mirrors now (Int.le_refl _) key, Option.map_map]
  rfl

theorem isSome (mirrors : Mirrors register memory now) (key : String) :
    ((register.asOf now).find? key).isSome = (memory.live? now key).isSome := by
  rw [mirrors now (Int.le_refl _) key, Option.isSome_map]

theorem count (mirrors : Mirrors register memory now) :
    (register.asOf now).leases.size = memory.count now := by
  -- Each table has the key of a session once, so that it is enough to compare the keys.
  have sameKeys : ∀ key, key ∈ (register.asOf now).leases.keys ↔
      key ∈ (memory.purged now).table.keys := by
    intro key
    have live : (memory.purged now).table.find? key = memory.live? now key :=
      Table.find?_filter _ _ _
    rw [Table.mem_keys_iff, Table.mem_keys_iff, live, ← mirrors.isSome key]
    rfl
  have same := (List.perm_ext_iff_of_nodup (register.asOf now).leases.distinct
    (memory.purged now).table.distinct).2 sameKeys
  rw [Memory.count, Table.size_eq_length_keys, Table.size_eq_length_keys]
  exact same.length_eq

theorem purged (mirrors : Mirrors register memory now) :
    Mirrors register (memory.purged now) now := by
  intro later order key
  rw [Memory.live?_purged_of_le memory order]
  exact mirrors later order key

theorem insert {expiry : Instant} {lifetime : Span} (mirrors : Mirrors register memory now)
    (free : memory.live? now key = none) (ends : now.plus? lifetime = some expiry)
    (payload : Payload) :
    Mirrors
      ⟨register.leases.insert key ⟨payload, now.nanoseconds + lifetime.nanoseconds⟩⟩
      (memory.set now key payload lifetime).2 now := by
  intro later order other
  have same : (⟨payload, now.nanoseconds + lifetime.nanoseconds⟩ : Lease) =
      (⟨payload, expiry⟩ : Entry).lease := by
    rw [Entry.lease, Instant.plus?_eq_some_iff.1 ends]
  rw [Register.find?_asOf_insert, Memory.live?_set free ends order, mirrors later order, same]
  split
  · exact Entry.filter_lease _ later
  · rfl

theorem set (mirrors : Mirrors register memory now) (key : String) (payload : Payload)
    (lifetime : Span) :
    ((register.asOf now).set now key payload lifetime).1 =
        (memory.set now key payload lifetime).1 ∧
      Mirrors ((register.asOf now).set now key payload lifetime).2
        (memory.set now key payload lifetime).2 now := by
  rw [Register.set, mirrors.isSome key]
  cases live : memory.live? now key with
  | some entry =>
      rw [Memory.set_of_live live]
      exact ⟨rfl, mirrors.asOf⟩
  | none =>
      cases ends : now.plus? lifetime with
      | none =>
          rw [Memory.set_of_beyond live ends]
          exact ⟨rfl, mirrors.asOf.purged⟩
      | some expiry =>
          refine ⟨?_, mirrors.asOf.insert live ends payload⟩
          rw [Memory.set_of_free live ends]
          rfl

theorem use (mirrors : Mirrors register memory now) (use : Use) :
    (use.on now register).1 = (use.on now memory).1 ∧
      Mirrors (use.on now register).2 (use.on now memory).2 now := by
  cases use with
  | set key payload lifetime =>
      obtain ⟨same, kept⟩ := mirrors.set key payload lifetime
      exact ⟨congrArg Use.Reply.written same, kept⟩
  | get key =>
      exact ⟨congrArg (fun payload => Use.Reply.found (.ok payload)) (mirrors.payload key),
        mirrors.asOf⟩
  | take key =>
      exact ⟨congrArg (fun payload => Use.Reply.found (.ok payload)) (mirrors.payload key),
        mirrors.asOf.without key⟩
  | delete key =>
      exact ⟨congrArg (fun existed => Use.Reply.removed (.ok existed)) (mirrors.isSome key),
        mirrors.asOf.without key⟩

/-- A visit has the same reply, and it leads to what both have in common. -/
theorem visit (mirrors : Mirrors register memory now) (visit : Visit) :
    (visit.on now register).1 = (visit.on now memory).1 ∧
      Mirrors (visit.on now register).2 (visit.on now memory).2 now := by
  cases visit with
  | use wanted =>
      obtain ⟨same, kept⟩ := mirrors.use wanted
      exact ⟨congrArg Visit.Reply.used same, kept⟩
  | count => exact ⟨congrArg Visit.Reply.counted mirrors.count, mirrors⟩

end Mirrors

/-- In every course the replies are the same, and so is what is shown from its last instant on. -/
theorem mirrors_course (visits : List (Instant × Visit))
    (forward : visits.Pairwise fun earlier later => earlier.1 ≤ later.1) :
    (Visit.course visits Memory.empty).1 = (Visit.course visits Register.empty).1 ∧
      ∀ now, (∀ visit ∈ visits, visit.1 ≤ now) →
        Mirrors (Visit.course visits Register.empty).2 (Visit.course visits Memory.empty).2
          now := by
  induction visits using List.reverseRecOn with
  | nil => exact ⟨rfl, fun now _ => mirrors_empty now⟩
  | append_singleton earlier last ih =>
      obtain ⟨before, -, order⟩ := List.pairwise_append.1 forward
      obtain ⟨same, shown⟩ := ih before
      have mirrors := shown last.1 fun visit member =>
        order visit member last (List.mem_singleton_self last)
      obtain ⟨latest, kept⟩ := mirrors.visit last.2
      rw [Visit.course_concat, Visit.course_concat]
      refine ⟨congrArg₂ (· ++ [·]) same latest.symm, fun now past => kept.afterwards ?_⟩
      exact past last (List.mem_append_right _ (List.mem_singleton_self last))

/-- What becomes of a write, and how the store is left. -/
inductive Leaves (memory : Memory) (now : Instant) (key : String) :
    Option (Except Failure Unit) → Memory → Prop
  /-- A key in use is refused, and nothing changes. -/
  | refused (live : (memory.live? now key).isSome) :
      Leaves memory now key (some (.error .keyExists)) memory
  /-- There is no answer beyond the calendar, and every live session stays. -/
  | beyond {after : Memory} (free : memory.live? now key = none)
      (shown : ∀ later, now ≤ later → ∀ other,
        after.live? later other = memory.live? later other) :
      Leaves memory now key none after
  /-- The payload is kept, and no row of another session that is over is left. -/
  | kept {after : Memory} (free : memory.live? now key = none)
      (tidy : ∀ other entry, after.table.find? other = some entry → other ≠ key →
        entry.isLive now) :
      Leaves memory now key (some (.ok ())) after

theorem Memory.isLive_of_purged {entry : Entry}
    (found : (memory.purged now).table.find? key = some entry) : entry.isLive now := by
  rw [Memory.purged, Table.find?_filter] at found
  exact (Option.filter_eq_some_iff.1 found).2

theorem leaves_set (memory : Memory) (now : Instant) (key : String) (payload : Payload)
    (lifetime : Span) :
    Leaves memory now key (memory.set now key payload lifetime).1
      (memory.set now key payload lifetime).2 := by
  cases live : memory.live? now key with
  | some entry =>
      rw [Memory.set_of_live live]
      exact .refused (Option.isSome_of_eq_some live)
  | none =>
      cases ends : now.plus? lifetime with
      | none =>
          rw [Memory.set_of_beyond live ends]
          exact .beyond live fun later => Memory.live?_purged_of_le memory
      | some expiry =>
          rw [Memory.set_of_free live ends]
          refine .kept live fun other entry found different => ?_
          rw [Table.find?_insert, if_neg different] at found
          exact Memory.isLive_of_purged found

/-- Nobody can tell that what is over stays until it is removed. Under a clock that is never turned
back, the replies are those of a register that drops each session at its end; afterwards the store
shows what the register holds; and a write leaves nothing that is over, except for its own. -/
theorem expiry_invisible (visits : List (Instant × Visit))
    (forward : visits.Pairwise fun earlier later => earlier.1 ≤ later.1) :
    (Visit.course visits Memory.empty).1 = (Visit.course visits Register.empty).1 ∧
      (∀ now, (∀ visit ∈ visits, visit.1 ≤ now) → ∀ key,
        ((Visit.course visits Memory.empty).2.live? now key).map Entry.lease =
          ((Visit.course visits Register.empty).2.asOf now).find? key) ∧
      ∀ now key payload lifetime, Leaves (Visit.course visits Memory.empty).2 now key
        ((Visit.course visits Memory.empty).2.set now key payload lifetime).1
        ((Visit.course visits Memory.empty).2.set now key payload lifetime).2 := by
  obtain ⟨same, shown⟩ := mirrors_course visits forward
  exact ⟨same, fun now past key => (shown now past now (Int.le_refl _) key).symm, leaves_set _⟩

/-- The payload of a user. -/
def briefPayload : Payload :=
  ⟨"u", .user, by decide⟩

/-- A second after the epoch. -/
def briefEnd : Instant :=
  ⟨1000000000, by decide, by decide⟩

/-- A session of a second, one that is over at once, one that was over before, and one beyond the
calendar. -/
def briefVisits : List (Instant × Visit) :=
  [ (.epoch, .use (.set "a" briefPayload ⟨1000000000⟩)),
    (.epoch, .use (.set "b" briefPayload ⟨0⟩)),
    (.epoch, .use (.take "b")),
    (.epoch, .count),
    (⟨999999999, by decide, by decide⟩, .use (.set "a" briefPayload ⟨1000000000⟩)),
    (briefEnd, .use (.get "a")),
    (briefEnd, .use (.set "b" briefPayload ⟨-5⟩)),
    (briefEnd, .use (.delete "b")),
    (briefEnd, .use (.set "a" briefPayload ⟨8210266876800000000000⟩)),
    (briefEnd, .count) ]

theorem expiry_invisible_brief :
    (briefVisits.Pairwise fun earlier later => earlier.1 ≤ later.1) ∧
      (Visit.course briefVisits Memory.empty).1 =
        [ .used (.written (some (.ok ()))), .used (.written (some (.ok ()))),
          .used (.found (.ok none)), .counted 1, .used (.written (some (.error .keyExists))),
          .used (.found (.ok none)), .used (.written (some (.ok ()))),
          .used (.removed (.ok false)), .used (.written none), .counted 0 ] ∧
      ∀ now, (∀ visit ∈ briefVisits, visit.1 ≤ now) → ∀ key,
        (Visit.course briefVisits Memory.empty).2.live? now key = none := by
  have forward : briefVisits.Pairwise fun earlier later => earlier.1 ≤ later.1 := by decide
  obtain ⟨same, shown, -⟩ := expiry_invisible briefVisits forward
  refine ⟨forward, same.trans rfl, fun now past key => ?_⟩
  exact Option.map_eq_none_iff.1 (shown now past key)

end Bearer.Session
