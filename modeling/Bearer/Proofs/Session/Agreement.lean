import Bearer.Proofs.Identity.Payload
import Bearer.Proofs.Session.Uses
import Bearer.Redis.Sessions

/-!
# A server and a memory agree

A server keeps the JSON texts of the payloads that a memory keeps itself. As long as no session
ends, both give the same replies and use the same keys, and each use of the server is one command:
`stores_agree`. What they have in common is `Agrees`; each use preserves it.
-/

namespace Bearer

open Redis (Command Link Server payloadIn secondsOf)

theorem Redis.secondsOf_of_second_le {lifetime : Span}
    (long : Span.second ≤ lifetime.nanoseconds) :
    max 1 (secondsOf lifetime) = lifetime.wholeSeconds.toNat := by
  have whole : 1 ≤ lifetime.wholeSeconds := by
    rw [Span.wholeSeconds, Int.tdiv_eq_ediv_of_nonneg (Int.le_trans (by decide) long)]
    exact (Int.le_ediv_iff_mul_le (by decide)).2 (by simpa using long)
  rw [secondsOf]
  omega

namespace Redis.Link

variable {link : Link}

/-- A link to a server without values. -/
def fresh : Link :=
  ⟨Table.empty, none, []⟩

/-- The link after a command was carried out. -/
def carrying (link : Link) (command : Command) : Link :=
  { link with server := (link.server.answer command).2, sent := link.sent ++ [command] }

theorem send_of_up (up : link.outage = none) (command : Command) :
    link.send command = (.ok (link.server.answer command).1, link.carrying command) := by
  obtain ⟨server, outage, sent⟩ := link
  cases up
  rfl

theorem textIn_reply (value : Option String) : textIn (Server.reply value) = value := by
  cases value <;> rfl

theorem setSession_of_up (up : link.outage = none) (key : String) (payload : Payload)
    (lifetime : Span) :
    link.setSession key payload lifetime =
      (if (link.server.find? key).isSome then .error .keyExists else .ok (),
        link.carrying
          (.setAbsent key (String.ofList payload.encode) (max 1 (secondsOf lifetime)))) := by
  rw [setSession, setAbsent, send_of_up up]
  cases held : link.server.find? key <;> simp [Server.answer, held] <;> rfl

theorem getSession_of_up (up : link.outage = none) (key : String) :
    link.getSession key = (payloadIn (link.server.find? key), link.carrying (.get key)) := by
  rw [getSession, get, send_of_up up]
  simp only [Except.map, Server.answer, textIn_reply]

theorem takeSession_of_up (up : link.outage = none) (key : String) :
    link.takeSession key =
      (payloadIn (link.server.find? key), link.carrying (.getDelete key)) := by
  rw [takeSession, getDelete, send_of_up up]
  simp only [Except.map, Server.answer, textIn_reply]

theorem deleteSession_of_up (up : link.outage = none) (key : String) :
    link.deleteSession key =
      (.ok (link.server.find? key).isSome, link.carrying (.delete key)) := by
  rw [deleteSession, delete, send_of_up up]
  cases held : link.server.find? key <;> simp [Server.answer, held] <;> rfl

end Redis.Link

namespace Session

variable {link : Link} {memory : Memory} {now : Instant}

/-- No row of the store is over. -/
def Memory.Unended (memory : Memory) (now : Instant) : Prop :=
  ∀ row ∈ memory.table.rows, now < row.2.expiry

/-- Rows are compared with the instant one by one. -/
instance (memory : Memory) (now : Instant) : Decidable (memory.Unended now) :=
  inferInstanceAs (Decidable (∀ row ∈ memory.table.rows, now < row.2.expiry))

theorem Memory.Unended.live? (unended : memory.Unended now) (key : String) :
    memory.live? now key = memory.table.find? key := by
  rw [Memory.live?]
  cases found : memory.table.find? key with
  | none => rfl
  | some entry =>
      obtain ⟨before, after, rows, -⟩ := List.lookup_eq_some_iff.1 found
      have member : (key, entry) ∈ memory.table.rows := by
        rw [rows]
        exact List.mem_append_right _ List.mem_cons_self
      exact Option.filter_some_pos (decide_eq_true (unended _ member))

theorem Memory.Unended.find?_purged (unended : memory.Unended now) (key : String) :
    (memory.purged now).table.find? key = memory.table.find? key := by
  rw [← unended.live?, Memory.purged, Table.find?_filter]
  rfl

theorem Memory.Unended.get (unended : memory.Unended now) (key : String) :
    Store.get memory now key = (.ok ((memory.table.find? key).map (·.payload)), memory) := by
  rw [← unended.live? key]
  rfl

theorem Memory.Unended.take (unended : memory.Unended now) (key : String) :
    Store.take memory now key =
      (.ok ((memory.table.find? key).map (·.payload)), ⟨memory.table.erase key⟩) := by
  rw [← unended.live? key]
  rfl

theorem Memory.Unended.delete (unended : memory.Unended now) (key : String) :
    Store.delete memory now key =
      (.ok (memory.table.find? key).isSome, ⟨memory.table.erase key⟩) := by
  rw [← unended.live? key]
  rfl

/-- A server that is reached has the texts of the payloads in a memory. -/
structure Agrees (link : Link) (memory : Memory) : Prop where
  /-- The server is reached. -/
  up : link.outage = none
  /-- The text under each key is that of the payload. -/
  held : ∀ key, link.server.find? key =
    (memory.table.find? key).map fun entry => String.ofList entry.payload.encode

theorem agrees_fresh : Agrees .fresh .empty where
  up := rfl
  held := fun _ => rfl

/-- The command that a use is. -/
def Use.command : Use → Command
  | set key payload lifetime =>
    .setAbsent key (String.ofList payload.encode) lifetime.wholeSeconds.toNat
  | get key => .get key
  | take key => .getDelete key
  | delete key => .delete key

/-- A session is to last for a second or more, and to end within the calendar. -/
def Use.Lasts (now : Instant) : Use → Prop
  | set _ _ lifetime => Span.second ≤ lifetime.nanoseconds ∧ (now.plus? lifetime).isSome
  | get _ => True
  | take _ => True
  | delete _ => True

/-- A lifetime is compared with the limits. -/
instance (now : Instant) : (use : Use) → Decidable (use.Lasts now)
  | .set _ _ lifetime =>
    inferInstanceAs (Decidable (Span.second ≤ lifetime.nanoseconds ∧ (now.plus? lifetime).isSome))
  | .get _ => .isTrue trivial
  | .take _ => .isTrue trivial
  | .delete _ => .isTrue trivial

namespace Agrees

theorem isSome (agrees : Agrees link memory) (key : String) :
    (link.server.find? key).isSome = (memory.table.find? key).isSome := by
  rw [agrees.held key, Option.isSome_map]

theorem payloadIn_find? (agrees : Agrees link memory) (key : String) :
    payloadIn (link.server.find? key) = .ok ((memory.table.find? key).map (·.payload)) := by
  rw [agrees.held key]
  cases memory.table.find? key with
  | none => rfl
  | some entry =>
      simp only [Option.map_some, payloadIn]
      rw [Payload.decode_encode]

theorem get (agrees : Agrees link memory) (key : String) :
    Agrees (link.carrying (.get key)) memory :=
  ⟨agrees.up, agrees.held⟩

theorem erase {after : Link} {key : String} (agrees : Agrees link memory)
    (up : after.outage = link.outage) (erased : after.server = link.server.erase key) :
    Agrees after ⟨memory.table.erase key⟩ where
  up := up.trans agrees.up
  held := by
    intro other
    rw [erased, Table.find?_erase, Table.find?_erase, agrees.held other]
    split <;> rfl

theorem set (agrees : Agrees link memory) (unended : memory.Unended now) (key : String)
    (payload : Payload) {lifetime : Span} (ends : (now.plus? lifetime).isSome) :
    some (if (link.server.find? key).isSome then .error .keyExists else .ok ()) =
        (memory.set now key payload lifetime).1 ∧
      Agrees (link.carrying
          (.setAbsent key (String.ofList payload.encode) lifetime.wholeSeconds.toNat))
        (memory.set now key payload lifetime).2 := by
  rw [agrees.isSome key]
  cases found : memory.table.find? key with
  | some entry =>
      rw [Memory.set_of_live ((unended.live? key).trans found)]
      refine ⟨rfl, agrees.up, fun other => ?_⟩
      rw [Link.carrying, Server.find?_setAbsent, agrees.held key, found, agrees.held other]
      split
      · rename_i same
        rw [same, found]
        rfl
      · rfl
  | none =>
      obtain ⟨expiry, ends⟩ := Option.isSome_iff_exists.1 ends
      rw [Memory.set_of_free ((unended.live? key).trans found) ends]
      refine ⟨rfl, agrees.up, fun other => ?_⟩
      rw [Link.carrying, Server.find?_setAbsent, agrees.held key, found, agrees.held other,
        Table.find?_insert, unended.find?_purged]
      split <;> rfl

theorem use (agrees : Agrees link memory) (unended : memory.Unended now) (use : Use)
    (lasts : use.Lasts now) :
    (use.on now link).1 = (use.on now memory).1 ∧
      (use.on now link).2 = link.carrying use.command ∧
      Agrees (use.on now link).2 (use.on now memory).2 := by
  cases use with
  | set key payload lifetime =>
      obtain ⟨same, kept⟩ := agrees.set unended key payload lasts.2
      have written := Link.setSession_of_up agrees.up key payload lifetime
      rw [Redis.secondsOf_of_second_le lasts.1] at written
      simp only [Use.on, Store.set, written]
      exact ⟨congrArg Use.Reply.written same, rfl, kept⟩
  | get key =>
      simp only [Use.on, unended.get]
      simp only [Store.get, Link.getSession_of_up agrees.up, agrees.payloadIn_find?]
      exact ⟨rfl, rfl, agrees.get key⟩
  | take key =>
      simp only [Use.on, unended.take]
      simp only [Store.take, Link.takeSession_of_up agrees.up, agrees.payloadIn_find?]
      exact ⟨rfl, rfl, agrees.erase rfl rfl⟩
  | delete key =>
      simp only [Use.on, unended.delete]
      simp only [Store.delete, Link.deleteSession_of_up agrees.up, agrees.isSome]
      exact ⟨rfl, rfl, agrees.erase rfl rfl⟩

end Agrees

/-! ## Courses without an end of a session -/

variable {uses : List (Instant × Use)}

/-- In a course, no use is made when a session is over, and each session is to last. -/
def Staying : Memory → List (Instant × Use) → Prop
  | _, [] => True
  | memory, (now, use) :: later =>
    (memory.Unended now ∧ use.Lasts now) ∧ Staying (use.on now memory).2 later

/-- A course is followed to its end. -/
instance decidableStaying : (memory : Memory) → (uses : List (Instant × Use)) →
    Decidable (Staying memory uses)
  | _, [] => .isTrue trivial
  | memory, (now, use) :: later =>
    have := decidableStaying (use.on now memory).2 later
    inferInstanceAs (Decidable ((memory.Unended now ∧ use.Lasts now) ∧
      Staying (use.on now memory).2 later))

theorem Staying.of_append {later : List (Instant × Use)}
    (staying : Staying memory (uses ++ later)) : Staying memory uses := by
  induction uses generalizing memory with
  | nil => exact trivial
  | cons first rest ih => exact ⟨staying.1, ih staying.2⟩

theorem Staying.lasts (staying : Staying memory uses) :
    ∀ timed ∈ uses, timed.2.Lasts timed.1 := by
  induction uses generalizing memory with
  | nil => exact fun _ member => nomatch member
  | cons first rest ih => exact List.forall_mem_cons.2 ⟨staying.1.2, ih staying.2⟩

theorem agrees_course (agrees : Agrees link memory) (staying : Staying memory uses) :
    (Use.course uses link).1 = (Use.course uses memory).1 ∧
      (Use.course uses link).2.sent = link.sent ++ uses.map (·.2.command) ∧
      Agrees (Use.course uses link).2 (Use.course uses memory).2 := by
  induction uses generalizing link memory with
  | nil => exact ⟨rfl, (List.append_nil _).symm, agrees⟩
  | cons first rest ih =>
      obtain ⟨⟨unended, lasts⟩, later⟩ := staying
      obtain ⟨reply, sends, kept⟩ := agrees.use unended first.2 lasts
      obtain ⟨replies, sent, agrees⟩ := ih kept later
      refine ⟨congrArg₂ List.cons reply replies, sent.trans ?_, agrees⟩
      rw [sends, Link.carrying, List.map_cons, List.append_assoc]
      rfl

/-- The words of the command that a use is. A write is conditional, and it carries the whole seconds
of the lifetime. -/
def Use.words : Use → List String
  | set key payload lifetime =>
    ["SET", key, String.ofList payload.encode, "NX", "EX", toString lifetime.wholeSeconds]
  | get key => ["GET", key]
  | take key => ["GETDEL", key]
  | delete key => ["DEL", key]

theorem Use.words_command {use : Use} (lasts : use.Lasts now) : use.command.words = use.words := by
  cases use with
  | set key payload lifetime =>
      have whole : 0 ≤ lifetime.wholeSeconds :=
        Int.tdiv_nonneg (Int.le_trans (by decide) lasts.1) (by decide)
      have same : toString lifetime.wholeSeconds.toNat = toString lifetime.wholeSeconds := by
        conv_rhs => rw [← Int.toNat_of_nonneg whole]
        rfl
      simp only [command, Command.words, words, same]
  | get key => rfl
  | take key => rfl
  | delete key => rfl

/-- As long as no session ends, a server and a memory give the same replies and use the same keys,
and what is sent to the server are the words of the uses. -/
theorem stores_agree (uses : List (Instant × Use)) (staying : Staying .empty uses) :
    (Use.course uses Link.fresh).1 = (Use.course uses Memory.empty).1 ∧
      (∀ earlier, earlier <+: uses → ∀ key,
        key ∈ (Use.course earlier Link.fresh).2.server.keys ↔
          key ∈ (Use.course earlier Memory.empty).2.table.keys) ∧
      (Use.course uses Link.fresh).2.sent.map Command.words =
        uses.map fun timed => timed.2.words := by
  obtain ⟨replies, sent, -⟩ := agrees_course agrees_fresh staying
  refine ⟨replies, ?_, ?_⟩
  · rintro earlier ⟨later, rfl⟩ key
    have agrees := (agrees_course agrees_fresh staying.of_append).2.2
    rw [Table.mem_keys_iff, Table.mem_keys_iff, agrees.isSome]
  · rw [sent, List.map_append, List.map_map]
    exact List.map_congr_left fun timed member => Use.words_command (staying.lasts timed member)

/-- Two sessions under one key, of which the second is opened after the first was taken. -/
def twoUses : List (Instant × Use) :=
  [ (.epoch, .set "a" ⟨"\"\\", .user, by decide⟩ ⟨1500000000⟩),
    (.epoch, .set "a" ⟨"b", .user, by decide⟩ ⟨1000000000⟩),
    (⟨1499999999, by decide, by decide⟩, .take "a"),
    (⟨1499999999, by decide, by decide⟩, .get "a"),
    (⟨1500000000, by decide, by decide⟩, .set "a" ⟨"b", .user, by decide⟩ ⟨1000000000⟩),
    (⟨2499999999, by decide, by decide⟩, .get "a"),
    (⟨2499999999, by decide, by decide⟩, .delete "a"),
    (⟨2500000000, by decide, by decide⟩, .delete "a") ]

theorem stores_agree_two :
    Staying .empty twoUses ∧
      (Use.course twoUses Link.fresh).1 =
        [ .written (some (.ok ())), .written (some (.error .keyExists)),
          .found (.ok (some ⟨"\"\\", .user, by decide⟩)), .found (.ok none),
          .written (some (.ok ())), .found (.ok (some ⟨"b", .user, by decide⟩)),
          .removed (.ok true), .removed (.ok false) ] ∧
      (Use.course twoUses Link.fresh).2.sent.map Command.words =
        [ ["SET", "a", "\x7b\"subject_id\":\"\\\"\\\\\",\"role\":\"user\"\x7d", "NX", "EX", "1"],
          ["SET", "a", "\x7b\"subject_id\":\"b\",\"role\":\"user\"\x7d", "NX", "EX", "1"],
          ["GETDEL", "a"], ["GET", "a"],
          ["SET", "a", "\x7b\"subject_id\":\"b\",\"role\":\"user\"\x7d", "NX", "EX", "1"],
          ["GET", "a"], ["DEL", "a"], ["DEL", "a"] ] := by
  have staying : Staying .empty twoUses := by decide
  obtain ⟨replies, -, sent⟩ := stores_agree twoUses staying
  exact ⟨staying, replies.trans rfl, sent.trans (by decide)⟩

end Session

end Bearer
