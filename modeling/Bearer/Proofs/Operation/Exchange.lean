import Bearer.Service.Operation

/-!
# What an operation asks and hears

An exchange is a request with the reply that it got. `Operation.Leads` says what is left of an
operation after some exchanges, whoever replied and whatever the clock showed. The inversion lemmas
take the operation apart from its first step on, and `leads_bind` splits the exchanges of two
operations in sequence.
-/

namespace Bearer

/-- A request with the reply that it got. -/
structure Exchange where
  /-- What was asked. -/
  request : Request
  /-- What was replied. -/
  reply : request.Reply

namespace Operation

variable {α β : Type}

/-- Some exchanges lead from an operation to the rest of it. -/
inductive Leads : Operation α → List Exchange → Operation α → Prop where
  /-- Nothing was asked yet. -/
  | stay (operation : Operation α) : Leads operation [] operation
  /-- The clock showed an instant. -/
  | clock {next : Instant → Operation α} {exchanges : List Exchange} {rest : Operation α}
      (now : Instant) (later : Leads (next now) exchanges rest) :
      Leads (.clock next) exchanges rest
  /-- Something was logged. -/
  | note {event : Event} {next : Operation α} {exchanges : List Exchange} {rest : Operation α}
      (later : Leads next exchanges rest) : Leads (.note event next) exchanges rest
  /-- A request got a reply. -/
  | ask {request : Request} {next : request.Reply → Operation α} {exchanges : List Exchange}
      {rest : Operation α} (reply : request.Reply) (later : Leads (next reply) exchanges rest) :
      Leads (.ask request next) (⟨request, reply⟩ :: exchanges) rest

theorem Leads.trans {first middle last : Operation α} {earlier later : List Exchange}
    (begun : Leads first earlier middle) (ended : Leads middle later last) :
    Leads first (earlier ++ later) last := by
  induction begun with
  | stay operation => exact ended
  | clock now _ ih => exact .clock now (ih ended)
  | note _ ih => exact .note (ih ended)
  | ask reply _ ih => exact .ask reply (ih ended)

theorem leads_finish {value : α} {exchanges : List Exchange} {rest : Operation α}
    (leads : Leads (finish value) exchanges rest) : exchanges = [] ∧ rest = finish value := by
  cases leads
  exact ⟨rfl, rfl⟩

theorem leads_overflow {exchanges : List Exchange} {rest : Operation α}
    (leads : Leads overflow exchanges rest) : exchanges = [] ∧ rest = overflow := by
  cases leads
  exact ⟨rfl, rfl⟩

theorem leads_clock {next : Instant → Operation α} {exchanges : List Exchange}
    {rest : Operation α} (leads : Leads (clock next) exchanges rest) :
    (exchanges = [] ∧ rest = clock next) ∨ ∃ now, Leads (next now) exchanges rest := by
  cases leads with
  | stay => exact .inl ⟨rfl, rfl⟩
  | clock now later => exact .inr ⟨now, later⟩

theorem leads_note {event : Event} {next : Operation α} {exchanges : List Exchange}
    {rest : Operation α} (leads : Leads (note event next) exchanges rest) :
    (exchanges = [] ∧ rest = note event next) ∨ Leads next exchanges rest := by
  cases leads with
  | stay => exact .inl ⟨rfl, rfl⟩
  | note later => exact .inr later

theorem leads_lastNote {event : Event} {value : α} {exchanges : List Exchange}
    {rest : Operation α} (leads : Leads (note event (finish value)) exchanges rest) :
    exchanges = [] := by
  rcases leads_note leads with ⟨silent, -⟩ | ended
  · exact silent
  · exact (leads_finish ended).1

theorem leads_ask {request : Request} {next : request.Reply → Operation α}
    {exchanges : List Exchange} {rest : Operation α}
    (leads : Leads (ask request next) exchanges rest) :
    (exchanges = [] ∧ rest = ask request next) ∨
      ∃ reply later, exchanges = ⟨request, reply⟩ :: later ∧ Leads (next reply) later rest := by
  cases leads with
  | stay => exact .inl ⟨rfl, rfl⟩
  | ask reply later => exact .inr ⟨reply, _, rfl, later⟩

/-- Of two operations in sequence either the first one is under way, or it is over and the second
one is under way with its value. -/
theorem leads_bind {operation : Operation α} {next : α → Operation β}
    {exchanges : List Exchange} {rest : Operation β}
    (leads : Leads (operation.bind next) exchanges rest) :
    (∃ middle, Leads operation exchanges middle ∧ rest = middle.bind next) ∨
      ∃ earlier later value, exchanges = earlier ++ later ∧
        Leads operation earlier (finish value) ∧ Leads (next value) later rest := by
  induction operation generalizing exchanges with
  | finish value => exact .inr ⟨[], exchanges, value, rfl, .stay _, leads⟩
  | overflow =>
      obtain ⟨rfl, rfl⟩ := leads_overflow leads
      exact .inl ⟨overflow, .stay _, rfl⟩
  | clock following ih =>
      rcases leads_clock leads with ⟨rfl, rfl⟩ | ⟨now, later⟩
      · exact .inl ⟨clock following, .stay _, rfl⟩
      · rcases ih now later with ⟨middle, begun, rfl⟩ | ⟨earlier, after, value, rfl, begun, ended⟩
        · exact .inl ⟨middle, .clock now begun, rfl⟩
        · exact .inr ⟨earlier, after, value, rfl, .clock now begun, ended⟩
  | note event following ih =>
      rcases leads_note leads with ⟨rfl, rfl⟩ | later
      · exact .inl ⟨note event following, .stay _, rfl⟩
      · rcases ih later with ⟨middle, begun, rfl⟩ | ⟨earlier, after, value, rfl, begun, ended⟩
        · exact .inl ⟨middle, .note begun, rfl⟩
        · exact .inr ⟨earlier, after, value, rfl, .note begun, ended⟩
  | ask request following ih =>
      rcases leads_ask leads with ⟨rfl, rfl⟩ | ⟨reply, later, rfl, remaining⟩
      · exact .inl ⟨ask request following, .stay _, rfl⟩
      · rcases ih reply remaining with
          ⟨middle, begun, rfl⟩ | ⟨earlier, after, value, rfl, begun, ended⟩
        · exact .inl ⟨middle, .ask reply begun, rfl⟩
        · exact .inr ⟨⟨request, reply⟩ :: earlier, after, value, rfl, .ask reply begun, ended⟩

/-- An operation in sequence ends in a value only through the end of the first one. -/
theorem leads_bind_finish {operation : Operation α} {next : α → Operation β}
    {exchanges : List Exchange} {result : β}
    (leads : Leads (operation.bind next) exchanges (finish result)) :
    ∃ earlier later value, exchanges = earlier ++ later ∧
      Leads operation earlier (finish value) ∧ Leads (next value) later (finish result) := by
  rcases leads_bind leads with ⟨middle, begun, ended⟩ | split
  · cases middle with
    | finish value => exact ⟨exchanges, [], value, by simp, begun, ended ▸ .stay _⟩
    | overflow => cases ended
    | clock _ => cases ended
    | note _ _ => cases ended
    | ask _ _ => cases ended
  · exact split

/-- Where nothing is asked after the first operation, only the first one asks. -/
theorem leads_bind_silent {operation : Operation α} {next : α → Operation β}
    {exchanges : List Exchange} {rest : Operation β}
    (silent : ∀ value later, Leads (next value) later rest → later = [])
    (leads : Leads (operation.bind next) exchanges rest) :
    ∃ middle, Leads operation exchanges middle := by
  rcases leads_bind leads with ⟨middle, begun, -⟩ | ⟨earlier, later, value, rfl, begun, ended⟩
  · exact ⟨middle, begun⟩
  · rw [silent value later ended, List.append_nil]
    exact ⟨finish value, begun⟩

theorem leads_mapped {f : α → β} {operation : Operation α} {exchanges : List Exchange}
    {rest : Operation β} (leads : Leads (operation.mapped f) exchanges rest) :
    ∃ middle, Leads operation exchanges middle := by
  apply leads_bind_silent ?_ leads
  intro value later ended
  exact (leads_finish ended).1

theorem leads_mapped_finish {f : α → β} {operation : Operation α} {exchanges : List Exchange}
    {result : β} (leads : Leads (operation.mapped f) exchanges (finish result)) :
    ∃ value, Leads operation exchanges (finish value) ∧ result = f value := by
  obtain ⟨earlier, later, value, rfl, begun, ended⟩ := leads_bind_finish leads
  obtain ⟨rfl, same⟩ := leads_finish ended
  cases same
  exact ⟨value, by simpa using begun, rfl⟩

end Operation

end Bearer
