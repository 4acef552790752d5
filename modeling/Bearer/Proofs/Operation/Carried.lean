import Bearer.Service.World

/-!
# Operations carried out at an instant

`Request.served` is what a store does with one request at an instant, while the directories and the
password check answer as they like. `Operation.carried` does so for all requests of an operation,
one after the other. `agrees_run` says that an operation in time comes to the same where nobody is
slow, nothing is refused and nothing interrupts it.
-/

namespace Bearer

/-- How those who are asked beside the session store answer. -/
structure Surroundings where
  /-- What a directory says about a name. -/
  find : Place → String → Except Directory.Outage (Option Account)
  /-- Whether a password belongs to a hash. -/
  compare : String → String → Bool

/-- Surroundings in which nobody is known. -/
def Surroundings.deserted : Surroundings where
  find := fun _ _ => .ok none
  compare := fun _ _ => false

variable {σ α β : Type} [Session.Store σ]

/-- The reply to a request at an instant, and the store after it; no reply beyond the calendar. -/
def Request.served (surroundings : Surroundings) (now : Instant) (store : σ) :
    (request : Request) → Option request.Reply × σ
  | .set key payload lifetime => Session.Store.set store now key payload lifetime
  | .take key => (Session.Store.take store now key).map some id
  | .delete key => (Session.Store.delete store now key).map some id
  | .find place name => (some (surroundings.find place name), store)
  | .compare hash password => (some (surroundings.compare hash password), store)

namespace Operation

/-- What an operation comes to at an instant, or nothing beyond the calendar, and the store. -/
def carried (surroundings : Surroundings) (now : Instant) : Operation α → σ → Option α × σ
  | finish value, store => (some value, store)
  | overflow, store => (none, store)
  | clock next, store => (next now).carried surroundings now store
  | note _ next, store => next.carried surroundings now store
  | ask request next, store =>
    match request.served surroundings now store with
    | (some reply, store) => (next reply).carried surroundings now store
    | (none, store) => (none, store)

variable {surroundings : Surroundings} {now : Instant} {store middle : σ} {value : α}

@[simp]
theorem carried_finish (value : α) (store : σ) :
    (finish value).carried surroundings now store = (some value, store) := rfl

@[simp]
theorem carried_overflow (store : σ) :
    (overflow : Operation α).carried surroundings now store = (none, store) := rfl

@[simp]
theorem carried_clock (next : Instant → Operation α) (store : σ) :
    (clock next).carried surroundings now store = (next now).carried surroundings now store := rfl

@[simp]
theorem carried_note (event : Event) (next : Operation α) (store : σ) :
    (note event next).carried surroundings now store = next.carried surroundings now store := rfl

theorem carried_ask {request : Request} {next : request.Reply → Operation α}
    {reply : request.Reply}
    (replied : request.served surroundings now store = (some reply, middle)) :
    (ask request next).carried surroundings now store =
      (next reply).carried surroundings now middle := by
  rw [carried, replied]

theorem carried_ask_none {request : Request} {next : request.Reply → Operation α}
    (replied : request.served surroundings now store = (none, middle)) :
    (ask request next).carried surroundings now store = (none, middle) := by
  rw [carried, replied]

theorem carried_bind (operation : Operation α) (next : α → Operation β) (store : σ) :
    (operation.bind next).carried surroundings now store =
      match operation.carried surroundings now store with
      | (some value, middle) => (next value).carried surroundings now middle
      | (none, middle) => (none, middle) := by
  induction operation generalizing store with
  | finish value => rfl
  | overflow => rfl
  | clock rest ih => exact ih now store
  | note event rest ih => exact ih store
  | ask request rest ih =>
      rw [bind, carried, carried]
      cases replied : request.served surroundings now store with
      | mk reply middle =>
          cases reply with
          | none => rfl
          | some reply => exact ih reply middle

theorem carried_mapped (f : α → β) (operation : Operation α) (store : σ) :
    (operation.mapped f).carried surroundings now store =
      ((operation.carried surroundings now store).1.map f,
        (operation.carried surroundings now store).2) := by
  rw [mapped, carried_bind]
  cases operation.carried surroundings now store with
  | mk value middle => cases value <;> rfl

theorem exists_of_carried_ask {request : Request} {next : request.Reply → Operation α}
    {after : σ} (ended : (ask request next).carried surroundings now store = (some value, after)) :
    ∃ reply middle, request.served surroundings now store = (some reply, middle) ∧
      (next reply).carried surroundings now middle = (some value, after) := by
  rw [carried] at ended
  split at ended
  · rename_i reply middle replied
    exact ⟨reply, middle, replied, ended⟩
  · cases ended

end Operation

/-- How the directories of a world and a password check answer. -/
def World.surroundings (world : World σ) (comparator : Password.Comparator) : Surroundings where
  find := fun place name => .ok ((world.directory place).find? name)
  compare := comparator

theorem Conduct.served_surroundings (conduct : Conduct) (world : World σ) (request : Request) :
    request.served (world.surroundings conduct.comparator) world.clock.now world.store =
      (conduct.reply? world request, (world.served request).store) := by
  cases request <;> rfl

namespace Operation

variable {comparator : Password.Comparator}

private theorem run_asked (request : Request) (next : request.Reply → Timed (World σ) α)
    (moment : Nat) (world : World σ) :
    (asked (Conduct.prompt comparator) request next).run moment world =
      match (Conduct.prompt comparator).reply? (world.begun request) request with
      | none => ⟨.overflowed, moment, (world.begun request).served request⟩
      | some reply => (next reply).run moment
          (((world.begun request).served request).settled world.calls.length) := by
  have prompt : (Conduct.prompt comparator).before request = 0 ∧
      (Conduct.prompt comparator).after request = 0 := by cases request <;> exact ⟨rfl, rfl⟩
  have willing : (Conduct.prompt comparator).refusal? request = none := by
    cases request with
    | find place name => cases place <;> rfl
    | _ => rfl
  rw [asked, Timed.run, Timed.run_wait, prompt.1, willing]
  change (match (Conduct.prompt comparator).reply? (world.begun request) request with
    | none => Timed.overflow
    | some reply => Timed.wait _ (Timed.act _ fun _ => next reply)).run _ _ = _
  cases (Conduct.prompt comparator).reply? (world.begun request) request with
  | none => rfl
  | some reply =>
      dsimp only
      rw [Timed.run_wait, prompt.2]
      rfl

/-- An operation that was carried out at once in a world came to what it comes to in time. -/
structure Agrees (comparator : Password.Comparator) (operation : Operation α) (world : World σ)
    (outcome : Outcome (World σ) α) : Prop where
  /-- The ending is the value, or it is beyond the calendar. -/
  ending : outcome.ending =
    match (operation.carried (world.surroundings comparator) world.clock.now world.store).1 with
    | some value => .finished value
    | none => .overflowed
  /-- The store is left alike. -/
  store : outcome.state.store =
    (operation.carried (world.surroundings comparator) world.clock.now world.store).2
  /-- The clock stands. -/
  clock : outcome.state.clock = world.clock

theorem Agrees.carried {operation : Operation α} {world : World σ} {outcome : Outcome (World σ) α}
    {value : α} (agrees : Agrees comparator operation world outcome)
    (ended : outcome.ending = .finished value) :
    (operation.carried (world.surroundings comparator) world.clock.now world.store).1 =
      some value := by
  rw [agrees.ending] at ended
  split at ended
  · next result => rw [result, Ending.finished.inj ended]
  · cases ended

/-- An operation in time comes to what is carried out at once where nobody is slow and nothing is
refused. -/
theorem agrees_run (operation : Operation α) (moment : Nat) (world : World σ) :
    Agrees comparator operation world
      ((operation.timed (Conduct.prompt comparator)).run moment world) := by
  induction operation generalizing world with
  | finish value => exact ⟨rfl, rfl, rfl⟩
  | overflow => exact ⟨rfl, rfl, rfl⟩
  | clock next ih =>
      obtain ⟨ending, store, clock⟩ := ih world.clock.now world
      exact ⟨ending, store, clock⟩
  | note event next ih =>
      obtain ⟨ending, store, clock⟩ := ih (world.noted event)
      exact ⟨ending, store, clock⟩
  | ask request next ih =>
      cases replied :
          request.served (world.surroundings comparator) world.clock.now world.store with
      | mk reply left =>
          have replies : (Conduct.prompt comparator).reply? (world.begun request) request =
              reply := by cases request <;> exact congrArg Prod.fst replied
          have leaves : (((world.begun request).served request).settled
              world.calls.length).store = left := by
            cases request <;> exact congrArg Prod.snd replied
          have still : (((world.begun request).served request).settled
              world.calls.length).clock = world.clock := by cases request <;> rfl
          have around : (((world.begun request).served request).settled
              world.calls.length).surroundings comparator = world.surroundings comparator := by
            cases request <;> rfl
          rw [timed, timedBy, Timed.run, run_asked, id, replies]
          cases reply with
          | none =>
              refine ⟨?_, ?_, still⟩
              · rw [carried_ask_none replied]
              · rw [carried_ask_none replied]
                exact leaves
          | some reply =>
              obtain ⟨ending, store, clock⟩ := ih reply
                (((world.begun request).served request).settled world.calls.length)
              rw [around, still, leaves] at ending store
              refine ⟨?_, ?_, clock.trans still⟩
              · rw [carried_ask replied]
                exact ending
              · rw [carried_ask replied]
                exact store

end Operation

end Bearer
