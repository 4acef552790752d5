import Bearer.Proofs.Operation.Course

/-!
# What an operation comes to in a world

`Operation.performed` makes the requests of an operation one after the other and gives its value
with the world that it leaves: the calls, the log and the store. How long the collaborators take
does not matter for it, and the operation in time comes to just that: `ends_performed`.
-/

namespace Bearer

variable {σ α β : Type} [Session.Store σ]

namespace World

/-- The world after one more call, with what the call left of the store. -/
def called (world : World σ) (request : Request) (done : Bool) (store : σ) : World σ :=
  { world with calls := world.calls ++ [⟨request, done⟩], store }

omit [Session.Store σ] in
@[simp]
theorem clock_called (world : World σ) (request : Request) (done : Bool) (store : σ) :
    (world.called request done store).clock = world.clock := rfl

/-- The reply to a request, and the world after it; no reply beyond the calendar. -/
def asked (world : World σ) (conduct : Conduct) (request : Request) :
    Option request.Reply × World σ :=
  match conduct.refusal? request with
  | some reply => (some reply, world.called request false world.store)
  | none =>
    let after := request.effect world.clock.now world.store
    let reply := conduct.reply? world request
    (reply, world.called request reply.isSome after)

variable {world : World σ} {conduct : Conduct} {request : Request} {reply : request.Reply}

theorem asked_of_refusal (refusal : conduct.refusal? request = some reply) :
    world.asked conduct request = (some reply, world.called request false world.store) := by
  rw [asked, refusal]

theorem asked_of_reply (willing : conduct.refusal? request = none)
    (replied : conduct.reply? world request = some reply) :
    world.asked conduct request =
      (some reply, world.called request true (request.effect world.clock.now world.store)) := by
  rw [asked, willing]
  dsimp only
  rw [replied]
  rfl

theorem asked_of_broken (willing : conduct.refusal? request = none)
    (broken : conduct.reply? world request = none) :
    world.asked conduct request =
      (none, world.called request false (request.effect world.clock.now world.store)) := by
  rw [asked, willing]
  dsimp only
  rw [broken]
  rfl

theorem calls_asked (world : World σ) (conduct : Conduct) (request : Request) :
    ∃ done, (world.asked conduct request).2.calls = world.calls ++ [⟨request, done⟩] := by
  unfold asked
  split
  · exact ⟨_, rfl⟩
  · exact ⟨_, rfl⟩

theorem clock_asked (world : World σ) (conduct : Conduct) (request : Request) :
    (world.asked conduct request).2.clock = world.clock := by
  unfold asked
  split
  · rfl
  · rfl

theorem log_asked (world : World σ) (conduct : Conduct) (request : Request) :
    (world.asked conduct request).2.log = world.log := by
  unfold asked
  split
  · rfl
  · rfl

end World

namespace Operation

/-- The value of an operation, or nothing beyond the calendar, and the world that it leaves. -/
def performed (conducts : Conducts) : Operation α → World σ → Option α × World σ
  | finish value, world => (some value, world)
  | overflow, world => (none, world)
  | clock next, world => (next world.clock.now).performed conducts world
  | note event next, world => next.performed conducts (world.noted event)
  | ask request next, world =>
    match world.asked (conducts world.calls.length) request with
    | (some reply, world) => (next reply).performed conducts world
    | (none, world) => (none, world)

variable {conducts : Conducts} {operation rest : Operation α} {world after : World σ}
  {moment later : Nat}

theorem performed_ask {request : Request} {next : request.Reply → Operation α}
    {reply : request.Reply}
    (replied : world.asked (conducts world.calls.length) request = (some reply, after)) :
    (ask request next).performed conducts world = (next reply).performed conducts after := by
  rw [performed, replied]

theorem performed_ask_none {request : Request} {next : request.Reply → Operation α}
    (replied : world.asked (conducts world.calls.length) request = (none, after)) :
    (ask request next).performed conducts world = (none, after) := by
  rw [performed, replied]

/-- Operations in sequence are performed one after the other. -/
theorem performed_bind (operation : Operation α) (next : α → Operation β) (world : World σ) :
    (operation.bind next).performed conducts world =
      match operation.performed conducts world with
      | (some value, between) => (next value).performed conducts between
      | (none, between) => (none, between) := by
  induction operation generalizing world with
  | finish value => rfl
  | overflow => rfl
  | clock rest ih => exact ih world.clock.now world
  | note event rest ih => exact ih (world.noted event)
  | ask request rest ih =>
      rw [bind, performed, performed]
      cases replied : world.asked (conducts world.calls.length) request with
      | mk reply between =>
          cases reply with
          | none => rfl
          | some reply => exact ih reply between

theorem performed_mapped (f : α → β) (operation : Operation α) (world : World σ) :
    (operation.mapped f).performed conducts world =
      ((operation.performed conducts world).1.map f, (operation.performed conducts world).2) := by
  rw [mapped, performed_bind]
  cases operation.performed conducts world with
  | mk value between => cases value <;> rfl

private theorem settled_eq_called (world : World σ) (request : Request) :
    ((world.begun request).served request).settled world.calls.length =
      world.called request true (request.effect world.clock.now world.store) := by
  have counted := congrArg (fun calls => { world with
    calls, store := request.effect world.clock.now world.store }) (calls_settled world request)
  cases request <;> exact counted

private theorem served_eq_called (world : World σ) (request : Request) :
    (world.begun request).served request =
      world.called request false (request.effect world.clock.now world.store) := by
  cases request <;> rfl

private theorem reply?_begun (conduct : Conduct) (world : World σ) (request : Request) :
    conduct.reply? (world.begun request) request = conduct.reply? world request := by
  cases request with
  | find place name => cases place <;> rfl
  | _ => rfl

private theorem asked_of_replies {conduct : Conduct} {request : Request} {reply : request.Reply}
    (replies : Replies conduct request moment world reply later after) :
    world.asked conduct request = (some reply, after) := by
  cases replies with
  | refused refusal => exact World.asked_of_refusal refusal
  | served willing replied =>
      rw [reply?_begun] at replied
      rw [World.asked_of_reply willing replied, settled_eq_called]

/-- What is left of an operation comes to the same from wherever it came. -/
theorem performed_of_goes (goes : Goes conducts operation moment world rest later after) :
    operation.performed conducts world = rest.performed conducts after := by
  induction goes with
  | stay operation moment world => rfl
  | clock _ ih => exact ih
  | note _ ih => exact ih
  | ask replies _ ih => exact (performed_ask (asked_of_replies replies)).trans ih

end Operation

/-- The ending with a value, or beyond the calendar without one. -/
def Ending.ofOption : Option α → Ending α
  | some value => .finished value
  | none => .overflowed

@[simp]
theorem Ending.ofOption_eq_finished {result : Option α} {value : α} :
    ofOption result = .finished value ↔ result = some value := by
  cases result <;> simp [ofOption]

theorem Ending.isSome_of_ne_overflowed {result : Option α}
    (inside : ofOption result ≠ .overflowed) : result.isSome := by
  cases result with
  | some value => rfl
  | none => exact absurd rfl inside

namespace Operation

variable {conducts : Conducts} {operation : Operation α} {world : World σ} {moment : Nat}

private theorem performed_of_stops {outcome : Outcome (World σ) α}
    (stops : Stops conducts moment world operation outcome) :
    outcome.ending = .ofOption (operation.performed conducts world).1 ∧
      outcome.state = (operation.performed conducts world).2 := by
  cases stops with
  | finish value => exact ⟨rfl, rfl⟩
  | overflow => exact ⟨rfl, rfl⟩
  | ask willing broken =>
      rename_i request next
      have replied : world.asked (conducts world.calls.length) request =
          (none, (world.begun request).served request) := by
        rw [reply?_begun] at broken
        rw [World.asked_of_broken willing broken, served_eq_called]
      rw [performed_ask_none replied]
      exact ⟨rfl, rfl⟩

/-- An operation in time comes to its value and leaves its world, however long it takes. -/
theorem ends_performed (conducts : Conducts) (operation : Operation α) (moment : Nat)
    (world : World σ) :
    ((operation.timedBy conducts).run moment world).ending =
        .ofOption (operation.performed conducts world).1 ∧
      ((operation.timedBy conducts).run moment world).state =
        (operation.performed conducts world).2 := by
  obtain ⟨rest, later, after, goes, stops⟩ := exists_stop conducts operation moment world
  rw [performed_of_goes goes]
  exact performed_of_stops stops

end Operation

end Bearer
