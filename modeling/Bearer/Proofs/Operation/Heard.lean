import Bearer.Proofs.Operation.Exchange
import Bearer.Proofs.Operation.Performed

/-!
# What an operation hears in a world

`Operation.heard` lists the exchanges of an operation that is performed: its requests with the
replies that they got, in order. They are the calls that are recorded, but for a request that leaves
the calendar, which gets no reply; and where the collaborators refuse a request, the refusal is what
is heard (`recorded_performed`). If the operation ends, then what it heard leads to its value
(`leads_heard`).
-/

namespace Bearer

variable {σ α : Type} [Session.Store σ]

/-- What was heard, beside the calls that were made of it. -/
structure Recorded (conducts : Conducts) (world : World σ) (made : List Call)
    (heard : List Exchange) (outcome : Option α × World σ) : Prop where
  /-- The calls are recorded. -/
  calls : outcome.2.calls = world.calls ++ made
  /-- The requests that got a reply are the first ones that were made. -/
  requests : heard.map (·.request) <+: made.map (·.request)
  /-- Unless a moment lies beyond the calendar, all of them got a reply. -/
  answered : outcome.1.isSome → made.map (·.request) = heard.map (·.request)
  /-- A refusal is heard. -/
  refused : ∀ index call, made[index]? = some call → ∀ reply,
    (conducts (world.calls.length + index)).refusal? call.request = some reply →
      heard[index]? = some ⟨call.request, reply⟩

namespace Operation

/-- The exchanges of an operation that is performed in a world. -/
def heard (conducts : Conducts) : Operation α → World σ → List Exchange
  | finish _, _ => []
  | overflow, _ => []
  | clock next, world => (next world.clock.now).heard conducts world
  | note event next, world => next.heard conducts (world.noted event)
  | ask request next, world =>
    match world.asked (conducts world.calls.length) request with
    | (some reply, after) => ⟨request, reply⟩ :: (next reply).heard conducts after
    | (none, _) => []

variable {conducts : Conducts} {operation : Operation α} {world after : World σ}
  {request : Request} {next : request.Reply → Operation α}

theorem heard_ask {reply : request.Reply}
    (replied : world.asked (conducts world.calls.length) request = (some reply, after)) :
    (ask request next).heard conducts world =
      ⟨request, reply⟩ :: (next reply).heard conducts after := by
  rw [heard, replied]

theorem heard_ask_none
    (replied : world.asked (conducts world.calls.length) request = (none, after)) :
    (ask request next).heard conducts world = [] := by
  rw [heard, replied]

private theorem willing_of_asked_none {conduct : Conduct}
    (replied : world.asked conduct request = (none, after)) :
    conduct.refusal? request = none := by
  cases refusal : conduct.refusal? request with
  | none => rfl
  | some reply =>
      rw [World.asked_of_refusal refusal] at replied
      cases replied

private theorem eq_of_asked_of_refusal {conduct : Conduct} {reply refused : request.Reply}
    (replied : world.asked conduct request = (some reply, after))
    (refusal : conduct.refusal? request = some refused) : reply = refused := by
  rw [World.asked_of_refusal refusal] at replied
  cases replied
  rfl

private theorem recorded_cons {made : List Call} {heard : List Exchange}
    {outcome : Option α × World σ} {reply : request.Reply} {done : Bool}
    (replied : world.asked (conducts world.calls.length) request = (some reply, after))
    (called : after.calls = world.calls ++ [⟨request, done⟩])
    (later : Recorded conducts after made heard outcome) :
    Recorded conducts world (⟨request, done⟩ :: made) (⟨request, reply⟩ :: heard) outcome where
  calls := by rw [later.calls, called, List.append_assoc, List.singleton_append]
  requests := List.cons_prefix_cons.2 ⟨rfl, later.requests⟩
  answered := fun ended => congrArg (request :: ·) (later.answered ended)
  refused := by
    rintro (_ | index) call found refused refusal
    · cases found
      rw [eq_of_asked_of_refusal replied refusal]
      rfl
    · refine later.refused index call found refused ?_
      rw [called, List.length_append, List.length_singleton, Nat.add_assoc, Nat.add_comm 1]
      exact refusal

/-- The calls that an operation made are recorded, and their replies are what it heard. -/
theorem recorded_performed (conducts : Conducts) (operation : Operation α) (world : World σ) :
    ∃ made, Recorded conducts world made (operation.heard conducts world)
      (operation.performed conducts world) := by
  induction operation generalizing world with
  | finish value => exact ⟨[], (List.append_nil _).symm, List.prefix_rfl, fun _ => rfl, nofun⟩
  | overflow => exact ⟨[], (List.append_nil _).symm, List.prefix_rfl, fun _ => rfl, nofun⟩
  | clock next ih => exact ih world.clock.now world
  | note event next ih =>
      obtain ⟨made, calls, requests, answered, refused⟩ := ih (world.noted event)
      exact ⟨made, calls, requests, answered, refused⟩
  | ask request next ih =>
      obtain ⟨done, called⟩ := world.calls_asked (conducts world.calls.length) request
      cases replied : world.asked (conducts world.calls.length) request with
      | mk reply after =>
          rw [replied] at called
          cases reply with
          | none =>
              rw [performed_ask_none replied, heard_ask_none replied]
              refine ⟨[⟨request, done⟩], called, List.nil_prefix, nofun, ?_⟩
              rintro (_ | index) call found reply refusal
              · cases found
                cases (willing_of_asked_none replied).symm.trans refusal
              · cases found
          | some reply =>
              rw [performed_ask replied, heard_ask replied]
              obtain ⟨made, recorded⟩ := ih reply after
              exact ⟨_, recorded_cons replied called recorded⟩

/-- What an operation heard leads to its value. -/
theorem leads_heard {value : α} (ended : (operation.performed conducts world).1 = some value) :
    Leads operation (operation.heard conducts world) (finish value) := by
  induction operation generalizing world with
  | finish result =>
      cases ended
      exact .stay _
  | overflow => cases ended
  | clock next ih => exact .clock _ (ih world.clock.now ended)
  | note event next ih => exact .note (ih ended)
  | ask request next ih =>
      cases replied : world.asked (conducts world.calls.length) request with
      | mk reply after =>
          cases reply with
          | none =>
              rw [performed_ask_none replied] at ended
              cases ended
          | some reply =>
              rw [performed_ask replied] at ended
              rw [heard_ask replied]
              exact .ask reply (ih reply ended)

end Operation

end Bearer
