import Bearer.Proofs.Operation.Course
import Bearer.Proofs.Operation.Reaction

/-!
# What may become of an operation

Collaborators may refuse a request, and an operation may be interrupted while a request is pending,
before it was served or after. `Befalls` relates an operation and a store to everything that may
become of them at an instant. It says no more about time: whatever a run comes to, and wherever it
is cut short, is one of these fates (`befalls_run`, `befalls_waits`).
-/

namespace Bearer

/-- What becomes of an operation. -/
inductive Fate (α : Type) where
  /-- It ends with a value. -/
  | answered (value : α)
  /-- It breaks off. -/
  | overflowed
  /-- It is interrupted. -/
  | interrupted

namespace Fate

variable {α β : Type}

/-- The fate with its value changed. -/
def map (f : α → β) : Fate α → Fate β
  | answered value => answered (f value)
  | overflowed => overflowed
  | interrupted => interrupted

/-- Whether a run ends so that was not interrupted. -/
def EndsAs : Fate α → Ending α → Prop
  | answered value, ending => ending = .finished value
  | overflowed, ending => ending = .overflowed
  | interrupted, _ => False

end Fate

variable {σ α β : Type} [Session.Store σ]

namespace Operation

/-- What may become of an operation at an instant: the calls that it makes, its fate and the store
after it. -/
inductive Befalls (now : Instant) : Operation α → σ → List Call → Fate α → σ → Prop where
  /-- The operation is over. -/
  | finish (value : α) (store : σ) : Befalls now (.finish value) store [] (.answered value) store
  /-- The operation breaks off. -/
  | overflow (store : σ) : Befalls now .overflow store [] .overflowed store
  /-- The clock is read. -/
  | clock {next : Instant → Operation α} {store after : σ} {made : List Call} {fate : Fate α}
      (follows : Befalls now (next now) store made fate after) :
      Befalls now (.clock next) store made fate after
  /-- Something is logged. -/
  | note {event : Event} {next : Operation α} {store after : σ} {made : List Call} {fate : Fate α}
      (follows : Befalls now next store made fate after) :
      Befalls now (.note event next) store made fate after
  /-- A request is refused. -/
  | refused {request : Request} {next : request.Reply → Operation α} {store after : σ}
      {made : List Call} {fate : Fate α} {reply : request.Reply} (refusal : Refusal request reply)
      (follows : Befalls now (next reply) store made fate after) :
      Befalls now (.ask request next) store (⟨request, false⟩ :: made) fate after
  /-- A request is served. -/
  | served {request : Request} {next : request.Reply → Operation α} {store middle after : σ}
      {made : List Call} {fate : Fate α} {reply : request.Reply} (surroundings : Surroundings)
      (replied : request.served surroundings now store = (some reply, middle))
      (follows : Befalls now (next reply) middle made fate after) :
      Befalls now (.ask request next) store (⟨request, true⟩ :: made) fate after
  /-- A request breaks off. -/
  | broken {request : Request} {next : request.Reply → Operation α} {store after : σ}
      (surroundings : Surroundings)
      (replied : request.served surroundings now store = (none, after)) :
      Befalls now (.ask request next) store [⟨request, false⟩] .overflowed after
  /-- A request is not served any more. -/
  | unserved {request : Request} {next : request.Reply → Operation α} (store : σ) :
      Befalls now (.ask request next) store [⟨request, false⟩] .interrupted store
  /-- The reply to a request is not heard any more. -/
  | lost {request : Request} {next : request.Reply → Operation α} {store after : σ}
      {reply : request.Reply} (surroundings : Surroundings)
      (replied : request.served surroundings now store = (some reply, after)) :
      Befalls now (.ask request next) store [⟨request, false⟩] .interrupted after

variable {conducts : Conducts} {operation rest : Operation α}
  {moment later since woken : Nat} {world after stage : World σ} {now : Instant} {store left : σ}
  {made : List Call} {fate : Fate α}

/-- Of two operations in sequence the first one fails, or the second one follows. -/
theorem befalls_bind {next : α → Operation β} {fate : Fate β}
    (befalls : Befalls now (operation.bind next) store made fate left) :
    (fate = .overflowed ∧ Befalls now operation store made .overflowed left) ∨
      (fate = .interrupted ∧ Befalls now operation store made .interrupted left) ∨
      ∃ value middle earlier last, made = earlier ++ last ∧
        Befalls now operation store earlier (.answered value) middle ∧
        Befalls now (next value) middle last fate left := by
  induction operation generalizing store made with
  | finish value => exact .inr (.inr ⟨value, _, [], made, rfl, .finish value _, befalls⟩)
  | overflow =>
      cases befalls
      exact .inl ⟨rfl, .overflow _⟩
  | clock following ih =>
      obtain _ | _ | follows := befalls
      rcases ih now follows with
        ⟨same, first⟩ | ⟨same, first⟩ | ⟨value, middle, earlier, last, same, first, second⟩
      · exact .inl ⟨same, .clock first⟩
      · exact .inr (.inl ⟨same, .clock first⟩)
      · exact .inr (.inr ⟨value, middle, earlier, last, same, .clock first, second⟩)
  | note event following ih =>
      obtain _ | _ | _ | follows := befalls
      rcases ih follows with
        ⟨same, first⟩ | ⟨same, first⟩ | ⟨value, middle, earlier, last, same, first, second⟩
      · exact .inl ⟨same, .note first⟩
      · exact .inr (.inl ⟨same, .note first⟩)
      · exact .inr (.inr ⟨value, middle, earlier, last, same, .note first, second⟩)
  | ask request following ih =>
      cases befalls with
      | refused refusal follows =>
          rcases ih _ follows with
            ⟨same, first⟩ | ⟨same, first⟩ | ⟨value, middle, earlier, last, rfl, first, second⟩
          · exact .inl ⟨same, .refused refusal first⟩
          · exact .inr (.inl ⟨same, .refused refusal first⟩)
          · exact .inr (.inr ⟨value, middle, _, last, rfl, .refused refusal first, second⟩)
      | served surroundings replied follows =>
          rcases ih _ follows with
            ⟨same, first⟩ | ⟨same, first⟩ | ⟨value, middle, earlier, last, rfl, first, second⟩
          · exact .inl ⟨same, .served surroundings replied first⟩
          · exact .inr (.inl ⟨same, .served surroundings replied first⟩)
          · exact .inr (.inr ⟨value, middle, _, last, rfl, .served surroundings replied first,
              second⟩)
      | broken surroundings replied => exact .inl ⟨rfl, .broken surroundings replied⟩
      | unserved => exact .inr (.inl ⟨rfl, .unserved _⟩)
      | lost surroundings replied => exact .inr (.inl ⟨rfl, .lost surroundings replied⟩)

theorem befalls_finish {value : α}
    (befalls : Befalls now (.finish value) store made fate left) :
    made = [] ∧ fate = .answered value ∧ left = store := by
  cases befalls
  exact ⟨rfl, rfl, rfl⟩

theorem answered_ask {request : Request} {next : request.Reply → Operation α} {value : α}
    (befalls : Befalls now (.ask request next) store made (.answered value) left) :
    ∃ reply middle later, Befalls now (next reply) middle later (.answered value) left ∧
      (Refusal request reply ∨
        ∃ surroundings, request.served surroundings now store = (some reply, middle)) := by
  cases befalls with
  | refused refusal follows => exact ⟨_, _, _, follows, .inl refusal⟩
  | served surroundings replied follows => exact ⟨_, _, _, follows, .inr ⟨surroundings, replied⟩⟩

theorem answered_bind {next : α → Operation β} {result : β}
    (befalls : Befalls now (operation.bind next) store made (.answered result) left) :
    ∃ value middle earlier last, Befalls now operation store earlier (.answered value) middle ∧
      Befalls now (next value) middle last (.answered result) left := by
  rcases befalls_bind befalls with
    ⟨told, -⟩ | ⟨told, -⟩ | ⟨value, middle, earlier, last, -, first, second⟩
  · cases told
  · cases told
  · exact ⟨value, middle, earlier, last, first, second⟩

/-- What an operation comes to when it is carried out at once may become of it. -/
theorem befalls_of_carried {surroundings : Surroundings} {value : α}
    (ended : operation.carried surroundings now store = (some value, left)) :
    ∃ made, Befalls now operation store made (.answered value) left := by
  induction operation generalizing store with
  | finish result =>
      cases ended
      exact ⟨[], .finish value _⟩
  | overflow => cases ended
  | clock next ih =>
      obtain ⟨made, follows⟩ := ih now ended
      exact ⟨made, .clock follows⟩
  | note event next ih =>
      obtain ⟨made, follows⟩ := ih ended
      exact ⟨made, .note follows⟩
  | ask request next ih =>
      obtain ⟨reply, middle, served, later⟩ := exists_of_carried_ask ended
      obtain ⟨made, follows⟩ := ih reply later
      exact ⟨_, .served surroundings served follows⟩

/-- The fate of an operation does not depend on its value. -/
theorem befalls_mapped {f : α → β} {fate : Fate β}
    (befalls : Befalls now (operation.mapped f) store made fate left) :
    ∃ same, fate = Fate.map f same ∧ Befalls now operation store made same left := by
  rcases befalls_bind befalls with
    ⟨rfl, first⟩ | ⟨rfl, first⟩ | ⟨value, middle, earlier, last, rfl, first, second⟩
  · exact ⟨.overflowed, rfl, first⟩
  · exact ⟨.interrupted, rfl, first⟩
  · obtain ⟨rfl, rfl, rfl⟩ := befalls_finish second
    rw [List.append_nil]
    exact ⟨.answered value, rfl, first⟩

private theorem served_of_reply {conduct : Conduct} {request : Request}
    {reply : Option request.Reply}
    (replied : conduct.reply? (world.begun request) request = reply) :
    request.served ((world.begun request).surroundings conduct.comparator) world.clock.now
      world.store = (reply, ((world.begun request).served request).store) := by
  have served := conduct.served_surroundings (world.begun request) request
  rwa [replied] at served

private theorem befalls_of_goes
    (goes : Goes conducts operation moment world rest later after)
    (befalls : Befalls after.clock.now rest after.store made fate left) :
    ∃ earlier, after.calls = world.calls ++ earlier ∧
      Befalls world.clock.now operation world.store (earlier ++ made) fate left := by
  induction goes with
  | stay operation moment world => exact ⟨[], (List.append_nil _).symm, befalls⟩
  | clock _ ih =>
      obtain ⟨earlier, calls, follows⟩ := ih befalls
      exact ⟨earlier, calls, .clock follows⟩
  | note _ ih =>
      obtain ⟨earlier, calls, follows⟩ := ih befalls
      exact ⟨earlier, calls, .note follows⟩
  | @ask request _ _ _ _ _ world _ _ _ replies _ ih =>
      obtain ⟨earlier, calls, follows⟩ := ih befalls
      cases replies with
      | refused refusal =>
          refine ⟨⟨request, false⟩ :: earlier, ?_, ?_⟩
          · rw [calls, World.begun, List.append_assoc]
            rfl
          · exact .refused (Conduct.refusal_of_refusal? _ refusal) follows
      | served willing replied =>
          have clock : (((world.begun request).served request).settled world.calls.length).clock =
              world.clock := by cases request <;> rfl
          -- The clock stands, so that what follows happens at the same instant.
          rw [clock] at follows
          refine ⟨⟨request, true⟩ :: earlier, ?_, .served _ (served_of_reply replied) follows⟩
          rw [calls, calls_settled, List.append_assoc]
          rfl

/-- What a run comes to is one of the fates of its operation. -/
theorem befalls_run (conducts : Conducts) (operation : Operation α) (moment : Nat)
    (world : World σ) :
    ∃ made fate, Befalls world.clock.now operation world.store made fate
        ((operation.timedBy conducts).run moment world).state.store ∧
      ((operation.timedBy conducts).run moment world).state.calls = world.calls ++ made ∧
      fate.EndsAs ((operation.timedBy conducts).run moment world).ending := by
  obtain ⟨rest, later, after, goes, stops⟩ := exists_stop conducts operation moment world
  generalize (operation.timedBy conducts).run moment world = outcome at stops
  cases stops with
  | finish value =>
      obtain ⟨earlier, calls, befalls⟩ := befalls_of_goes goes (.finish value after.store)
      rw [List.append_nil] at befalls
      exact ⟨earlier, _, befalls, calls, rfl⟩
  | overflow =>
      obtain ⟨earlier, calls, befalls⟩ := befalls_of_goes goes (.overflow after.store)
      rw [List.append_nil] at befalls
      exact ⟨earlier, _, befalls, calls, rfl⟩
  | @ask request next willing broken =>
      obtain ⟨earlier, calls, befalls⟩ := befalls_of_goes goes (.broken _ (served_of_reply broken))
      refine ⟨_, _, befalls, ?_, rfl⟩
      rw [calls_served, calls, List.append_assoc]

/-- Where a run is cut short its operation may be interrupted. -/
theorem befalls_waits
    (waits : Timed.Waits (operation.timedBy conducts) moment world since woken stage) :
    ∃ made, Befalls world.clock.now operation world.store made .interrupted stage.store ∧
      stage.calls = world.calls ++ made := by
  obtain ⟨request, next, later, after, goes, pending⟩ := exists_pending waits
  cases pending with
  | unserved =>
      obtain ⟨earlier, calls, befalls⟩ := befalls_of_goes goes (.unserved after.store)
      refine ⟨_, befalls, ?_⟩
      rw [World.begun, calls, List.append_assoc]
  | served willing replied =>
      obtain ⟨earlier, calls, befalls⟩ := befalls_of_goes goes (.lost _ (served_of_reply replied))
      refine ⟨_, befalls, ?_⟩
      rw [calls_served, calls, List.append_assoc]

end Operation

end Bearer
