import Bearer.Proofs.Operation.Heard

/-!
# Operations that differ only in what they ask

Two operations are twins if they go on alike wherever they hear the same, although they may ask for
different things. So what twins come to and what they log depends on what they ask only through what
they hear: `Twins.performed_eq`. If the requests of twins differ only in a password, and the
password check answers both passwords alike, then twins hear the same: `Twins.heard_eq`.
-/

namespace Bearer

variable {σ τ α β : Type} [Session.Store σ] [Session.Store τ]

/-- What a collaborator replies, apart from what it was asked. -/
inductive Hearing where
  /-- The store wrote, or failed. -/
  | written (result : Except Session.Failure Unit)
  /-- The store gave a payload or none, or failed. -/
  | taken (result : Except Session.Failure (Option Payload))
  /-- The store removed a row or none, or failed. -/
  | deleted (result : Except Session.Failure Bool)
  /-- A directory knew a name or not, or could not be asked. -/
  | found (result : Except Directory.Outage (Option Account))
  /-- A password was right or wrong. -/
  | compared (right : Bool)

namespace Exchange

/-- What is heard in an exchange. -/
def hearing : Exchange → Hearing
  | ⟨.set .., reply⟩ => .written reply
  | ⟨.take _, reply⟩ => .taken reply
  | ⟨.delete _, reply⟩ => .deleted reply
  | ⟨.find .., reply⟩ => .found reply
  | ⟨.compare .., reply⟩ => .compared reply

theorem hearing_injective {request : Request} {reply other : request.Reply}
    (same : (⟨request, reply⟩ : Exchange).hearing = (⟨request, other⟩ : Exchange).hearing) :
    reply = other := by
  cases request <;> cases same <;> rfl

end Exchange

namespace Operation

/-- Two operations go on alike wherever they hear the same. What they ask may differ, in a way that
is told. -/
inductive Twins (differs : Request → Request → Prop) : Operation α → Operation α → Prop where
  /-- Both are over, with one value. -/
  | finish (value : α) : Twins differs (.finish value) (.finish value)
  /-- Both break off. -/
  | overflow : Twins differs .overflow .overflow
  /-- Both read the clock. -/
  | clock {next other : Instant → Operation α}
      (following : ∀ now, Twins differs (next now) (other now)) :
      Twins differs (.clock next) (.clock other)
  /-- Both log the same. -/
  | note (event : Event) {next other : Operation α} (following : Twins differs next other) :
      Twins differs (.note event next) (.note event other)
  /-- Each asks, and both go on alike. -/
  | ask {request second : Request} {next : request.Reply → Operation α}
      {other : second.Reply → Operation α} (differing : differs request second)
      (following : ∀ reply answer,
        (⟨request, reply⟩ : Exchange).hearing = (⟨second, answer⟩ : Exchange).hearing →
          Twins differs (next reply) (other answer)) :
      Twins differs (.ask request next) (.ask second other)

variable {differs : Request → Request → Prop} {first second : Operation α}

theorem Twins.refl (same : ∀ request, differs request request) (operation : Operation α) :
    Twins differs operation operation := by
  induction operation with
  | finish value => exact .finish value
  | overflow => exact .overflow
  | clock next ih => exact .clock ih
  | note event next ih => exact .note event ih
  | ask request next ih =>
      refine .ask (same request) fun reply answer heard => ?_
      cases Exchange.hearing_injective heard
      exact ih reply

theorem Twins.bind {next other : α → Operation β} (twins : Twins differs first second)
    (following : ∀ value, Twins differs (next value) (other value)) :
    Twins differs (first.bind next) (second.bind other) := by
  induction twins with
  | finish value => exact following value
  | overflow => exact .overflow
  | clock _ ih => exact .clock ih
  | note event _ ih => exact .note event ih
  | ask differing _ ih => exact .ask differing ih

theorem Twins.mapped (twins : Twins differs first second) (f : α → β) :
    Twins differs (first.mapped f) (second.mapped f) :=
  twins.bind fun value => .finish (f value)

/-- Twins that hear the same, when the clock shows the same, come to the same and log the same,
whatever else their worlds are and whoever answers them. -/
theorem Twins.performed_eq (twins : Twins differs first second) {conducts others : Conducts}
    {world : World σ} {other : World τ} (clock : world.clock = other.clock)
    (heard : (first.heard conducts world).map Exchange.hearing =
      (second.heard others other).map Exchange.hearing) :
    (first.performed conducts world).1 = (second.performed others other).1 ∧
      ∃ noted, (first.performed conducts world).2.log = world.log ++ noted ∧
        (second.performed others other).2.log = other.log ++ noted := by
  induction twins generalizing world other with
  | finish value => exact ⟨rfl, [], (List.append_nil _).symm, (List.append_nil _).symm⟩
  | overflow => exact ⟨rfl, [], (List.append_nil _).symm, (List.append_nil _).symm⟩
  | clock _ ih =>
      rw [performed, performed]
      rw [Operation.heard, Operation.heard, clock] at heard
      rw [clock]
      exact ih _ clock heard
  | note event _ ih =>
      obtain ⟨same, noted, log, otherLog⟩ :=
        @ih (world.noted event) (other.noted event) clock heard
      refine ⟨same, event :: noted, ?_, ?_⟩
      · rw [performed, log, World.noted, List.append_assoc, List.singleton_append]
      · rw [performed, otherLog, World.noted, List.append_assoc, List.singleton_append]
  | @ask request second next following _ _ ih =>
      have stands := world.clock_asked (conducts world.calls.length) request
      have otherStands := other.clock_asked (others other.calls.length) second
      have log := world.log_asked (conducts world.calls.length) request
      have otherLog := other.log_asked (others other.calls.length) second
      rcases replied : world.asked (conducts world.calls.length) request with ⟨_ | reply, after⟩ <;>
        rcases answered : other.asked (others other.calls.length) second with
          ⟨_ | answer, otherAfter⟩ <;>
        rw [replied] at stands log <;> rw [answered] at otherStands otherLog
      · rw [performed_ask_none replied, performed_ask_none answered]
        exact ⟨rfl, [], by rw [log, List.append_nil], by rw [otherLog, List.append_nil]⟩
      · rw [heard_ask_none replied, heard_ask answered] at heard
        cases heard
      · rw [heard_ask replied, heard_ask_none answered] at heard
        cases heard
      · rw [heard_ask replied, heard_ask answered, List.map_cons, List.map_cons] at heard
        obtain ⟨now, later⟩ := List.cons.inj heard
        rw [performed_ask replied, performed_ask answered, ← log, ← otherLog]
        exact ih reply answer now (by rw [stands, clock, otherStands]) later

end Operation

/-- Requests that differ at most in the password that is to be checked. -/
inductive Request.Swaps (password other : String) : Request → Request → Prop where
  /-- The requests are the same. -/
  | same (request : Request) : Swaps password other request request
  /-- One password is checked in the place of the other one. -/
  | compare (hash : String) : Swaps password other (.compare hash password) (.compare hash other)

/-- Worlds in which the same number of things was asked, and all but that is the same. -/
structure World.Alike (world other : World σ) : Prop where
  /-- As much was asked. -/
  count : world.calls.length = other.calls.length
  /-- The rest is the same. -/
  rest : other = { world with calls := other.calls }

/-- The password check answers another password just as one was heard to be answered. The first of
the exchanges comes after some calls. -/
def Conducts.Confuse (conducts : Conducts) (password other : String) (count : Nat)
    (heard : List Exchange) : Prop :=
  ∀ index hash right, heard[index]? = some ⟨.compare hash password, right⟩ →
    (conducts (count + index)).comparator hash other = right

theorem Conducts.Confuse.tail {conducts : Conducts} {password other : String} {calls : List Call}
    {call : Call} {exchange : Exchange} {heard : List Exchange}
    (confuse : conducts.Confuse password other calls.length (exchange :: heard)) :
    conducts.Confuse password other (calls ++ [call]).length heard := by
  intro index hash right found
  have answered := confuse (index + 1) hash right found
  rwa [List.length_append, List.length_singleton, Nat.add_assoc, Nat.add_comm 1]

namespace World.Alike

omit [Session.Store σ] in
theorem clock {world other : World σ} (alike : world.Alike other) : other.clock = world.clock := by
  rw [alike.rest]

variable {world other : World σ}

/-- In worlds that are alike the same request gets the same reply, and leaves them alike. -/
theorem asked (alike : world.Alike other) (conduct : Conduct) (request : Request) :
    (world.asked conduct request).1 = (other.asked conduct request).1 ∧
      (world.asked conduct request).2.Alike (other.asked conduct request).2 := by
  obtain ⟨count, rest⟩ := alike
  rw [rest]
  unfold World.asked
  cases conduct.refusal? request with
  | some reply => exact ⟨rfl, by simp [called, count], rfl⟩
  | none =>
      have same : conduct.reply? { world with calls := other.calls } request =
          conduct.reply? world request := by
        cases request with
        | find place name => cases place <;> rfl
        | _ => rfl
      dsimp only
      rw [same]
      exact ⟨rfl, by simp [called, count], rfl⟩

omit [Session.Store σ] in
theorem noted (alike : world.Alike other) (event : Event) :
    (world.noted event).Alike (other.noted event) := by
  obtain ⟨count, rest⟩ := alike
  refine ⟨count, ?_⟩
  rw [rest]
  rfl

end World.Alike

namespace Operation

variable {password other : String} {first second : Operation α}

private theorem asked_compare (world : World σ) (conduct : Conduct) (hash given : String) :
    world.asked conduct (.compare hash given) = (some (conduct.comparator hash given),
      world.called (.compare hash given) true world.store) :=
  World.asked_of_reply rfl rfl

/-- Twins that differ only in a password hear the same, if the password check answers the other one
alike wherever it was asked about the first one. -/
theorem Twins.heard_eq (twins : Twins (Request.Swaps password other) first second)
    {conducts : Conducts} {world twin : World σ} (alike : world.Alike twin)
    (confuse : conducts.Confuse password other world.calls.length (first.heard conducts world)) :
    (first.heard conducts world).map Exchange.hearing =
      (second.heard conducts twin).map Exchange.hearing := by
  induction twins generalizing world twin with
  | finish value => rfl
  | overflow => rfl
  | clock _ ih =>
      rw [heard, heard, alike.clock]
      exact ih _ alike confuse
  | note event _ ih => exact ih (alike.noted event) confuse
  | @ask request second next following differing _ ih =>
      cases differing with
      | same =>
          obtain ⟨same, left⟩ := alike.asked (conducts world.calls.length) request
          obtain ⟨done, called⟩ := world.calls_asked (conducts world.calls.length) request
          rcases replied : world.asked (conducts world.calls.length) request with
            ⟨_ | reply, after⟩ <;>
            rcases answered : twin.asked (conducts world.calls.length) request with
              ⟨answer, twinAfter⟩ <;>
            rw [replied, answered] at same left <;> rw [replied] at called <;>
            cases same <;> rw [alike.count] at answered
          · rw [heard_ask_none replied, heard_ask_none answered]
          · rw [heard_ask replied] at confuse ⊢
            rw [heard_ask answered, List.map_cons, List.map_cons]
            refine congrArg (List.cons _) (ih reply reply rfl left ?_)
            rw [called]
            exact confuse.tail
      | compare hash =>
          obtain ⟨right, judged⟩ :
              ∃ right, (conducts world.calls.length).comparator hash password = right := ⟨_, rfl⟩
          have replied := asked_compare world (conducts world.calls.length) hash password
          rw [judged] at replied
          rw [heard_ask replied] at confuse ⊢
          have same : (conducts world.calls.length).comparator hash other = right :=
            confuse 0 hash right rfl
          have answered := asked_compare twin (conducts world.calls.length) hash other
          rw [same, alike.count] at answered
          have left : (world.called (.compare hash password) true world.store).Alike
              (twin.called (.compare hash other) true twin.store) := by
            refine ⟨by simp [World.called, alike.count], ?_⟩
            rw [alike.rest]
            rfl
          rw [heard_ask answered, List.map_cons, List.map_cons]
          exact List.cons_eq_cons.2 ⟨rfl, ih right right rfl left confuse.tail⟩

end Operation

end Bearer
