import Bearer.Proofs.Operation.Heard
import Bearer.Proofs.Operation.Reaction

/-!
# Heeding collaborators that fail

An operation heeds its collaborators if it ends as soon as one of them fails: a failure of the store
is logged and told, an outage of a directory is told, and nothing more is asked. `Operation.Heeds`
says so of a whole operation, whatever the replies are, and it is kept by operations in sequence.
Where such an operation is performed, the first trouble is the last thing that it hears:
`Heeds.heeding`.
-/

namespace Bearer

variable {σ α β : Type} [Session.Store σ]

/-- What a collaborator says that fails. -/
inductive Trouble where
  /-- A call to the session store failed. -/
  | store (call : StoreCall) (failure : Session.Failure)
  /-- A directory could not be asked. -/
  | directory (outage : Directory.Outage)

/-- The trouble that an exchange tells of. -/
def Exchange.trouble? : Exchange → Option Trouble
  | ⟨.set .., .error failure⟩ => some (.store .set failure)
  | ⟨.take _, .error failure⟩ => some (.store .take failure)
  | ⟨.delete _, .error failure⟩ => some (.store .delete failure)
  | ⟨.find .., .error outage⟩ => some (.directory outage)
  | _ => none

/-- An exchange tells of trouble exactly if the request was not done. -/
theorem Exchange.trouble?_eq_none_iff (exchange : Exchange) :
    exchange.trouble? = none ↔ ¬ Refusal exchange.request exchange.reply := by
  obtain ⟨request, reply⟩ := exchange
  cases request with
  | set key payload lifetime => cases reply <;> simp [trouble?, Refusal]
  | take key => cases reply <;> simp [trouble?, Refusal]
  | delete key => cases reply <;> simp [trouble?, Refusal]
  | find place name => cases reply <;> simp [trouble?, Refusal]
  | compare hash password => simp [trouble?, Refusal]

namespace Trouble

/-- What is logged of trouble. -/
def events : Trouble → List Event
  | store call failure => [.storeFailed call failure]
  | directory _ => []

theorem filter_events (trouble : Trouble) :
    trouble.events.filter (·.severity = .error) = trouble.events := by
  cases trouble <;> rfl

/-- An operation that ends because of trouble. -/
def ending (trouble : Trouble) (value : α) : Operation α :=
  match trouble with
  | store call failure => .note (.storeFailed call failure) (.finish value)
  | directory _ => .finish value

theorem ending_bind (trouble : Trouble) (value : α) {next : α → Operation β} {result : β}
    (kept : next value = .finish result) :
    (trouble.ending value).bind next = trouble.ending result := by
  cases trouble with
  | store call failure => exact congrArg (Operation.note _) kept
  | directory outage => exact kept

theorem performed_ending (trouble : Trouble) (value : α) (conducts : Conducts) (world : World σ) :
    ((trouble.ending value).performed conducts world).1 = some value ∧
      ((trouble.ending value).performed conducts world).2.log = world.log ++ trouble.events ∧
      (trouble.ending value).heard conducts world = [] := by
  cases trouble with
  | store call failure => exact ⟨rfl, rfl, rfl⟩
  | directory outage => exact ⟨rfl, (List.append_nil _).symm, rfl⟩

end Trouble

namespace Operation

/-- An operation heeds its collaborators: at the first trouble it ends with a value that tells of
it, and otherwise it ends well and logs no errors. -/
inductive Heeds (tells : Trouble → α → Prop) (well : α → Prop) : Operation α → Prop where
  /-- The operation ends well. -/
  | finish {value : α} (good : well value) : Heeds tells well (.finish value)
  /-- The operation breaks off. -/
  | overflow : Heeds tells well .overflow
  /-- The clock is read. -/
  | clock {next : Instant → Operation α} (following : ∀ now, Heeds tells well (next now)) :
      Heeds tells well (.clock next)
  /-- Something is logged that is no error. -/
  | note {event : Event} {next : Operation α} (quiet : event.severity ≠ .error)
      (following : Heeds tells well next) : Heeds tells well (.note event next)
  /-- A collaborator is asked, and heeded. -/
  | ask {request : Request} {next : request.Reply → Operation α}
      (troubled : ∀ reply trouble, (⟨request, reply⟩ : Exchange).trouble? = some trouble →
        ∃ value, tells trouble value ∧ next reply = trouble.ending value)
      (following : ∀ reply, (⟨request, reply⟩ : Exchange).trouble? = none →
        Heeds tells well (next reply)) :
      Heeds tells well (.ask request next)

variable {tells : Trouble → α → Prop} {well : α → Prop} {operation : Operation α}

/-- Operations in sequence heed their collaborators if each of them does, and the second one passes
on what the first one tells of trouble. -/
theorem Heeds.bind {others : Trouble → β → Prop} {good : β → Prop} {next : α → Operation β}
    (heeds : Heeds tells well operation)
    (kept : ∀ trouble value, tells trouble value →
      ∃ result, others trouble result ∧ next value = .finish result)
    (following : ∀ value, well value → Heeds others good (next value)) :
    Heeds others good (operation.bind next) := by
  induction heeds with
  | finish good => exact following _ good
  | overflow => exact .overflow
  | clock _ ih => exact .clock ih
  | note quiet _ ih => exact .note quiet ih
  | ask troubled _ ih =>
      refine .ask (fun reply trouble said => ?_) ih
      obtain ⟨value, told, ends⟩ := troubled reply trouble said
      obtain ⟨result, passed, same⟩ := kept trouble value told
      refine ⟨result, passed, ?_⟩
      rw [ends, Trouble.ending_bind trouble value same]

theorem Heeds.mono {good : α → Prop} (heeds : Heeds tells well operation)
    (better : ∀ value, well value → good value) : Heeds tells good operation := by
  induction heeds with
  | finish fine => exact .finish (better _ fine)
  | overflow => exact .overflow
  | clock _ ih => exact .clock ih
  | note quiet _ ih => exact .note quiet ih
  | ask troubled _ ih => exact .ask troubled ih

/-- How an operation goes that heeds its collaborators: what it heard, what it comes to and what it
logged. -/
inductive Heeding (tells : Trouble → α → Prop) (well : α → Prop) :
    List Exchange → Option α → List Event → Prop where
  /-- No collaborator failed. -/
  | smooth {heard : List Exchange} {result : Option α} {noted : List Event}
      (untroubled : ∀ exchange ∈ heard, exchange.trouble? = none)
      (good : ∀ value, result = some value → well value)
      (quiet : noted.filter (·.severity = .error) = []) : Heeding tells well heard result noted
  /-- The last collaborator that was asked failed. -/
  | troubled {earlier : List Exchange} {exchange : Exchange} {trouble : Trouble} {value : α}
      {noted : List Event} (untroubled : ∀ other ∈ earlier, other.trouble? = none)
      (last : exchange.trouble? = some trouble) (told : tells trouble value)
      (logged : noted.filter (·.severity = .error) = trouble.events) :
      Heeding tells well (earlier ++ [exchange]) (some value) noted

variable {heard : List Exchange} {result : Option α} {noted : List Event}

private theorem Heeding.cons_noted (heeding : Heeding tells well heard result noted) {event : Event}
    (quiet : event.severity ≠ .error) : Heeding tells well heard result (event :: noted) := by
  cases heeding with
  | smooth untroubled good silent =>
      refine .smooth untroubled good ?_
      rw [List.filter_cons_of_neg (by simpa using quiet), silent]
  | troubled untroubled last told logged =>
      refine .troubled untroubled last told ?_
      rw [List.filter_cons_of_neg (by simpa using quiet), logged]

private theorem Heeding.cons (heeding : Heeding tells well heard result noted)
    {exchange : Exchange} (fine : exchange.trouble? = none) :
    Heeding tells well (exchange :: heard) result noted := by
  cases heeding with
  | smooth untroubled good quiet =>
      exact .smooth (List.forall_mem_cons.2 ⟨fine, untroubled⟩) good quiet
  | troubled untroubled last told logged =>
      rw [← List.cons_append]
      exact .troubled (List.forall_mem_cons.2 ⟨fine, untroubled⟩) last told logged

private theorem heeding_nil (good : ∀ value, result = some value → well value) :
    Heeding tells well [] result [] :=
  .smooth (List.forall_mem_nil _) good rfl

private theorem heeding_single {exchange : Exchange} {trouble : Trouble} {value : α}
    (said : exchange.trouble? = some trouble) (told : tells trouble value) :
    Heeding tells well [exchange] (some value) trouble.events := by
  rw [← List.nil_append [exchange]]
  exact .troubled (List.forall_mem_nil _) said told trouble.filter_events

/-- An operation that heeds its collaborators ends with the first trouble. -/
theorem Heeds.heeding (heeds : Heeds tells well operation) (conducts : Conducts)
    (world : World σ) :
    ∃ noted, (operation.performed conducts world).2.log = world.log ++ noted ∧
      Heeding tells well (operation.heard conducts world)
        (operation.performed conducts world).1 noted := by
  induction heeds generalizing world with
  | finish good =>
      refine ⟨[], (List.append_nil _).symm, heeding_nil fun value same => ?_⟩
      cases same
      exact good
  | overflow => exact ⟨[], (List.append_nil _).symm, heeding_nil fun value same => by cases same⟩
  | clock _ ih => exact ih world.clock.now world
  | @note event next quiet _ ih =>
      obtain ⟨noted, log, heeding⟩ := ih (world.noted event)
      refine ⟨event :: noted, ?_, heeding.cons_noted quiet⟩
      rw [performed, log, World.noted, List.append_assoc, List.singleton_append]
  | @ask request next troubled _ ih =>
      have unlogged := world.log_asked (conducts world.calls.length) request
      cases replied : world.asked (conducts world.calls.length) request with
      | mk reply after =>
          rw [replied] at unlogged
          cases reply with
          | none =>
              rw [performed_ask_none replied, heard_ask_none replied]
              rw [← List.append_nil world.log] at unlogged
              exact ⟨[], unlogged, heeding_nil fun value same => by cases same⟩
          | some reply =>
              rw [performed_ask replied, heard_ask replied, ← unlogged]
              cases said : (⟨request, reply⟩ : Exchange).trouble? with
              | none =>
                  obtain ⟨noted, log, heeding⟩ := ih reply said after
                  exact ⟨noted, log, heeding.cons said⟩
              | some trouble =>
                  obtain ⟨value, told, ends⟩ := troubled reply trouble said
                  obtain ⟨value_eq, log, silent⟩ :=
                    trouble.performed_ending value conducts after
                  rw [ends, value_eq, silent]
                  exact ⟨trouble.events, log, heeding_single said told⟩

end Operation

end Bearer
