import Bearer.Proofs.Operation.Performed
import Bearer.Proofs.Service.Interrupted

/-!
# What making tokens comes to

To make tokens is to write their session: they are out exactly if the write is made and accepted.
`Mints` says so of the outcome of an operation that makes tokens, and `Mints.bind` keeps it where
the operation goes on with a note or an error of another kind. A call without limits comes to just
what its operation comes to: `Demand.run_performed`.
-/

namespace Bearer

/-- Without limits a call comes to what its operation comes to. -/
theorem Demand.run_performed {σ : Type} [Session.Store σ] (service : TokenService)
    (conducts : Conducts) (world : World σ) (demand : Demand) :
    (demand.run service conducts .unlimited world).ending =
        .ofOption ((demand.operation service).performed conducts world).1 ∧
      (demand.run service conducts .unlimited world).state =
        ((demand.operation service).performed conducts world).2 := by
  rw [run_unlimited]
  exact Operation.ends_performed conducts (demand.operation service) 0 world

theorem Ending.ofOption_eq_pair_iff {ε : Type} {answered : Except ε TokenPair → Answer}
    (paired : ∀ pair, answered (.ok pair) = .pair pair)
    (unpaired : ∀ error pair, answered (.error error) ≠ .pair pair)
    {result : Option (Except ε TokenPair)} {pair : TokenPair} :
    ofOption (result.map answered) = .finished (.pair pair) ↔ result = some (.ok pair) := by
  rcases result with _ | error | made
  · simp [ofOption]
  · simp [ofOption, unpaired]
  · simp [ofOption, paired]

namespace TokenService

variable {σ ε κ : Type} [Session.Store σ] {service : TokenService} {conducts : Conducts}
  {draw : Draw} {payload : Payload} {world : World σ}

/-- What comes of making tokens for a payload in a world. -/
structure Mints (service : TokenService) (conduct : Conduct) (draw : Draw) (payload : Payload)
    (world : World σ) (outcome : Option (Except ε TokenPair) × World σ) : Prop where
  /-- A pair is out exactly if it ends within the calendar and its session is written. -/
  pair_iff (pair : TokenPair) : outcome.1 = some (.ok pair) ↔
    service.pair? draw payload world.clock.now = some pair ∧ conduct.setFailure = none ∧
      (Session.Store.set world.store world.clock.now (service.key pair.refresh) payload
        service.refreshLifetime).1 = some (.ok ())
  /-- The session of a pair that is out is what the only call wrote. -/
  written (pair : TokenPair) : outcome.1 = some (.ok pair) →
    outcome.2.calls = world.calls ++ [⟨service.writing draw payload, true⟩] ∧
      outcome.2.store = (Session.Store.set world.store world.clock.now (service.key pair.refresh)
        payload service.refreshLifetime).2
  /-- There is no call but the write. -/
  calls : ∃ made, outcome.2.calls = world.calls ++ made ∧
    ∀ call ∈ made, call.request = service.writing draw payload

variable {conduct : Conduct} {outcome : Option (Except ε TokenPair) × World σ}

private theorem Mints.of_ne (nothing : ∀ pair, outcome.1 ≠ some (.ok pair))
    (unwritten : ∀ pair, ¬ (service.pair? draw payload world.clock.now = some pair ∧
      conduct.setFailure = none ∧ (Session.Store.set world.store world.clock.now
        (service.key pair.refresh) payload service.refreshLifetime).1 = some (.ok ())))
    (calls : ∃ made, outcome.2.calls = world.calls ++ made ∧
      ∀ call ∈ made, call.request = service.writing draw payload) :
    Mints service conduct draw payload world outcome :=
  ⟨fun pair => iff_of_false (nothing pair) (unwritten pair),
    fun pair out => absurd out (nothing pair), calls⟩

/-- Tokens are made also where a pair is noted and errors become others. -/
theorem Mints.bind {operation : Operation (Except ε TokenPair)}
    {next : Except ε TokenPair → Operation (Except κ TokenPair)}
    (mints : Mints service conduct draw payload world (operation.performed conducts world))
    (noted : ∀ pair, ∃ event, next (.ok pair) = .note event (.finish (.ok pair)))
    (failed : ∀ error, ∃ other, next (.error error) = .finish (.error other)) :
    Mints service conduct draw payload world
      ((operation.bind next).performed conducts world) := by
  obtain ⟨pair_iff, written, calls⟩ := mints
  rw [Operation.performed_bind]
  cases ended : operation.performed conducts world with
  | mk result after =>
      rw [ended] at pair_iff written calls
      rcases result with _ | error | pair
      · refine .of_ne (fun _ out => by cases out) (fun pair opens => ?_) calls
        cases (pair_iff pair).2 opens
      · obtain ⟨other, told⟩ := failed error
        dsimp only
        rw [told]
        refine .of_ne (fun _ out => by cases out) (fun pair opens => ?_) calls
        cases (pair_iff pair).2 opens
      · obtain ⟨event, told⟩ := noted pair
        dsimp only
        rw [told]
        refine ⟨fun other => ?_, fun other out => ?_, calls⟩
        · rw [← pair_iff]
          simp [Operation.performed]
        · cases out
          exact written pair rfl

private theorem asked_writing_iff :
    (world.asked conduct (service.writing draw payload)).1 = some (.ok ()) ↔
      conduct.setFailure = none ∧ (Session.Store.set world.store world.clock.now
        (service.key (refreshToken draw.refresh)) payload service.refreshLifetime).1 =
          some (.ok ()) := by
  cases down : conduct.setFailure with
  | some failure =>
      have refusal : conduct.refusal? (service.writing draw payload) = some (.error failure) :=
        congrArg (Option.map Except.error) down
      rw [World.asked_of_refusal refusal]
      exact iff_of_false (fun accepted => by cases accepted) fun opens => by cases opens.1
  | none =>
      have willing : conduct.refusal? (service.writing draw payload) = none :=
        congrArg (Option.map Except.error) down
      rw [World.asked, willing]
      exact (and_iff_right rfl).symm

private theorem asked_writing (accepted :
    (world.asked conduct (service.writing draw payload)).1 = some (.ok ())) :
    world.asked conduct (service.writing draw payload) = (some (.ok ()),
      world.called (service.writing draw payload) true (Session.Store.set world.store
        world.clock.now (service.key (refreshToken draw.refresh)) payload
          service.refreshLifetime).2) := by
  obtain ⟨up, written⟩ := asked_writing_iff.1 accepted
  exact World.asked_of_reply (congrArg (Option.map Except.error) up) written

private theorem mints_write {pair : TokenPair}
    (tokens : service.pair? draw payload world.clock.now = some pair) :
    Mints service (conducts world.calls.length) draw payload world
      ((Operation.ask (service.writing draw payload) (afterWrite pair)).performed conducts
        world) := by
  have opens_iff : ∀ other, (service.pair? draw payload world.clock.now = some other ∧
      (conducts world.calls.length).setFailure = none ∧ (Session.Store.set world.store
        world.clock.now (service.key other.refresh) payload service.refreshLifetime).1 =
          some (.ok ())) ↔ pair = other ∧
        (world.asked (conducts world.calls.length) (service.writing draw payload)).1 =
          some (.ok ()) := by
    intro other
    rw [tokens, Option.some.injEq, asked_writing_iff]
    refine and_congr_right fun same => ?_
    rw [← same, (pair?_eq_some tokens).1]
  obtain ⟨done, called⟩ := world.calls_asked (conducts world.calls.length)
    (service.writing draw payload)
  have once : ∀ call ∈ [(⟨service.writing draw payload, done⟩ : Call)],
      call.request = service.writing draw payload := by
    intro call member
    rw [List.mem_singleton.1 member]
  rcases replied : world.asked (conducts world.calls.length) (service.writing draw payload) with
    ⟨_ | failure | _, after⟩
  · have told : (Operation.ask (service.writing draw payload) (afterWrite pair)).performed conducts
        world = _ := Operation.performed_ask_none replied
    rw [replied] at opens_iff called
    rw [told]
    refine .of_ne (fun _ out => by cases out) (fun other opens => ?_) ⟨_, called, once⟩
    cases ((opens_iff other).1 opens).2
  · have told : (Operation.ask (service.writing draw payload) (afterWrite pair)).performed conducts
        world = _ := Operation.performed_ask replied
    rw [replied] at opens_iff called
    rw [told]
    refine .of_ne (fun _ out => by cases out) (fun other opens => ?_) ⟨_, called, once⟩
    cases ((opens_iff other).1 opens).2
  · have told : (Operation.ask (service.writing draw payload) (afterWrite pair)).performed conducts
        world = _ := Operation.performed_ask replied
    have left := replied.symm.trans (asked_writing (congrArg Prod.fst replied))
    rw [replied] at opens_iff called
    rw [told]
    refine ⟨fun other => ?_, fun other out => ?_, ⟨_, called, once⟩⟩
    · rw [opens_iff, and_iff_left rfl]
      exact ⟨fun out => by cases out; rfl, fun same => by rw [same]; rfl⟩
    · cases out
      rw [← (pair?_eq_some tokens).1] at left
      cases left
      exact ⟨rfl, rfl⟩

theorem mints_mint (service : TokenService) (conducts : Conducts) (draw : Draw)
    (payload : Payload) (world : World σ) :
    Mints service (conducts world.calls.length) draw payload world
      ((service.mint draw payload).performed conducts world) := by
  rw [mint_eq, Operation.performed]
  cases tokens : service.pair? draw payload world.clock.now with
  | none =>
      refine .of_ne (fun _ out => by cases out) (fun pair opens => ?_)
        ⟨[], (List.append_nil _).symm, fun _ member => by cases member⟩
      cases tokens.symm.trans opens.1
  | some pair => exact mints_write tokens

end TokenService

end Bearer
