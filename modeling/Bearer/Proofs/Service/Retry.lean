import Bearer.Proofs.Service.Confined
import Bearer.Proofs.Service.InMemory

/-!
# Trying again after an outage

A refresh that fails since the store could not be reached may be tried again. Whether this can help
depends on the request that failed. If it was the taking, then the session is where it was, and the
next attempt renews it. If it was the writing, then the session had been taken before, and there is
nothing to be renewed any more: `refresh_outage`. `outage_loses_session` is such a case.

A clock may show any instant, so an attempt can be made at any of them: no session is found exactly
where none is live, `missed_iff`, and one is renewed exactly where it is live, `renewable_iff`.
-/

namespace Bearer

open Operation (Befalls befalls_mapped)
open Session (Entry Memory)
open TokenService (befalls_lastNote)

variable {service : TokenService} {draw : Draw} {token : String} {payload : Payload}
  {now later : Instant} {store after : Memory} {made : List Call} {error : TokenError}

namespace TokenService

theorem befalls_mint_outage (lasting : service.Lasting) (retryable : error.isRetryable = true)
    (befalls : Befalls now (service.mint draw payload) store made (.answered (.error error))
      after) :
    made = [⟨service.writing draw payload, false⟩] ∧ after = store := by
  have positive : 0 < service.refreshLifetime.nanoseconds :=
    Int.lt_trans lasting.positive lasting.longer
  rcases befalls_mint befalls with ⟨-, told, -⟩ | ⟨pair, follows⟩
  · cases told
  · cases follows with
    | refused refusal following =>
        obtain ⟨failure, rfl⟩ := refusal
        obtain ⟨rfl, -, rfl⟩ := befalls_lastNote following
        exact ⟨rfl, rfl⟩
    | served surroundings replied following =>
        -- Memory itself fails only where the key is in use, and that is no outage.
        rcases Request.live?_served_set positive replied with ⟨told, -⟩ | ⟨told | told, -⟩
        · cases told
          cases following
        · cases told
        · cases told
          obtain ⟨-, same, -⟩ := befalls_lastNote following
          cases same
          cases retryable

/-- If a refresh of the token of a live session fails because of an outage, then the session could
not be taken, or it was taken and the next one could not be written. -/
theorem befalls_refresh_outage {entry : Entry} (lasting : service.Lasting)
    (live : store.live? now (service.key token) = some entry)
    (retryable : error.isRetryable = true)
    (befalls : Befalls now (service.refresh draw token) store made (.answered (.error error))
      after) :
    (made = [⟨.take (service.key token), false⟩] ∧ after = store) ∨
      made = [⟨.take (service.key token), true⟩, ⟨service.writing draw entry.payload, false⟩] ∧
        after = (store.take now (service.key token)).2 := by
  cases befalls with
  | refused refusal follows =>
      obtain ⟨failure, rfl⟩ := refusal
      obtain ⟨rfl, -, rfl⟩ := befalls_lastNote follows
      exact .inl ⟨rfl, rfl⟩
  | served surroundings replied follows =>
      cases (Request.served_take_live live).symm.trans replied
      obtain ⟨rfl, rfl⟩ := befalls_mint_outage lasting retryable follows
      exact .inr ⟨rfl, rfl⟩

end TokenService

namespace Demand

theorem befalls_of_outage {conducts : Conducts} {context : Context} {world : World Memory}
    {demand : Demand}
    (failed : (demand.run service conducts context world).ending = .finished (.failed error))
    (retryable : error.isRetryable = true) :
    ∃ made, Befalls world.clock.now (demand.operation service) world.store made
        (.answered (.failed error)) (demand.run service conducts context world).state.store ∧
      (demand.run service conducts context world).state.calls = world.calls ++ made := by
  have uninterrupted : ∀ cause, Ending.finished (demand.interrupted cause) ≠
      .finished (.failed error) := by
    rintro cause same
    cases demand with
    | errand wanted =>
        cases same
        cases cause <;> cases retryable
    | logIn draw name password => cases same
  rcases run_befalls service conducts context world demand with
    withdrawn | ⟨made, fate, befalls, calls, ends | ⟨-, cause, interrupted⟩⟩
  · rw [withdrawn] at failed
    exact absurd failed (uninterrupted .canceled)
  · cases fate with
    | answered answer =>
        cases failed.symm.trans ends
        exact ⟨made, befalls, calls⟩
    | overflowed => cases failed.symm.trans ends
    | interrupted => exact ends.elim
  · exact absurd (interrupted.symm.trans failed) (uninterrupted cause)

/-- Where nobody is slow, nothing is refused and nothing interrupts it, a call is carried out at
once. -/
theorem agrees_run_prompt (service : TokenService) (comparator : Password.Comparator)
    (world : World Memory) (demand : Demand) :
    Operation.Agrees comparator (demand.operation service) world
      (demand.run service (fun _ => .prompt comparator) .unlimited world) := by
  rw [run_unlimited]
  exact Operation.agrees_run (demand.operation service) 0 world

end Demand

/-- The vacant world with some sessions, at an instant. -/
def World.showing (store : Memory) (now : Instant) : World Memory :=
  { vacant with clock := .system now, store }

namespace TokenService

/-- What is said of the ending of a refresh, at an instant when the store is back. -/
def EndsNext (service : TokenService) (draw : Draw) (token : String) (store : Memory)
    (later : Instant) (ends : Ending Answer → Prop) : Prop :=
  ∀ comparator (world : World Memory), world.store = store → world.clock.now = later →
    ends ((Demand.errand (.refresh draw token)).run service (fun _ => .prompt comparator)
      .unlimited world).ending

/-- A session is renewed, unless the drawn key is in use or the next session would end beyond the
calendar. -/
def Renewable (service : TokenService) (token : String) (store : Memory) (later : Instant) : Prop :=
  ∀ draw, (store.take later (service.key token)).2.live? later (service.drawnKey draw) = none →
    (later.plus? service.refreshLifetime).isSome →
      service.EndsNext draw token store later fun ending => ∃ pair, ending = .finished (.pair pair)

/-- No session is found. -/
def Missed (service : TokenService) (token : String) (store : Memory) (later : Instant) : Prop :=
  ∀ draw, service.EndsNext draw token store later (· = .finished (.failed .sessionNotFound))

theorem renewable_of_live {entry : Entry} (lasting : service.Lasting)
    (live : store.live? later (service.key token) = some entry) :
    service.Renewable token store later := by
  rintro draw free inside comparator world rfl rfl
  obtain ⟨expiry, ends⟩ := Option.isSome_iff_exists.1 inside
  obtain ⟨pair, -, carried⟩ := Errand.carried_refresh_live lasting live free ends
  refine ⟨pair, ?_⟩
  rw [(Demand.agrees_run_prompt service comparator world _).ending, Demand.operation, carried]

/-- No session is found exactly where none is live. -/
theorem missed_iff :
    service.Missed token store later ↔ store.live? later (service.key token) = none := by
  constructor
  · intro missed
    by_contra live
    obtain ⟨entry, live⟩ := Option.ne_none_iff_exists'.1 live
    -- One attempt is enough: the clock of the system shows whatever instant it is.
    have ended := missed (sameBytes 1) (fun _ _ => false) (.showing store later) rfl rfl
    exact Errand.carried_refresh_ne live ((Demand.agrees_run_prompt service _ _ _).carried ended)
  · rintro gone draw comparator world rfl rfl
    rw [(Demand.agrees_run_prompt service comparator world _).ending, Demand.operation,
      Errand.carried_refresh_unknown gone]

/-- A session can be renewed exactly where it is live, if there is a free key for the next one, and
an end within the calendar. -/
theorem renewable_iff (lasting : service.Lasting)
    (free : (store.take later (service.key token)).2.live? later (service.drawnKey draw) = none)
    (inside : (later.plus? service.refreshLifetime).isSome) :
    service.Renewable token store later ↔ store.live? later (service.key token) ≠ none := by
  constructor
  · intro renewable gone
    obtain ⟨pair, renewed⟩ := renewable draw free inside (fun _ _ => false)
      (.showing store later) rfl rfl
    have missed := missed_iff.2 gone draw (fun _ _ => false) (.showing store later) rfl rfl
    cases renewed.symm.trans missed
  · intro live
    obtain ⟨entry, live⟩ := Option.ne_none_iff_exists'.1 live
    exact renewable_of_live lasting live

end TokenService

/-- How a refresh that fails because of an outage leaves the session that it was to renew. -/
inductive TokenService.Outage (service : TokenService) (draw : Draw) (token : String)
    (entry : Entry) (now : Instant) (store : Memory) : List Call → Memory → Prop
  /-- The session could not be taken. It is where it was, and can be renewed as long as it lives. -/
  | untaken (renewable : ∀ later, entry.isLive later → now ≤ later →
        service.Renewable token store later) :
      Outage service draw token entry now store [⟨.take (service.key token), false⟩] store
  /-- The session was taken, but the next one could not be written. There is none to be renewed. -/
  | unwritten {after : Memory}
      (gone : ∀ later, after.live? later (service.key token) = none)
      (missed : ∀ later, service.Missed token after later) :
      Outage service draw token entry now store
        [⟨.take (service.key token), true⟩, ⟨service.writing draw entry.payload, false⟩] after

/-- A refresh that fails because of an outage keeps the session of the token exactly if it was the
taking that failed. -/
theorem refresh_outage {issuer audience activeKey : String} {accessSeconds refreshSeconds : Int}
    {hashKey : List UInt8} {keys : List Token.NamedKey} {config : Config}
    (accepted : Config.new issuer audience accessSeconds refreshSeconds hashKey keys activeKey =
      .ok config)
    (setUp : TokenService.ofConfig config = .ok service) (conducts : Conducts) (context : Context)
    (world : World Memory) (draw : Draw) {entry : Entry}
    (live : world.store.live? world.clock.now (service.key token) = some entry)
    (failed : ((Demand.errand (.refresh draw token)).run service conducts context world).ending =
      .finished (.failed error))
    (retryable : error.isRetryable = true) :
    ∃ made, ((Demand.errand (.refresh draw token)).run service conducts context world).state.calls =
        world.calls ++ made ∧
      service.Outage draw token entry world.clock.now world.store made
        ((Demand.errand (.refresh draw token)).run service conducts context world).state.store := by
  have lasting := TokenService.Lasting.ofConfig accepted setUp
  obtain ⟨made, befalls, calls⟩ := Demand.befalls_of_outage failed retryable
  refine ⟨made, calls, ?_⟩
  obtain ⟨fate, same, refreshed⟩ := befalls_mapped befalls
  have told : fate = .answered (.error error) := by
    cases fate with
    | answered result => rw [Answer.ofPair_eq_failed (Fate.answered.inj same).symm]
    | overflowed => cases same
    | interrupted => cases same
  subst told
  rcases TokenService.befalls_refresh_outage lasting live retryable refreshed with
    ⟨rfl, left⟩ | ⟨rfl, left⟩
  · rw [left]
    refine .untaken fun later lives order => ?_
    have still : world.store.live? later (service.key token) = some entry := by
      rw [Memory.live?_later order, live]
      exact Option.filter_some_pos lives
    exact TokenService.renewable_of_live lasting still
  · rw [left]
    have gone : ∀ later, (world.store.take world.clock.now (service.key token)).2.live? later
        (service.key token) = none := by
      intro later
      rw [Memory.live?_take, if_pos rfl]
    exact .unwritten gone fun later => TokenService.missed_iff.2 (gone later)

/-- Where the session can be taken and the next one is refused, a refresh fails because of an outage
and leaves no session. -/
theorem run_unwritten {world : World Memory} {entry : Entry} {expiry : Instant} {reason : String}
    (lasting : service.Lasting) (conducts : Conducts) (draw : Draw)
    (live : world.store.live? world.clock.now (service.key token) = some entry)
    (ends : world.clock.now.plus? service.refreshLifetime = some expiry)
    (willing : (conducts world.calls.length).takeFailure = none)
    (down : (conducts (world.calls.length + 1)).setFailure = some (.unavailable reason)) :
    ((Demand.errand (.refresh draw token)).run service conducts .unlimited world).ending =
        .finished (.failed (.storeUnavailable reason)) ∧
      ((Demand.errand (.refresh draw token)).run service conducts .unlimited world).state.store =
        (world.store.take world.clock.now (service.key token)).2 := by
  obtain ⟨pair, made⟩ := TokenService.pair?_isSome lasting draw entry.payload ends
  -- The clock stands between the two requests, so that the tokens are made all the same.
  let request : Request := .take (service.key token)
  let between := ((world.begun request).served request).settled world.calls.length
  have count : between.calls.length = world.calls.length + 1 := by
    rw [Operation.calls_settled, List.length_append]
    rfl
  have taken : ∃ moment, Operation.Replies (conducts world.calls.length) request 0 world
      (.ok (some entry.payload)) moment between := by
    refine ⟨_, .served (congrArg (Option.map Except.error) willing) ?_⟩
    exact congrArg (fun found => some (Except.ok (Option.map Entry.payload found))) live
  let writing : Request := .set (service.key pair.refresh) entry.payload service.refreshLifetime
  have refused : (conducts between.calls.length).refusal? writing =
      some (.error (.unavailable reason)) := by
    rw [count]
    exact congrArg (Option.map Except.error) down
  obtain ⟨moment, taken⟩ := taken
  have tokens : service.pair? draw entry.payload between.clock.now = some pair := made
  have ended : (Demand.errand (.refresh draw token)).run service conducts .unlimited world =
      ⟨.finished (.failed (.storeUnavailable reason)),
        moment + (conducts between.calls.length).before writing,
        (between.begun writing).noted (.storeFailed .set (.unavailable reason))⟩ := by
    rw [Demand.run_unlimited]
    refine (Operation.run_of_goes (.ask taken (.clock (.stay _ _ _)))).trans ?_
    dsimp only
    rw [tokens]
    exact Operation.run_of_goes (.ask (.refused refused) (.stay _ _ _))
  rw [ended]
  exact ⟨rfl, rfl⟩

/-- Collaborators with a store that is not reached. -/
def Conduct.down : Conduct :=
  { prompt (fun _ _ => false) with
    setFailure := some (.unavailable "down")
    takeFailure := some (.unavailable "down") }

/-- Collaborators with a store from which sessions can be taken, but to which none can be
written. -/
def Conduct.halfDown : Conduct :=
  { prompt (fun _ _ => false) with setFailure := some (.unavailable "down") }

/-- The token of the session in the occupied world. -/
def World.heldToken : String :=
  TokenService.refreshToken (TokenService.sameBytes 1).refresh

/-- A call to renew that session. -/
def Demand.renewal : Demand :=
  .errand (.refresh (TokenService.sameBytes 2) World.heldToken)

theorem World.live?_occupied :
    World.occupied.store.live? .epoch (TokenService.small.key World.heldToken) =
      some ⟨.small, ⟨600000000000, by decide, by decide⟩⟩ := by
  have ends : Instant.epoch.plus? TokenService.small.refreshLifetime =
      some ⟨600000000000, by decide, by decide⟩ := rfl
  exact (Memory.live?_set rfl ends (Int.le_refl _) _).trans (if_pos rfl)

/-- A session that could not be taken since the store was not reached can be renewed for as long as
it would have lived. -/
theorem refresh_outage_down :
    (Demand.renewal.run .small (fun _ => .down) .unlimited .occupied).ending =
        .finished (.failed (.storeUnavailable "down")) ∧
      ∀ later, .epoch ≤ later → later < ⟨600000000000, by decide, by decide⟩ →
        TokenService.small.Renewable World.heldToken
          (Demand.renewal.run .small (fun _ => .down) .unlimited .occupied).state.store later := by
  have failed : (Demand.renewal.run .small (fun _ => .down) .unlimited .occupied).ending =
      .finished (.failed (.storeUnavailable "down")) := rfl
  obtain ⟨made, calls, outage⟩ := refresh_outage Config.new_small TokenService.ofConfig_small
    (fun _ => .down) .unlimited .occupied (TokenService.sameBytes 2) World.live?_occupied failed rfl
  refine ⟨failed, fun later order lives => ?_⟩
  have only : made = [⟨.take (TokenService.small.key World.heldToken), false⟩] := calls.symm
  cases outage with
  | untaken renewable => exact renewable later (decide_eq_true lives) order
  | unwritten gone missed => cases only

/-- A session whose successor could not be written is lost, although the caller is told to try
again. -/
theorem outage_loses_session :
    World.occupied.store.live? .epoch (TokenService.small.key World.heldToken) ≠ none ∧
      (Demand.renewal.run .small (fun _ => .halfDown) .unlimited .occupied).ending =
        .finished (.failed (.storeUnavailable "down")) ∧
      (TokenError.storeUnavailable "down").isRetryable = true ∧
      (Demand.renewal.run .small (fun _ => .halfDown) .unlimited .occupied).state.store.live? .epoch
        (TokenService.small.key World.heldToken) = none ∧
      TokenService.small.Missed World.heldToken
        (Demand.renewal.run .small (fun _ => .halfDown) .unlimited .occupied).state.store
        .epoch := by
  have lasting := TokenService.Lasting.ofConfig Config.new_small TokenService.ofConfig_small
  obtain ⟨ending, left⟩ := run_unwritten lasting (fun _ => .halfDown) (TokenService.sameBytes 2)
    World.live?_occupied rfl rfl rfl
  have gone :
      (Demand.renewal.run .small (fun _ => .halfDown) .unlimited .occupied).state.store.live? .epoch
        (TokenService.small.key World.heldToken) = none := by
    rw [Demand.renewal, left, Memory.live?_take, if_pos rfl]
  refine ⟨?_, ending, rfl, gone, TokenService.missed_iff.2 gone⟩
  rw [World.live?_occupied]
  nofun

end Bearer
