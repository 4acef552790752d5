import Bearer.Proofs.Service.Pool
import Bearer.Proofs.Service.Retry
import Bearer.Proofs.Token.RoundTrip

/-!
# How long a refresh token is good for

A pair names the second at which its refresh token ends, rounded down. The session itself lives up
to the instant at which it was opened, moved by the lifetime. Whatever happens on the store
afterwards, while the clock never goes back, the session is kept up to its end unless it is taken or
closed, and it does not come back unless another one is opened under its key: `Pool.holds_of_runs`
and `Pool.misses_of_runs`. So a refresh token is good up to the second that its pair names, and no
longer than one second more; and it is good wherever the access token of the pair is:
`good_until_expiry`.
-/

namespace Bearer

open Operation (Befalls)
open Session (Entry Memory)

variable {service : TokenService} {surroundings : Surroundings} {now later : Instant}
  {store after : Memory} {key : String} {entry : Entry}

namespace Exchange

/-- Whether a store gave the session of a key away or closed it. -/
def removes (key : String) : Exchange → Bool
  | ⟨.take other, .ok (some _)⟩ => other = key
  | ⟨.delete other, .ok true⟩ => other = key
  | _ => false

/-- Whether a store opened a session under a key. -/
def opens (key : String) : Exchange → Bool
  | ⟨.set other _ _, .ok ()⟩ => other = key
  | _ => false

end Exchange

namespace Request

variable {request : Request}

private theorem live?_served {reply : Option request.Reply}
    (served : request.served surroundings now store = (reply, after)) (order : now ≤ later)
    (key : String) :
    after.live? later key = store.live? later key ∨
      (store.live? now key = none ∧
        ∃ done, reply = some done ∧ (⟨request, done⟩ : Exchange).opens key = true) ∨
      (after.live? later key = none ∧ ∀ entry, store.live? now key = some entry →
        ∃ done, reply = some done ∧ (⟨request, done⟩ : Exchange).removes key = true) := by
  cases request with
  | set other payload lifetime =>
      change store.set now other payload lifetime = (reply, after) at served
      cases used : store.live? now other with
      | some entry =>
          cases (Memory.set_of_live used payload lifetime).symm.trans served
          exact .inl rfl
      | none =>
          cases ends : now.plus? lifetime with
          | none =>
              cases (Memory.set_of_beyond used ends payload).symm.trans served
              exact .inl (Memory.live?_purged_of_le store order key)
          | some expiry =>
              have seen : (store.set now other payload lifetime).2.live? later key = _ :=
                Memory.live?_set used ends order key
              cases (Memory.set_of_free used ends payload).symm.trans served
              by_cases same : key = other
              · exact .inr (.inl ⟨same ▸ used, _, rfl, decide_eq_true same.symm⟩)
              · rw [Memory.set_of_free used ends, if_neg same] at seen
                exact .inl seen
  | take other =>
      cases served
      have seen := Memory.live?_take store now later other key
      by_cases same : key = other
      · refine .inr (.inr ⟨seen.trans (if_pos same), fun entry live => ⟨_, rfl, ?_⟩⟩)
        subst same
        rw [Memory.get, live]
        exact decide_eq_true rfl
      · exact .inl (seen.trans (if_neg same))
  | delete other =>
      cases served
      have seen := Memory.live?_take store now later other key
      by_cases same : key = other
      · refine .inr (.inr ⟨seen.trans (if_pos same), fun entry live => ⟨_, rfl, ?_⟩⟩)
        subst same
        rw [live]
        exact decide_eq_true rfl
      · exact .inl (seen.trans (if_neg same))
  | find place name =>
      cases served
      exact .inl rfl
  | compare hash password =>
      cases served
      exact .inl rfl

theorem keeps_session {reply : Option request.Reply}
    (served : request.served surroundings now store = (reply, after))
    (kept : ∀ done, reply = some done → (⟨request, done⟩ : Exchange).removes key = false)
    (order : now ≤ later) (live : store.live? later key = some entry) :
    after.live? later key = some entry := by
  have alive : store.live? now key = some entry := by
    rw [Memory.live?_later order] at live
    exact (Option.filter_eq_some_iff.1 live).1
  rcases live?_served served order key with same | ⟨free, -⟩ | ⟨-, removed⟩
  · exact same.trans live
  · cases free.symm.trans alive
  · obtain ⟨done, replied, removes⟩ := removed entry alive
    exact absurd removes (by rw [kept done replied]; exact Bool.false_ne_true)

theorem keeps_absence {reply : Option request.Reply}
    (served : request.served surroundings now store = (reply, after))
    (kept : ∀ done, reply = some done → (⟨request, done⟩ : Exchange).opens key = false)
    (order : now ≤ later) (gone : store.live? later key = none) :
    after.live? later key = none := by
  rcases live?_served served order key with same | ⟨-, done, replied, opens⟩ | ⟨absent, -⟩
  · exact same.trans gone
  · exact absurd opens (by rw [kept done replied]; exact Bool.false_ne_true)
  · exact absent

end Request

namespace Pool

variable {origin pool next : Pool Memory}

/-- What may happen next in a pool while the clock does not go back. -/
def StepOnward (pool next : Pool Memory) : Prop :=
  Step pool next ∧ pool.now ≤ next.now

/-- A pool is reached from another one while the clock never goes back. -/
def RunsOnward : Pool Memory → Pool Memory → Prop :=
  Relation.ReflTransGen StepOnward

/-- No session under a key was given away or closed. -/
def Unremoved (pool : Pool Memory) (key : String) : Prop :=
  ∀ happening ∈ pool.history, ∀ exchange, happening.effect = some exchange →
    exchange.removes key = false

/-- No session was opened under a key. -/
def Unopened (pool : Pool Memory) (key : String) : Prop :=
  ∀ happening ∈ pool.history, ∀ exchange, happening.effect = some exchange →
    exchange.opens key = false

/-- From some instant on a session is kept up to its end. -/
def Holds (pool : Pool Memory) (key : String) (entry : Entry) : Prop :=
  ∀ later, pool.now ≤ later → entry.isLive later = true →
    pool.store.live? later key = some entry

/-- From some instant on there is no session any more once one would have ended. -/
def Misses (pool : Pool Memory) (key : String) (entry : Entry) : Prop :=
  ∀ later, pool.now ≤ later → entry.isLive later = false → pool.store.live? later key = none

private theorem store_of_reacts {request : Request} {effect : Option Exchange}
    {reply : request.Reply} (reacts : Reacts now store request effect reply after) :
    (effect = none ∧ after = store) ∨ ∃ surroundings done, effect = some ⟨request, done⟩ ∧
      request.served surroundings now store = (some done, after) := by
  cases reacts with
  | served surroundings served => exact .inr ⟨surroundings, _, rfl, served⟩
  | refused refusal => exact .inl ⟨rfl, rfl⟩
  | lost surroundings served refusal => exact .inr ⟨surroundings, _, rfl, served⟩

private theorem store_of_step (step : Step pool next) :
    next.store = pool.store ∨ next.now = pool.now ∧ ∃ request surroundings reply,
      Request.served surroundings pool.now pool.store request = (reply, next.store) ∧
        ∀ done, reply = some done → ∃ happening ∈ next.history,
          happening.effect = some ⟨request, done⟩ := by
  cases step with
  | tick now => exact .inl rfl
  | drift drifts => exact .inl drifts.symm
  | move task found moves => exact .inl rfl
  | ask task found reacts =>
      rcases store_of_reacts reacts with ⟨rfl, rfl⟩ | ⟨surroundings, done, rfl, served⟩
      · exact .inl rfl
      · refine .inr ⟨rfl, _, surroundings, _, served, fun other same => ?_⟩
        cases same
        exact ⟨_, List.mem_append_right _ (List.mem_singleton_self _), rfl⟩
  | broken task surroundings found served =>
      exact .inr ⟨rfl, _, surroundings, _, served, fun _ same => by cases same⟩

theorem holds_step (holds : Holds pool key entry) (step : StepOnward pool next)
    (kept : next.Unremoved key) : Holds next key entry := by
  intro later order lives
  have live := holds later (Int.le_trans step.2 order) lives
  rcases store_of_step step.1 with same | ⟨still, request, surroundings, reply, served, heard⟩
  · rwa [same]
  · refine Request.keeps_session served (fun done same => ?_) (still ▸ order) live
    obtain ⟨happening, member, effect⟩ := heard done same
    exact kept happening member _ effect

theorem misses_step (misses : Misses pool key entry) (step : StepOnward pool next)
    (kept : next.Unopened key) : Misses next key entry := by
  intro later order ended
  have gone := misses later (Int.le_trans step.2 order) ended
  rcases store_of_step step.1 with same | ⟨still, request, surroundings, reply, served, heard⟩
  · rwa [same]
  · refine Request.keeps_absence served (fun done same => ?_) (still ▸ order) gone
    obtain ⟨happening, member, effect⟩ := heard done same
    exact kept happening member _ effect

/-- Whatever happens, a session is kept up to its end unless it is taken or closed. -/
theorem holds_of_runs (holds : Holds origin key entry) (runs : RunsOnward origin pool)
    (kept : pool.Unremoved key) : Holds pool key entry := by
  induction runs with
  | refl => exact holds
  | tail _ step ih =>
      refine holds_step (ih fun happening member => ?_) step kept
      exact kept happening (mem_history_of_step step.1 happening member)

/-- Whatever happens, no session comes back after its end unless another one is opened. -/
theorem misses_of_runs (misses : Misses origin key entry) (runs : RunsOnward origin pool)
    (kept : pool.Unopened key) : Misses pool key entry := by
  induction runs with
  | refl => exact misses
  | tail _ step ih =>
      refine misses_step (ih fun happening member => ?_) step kept
      exact kept happening (mem_history_of_step step.1 happening member)

end Pool

/-! ## The session of a pair -/

namespace TokenService

variable {payload : Payload} {pair : TokenPair}

/-- A session that was opened in memory ends the lifetime after that instant. -/
theorem Opened.live? (opened : service.Opened now payload pair after) :
    ∃ expiry, expiry.nanoseconds = now.nanoseconds + service.refreshLifetime.nanoseconds ∧
      ∀ later, now ≤ later → after.live? later (service.key pair.refresh) =
        (some ⟨payload, expiry⟩ : Option Entry).filter (·.isLive later) := by
  obtain ⟨draw, -, before, written⟩ := opened
  change before.set now _ payload _ = _ at written
  cases used : before.live? now (service.key pair.refresh) with
  | some entry => cases (Memory.set_of_live used _ _).symm.trans written
  | none =>
      cases ends : now.plus? service.refreshLifetime with
      | none => cases (Memory.set_of_beyond used ends payload).symm.trans written
      | some expiry =>
          refine ⟨expiry, Instant.plus?_eq_some_iff.1 ends, fun later order => ?_⟩
          have set : (before.set now (service.key pair.refresh) payload
              service.refreshLifetime).2.live? later (service.key pair.refresh) = _ :=
            Memory.live?_set used ends order (service.key pair.refresh)
          rwa [written, if_pos rfl] at set

/-- What is known of the refresh token of a pair that was made at an instant, in a pool that came
about since. -/
structure GoodUntil (service : TokenService) (now : Instant) (pair : TokenPair)
    (pool : Pool Memory) : Prop where
  /-- The refresh token ends the lifetime after the last whole second. -/
  expiry : pair.refreshExpiry.nanoseconds =
    now.wholeSecond.nanoseconds + service.refreshLifetime.nanoseconds
  /-- Unless its session was taken or closed, it is good up to that second. -/
  renewable : pool.Unremoved (service.key pair.refresh) → ∀ later, pool.now ≤ later →
    later < pair.refreshExpiry → service.Renewable pair.refresh pool.store later
  /-- Unless another session was opened under its key, it is good for nothing a second later. -/
  missed : pool.Unopened (service.key pair.refresh) → ∀ later, pool.now ≤ later →
    pair.refreshExpiry.nanoseconds + Span.second ≤ later.nanoseconds →
      service.Missed pair.refresh pool.store later

theorem goodUntil_of_runs (lasting : service.Lasting)
    (opened : service.Opened now payload pair after) {operations : List (Operation Answer)}
    {pool : Pool Memory} (runs : Pool.RunsOnward (.start now after operations) pool) :
    service.GoodUntil now pair pool := by
  obtain ⟨expiry, ends, live⟩ := opened.live?
  obtain ⟨draw, made, -⟩ := opened
  have reported := Instant.plus?_eq_some_iff.1 (made_of_pair? made).2.1
  -- The second that the pair names and the end of the session are less than a second apart.
  have before := now.nanoseconds_wholeSecond_le
  have within := now.lt_wholeSecond_add
  refine ⟨reported, fun kept later order early => ?_, fun kept later order late => ?_⟩
  · have holds : (Pool.start now after operations).Holds (service.key pair.refresh)
        ⟨payload, expiry⟩ := by
      intro moment since lives
      exact (live moment since).trans (Option.filter_some_pos lives)
    refine renewable_of_live lasting (Pool.holds_of_runs holds runs kept later order ?_)
    rw [Instant.lt_def] at early
    rw [Entry.isLive, decide_eq_true_eq, Instant.lt_def]
    dsimp only
    omega
  · have misses : (Pool.start now after operations).Misses (service.key pair.refresh)
        ⟨payload, expiry⟩ := by
      intro moment since ended
      exact (live moment since).trans (Option.filter_some_neg ended)
    refine missed_iff.2 (Pool.misses_of_runs misses runs kept later order ?_)
    rw [Entry.isLive, decide_eq_false_iff_not, Instant.lt_def]
    dsimp only
    omega

end TokenService

theorem Demand.opened_of_answered {conducts : Conducts} {context : Context} {world : World Memory}
    {demand : Demand} {pair : TokenPair}
    (answered : (demand.run service conducts context world).ending = .finished (.pair pair)) :
    ∃ payload, service.Opened world.clock.now payload pair
      (demand.run service conducts context world).state.store := by
  rcases run_befalls service conducts context world demand with
    withdrawn | ⟨made, fate, befalls, -, ends | ⟨-, cause, interrupted⟩⟩
  · rw [withdrawn] at answered
    exact absurd (Ending.finished.inj answered) (told_ne_pair demand _ pair)
  · cases fate with
    | answered answer =>
        cases answered.symm.trans ends
        exact TokenService.opened_of_befalls befalls
    | overflowed => cases answered.symm.trans ends
    | interrupted => exact ends.elim
  · exact absurd (Ending.finished.inj (interrupted.symm.trans answered))
      (told_ne_pair demand _ pair)

/-- The refresh token of a pair is good up to the second that the pair names, and for nothing a
second later, whatever else is done meanwhile; and while the access token of the pair is accepted,
the refresh token is good. -/
theorem good_until_expiry {issuer audience activeKey : String} {accessSeconds refreshSeconds : Int}
    {hashKey : List UInt8} {keys : List Token.NamedKey} {config : Config}
    (accepted : Config.new issuer audience accessSeconds refreshSeconds hashKey keys activeKey =
      .ok config)
    (setUp : TokenService.ofConfig config = .ok service) (conducts : Conducts) (context : Context)
    (world : World Memory) (since : .epoch ≤ world.clock.now) (demand : Demand) {pair : TokenPair}
    (answered : (demand.run service conducts context world).ending = .finished (.pair pair))
    {operations : List (Operation Answer)} {pool : Pool Memory}
    (runs : Pool.RunsOnward (.start world.clock.now
      (demand.run service conducts context world).state.store operations) pool) :
    pair.refreshExpiry.nanoseconds =
        world.clock.now.wholeSecond.nanoseconds + config.refreshSeconds * Span.second ∧
      service.GoodUntil world.clock.now pair pool ∧
      (pool.Unremoved (service.key pair.refresh) →
        ∀ later payload, pool.now ≤ later →
          service.signer.verify later pair.access = .ok payload →
            service.Renewable pair.refresh pool.store later) := by
  have lasting := TokenService.Lasting.ofConfig accepted setUp
  obtain ⟨payload, opened⟩ := Demand.opened_of_answered answered
  have good := TokenService.goodUntil_of_runs lasting opened runs
  obtain ⟨positive, longer⟩ := Config.lifetimes_of_new accepted
  have lifetime := (Span.ofSeconds?_eq_some_iff.1 (TokenService.lifetimes_ofConfig setUp).2).2
  have expiry := good.expiry
  rw [lifetime] at expiry
  refine ⟨expiry, good, fun kept later other order verified => ?_⟩
  obtain ⟨ends, verify⟩ := opened.verify_access setUp (Config.nodup_of_new accepted) positive since
  have early : later ≤ pair.accessExpiry := by
    by_contra late
    rw [verify, if_neg late] at verified
    cases verified
  refine good.renewable kept later order ?_
  rw [Instant.le_def] at early
  rw [Instant.lt_def]
  simp only [Span.second] at ends expiry
  omega

/-- An instant within a second, between two milliseconds. -/
def Instant.midSecond : Instant :=
  ⟨1250000500, by decide, by decide⟩

/-- The vacant world at that instant. -/
def World.midSecond : World Memory :=
  .showing .empty .midSecond

/-- A session that is opened in the middle of a second: ten minutes after that second has begun the
pair says that it ends, and a second later it has. -/
theorem good_until_expiry_midSecond :
    ∃ pair, (Demand.small.run .small (fun _ => .prompt fun _ _ => false) .unlimited
        .midSecond).ending = .finished (.pair pair) ∧
      pair.refreshExpiry.nanoseconds = 601000000000 ∧
      ∀ later, (⟨3000000000, by decide, by decide⟩ : Instant) ≤ later →
        (later.nanoseconds < 601000000000 → TokenService.small.Renewable pair.refresh
          (Demand.small.run .small (fun _ => .prompt fun _ _ => false) .unlimited
            .midSecond).state.store later) ∧
        (602000000000 ≤ later.nanoseconds → TokenService.small.Missed pair.refresh
          (Demand.small.run .small (fun _ => .prompt fun _ _ => false) .unlimited
            .midSecond).state.store later) := by
  have lasting := TokenService.Lasting.ofConfig Config.new_small TokenService.ofConfig_small
  have ends : World.midSecond.clock.now.plus? TokenService.small.refreshLifetime =
      some ⟨601250000500, by decide, by decide⟩ := rfl
  obtain ⟨pair, -, carried⟩ := Errand.carried_issue lasting
    (rfl : World.midSecond.store.live? World.midSecond.clock.now (TokenService.smallKey 1) = none)
    ends
  have answered : (Demand.small.run .small (fun _ => .prompt fun _ _ => false) .unlimited
      .midSecond).ending = .finished (.pair pair) := by
    rw [(Demand.agrees_run_prompt .small (fun _ _ => false) .midSecond _).ending, Demand.small,
      Demand.operation, carried]
  have onward : ∀ store : Memory, Pool.RunsOnward (.start World.midSecond.clock.now store [])
      { Pool.start World.midSecond.clock.now store [] with
        now := ⟨3000000000, by decide, by decide⟩ } :=
    fun store => .single ⟨.tick _ _, show (1250000500 : Int) ≤ 3000000000 by decide⟩
  obtain ⟨expiry, good, -⟩ := good_until_expiry Config.new_small TokenService.ofConfig_small _ _ _
    (by decide) _ answered (onward _)
  refine ⟨pair, answered, expiry, fun later order => ⟨fun early => ?_, fun late => ?_⟩⟩
  · refine good.renewable (fun _ member => by cases member) later order ?_
    rw [Instant.lt_def, expiry]
    exact early
  · refine good.missed (fun _ member => by cases member) later order ?_
    rw [expiry]
    exact late

end Bearer
