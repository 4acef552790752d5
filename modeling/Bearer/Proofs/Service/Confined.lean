import Bearer.Proofs.Service.Interrupted
import Bearer.Proofs.Service.Ledger
import Bearer.Proofs.Service.Opening

/-!
# What a call can do to the sessions

Whatever becomes of a call, it touches at most two sessions: the one of the token that was presented
is kept or removed, and one is added under the key of the drawn token, if that key is free. All
others are kept (`calls_confined`). A call that fails adds a session only if its reply was lost.
-/

namespace Bearer

open Session (Adds Entry Memory)

/-- Whether an answer says that there was nothing, or nobody, to be found. -/
def Answer.misses : Answer → Bool
  | .failed .sessionNotFound => true
  | .rejected .invalidCredentials => true
  | .rejected (.directoryUnavailable _) => true
  | _ => false

namespace Demand

/-- The key of the token that is presented. -/
def presentedKey? (service : TokenService) : Demand → Option String
  | errand (.refresh _ token) => some (service.key token)
  | errand (.revoke token) => some (service.key token)
  | _ => none

/-- The key of the token that is drawn. -/
def drawnKey? (service : TokenService) (demand : Demand) : Option String :=
  demand.draw?.map service.drawnKey

/-- The sessions before the next one is opened: all of them, or all but the one of the token that
was presented. -/
inductive Starts (service : TokenService) (demand : Demand) (before : String → Option Entry) :
    (String → Option Entry) → Prop where
  /-- No token was presented. -/
  | whole (fresh : demand.presentedKey? service = none) : Starts service demand before before
  /-- The session of the presented token was taken. -/
  | without {key : String} (presented : demand.presentedKey? service = some key)
      (found : before key ≠ none) :
      Starts service demand before (Function.update before key none)

/-- No session was opened, and if one was written its key was in use. -/
structure Unopened (demand : Demand) (made : List Call) (fate : Fate Answer) : Prop where
  /-- No pair is returned. -/
  unpaired : ∀ pair, fate ≠ .answered (.pair pair)
  /-- Whoever wrote is told that the key is in use. -/
  collided : ∀ key payload lifetime, ⟨.set key payload lifetime, true⟩ ∈ made →
    fate = .answered (demand.told (.ofFailure .keyExists))

/-- How a demand changes the sessions. -/
inductive Alters (service : TokenService) (demand : Demand) (before : String → Option Entry) :
    List Call → Fate Answer → (String → Option Entry) → Prop where
  /-- All sessions are kept. -/
  | kept {made : List Call} {fate : Fate Answer} (unopened : Unopened demand made fate)
      (unclosed : fate ≠ .answered .closed) : Alters service demand before made fate before
  /-- The session of the presented token is removed. -/
  | removed {made : List Call} {fate : Fate Answer} {key : String}
      (presented : demand.presentedKey? service = some key) (unopened : Unopened demand made fate)
      (found : ∀ answer, fate = .answered answer → answer.misses = false) :
      Alters service demand before made fate (Function.update before key none)
  /-- A session is added under the key of the drawn token. -/
  | added {made : List Call} {fate : Fate Answer} {key : String}
      {base after : String → Option Entry} (starts : Starts service demand before base)
      (drawn : demand.drawnKey? service = some key) (adds : Adds key base after)
      (heard : (∃ pair, fate = .answered (.pair pair)) ∨ fate = .interrupted ∧
        ∃ earlier payload, made = earlier ++ [⟨.set key payload service.refreshLifetime, false⟩]) :
      Alters service demand before made fate after

open Operation (Befalls befalls_mapped)
open TokenService (Opening Entering asksElsewhere befalls_lastNote)

variable {service : TokenService} {demand : Demand} {now : Instant} {store left : Memory}
  {before base after : String → Option Entry} {made : List Call} {fate : Fate Answer}
  {draw : Draw} {payload : Payload} {token name password : String}

theorem told_ne_pair (demand : Demand) (error : TokenError) (pair : TokenPair) :
    demand.told error ≠ .pair pair := by
  cases demand <;> nofun

theorem told_ne_closed (demand : Demand) (error : TokenError) : demand.told error ≠ .closed := by
  cases demand <;> nofun

private theorem misses_told (demand : Demand) (failure : Session.Failure) :
    (demand.told (.ofFailure failure)).misses = false := by
  cases demand <;> cases failure <;> rfl

/-- A demand that fails tells the failure of the store, if it tells anything. -/
def Fails (demand : Demand) (fate : Fate Answer) : Prop :=
  ∀ answer, fate = .answered answer → ∃ failure, answer = demand.told (.ofFailure failure)

private theorem fails_told (demand : Demand) (failure : Session.Failure) :
    demand.Fails (.answered (demand.told (.ofFailure failure))) := by
  rintro _ ⟨⟩
  exact ⟨failure, rfl⟩

private theorem fails_interrupted (demand : Demand) : demand.Fails .interrupted := by
  rintro _ ⟨⟩

private theorem Fails.unpaired (fails : demand.Fails fate) (pair : TokenPair) :
    fate ≠ .answered (.pair pair) := by
  intro told
  obtain ⟨failure, same⟩ := fails _ told
  exact told_ne_pair demand _ pair same.symm

private theorem Fails.unopened (fails : demand.Fails fate)
    (undone : ∀ call ∈ made, call.done = false) : Unopened demand made fate := by
  refine ⟨fails.unpaired, fun key payload lifetime member => ?_⟩
  cases undone _ member

private theorem Fails.unclosed (fails : demand.Fails fate) : fate ≠ .answered .closed := by
  intro told
  obtain ⟨failure, same⟩ := fails _ told
  exact told_ne_closed demand _ same.symm

private theorem Fails.found (fails : demand.Fails fate) (answer : Answer)
    (told : fate = .answered answer) : answer.misses = false := by
  obtain ⟨failure, rfl⟩ := fails answer told
  exact misses_told demand failure

private theorem alters_of_starts (starts : Starts service demand before base)
    (unopened : Unopened demand made fate) (fails : demand.Fails fate) :
    Alters service demand before made fate base := by
  cases starts with
  | whole fresh => exact .kept unopened fails.unclosed
  | without presented found => exact .removed presented unopened fails.found

private theorem alters_of_opening {key : String} {answered : Except TokenError TokenPair → Answer}
    {fate : Fate (Except TokenError TokenPair)} (starts : Starts service demand before base)
    (drawn : demand.drawnKey? service = some key)
    (paired : ∀ pair, answered (.ok pair) = .pair pair)
    (told : ∀ error, answered (.error error) = demand.told error)
    (opening : Opening service key base made fate after) :
    Alters service demand before made (fate.map answered) after := by
  cases opening with
  | @opened payload pair after adds =>
      exact .added starts drawn adds (.inl ⟨pair, congrArg Fate.answered (paired pair)⟩)
  | lost adds => exact .added starts drawn adds (.inr ⟨rfl, [], _, rfl⟩)
  | collided =>
      have answer := congrArg Fate.answered (told (.ofFailure .keyExists))
      have fails := fails_told demand .keyExists
      rw [← answer] at fails
      exact alters_of_starts starts ⟨fails.unpaired, fun _ _ _ _ => answer⟩ fails
  | failed undone unanswered =>
      have fails : demand.Fails (fate.map answered) := by
        intro answer same
        cases fate with
        | answered result =>
            obtain ⟨failure, rfl⟩ := unanswered result rfl
            cases same
            exact ⟨failure, told _⟩
        | overflowed => cases same
        | interrupted => cases same
      exact alters_of_starts starts (fails.unopened undone) fails

private theorem Alters.cons {call : Call}
    (other : ∀ key payload lifetime, call.request ≠ .set key payload lifetime)
    (alters : Alters service demand before made fate after) :
    Alters service demand before (call :: made) fate after := by
  have follows : Unopened demand made fate → Unopened demand (call :: made) fate := by
    rintro ⟨unpaired, collided⟩
    refine ⟨unpaired, fun key payload lifetime member => ?_⟩
    rcases List.mem_cons.1 member with rfl | later
    · exact absurd rfl (other key payload lifetime)
    · exact collided key payload lifetime later
  cases alters with
  | kept unopened unclosed => exact .kept (follows unopened) unclosed
  | removed presented unopened found => exact .removed presented (follows unopened) found
  | added starts drawn adds heard =>
      refine .added starts drawn adds ?_
      rcases heard with paired | ⟨interrupted, earlier, payload, rfl⟩
      · exact .inl paired
      · exact .inr ⟨interrupted, call :: earlier, payload, rfl⟩

private theorem alters_issue (lasting : service.Lasting)
    (befalls : Befalls now ((errand (.issue draw payload)).operation service) store made fate
      left) :
    Alters service (errand (.issue draw payload)) (store.live? now) made fate (left.live? now) := by
  obtain ⟨same, rfl, issued⟩ := befalls_mapped befalls
  exact alters_of_opening (.whole rfl) rfl (fun _ => rfl) (fun _ => rfl)
    (TokenService.opening_issue lasting issued)

private theorem alters_refresh (lasting : service.Lasting)
    (befalls : Befalls now ((errand (.refresh draw token)).operation service) store made fate
      left) :
    Alters service (errand (.refresh draw token)) (store.live? now) made fate (left.live? now) := by
  obtain ⟨same, rfl, refreshed⟩ := befalls_mapped befalls
  have interrupted := fails_interrupted (errand (.refresh draw token))
  cases refreshed with
  | refused refusal follows =>
      obtain ⟨failure, rfl⟩ := refusal
      obtain ⟨rfl, rfl, rfl⟩ := befalls_lastNote follows
      have fails := fails_told (errand (.refresh draw token)) failure
      exact .kept (fails.unopened (List.forall_mem_singleton.2 rfl)) fails.unclosed
  | served surroundings replied follows =>
      obtain ⟨told, removed⟩ := Request.live?_served_take replied
      cases told
      cases found : store.live? now (service.key token) with
      | none =>
          rw [found] at follows
          obtain ⟨rfl, rfl, rfl⟩ := befalls_lastNote follows
          -- There was nothing to be removed.
          rw [removed, Function.update_eq_self_iff.2 found.symm]
          refine .kept ⟨fun pair => nofun, fun key payload lifetime member => ?_⟩ nofun
          cases List.mem_singleton.1 member
      | some entry =>
          rw [found] at follows
          have opening := TokenService.opening_mint lasting follows
          rw [removed] at opening
          refine .cons nofun (alters_of_opening (.without rfl ?_) rfl (fun _ => rfl) (fun _ => rfl)
            opening)
          rw [found]
          nofun
  | broken surroundings replied => cases (Request.live?_served_take replied).1
  | unserved =>
      exact .kept (interrupted.unopened (List.forall_mem_singleton.2 rfl)) interrupted.unclosed
  | lost surroundings replied =>
      rw [(Request.live?_served_take replied).2]
      exact .removed rfl (interrupted.unopened (List.forall_mem_singleton.2 rfl)) interrupted.found

private theorem alters_revoke
    (befalls : Befalls now ((errand (.revoke token)).operation service) store made fate left) :
    Alters service (errand (.revoke token)) (store.live? now) made fate (left.live? now) := by
  obtain ⟨same, rfl, revoked⟩ := befalls_mapped befalls
  have interrupted := fails_interrupted (errand (.revoke token))
  cases revoked with
  | refused refusal follows =>
      obtain ⟨failure, rfl⟩ := refusal
      obtain ⟨rfl, rfl, rfl⟩ := befalls_lastNote follows
      have fails := fails_told (errand (.revoke token)) failure
      exact .kept (fails.unopened (List.forall_mem_singleton.2 rfl)) fails.unclosed
  | served surroundings replied follows =>
      obtain ⟨⟨existed, told⟩, removed⟩ := Request.live?_served_delete replied
      cases told
      obtain ⟨rfl, rfl, rfl⟩ := befalls_lastNote follows
      rw [removed]
      refine .removed rfl ⟨fun pair => nofun, fun key payload lifetime member => ?_⟩ ?_
      · cases List.mem_singleton.1 member
      · rintro answer ⟨⟩
        rfl
  | broken surroundings replied =>
      obtain ⟨⟨existed, told⟩, -⟩ := Request.live?_served_delete replied
      cases told
  | unserved =>
      exact .kept (interrupted.unopened (List.forall_mem_singleton.2 rfl)) interrupted.unclosed
  | lost surroundings replied =>
      rw [(Request.live?_served_delete replied).2]
      exact .removed rfl (interrupted.unopened (List.forall_mem_singleton.2 rfl)) interrupted.found

private theorem alters_of_entering {fate : Fate (Except LoginError TokenPair)}
    (entering : Entering service (service.drawnKey draw) before made fate after) :
    Alters service (logIn draw name password) before made (fate.map .ofLogIn) after := by
  induction entering with
  | @elsewhere call made fate after other later ih =>
      refine .cons (fun key payload lifetime asked => ?_) ih
      rw [asked] at other
      cases other
  | @opening made fate after opening =>
      have mapped : (fate.map (Except.mapError LoginError.token)).map Answer.ofLogIn =
          fate.map fun result => .ofLogIn (result.mapError .token) := by cases fate <;> rfl
      rw [mapped]
      exact alters_of_opening (.whole rfl) rfl (fun _ => rfl) (fun _ => rfl) opening
  | @denied fate refused =>
      refine .kept ⟨fun pair told => ?_, nofun⟩ fun told => ?_
      · cases fate with
        | answered result =>
            cases result with
            | ok made => exact refused made rfl
            | error error => cases told
        | overflowed => cases told
        | interrupted => cases told
      · cases fate with
        | answered result => cases result <;> cases told
        | overflowed => cases told
        | interrupted => cases told

/-- Whatever becomes of a demand, it alters the sessions in one of four ways at most. -/
theorem alters_of_befalls (lasting : service.Lasting) (demand : Demand)
    (befalls : Befalls now (demand.operation service) store made fate left) :
    Alters service demand (store.live? now) made fate (left.live? now) := by
  cases demand with
  | errand wanted =>
      cases wanted with
      | issue draw payload => exact alters_issue lasting befalls
      | refresh draw token => exact alters_refresh lasting befalls
      | revoke token => exact alters_revoke befalls
  | logIn draw name password =>
      obtain ⟨same, rfl, entered⟩ := befalls_mapped befalls
      exact alters_of_entering (TokenService.entering_logIn lasting entered)

/-! ## What calls do to the sessions -/

variable {ending : Ending Answer} {conducts : Conducts} {context : Context}

/-- What a call comes to, as the fate of its demand tells. -/
def Concludes (demand : Demand) (ending : Ending Answer) : Fate Answer → Prop
  | .answered answer => ending = .finished answer
  | .overflowed => ending = .overflowed
  | .interrupted => ∃ cause, ending = .finished (demand.interrupted cause)

private theorem answered_of_concludes {answer : Answer}
    (concludes : demand.Concludes (.finished answer) fate)
    (own : ∀ cause, answer ≠ demand.interrupted cause) : fate = .answered answer := by
  cases fate with
  | answered same =>
      cases concludes
      rfl
  | overflowed => cases concludes
  | interrupted =>
      obtain ⟨cause, same⟩ := concludes
      exact absurd (Ending.finished.inj same) (own cause)

private theorem misses_interrupted (demand : Demand) (cause : Interruption) :
    (demand.interrupted cause).misses = false := by
  cases demand <;> cases cause <;> rfl

/-- What a call may do to the sessions that are live before it, given the calls that it made and
how it ended. -/
structure Confined (service : TokenService) (demand : Demand) (before after : String → Option Entry)
    (made : List Call) (ending : Ending Answer) : Prop where
  /-- Other sessions than that of the presented token are kept with their payloads and ends. -/
  others : ∀ key entry, demand.presentedKey? service ≠ some key → before key = some entry →
    after key = some entry
  /-- The session of the presented token is kept or removed, unless a drawn token with the same key
  makes a new one after it. -/
  presented : ∀ key, demand.presentedKey? service = some key → demand.drawnKey? service ≠ some key →
    after key = before key ∨ after key = none
  /-- Only under the key of the drawn token there may be a new session. -/
  added : ∀ key, before key = none → after key ≠ none → demand.drawnKey? service = some key
  /-- A call whose key is in use fails, if it hears of that. -/
  collided : ∀ key payload lifetime, demand.drawnKey? service = some key →
    demand.presentedKey? service ≠ some key → before key ≠ none →
      ⟨.set key payload lifetime, true⟩ ∈ made →
        ending = .finished (demand.told (.internal "session key collision"))
  /-- A call that returns a pair removes the session that was presented, and adds one. -/
  paired : ∀ pair, ending = .finished (.pair pair) →
    ∃ base key, Starts service demand before base ∧ demand.drawnKey? service = some key ∧
      Adds key base after
  /-- A call that closes a session removes it. -/
  closed : ending = .finished .closed → ∀ key, demand.presentedKey? service = some key →
    after = Function.update before key none
  /-- A call that found nothing, or nobody, keeps all sessions. -/
  missed : ∀ answer, ending = .finished answer → answer.misses = true → after = before
  /-- A call that does not return a pair adds a session only if it was interrupted before it heard
  of that. -/
  failed : (∀ pair, ending ≠ .finished (.pair pair)) →
    after = before ∨
      (∃ key, demand.presentedKey? service = some key ∧ after = Function.update before key none) ∨
      ∃ base key, Starts service demand before base ∧ demand.drawnKey? service = some key ∧
        Adds key base after ∧ (∃ cause, ending = .finished (demand.interrupted cause)) ∧
          ∃ earlier payload, made = earlier ++ [⟨.set key payload service.refreshLifetime, false⟩]

private theorem Starts.eq_of_ne {key : String} (starts : Starts service demand before base)
    (other : demand.presentedKey? service ≠ some key) : base key = before key := by
  cases starts with
  | whole fresh => rfl
  | @without taken presented found =>
      have different : key ≠ taken := by
        rintro rfl
        exact other presented
      exact Function.update_of_ne different none before

private theorem Starts.eq_or_none (starts : Starts service demand before base) (key : String) :
    base key = before key ∨ base key = none := by
  cases starts with
  | whole fresh => exact .inl rfl
  | @without taken presented found =>
      by_cases same : key = taken
      · subst same
        exact .inr (Function.update_self key none before)
      · exact .inl (Function.update_of_ne same none before)

private theorem confined_of_kept (unopened : Unopened demand made fate)
    (unclosed : fate ≠ .answered .closed) (concludes : demand.Concludes ending fate) :
    Confined service demand before before made ending where
  others := fun key entry _ held => held
  presented := fun key _ _ => .inl rfl
  added := fun key absent held => absurd absent held
  collided := by
    intro key payload lifetime _ _ _ member
    rw [unopened.collided key payload lifetime member] at concludes
    exact concludes
  paired := by
    rintro pair rfl
    exact absurd (answered_of_concludes concludes fun cause => (told_ne_pair demand _ pair).symm)
      (unopened.unpaired pair)
  closed := by
    rintro rfl
    exact absurd (answered_of_concludes concludes fun cause => (told_ne_closed demand _).symm)
      unclosed
  missed := fun _ _ _ => rfl
  failed := fun _ => .inl rfl

private theorem confined_of_removed {key : String}
    (presented : demand.presentedKey? service = some key) (unopened : Unopened demand made fate)
    (found : ∀ answer, fate = .answered answer → answer.misses = false)
    (concludes : demand.Concludes ending fate) :
    Confined service demand before (Function.update before key none) made ending where
  others := by
    intro other entry elsewhere held
    rw [Function.update_of_ne, held]
    rintro rfl
    exact elsewhere presented
  presented := by
    intro other same _
    cases presented.symm.trans same
    exact .inr (Function.update_self key none before)
  added := by
    intro other absent held
    by_cases same : other = key
    · subst same
      exact absurd (Function.update_self other none before) held
    · rw [Function.update_of_ne same] at held
      exact absurd absent held
  collided := by
    intro key payload lifetime _ _ _ member
    rw [unopened.collided key payload lifetime member] at concludes
    exact concludes
  paired := by
    rintro pair rfl
    exact absurd (answered_of_concludes concludes fun cause => (told_ne_pair demand _ pair).symm)
      (unopened.unpaired pair)
  closed := by
    intro _ other same
    cases presented.symm.trans same
    rfl
  missed := by
    rintro answer rfl misses
    have told := answered_of_concludes concludes fun cause same => by
      rw [same, misses_interrupted] at misses
      cases misses
    rw [found answer told] at misses
    cases misses
  failed := fun _ => .inr (.inl ⟨key, presented, rfl⟩)

private theorem confined_of_added {key : String} (starts : Starts service demand before base)
    (drawn : demand.drawnKey? service = some key) (adds : Adds key base after)
    (heard : (∃ pair, fate = .answered (.pair pair)) ∨ fate = .interrupted ∧
      ∃ earlier payload, made = earlier ++ [⟨.set key payload service.refreshLifetime, false⟩])
    (concludes : demand.Concludes ending fate) :
    Confined service demand before after made ending := by
  have around : ∀ other, other ≠ key → after other = base other := by
    obtain ⟨free, entry, rfl⟩ := adds
    exact fun other different => Function.update_of_ne different _ base
  have ends : (∃ pair, ending = .finished (.pair pair)) ∨
      (∃ cause, ending = .finished (demand.interrupted cause)) ∧ ∃ earlier payload,
        made = earlier ++ [⟨.set key payload service.refreshLifetime, false⟩] := by
    rcases heard with ⟨pair, rfl⟩ | ⟨rfl, last⟩
    · exact .inl ⟨pair, concludes⟩
    · exact .inr ⟨concludes, last⟩
  exact {
    others := by
      intro other entry elsewhere held
      have same := starts.eq_of_ne elsewhere
      rw [around, same, held]
      rintro rfl
      rw [adds.1, held] at same
      cases same
    presented := by
      intro other _ different
      rw [around other fun same => different (same ▸ drawn)]
      exact starts.eq_or_none other
    added := by
      intro other absent held
      by_cases same : other = key
      · rw [same]
        exact drawn
      · rw [around other same] at held
        rcases starts.eq_or_none other with kept | gone
        · exact absurd (kept.trans absent) held
        · exact absurd gone held
    collided := by
      intro other payload lifetime same elsewhere used
      cases drawn.symm.trans same
      exact absurd ((starts.eq_of_ne elsewhere).symm.trans adds.1) used
    paired := fun _ _ => ⟨base, key, starts, drawn, adds⟩
    closed := by
      rintro rfl
      rcases ends with ⟨pair, told⟩ | ⟨⟨cause, told⟩, -⟩
      · cases told
      · exact absurd (Ending.finished.inj told).symm (told_ne_closed demand _)
    missed := by
      rintro answer rfl misses
      rcases ends with ⟨pair, told⟩ | ⟨⟨cause, told⟩, -⟩
      · cases told
        cases misses
      · rw [Ending.finished.inj told, misses_interrupted] at misses
        cases misses
    failed := by
      intro unpaired
      rcases ends with ⟨pair, told⟩ | ⟨interrupted, last⟩
      · exact absurd told (unpaired pair)
      · exact .inr (.inr ⟨base, key, starts, drawn, adds, interrupted, last⟩) }

private theorem confined_of_alters (alters : Alters service demand before made fate after)
    (concludes : demand.Concludes ending fate) :
    Confined service demand before after made ending := by
  cases alters with
  | kept unopened unclosed => exact confined_of_kept unopened unclosed concludes
  | removed presented unopened found =>
      exact confined_of_removed presented unopened found concludes
  | added starts drawn adds heard => exact confined_of_added starts drawn adds heard concludes

/-- Every call alters the sessions as its demand does, whatever becomes of it. -/
theorem exists_alters (lasting : service.Lasting) (conducts : Conducts) (context : Context)
    (world : World Memory) (demand : Demand) :
    ∃ made fate, (demand.run service conducts context world).state.calls = world.calls ++ made ∧
      Alters service demand (world.store.live? world.clock.now) made fate
        ((demand.run service conducts context world).state.store.live? world.clock.now) ∧
      demand.Concludes (demand.run service conducts context world).ending fate := by
  rcases run_befalls service conducts context world demand with
    withdrawn | ⟨made, fate, befalls, calls, ends⟩
  · rw [withdrawn]
    have fails := fails_interrupted demand
    exact ⟨[], .interrupted, (List.append_nil _).symm,
      .kept (fails.unopened nofun) fails.unclosed, .canceled, rfl⟩
  · refine ⟨made, fate, calls, alters_of_befalls lasting demand befalls, ?_⟩
    rcases ends with ends | ⟨rfl, interrupted⟩
    · cases fate with
      | answered answer => exact ends
      | overflowed => exact ends
      | interrupted => exact ends.elim
    · exact interrupted

end Demand

/-- Whatever becomes of a call, it touches no sessions but those of the tokens that are presented
and drawn, and these only as it should. -/
theorem calls_confined {issuer audience activeKey : String} {accessSeconds refreshSeconds : Int}
    {hashKey : List UInt8} {keys : List Token.NamedKey} {config : Config} {service : TokenService}
    (accepted : Config.new issuer audience accessSeconds refreshSeconds hashKey keys activeKey =
      .ok config)
    (setUp : TokenService.ofConfig config = .ok service) (conducts : Conducts) (context : Context)
    (world : World Memory) (demand : Demand) :
    (∀ later key entry, world.clock.now ≤ later → demand.presentedKey? service ≠ some key →
      world.store.live? later key = some entry →
        (demand.run service conducts context world).state.store.live? later key = some entry) ∧
    ∃ made, (demand.run service conducts context world).state.calls = world.calls ++ made ∧
      Demand.Confined service demand (world.store.live? world.clock.now)
        ((demand.run service conducts context world).state.store.live? world.clock.now) made
        (demand.run service conducts context world).ending := by
  have lasting := TokenService.Lasting.ofConfig accepted setUp
  obtain ⟨made, fate, calls, alters, concludes⟩ :=
    Demand.exists_alters lasting conducts context world demand
  have confined := Demand.confined_of_alters alters concludes
  refine ⟨?_, made, calls, confined⟩
  intro later key entry order elsewhere live
  rw [Memory.live?_later order, Option.filter_eq_some_iff] at live ⊢
  exact ⟨confined.others key entry elsewhere live.1, live.2⟩

/-- A world with a live session. -/
def World.occupied : World Memory :=
  { vacant with store := (Memory.empty.set .epoch (TokenService.smallKey 1) .small
      TokenService.small.refreshLifetime).2 }

/-- A session under the key of the drawn token is kept. -/
theorem calls_confined_occupied :
    ∃ entry, World.occupied.store.live? .epoch (TokenService.smallKey 1) = some entry ∧
      (Demand.small.run .small (fun _ => .slow) ⟨some 4, some 9⟩ .occupied).state.store.live? .epoch
        (TokenService.smallKey 1) = some entry := by
  have served : (Request.set (TokenService.smallKey 1) .small
      TokenService.small.refreshLifetime).served .deserted .epoch Memory.empty =
        (some (.ok ()), World.occupied.store) := rfl
  rcases Request.live?_served_set (by decide) served with ⟨-, -, entry, same⟩ | ⟨told | told, -⟩
  · have live : World.occupied.store.live? .epoch (TokenService.smallKey 1) = some entry := by
      rw [same, Function.update_self]
    exact ⟨entry, live, (calls_confined Config.new_small TokenService.ofConfig_small
      (fun _ => .slow) ⟨some 4, some 9⟩ .occupied .small).1 _ _ _ (Int.le_refl _) nofun live⟩
  · cases told
  · cases told

end Bearer
