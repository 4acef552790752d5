import Bearer.Proofs.Operation.Heeding
import Bearer.Proofs.Service.Minting
import Bearer.Proofs.Service.Retry

/-!
# No failure is swallowed, and none is made up

All demands heed their collaborators. So the first call to the store that fails is the last call of
all: it is logged as the only error, and the answer tells what it means. Conversely a call that
succeeds heard of no failure, and a session is missed only where the store was asked for it and did
not have it: `heeds_collaborators`. `heeds_collaborators_halfDown` is a failure in the middle.
-/

namespace Bearer

open Operation (Heeds Heeding leads_heard leads_mapped_finish)

variable {σ ε α : Type} [Session.Store σ]

namespace TokenService

/-- An operation on tokens tells what a failure of the store means. -/
inductive Tells : Trouble → Except TokenError α → Prop where
  /-- The store failed. -/
  | store (call : StoreCall) (failure : Session.Failure) :
      Tells (.store call failure) (.error (.ofFailure failure))

/-- A login also tells that a directory could not be asked. -/
inductive LogInTells : Trouble → Except LoginError TokenPair → Prop where
  /-- The store failed. -/
  | store (call : StoreCall) (failure : Session.Failure) :
      LogInTells (.store call failure) (.error (.token (.ofFailure failure)))
  /-- A directory could not be asked. -/
  | directory (outage : Directory.Outage) :
      LogInTells (.directory outage) (.error (.directoryUnavailable outage.message))

/-- A pair was made. -/
def Makes (result : Except ε TokenPair) : Prop :=
  ∃ pair, result = .ok pair

variable (service : TokenService) (draw : Draw) (payload : Payload) (token name password : String)

theorem heeds_mint : Heeds Tells Makes (service.mint draw payload) := by
  rw [mint_eq]
  refine .clock fun now => ?_
  cases service.pair? draw payload now with
  | none => exact .overflow
  | some pair =>
      refine .ask (fun reply trouble said => ?_) (fun reply said => ?_)
      · cases reply with
        | ok written => cases said
        | error failure =>
            cases said
            exact ⟨_, .store .set failure, rfl⟩
      · cases reply with
        | ok written => exact .finish ⟨pair, rfl⟩
        | error failure => cases said

theorem heeds_issue : Heeds Tells Makes (service.issue draw payload) := by
  refine (service.heeds_mint draw payload).bind ?_ ?_
  · rintro trouble result ⟨call, failure⟩
    exact ⟨_, .store call failure, rfl⟩
  · rintro result ⟨pair, rfl⟩
    exact .note nofun (.finish ⟨pair, rfl⟩)

theorem heeds_refresh :
    Heeds Tells (fun result => Makes result ∨ result = .error .sessionNotFound)
      (service.refresh draw token) := by
  refine .ask (fun reply trouble said => ?_) (fun reply said => ?_)
  · cases reply with
    | ok found => cases said
    | error failure =>
        cases said
        exact ⟨_, .store .take failure, rfl⟩
  · rcases reply with failure | _ | payload
    · cases said
    · exact .note nofun (.finish (.inr rfl))
    · exact (service.heeds_mint draw payload).mono fun _ => .inl

theorem heeds_revoke : Heeds Tells (· = .ok ()) (service.revoke token) := by
  refine .ask (fun reply trouble said => ?_) (fun reply said => ?_)
  · cases reply with
    | ok existed => cases said
    | error failure =>
        cases said
        exact ⟨_, .store .delete failure, rfl⟩
  · cases reply with
    | ok existed => exact .note nofun (.finish rfl)
    | error failure => cases said

/-- How a login ends where nothing fails. -/
def LogsInWell (result : Except LoginError TokenPair) : Prop :=
  Makes result ∨ result = .error .invalidCredentials

theorem heeds_letIn : Heeds LogInTells LogsInWell (service.letIn draw name payload) := by
  refine (service.heeds_issue draw payload).bind ?_ ?_
  · rintro trouble result ⟨call, failure⟩
    exact ⟨_, .store call failure, rfl⟩
  · rintro result ⟨pair, rfl⟩
    exact .note nofun (.finish (.inl ⟨pair, rfl⟩))

theorem heeds_checkAccount (account : Account) :
    Heeds LogInTells LogsInWell (service.checkAccount draw name password account) := by
  refine .ask (fun reply trouble said => by cases said) (fun reply _ => ?_)
  cases reply with
  | false => exact .note nofun (.finish (.inr rfl))
  | true =>
      dsimp only
      cases Payload.new? account.subject account.role with
      | none => exact .finish (.inr rfl)
      | some payload => exact service.heeds_letIn draw payload name

private theorem heeds_find {place : Place}
    {next : Except Directory.Outage (Option Account) → Operation (Except LoginError TokenPair)}
    (away : ∀ outage, next (.error outage) = unreachable outage)
    (following : ∀ found, Heeds LogInTells LogsInWell (next (.ok found))) :
    Heeds LogInTells LogsInWell (.ask (.find place name) next) := by
  refine .ask (fun reply trouble said => ?_) (fun reply said => ?_)
  · cases reply with
    | ok found => cases said
    | error outage =>
        cases said
        exact ⟨_, .directory outage, away outage⟩
  · cases reply with
    | ok found => exact following found
    | error outage => cases said

theorem heeds_logIn : Heeds LogInTells LogsInWell (service.logIn draw name password) := by
  refine heeds_find name (fun _ => rfl) fun found => ?_
  cases found with
  | some account => exact service.heeds_checkAccount draw name password account
  | none =>
      refine heeds_find name (fun _ => rfl) fun found => ?_
      cases found with
      | some account => exact service.heeds_checkAccount draw name password account
      | none =>
          refine .ask (fun reply trouble said => by cases said) fun reply _ => ?_
          exact .note nofun (.finish (.inr rfl))

end TokenService

namespace Demand

/-- What a demand is answered in trouble. -/
inductive Tells (demand : Demand) : Trouble → Answer → Prop where
  /-- The store failed. -/
  | store (call : StoreCall) (failure : Session.Failure) :
      Tells demand (.store call failure) (demand.told (.ofFailure failure))
  /-- A directory could not be asked. -/
  | directory (outage : Directory.Outage) :
      Tells demand (.directory outage) (.rejected (.directoryUnavailable outage.message))

/-- How a demand may be answered where nothing fails. -/
def MayEnd : Demand → Answer → Prop
  | errand (.issue ..), answer => ∃ pair, answer = .pair pair
  | errand (.refresh ..), answer =>
    (∃ pair, answer = .pair pair) ∨ answer = .failed .sessionNotFound
  | errand (.revoke _), answer => answer = .closed
  | logIn .., answer => (∃ pair, answer = .pair pair) ∨ answer = .rejected .invalidCredentials

theorem heeds (service : TokenService) (demand : Demand) :
    Heeds demand.Tells demand.MayEnd (demand.operation service) := by
  rcases demand with (⟨draw, payload⟩ | ⟨draw, token⟩ | token) | ⟨draw, name, password⟩
  · refine (service.heeds_issue draw payload).bind ?_ ?_
    · rintro trouble result ⟨call, failure⟩
      exact ⟨_, .store call failure, rfl⟩
    · rintro result ⟨pair, rfl⟩
      exact .finish ⟨pair, rfl⟩
  · refine (service.heeds_refresh draw token).bind ?_ ?_
    · rintro trouble result ⟨call, failure⟩
      exact ⟨_, .store call failure, rfl⟩
    · rintro result (⟨pair, rfl⟩ | rfl)
      · exact .finish (.inl ⟨pair, rfl⟩)
      · exact .finish (.inr rfl)
  · refine (service.heeds_revoke token).bind ?_ ?_
    · rintro trouble result ⟨call, failure⟩
      exact ⟨_, .store call failure, rfl⟩
    · rintro result rfl
      exact .finish rfl
  · refine (service.heeds_logIn draw name password).bind ?_ ?_
    · rintro trouble result (⟨call, failure⟩ | outage)
      · exact ⟨_, .store call failure, rfl⟩
      · exact ⟨_, .directory outage, rfl⟩
    · rintro result (⟨pair, rfl⟩ | rfl)
      · exact .finish (.inl ⟨pair, rfl⟩)
      · exact .finish (.inr rfl)

end Demand

/-- Whether an answer says that the same call may succeed later. -/
def Answer.isRetryable : Answer → Bool
  | pair _ => false
  | closed => false
  | failed error => error.isRetryable
  | rejected error => error.isRetryable

/-- What a failure of the store means for an operation on tokens. -/
inductive Session.Failure.Means : Session.Failure → TokenError → Prop where
  /-- A store that is not reached may be reached later. -/
  | unavailable (reason : String) : Means (.unavailable reason) (.storeUnavailable reason)
  /-- Nobody can mend a row that cannot be read. -/
  | corrupted (reason : String) : Means (.corrupted reason) (.internal reason)
  /-- Nobody can mend a key that is in use. -/
  | keyExists : Means .keyExists (.internal "session key collision")

theorem Session.Failure.means_ofFailure (failure : Session.Failure) :
    failure.Means (.ofFailure failure) := by
  cases failure with
  | unavailable reason => exact .unavailable reason
  | corrupted reason => exact .corrupted reason
  | keyExists => exact .keyExists

namespace Demand

@[simp]
theorem isRetryable_told (demand : Demand) (error : TokenError) :
    (demand.told error).isRetryable = error.isRetryable := by
  cases demand <;> rfl

/-- A call of the store failed, after some other exchanges and before some more. -/
structure Stopped (demand : Demand) (call : StoreCall) (failure : Session.Failure)
    (earlier later : List Exchange) (made : List Call) (noted : List Event)
    (ending : Ending Answer) : Prop where
  /-- Nothing failed before. -/
  first : ∀ exchange ∈ earlier, ¬ Refusal exchange.request exchange.reply
  /-- Nothing more is heard. -/
  last : later = []
  /-- Nothing more is asked. -/
  idle : made.length = earlier.length + 1
  /-- The failure is logged, as the only error. -/
  logged : noted.filter (·.severity = .error) = [.storeFailed call failure]
  /-- The answer tells what the failure means. -/
  told : ∃ error, failure.Means error ∧ ending = .finished (demand.told error)
  /-- Only a store that is not reached is worth another attempt. -/
  retryable : ∀ answer, ending = .finished answer →
    (answer.isRetryable = true ↔ ∃ reason, failure = .unavailable reason)

/-- What is heard in a call without limits is heeded. -/
structure Heeded (service : TokenService) (conducts : Conducts) (world : World σ) (demand : Demand)
    (made : List Call) (heard : List Exchange) (noted : List Event)
    (outcome : Outcome (World σ) Answer) : Prop where
  /-- The calls are recorded. -/
  calls : outcome.state.calls = world.calls ++ made
  /-- Unless a moment lies beyond the calendar, every call got a reply. -/
  answered : outcome.ending ≠ .overflowed → made.map (·.request) = heard.map (·.request)
  /-- A call that is refused gets that reply. -/
  refused : ∀ index call, made[index]? = some call → ∀ reply,
    (conducts (world.calls.length + index)).refusal? call.request = some reply →
      heard[index]? = some ⟨call.request, reply⟩
  /-- The log goes on. -/
  log : outcome.state.log = world.log ++ noted
  /-- A failure of the store stops the call. -/
  stopped : ∀ earlier exchange later call failure, heard = earlier ++ exchange :: later →
    exchange.trouble? = some (.store call failure) →
      demand.Stopped call failure earlier later made noted outcome.ending
  /-- Where nothing fails, no error is logged and none is told. -/
  smooth : (∀ exchange ∈ heard, ¬ Refusal exchange.request exchange.reply) →
    noted.filter (·.severity = .error) = [] ∧
      ∀ answer, outcome.ending = .finished answer → demand.MayEnd answer
  /-- Where the call succeeds, nothing failed. -/
  succeeded : ∀ answer, outcome.ending = .finished answer →
    (∃ pair, answer = .pair pair) ∨ answer = .closed →
      ∀ exchange ∈ heard, ¬ Refusal exchange.request exchange.reply
  /-- A session is missed only if it was to be taken, and nothing was found. -/
  missed : outcome.ending = .finished (demand.told .sessionNotFound) →
    ∃ draw token, demand = .errand (.refresh draw token) ∧
      heard = [⟨.take (service.key token), .ok none⟩]

variable {demand : Demand} {heard earlier later : List Exchange} {exchange : Exchange}
  {result : Option Answer} {made : List Call} {noted : List Event} {call : StoreCall}
  {failure : Session.Failure} {service : TokenService}

private theorem stopped_of_heeding
    (heeding : Heeding demand.Tells demand.MayEnd heard result noted)
    (answered : result.isSome → made.map (·.request) = heard.map (·.request))
    (split : heard = earlier ++ exchange :: later)
    (failed : exchange.trouble? = some (.store call failure)) :
    demand.Stopped call failure earlier later made noted (.ofOption result) := by
  cases heeding with
  | smooth untroubled =>
      have member : exchange ∈ heard := by simp [split]
      cases failed.symm.trans (untroubled exchange member)
  | @troubled before troubling trouble answer _ untroubled last told logged =>
      rcases List.eq_nil_or_concat later with rfl | ⟨front, final, rfl⟩
      · obtain ⟨rfl, same⟩ := List.append_inj' split rfl
        cases same
        cases last.symm.trans failed
        cases told
        refine ⟨fun other member => ?_, rfl, ?_, logged, ?_, ?_⟩
        · exact (other.trouble?_eq_none_iff).1 (untroubled other member)
        · have lengths := congrArg List.length (answered rfl)
          simpa using lengths
        · exact ⟨_, failure.means_ofFailure, rfl⟩
        · rintro answer same
          cases same
          rw [isRetryable_told]
          cases failure <;> simp [TokenError.ofFailure, TokenError.isRetryable]
      · -- The failure would have come before the trouble that ended the call.
        rw [List.concat_eq_append, ← List.cons_append, ← List.append_assoc] at split
        have inside := (List.append_inj' split rfl).1
        have member : exchange ∈ before := by simp [inside]
        cases failed.symm.trans (untroubled exchange member)

private theorem smooth_of_heeding
    (heeding : Heeding demand.Tells demand.MayEnd heard result noted)
    (unrefused : ∀ exchange ∈ heard, ¬ Refusal exchange.request exchange.reply) :
    noted.filter (·.severity = .error) = [] ∧ ∀ answer, result = some answer →
      demand.MayEnd answer := by
  cases heeding with
  | smooth untroubled good quiet => exact ⟨quiet, good⟩
  | @troubled _ troubling _ _ _ untroubled last =>
      have fine := (troubling.trouble?_eq_none_iff).2 (unrefused troubling (by simp))
      cases last.symm.trans fine

private theorem tells_ne_success {trouble : Trouble} {answer : Answer}
    (told : demand.Tells trouble answer) :
    ¬ ((∃ pair, answer = .pair pair) ∨ answer = .closed) := by
  rintro (⟨pair, same⟩ | same)
  · cases told with
    | store call failure => exact told_ne_pair demand _ pair same
    | directory outage => cases same
  · cases told with
    | store call failure => exact told_ne_closed demand _ same
    | directory outage => cases same

private theorem succeeded_of_heeding
    (heeding : Heeding demand.Tells demand.MayEnd heard result noted) {answer : Answer}
    (ended : result = some answer) (success : (∃ pair, answer = .pair pair) ∨ answer = .closed)
    (member : exchange ∈ heard) : ¬ Refusal exchange.request exchange.reply := by
  cases heeding with
  | smooth untroubled => exact (exchange.trouble?_eq_none_iff).1 (untroubled exchange member)
  | troubled untroubled last told =>
      cases ended
      exact absurd success (tells_ne_success told)

private theorem told_ne_missed {trouble : Trouble} :
    ¬ demand.Tells trouble (demand.told .sessionNotFound) := by
  intro told
  generalize same : demand.told .sessionNotFound = answer at told
  cases told with
  | store call failure => cases demand <;> cases failure <;> cases same
  | directory outage => cases demand <;> cases same

private theorem refresh_of_mayEnd (well : demand.MayEnd (demand.told .sessionNotFound)) :
    ∃ draw token, demand = .errand (.refresh draw token) := by
  rcases demand with (⟨draw, payload⟩ | ⟨draw, token⟩ | token) | ⟨draw, name, password⟩
  · obtain ⟨pair, same⟩ := well
    cases same
  · exact ⟨draw, token, rfl⟩
  · cases well
  · rcases well with ⟨pair, same⟩ | same <;> cases same

private theorem missed_of_heeding
    (heeding : Heeding demand.Tells demand.MayEnd heard result noted)
    (missed : result = some (demand.told .sessionNotFound))
    (leads : Operation.Leads (demand.operation service) heard
      (.finish (demand.told .sessionNotFound))) :
    ∃ draw token, demand = .errand (.refresh draw token) ∧
      heard = [⟨.take (service.key token), .ok none⟩] := by
  cases heeding with
  | troubled untroubled last told =>
      cases missed
      exact absurd told told_ne_missed
  | smooth untroubled good quiet =>
      obtain ⟨draw, token, rfl⟩ := refresh_of_mayEnd (good _ missed)
      refine ⟨draw, token, rfl, ?_⟩
      obtain ⟨ended, refreshing, same⟩ := leads_mapped_finish leads
      cases TokenService.leads_refresh_finish refreshing with
      | unknown => rfl
      | failed failure => cases failure <;> cases same
      | taken minted =>
          cases minted with
          | made tokens => cases same
          | failed failure => cases failure <;> cases same

end Demand

/-- In every call without limits the failures of collaborators are heeded. -/
theorem heeds_collaborators (service : TokenService) (conducts : Conducts) (world : World σ)
    (demand : Demand) :
    ∃ made noted, demand.Heeded service conducts world made
      ((demand.operation service).heard conducts world) noted
      (demand.run service conducts .unlimited world) := by
  obtain ⟨ending, state⟩ := demand.run_performed service conducts world
  obtain ⟨made, recorded⟩ := (demand.operation service).recorded_performed conducts world
  obtain ⟨noted, log, heeding⟩ := (demand.heeds service).heeding conducts world
  refine ⟨made, noted, ?_⟩
  constructor
  · rw [state, recorded.calls]
  · intro inside
    refine recorded.answered ?_
    rw [ending] at inside
    exact Ending.isSome_of_ne_overflowed inside
  · exact recorded.refused
  · rw [state, log]
  · intro earlier exchange later call failure split failed
    rw [ending]
    exact Demand.stopped_of_heeding heeding recorded.answered split failed
  · intro unrefused
    obtain ⟨quiet, good⟩ := Demand.smooth_of_heeding heeding unrefused
    refine ⟨quiet, fun answer ended => good answer ?_⟩
    rwa [ending, Ending.ofOption_eq_finished] at ended
  · intro answer ended success exchange member
    rw [ending, Ending.ofOption_eq_finished] at ended
    exact Demand.succeeded_of_heeding heeding ended success member
  · intro ended
    rw [ending, Ending.ofOption_eq_finished] at ended
    exact Demand.missed_of_heeding heeding ended (leads_heard ended)

open Session (Entry Memory) in
theorem heard_unwritten {service : TokenService} {token : String} {world : World Memory}
    {entry : Entry} {expiry : Instant} {failure : Session.Failure} (lasting : service.Lasting)
    (conducts : Conducts) (draw : Draw)
    (live : world.store.live? world.clock.now (service.key token) = some entry)
    (ends : world.clock.now.plus? service.refreshLifetime = some expiry)
    (willing : (conducts world.calls.length).takeFailure = none)
    (down : (conducts (world.calls.length + 1)).setFailure = some failure) :
    ((Demand.errand (.refresh draw token)).operation service).heard conducts world =
      [⟨.take (service.key token), .ok (some entry.payload)⟩,
        ⟨service.writing draw entry.payload, .error failure⟩] := by
  obtain ⟨pair, tokens⟩ := TokenService.pair?_isSome lasting draw entry.payload ends
  have accepted : (conducts world.calls.length).refusal? (.take (service.key token)) = none :=
    congrArg (Option.map Except.error) willing
  have found : (conducts world.calls.length).reply? world (.take (service.key token)) =
      some (.ok (some entry.payload)) :=
    congrArg (fun found => some (Except.ok (Option.map Entry.payload found))) live
  have taken := World.asked_of_reply accepted found
  refine (Operation.heard_ask taken).trans (congrArg (List.cons _) ?_)
  change ((service.mint draw entry.payload).mapped Answer.ofPair).heard conducts _ = _
  rw [TokenService.mint_eq, Operation.mapped, Operation.bind, Operation.heard]
  dsimp only [World.clock_called]
  rw [tokens]
  refine Operation.heard_ask (World.asked_of_refusal ?_)
  refine congrArg (Option.map Except.error) (Eq.trans ?_ down)
  rw [World.called, List.length_append]
  rfl

/-- The session is taken and the next one cannot be written: the second call is the last one, its
failure is logged as the only error, and it is told. -/
theorem heeds_collaborators_halfDown :
    ∃ made noted, Demand.renewal.Heeded .small (fun _ => .halfDown) World.occupied made
        [⟨.take (TokenService.small.key World.heldToken), .ok (some .small)⟩,
          ⟨TokenService.small.writing (TokenService.sameBytes 2) .small,
            .error (.unavailable "down")⟩] noted
        (Demand.renewal.run .small (fun _ => .halfDown) .unlimited .occupied) ∧
      made.length = 2 ∧ noted.filter (·.severity = .error) =
        [.storeFailed .set (.unavailable "down")] ∧
      (Demand.renewal.run .small (fun _ => .halfDown) .unlimited .occupied).ending =
        .finished (.failed (.storeUnavailable "down")) := by
  obtain ⟨made, noted, heeded⟩ :=
    heeds_collaborators .small (fun _ => .halfDown) World.occupied .renewal
  have lasting := TokenService.Lasting.ofConfig Config.new_small TokenService.ofConfig_small
  have heard := heard_unwritten lasting (fun _ => .halfDown) (TokenService.sameBytes 2)
    World.live?_occupied (by rfl) rfl rfl
  rw [Demand.renewal, heard] at heeded
  obtain ⟨-, -, idle, logged, ⟨error, means, told⟩, -⟩ :=
    heeded.stopped [_] _ [] .set (.unavailable "down") rfl rfl
  cases means
  exact ⟨made, noted, heeded, idle, logged, told⟩

end Bearer
