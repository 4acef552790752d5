import Bearer.Proofs.Operation.Fate
import Bearer.Proofs.Service.Calls
import Bearer.Proofs.Service.Lifetimes
import Bearer.Session.Memory

/-!
# Interruption is truncation

A call inside a context is the call without limits, or it is abandoned in the middle of a request.
Which one it is depends only on the moment at which the call without limits would end, and an
abandoned call did what the other one does first: `truncates`.
-/

namespace Bearer

variable {σ α β : Type} [Session.Store σ] {service : TokenService} {conducts : Conducts}
  {context : Context} {demand : Demand} {world : World σ}

namespace Operation

/-- Whatever is replied, an operation ends with values of one kind. -/
def Ends (kind : α → Prop) : Operation α → Prop
  | finish value => kind value
  | overflow => True
  | clock next => ∀ now, (next now).Ends kind
  | note _ next => next.Ends kind
  | ask _ next => ∀ reply, (next reply).Ends kind

theorem ends_bind {kind : α → Prop} {other : β → Prop} {operation : Operation α}
    {next : α → Operation β} (begins : operation.Ends kind)
    (follows : ∀ value, kind value → (next value).Ends other) :
    (operation.bind next).Ends other := by
  induction operation with
  | finish value => exact follows value begins
  | overflow => trivial
  | clock rest ih => exact fun now => ih now (begins now)
  | note event rest ih => exact ih begins
  | ask request rest ih => exact fun reply => ih reply (begins reply)

theorem ends_of_goes {kind : α → Prop} {operation rest : Operation α} {moment later : Nat}
    {after : World σ} (goes : Goes conducts operation moment world rest later after)
    (ends : operation.Ends kind) : rest.Ends kind := by
  induction goes with
  | stay operation moment world => exact ends
  | clock _ ih => exact ih (ends _)
  | note _ ih => exact ih ends
  | ask _ _ ih => exact ih (ends _)

end Operation

namespace TokenService

open Operation (Ends ends_bind)

/-- A result that does not speak of an interruption. -/
def Uninterrupted (result : Except TokenError α) : Prop :=
  ∀ cause : Interruption, result ≠ .error cause.error

private theorem uninterrupted_ok (value : α) : Uninterrupted (.ok value) := nofun

private theorem uninterrupted_ofFailure (failure : Session.Failure) :
    Uninterrupted (.error (.ofFailure failure) : Except TokenError α) := by
  cases failure <;> rintro (_ | _) <;> nofun

private theorem ends_mint (draw : Draw) (payload : Payload) :
    (service.mint draw payload).Ends Uninterrupted := by
  intro now
  dsimp only
  cases service.pair? draw payload now with
  | none => trivial
  | some pair =>
      rintro (failure | ⟨⟩)
      · exact uninterrupted_ofFailure failure
      · exact uninterrupted_ok pair

private theorem ends_issue (draw : Draw) (payload : Payload) :
    (service.issue draw payload).Ends Uninterrupted := by
  refine ends_bind (ends_mint draw payload) ?_
  rintro (error | pair) uninterrupted <;> exact uninterrupted

private theorem ends_refresh (draw : Draw) (token : String) :
    (service.refresh draw token).Ends Uninterrupted := by
  rintro (failure | _ | payload)
  · exact uninterrupted_ofFailure failure
  · rintro (_ | _) <;> nofun
  · exact ends_mint draw payload

private theorem ends_revoke (token : String) :
    (service.revoke token).Ends Uninterrupted := by
  rintro (failure | existed)
  · exact uninterrupted_ofFailure failure
  · exact uninterrupted_ok ()

/-- A result of a login that does not speak of an interruption. -/
def UninterruptedLogIn (result : Except LoginError TokenPair) : Prop :=
  ∀ cause : Interruption, result ≠ .error (.token cause.error)

private theorem ends_checkAccount (draw : Draw) (name password : String) (account : Account) :
    (service.checkAccount draw name password account).Ends UninterruptedLogIn := by
  rintro (_ | _)
  · exact nofun
  · dsimp only
    cases Payload.new? account.subject account.role with
    | none => exact nofun
    | some payload =>
        refine ends_bind (ends_issue draw payload) ?_
        rintro (error | pair) uninterrupted
        · intro cause same
          cases same
          exact uninterrupted cause rfl
        · exact nofun

private theorem ends_logIn (draw : Draw) (name password : String) :
    (service.logIn draw name password).Ends UninterruptedLogIn := by
  rintro (outage | _ | account)
  · exact nofun
  · rintro (outage | _ | account)
    · exact nofun
    · exact fun _ => nofun
    · exact ends_checkAccount draw name password account
  · exact ends_checkAccount draw name password account

end TokenService

namespace Answer

theorem ofPair_eq_failed {result : Except TokenError TokenPair} {error : TokenError}
    (same : ofPair result = failed error) : result = .error error := by
  cases result <;> cases same
  rfl

private theorem ofUnit_eq_failed {result : Except TokenError Unit} {error : TokenError}
    (same : ofUnit result = failed error) : result = .error error := by
  cases result <;> cases same
  rfl

private theorem ofLogIn_eq_rejected {result : Except LoginError TokenPair} {error : LoginError}
    (same : ofLogIn result = rejected error) : result = .error error := by
  cases result <;> cases same
  rfl

end Answer

namespace Demand

open TokenService in
/-- Of itself no call is answered as an interrupted one is. -/
theorem ends_operation (service : TokenService) (demand : Demand) :
    (demand.operation service).Ends fun answer => ∀ cause, answer ≠ demand.interrupted cause := by
  cases demand with
  | errand wanted =>
      cases wanted with
      | issue draw payload =>
          exact Operation.ends_bind (ends_issue draw payload) fun result uninterrupted cause same =>
            uninterrupted cause (Answer.ofPair_eq_failed same)
      | refresh draw token =>
          exact Operation.ends_bind (ends_refresh draw token) fun result uninterrupted cause same =>
            uninterrupted cause (Answer.ofPair_eq_failed same)
      | revoke token =>
          exact Operation.ends_bind (ends_revoke token) fun result uninterrupted cause same =>
            uninterrupted cause (Answer.ofUnit_eq_failed same)
  | logIn draw name password =>
      exact Operation.ends_bind (ends_logIn draw name password)
        fun result uninterrupted cause same =>
          uninterrupted cause (Answer.ofLogIn_eq_rejected same)

theorem interrupted_inj {cause other : Interruption}
    (same : demand.interrupted cause = demand.interrupted other) : cause = other := by
  cases demand <;> cases cause <;> cases other <;> first | rfl | cases same

/-- What a call that meets a demand comes to. -/
def run (service : TokenService) (conducts : Conducts) (context : Context) (world : World σ)
    (demand : Demand) : Outcome (World σ) Answer :=
  (demand.callWithin service conducts context).run 0 world

end Demand

/-! ## Abandoned calls -/

/-- When and why a computation is interrupted that would end at a moment. -/
inductive Context.Interrupts (context : Context) (late : Nat) : Nat → Interruption → Prop where
  /-- It is withdrawn before its end and before the deadline. -/
  | canceled {withdrawal : Nat} (withdrawn : context.canceledAt = some withdrawal)
      (early : withdrawal < late) (inTime : ∀ limit ∈ context.deadline, withdrawal < limit) :
      Interrupts context late withdrawal .canceled
  /-- The deadline passes before its end and before any withdrawal. -/
  | timedOut {limit : Nat} (limited : context.deadline = some limit) (early : limit < late)
      (wanted : ∀ withdrawal ∈ context.canceledAt, limit < withdrawal) :
      Interrupts context late limit .timedOut

/-- A withdrawal comes neither with the deadline nor with the end of a computation. -/
def Context.Untied (context : Context) (late : Nat) : Prop :=
  ∀ withdrawal ∈ context.canceledAt, withdrawal ≠ late ∧ withdrawal ∉ context.deadline

/-- Some calls were made and another one was begun when a run was cut short. -/
structure Abandons (conducts : Conducts) (world : World σ) (whole cut : Outcome (World σ) α)
    (earlier : List Call) (last : Request) : Prop where
  /-- Without limits the same calls are made first. -/
  begins : ∃ done later, Operation.Travels conducts 0 world (earlier ++ ⟨last, done⟩ :: later)
    whole.time whole.state
  /-- No further calls are made. -/
  calls : cut.state.calls = world.calls ++ earlier ++ [⟨last, false⟩]
  /-- The earlier calls have their effects, and so has the last one unless it did not act yet. -/
  store :
    cut.time ≤ conducts.duration world.calls.length (earlier ++ [⟨last, false⟩]) ∧
        cut.state.store = conducts.effects world.clock.now world.calls.length world.store
          (earlier.map (·.request)) ∨
      conducts.duration world.calls.length (earlier ++ [⟨last, false⟩]) ≤ cut.time ∧
        cut.state.store = conducts.effects world.clock.now world.calls.length world.store
          (earlier.map (·.request) ++ [last])
  /-- The clock stands. -/
  clock : cut.state.clock = world.clock
  /-- Nothing else is logged. -/
  log : world.log <+: cut.state.log ∧ cut.state.log <+: whole.state.log

/-- How the run of a call inside a context compares with the run without limits. -/
structure Truncates (conducts : Conducts) (context : Context) (demand : Demand) (world : World σ)
    (whole cut : Outcome (World σ) Answer) : Prop where
  /-- A call is answered as interrupted exactly if it is interrupted. -/
  answer : ∀ cause, cut.ending = .finished (demand.interrupted cause) ↔
    ∃ moment, context.Interrupts whole.time moment cause
  /-- A call that is not interrupted is the same. -/
  kept : (∀ moment cause, ¬ context.Interrupts whole.time moment cause) → cut = whole
  /-- A call that is interrupted is abandoned. -/
  abandoned : ∀ moment cause, context.Interrupts whole.time moment cause →
    cut.time = moment ∧ ∃ earlier last, Abandons conducts world whole cut earlier last

private theorem interruption?_eq_some_iff {late moment : Nat} {cause : Interruption}
    (untied : context.Untied late) :
    context.interruption? 0 (some late) = some (moment, cause) ↔
      context.Interrupts late moment cause := by
  constructor
  · intro cut
    rcases context.interruption?_cases late with
      ⟨withdrawal, withdrawn, inTime, asleep⟩ | ⟨limit, limited, asleep, wanted⟩ | ⟨wanted, inTime⟩
    · rw [Context.interruption?_eq_canceled withdrawn inTime asleep, Nat.zero_max] at cut
      cases cut
      obtain ⟨apart, untimely⟩ := untied moment withdrawn
      refine .canceled withdrawn (Nat.lt_of_le_of_ne asleep apart) fun limit limited => ?_
      refine Nat.lt_of_le_of_ne (inTime limit limited) ?_
      rintro rfl
      exact untimely limited
    · rw [Context.interruption?_eq_timedOut limited asleep wanted, Nat.zero_max] at cut
      cases cut
      exact .timedOut limited asleep wanted
    · rw [Context.interruption?_eq_none wanted inTime] at cut
      cases cut
  · intro interrupts
    cases interrupts with
    | canceled withdrawn early inTime =>
        rw [Context.interruption?_eq_canceled withdrawn
          (fun limit limited => Nat.le_of_lt (inTime limit limited)) (Nat.le_of_lt early),
          Nat.zero_max]
    | timedOut limited early wanted =>
        rw [Context.interruption?_eq_timedOut limited early wanted, Nat.zero_max]

private theorem abandons_of_waits {operation : Operation α} {since woken moment : Nat}
    {stage : World σ} (ending : Ending α)
    (waits : Timed.Waits (operation.timedBy conducts) 0 world since woken stage)
    (begun : since ≤ moment) (asleep : moment ≤ woken) :
    ∃ earlier last, Abandons conducts world ((operation.timedBy conducts).run 0 world)
      ⟨ending, moment, stage⟩ earlier last := by
  obtain ⟨last, next, later, after, goes, pending⟩ := Operation.exists_pending waits
  obtain ⟨earlier, travels⟩ := Operation.travels_of_goes goes
  obtain ⟨done, following, further⟩ := Operation.travels_run_ask conducts last next later after
  rw [Operation.run_of_goes goes]
  have index : after.calls.length = world.calls.length + earlier.length := by
    rw [travels.calls, List.length_append]
  have acting : later + (conducts after.calls.length).before last =
      conducts.duration world.calls.length (earlier ++ [⟨last, false⟩]) := by
    rw [travels.time, Conducts.duration_append, index, Nat.zero_add]
    rfl
  have begins := travels.trans further
  refine ⟨earlier, last, ?_⟩
  -- The last call acts at the moment `acting`: it was abandoned before or after that.
  cases pending with
  | unserved =>
      exact {
        begins := ⟨done, following, begins⟩
        calls := congrArg (· ++ _) travels.calls
        store := .inl ⟨acting ▸ asleep, travels.store⟩
        clock := travels.clock
        log := ⟨travels.log, further.log⟩ }
  | served willing replied =>
      have acted := travels.trans (Operation.travels_served later willing)
      exact {
        begins := ⟨done, following, begins⟩
        calls := acted.calls.trans (List.append_assoc _ _ _).symm
        store := .inr ⟨acting ▸ begun, by rw [acted.store, List.map_append, List.map_singleton]⟩
        clock := acted.clock
        log := ⟨acted.log, Operation.log_served (after.begun last) last ▸ further.log⟩ }

namespace Demand

theorem run_unlimited (service : TokenService) (conducts : Conducts) (world : World σ)
    (demand : Demand) : demand.run service conducts .unlimited world =
      ((demand.operation service).timedBy conducts).run 0 world := by
  rw [run, callWithin_eq, ← Timed.limited_eq_limitedFrom, Timed.limited_unlimited,
    Timed.mapped_mapped]
  exact congrArg (Timed.run · 0 world) (Timed.mapped_self _)

private theorem ending_ne_interrupted (demand : Demand) (world : World σ) (cause : Interruption) :
    (((demand.operation service).timedBy conducts).run 0 world).ending ≠
      .finished (demand.interrupted cause) := by
  obtain ⟨rest, later, after, goes, stops⟩ :=
    Operation.exists_stop conducts (demand.operation service) 0 world
  generalize ((demand.operation service).timedBy conducts).run 0 world = whole at stops
  have ends := Operation.ends_of_goes goes (demand.ends_operation service)
  rintro ended
  cases stops with
  | finish answer => exact ends cause (Ending.finished.inj ended)
  | overflow => cases ended
  | ask willing broken => cases ended

/-- A call that was withdrawn before does nothing. -/
theorem run_withdrawn (service : TokenService) (conducts : Conducts) (world : World σ)
    (demand : Demand) (withdrawn : context.isCanceledBy 0 = true) :
    demand.run service conducts context world =
      ⟨.finished (demand.interrupted .canceled), 0, world⟩ := by
  rw [run, callWithin_eq, Timed.limitedFrom, if_pos withdrawn]
  rfl

/-- A call that was not withdrawn before is its operation, or it is interrupted. -/
theorem run_cases (service : TokenService) (conducts : Conducts) (world : World σ)
    (demand : Demand) (wanted : context.isCanceledBy 0 = false) :
    let whole := ((demand.operation service).timedBy conducts).run 0 world
    (context.interruption? 0 (some whole.time) = none ∧
        demand.run service conducts context world = whole) ∨
      ∃ moment cause, context.interruption? 0 (some whole.time) = some (moment, cause) ∧
        ∃ since woken stage,
          Timed.Waits ((demand.operation service).timedBy conducts) 0 world since woken stage ∧
            since ≤ moment ∧ moment ≤ woken ∧
              demand.run service conducts context world =
                ⟨.finished (demand.interrupted cause), moment, stage⟩ := by
  intro whole
  have begun := Context.interruption?_start wanted
  have limited : demand.run service conducts context world =
      Timed.resume ((((demand.operation service).timedBy conducts).within context 0).run 0 world)
        fun verdict => .finish (demand.settled verdict) := by
    rw [run, callWithin_eq, Timed.limitedFrom, if_neg (Bool.eq_false_iff.1 wanted), Timed.mapped,
      Timed.run_bind]
  rw [limited]
  rcases Timed.run_within (Operation.ending_ne_hung conducts _ 0 world) begun with
    ⟨free, same⟩ | ⟨moment, cause, cut, since, woken, stage, waits, early, late, stopped⟩
  · refine .inl ⟨free, ?_⟩
    rw [same, ← Timed.run_bind, Timed.mapped_bind]
    exact congrArg (Timed.run · 0 world) (Timed.mapped_self _)
  · refine .inr ⟨moment, cause, cut, since, woken, stage, waits, early, late, ?_⟩
    rw [stopped]
    rfl

theorem run_befalls (service : TokenService) (conducts : Conducts) (context : Context)
    (world : World σ) (demand : Demand) :
    demand.run service conducts context world =
        ⟨.finished (demand.interrupted .canceled), 0, world⟩ ∨
      ∃ made fate,
        Operation.Befalls world.clock.now (demand.operation service) world.store made fate
          (demand.run service conducts context world).state.store ∧
        (demand.run service conducts context world).state.calls = world.calls ++ made ∧
        (fate.EndsAs (demand.run service conducts context world).ending ∨
          fate = .interrupted ∧ ∃ cause, (demand.run service conducts context world).ending =
            .finished (demand.interrupted cause)) := by
  cases withdrawn : context.isCanceledBy 0 with
  | true => exact .inl (run_withdrawn service conducts world demand withdrawn)
  | false =>
      right
      rcases run_cases service conducts world demand withdrawn with
        ⟨-, same⟩ | ⟨moment, cause, -, since, woken, stage, waits, -, -, stopped⟩
      · obtain ⟨made, fate, befalls, calls, ends⟩ :=
          Operation.befalls_run conducts (demand.operation service) 0 world
        rw [same]
        exact ⟨made, fate, befalls, calls, .inl ends⟩
      · obtain ⟨made, befalls, calls⟩ := Operation.befalls_waits waits
        rw [stopped]
        exact ⟨made, .interrupted, befalls, calls, .inr ⟨rfl, cause, rfl⟩⟩

end Demand

private theorem truncates_of_wanted (demand : Demand) (world : World σ)
    (wanted : context.isCanceledBy 0 = false)
    (untied : context.Untied (demand.run service conducts .unlimited world).time) :
    Truncates conducts context demand world (demand.run service conducts .unlimited world)
      (demand.run service conducts context world) := by
  rw [Demand.run_unlimited] at untied ⊢
  rcases Demand.run_cases service conducts world demand wanted with
    ⟨free, same⟩ | ⟨moment, cause, cut, since, woken, stage, waits, early, late, stopped⟩
  · have kept : ∀ moment cause, ¬ context.Interrupts
        (((demand.operation service).timedBy conducts).run 0 world).time moment cause := by
      intro moment cause interrupts
      cases free.symm.trans ((interruption?_eq_some_iff untied).2 interrupts)
    rw [same]
    refine ⟨fun cause => ⟨fun ended => ?_, ?_⟩, fun _ => rfl, fun moment cause interrupts => ?_⟩
    · exact absurd ended (Demand.ending_ne_interrupted demand world cause)
    · rintro ⟨moment, interrupts⟩
      exact absurd interrupts (kept moment cause)
    · exact absurd interrupts (kept moment cause)
  · have only : ∀ other reason, context.Interrupts
        (((demand.operation service).timedBy conducts).run 0 world).time other reason →
          other = moment ∧ reason = cause := by
      intro other reason interrupts
      cases cut.symm.trans ((interruption?_eq_some_iff untied).2 interrupts)
      exact ⟨rfl, rfl⟩
    have due := (interruption?_eq_some_iff untied).1 cut
    rw [stopped]
    refine ⟨fun reason => ⟨fun ended => ?_, ?_⟩, fun free => absurd due (free moment cause),
      fun other reason interrupts => ?_⟩
    · obtain rfl := Demand.interrupted_inj (Ending.finished.inj ended)
      exact ⟨moment, due⟩
    · rintro ⟨other, interrupts⟩
      rw [(only other reason interrupts).2]
    · exact ⟨(only other reason interrupts).1.symm, abandons_of_waits _ waits early late⟩

/-- Interruption is truncation: a call inside a context is refused, kept or abandoned, as the
moment tells at which it would end without limits. -/
theorem truncates (service : TokenService) (conducts : Conducts) (context : Context)
    (world : World σ) (demand : Demand) :
    (context.isCanceledBy 0 = true → demand.run service conducts context world =
      ⟨.finished (demand.interrupted .canceled), 0, world⟩) ∧
    (context.isCanceledBy 0 = false →
      context.Untied (demand.run service conducts .unlimited world).time →
        Truncates conducts context demand world (demand.run service conducts .unlimited world)
          (demand.run service conducts context world)) := by
  exact ⟨Demand.run_withdrawn service conducts world demand, truncates_of_wanted demand world⟩

/-- Collaborators with a store that takes its time. -/
def Conduct.slow : Conduct :=
  { prompt (fun _ _ => false) with storeBefore := 2, storeAfter := 3 }

/-- A world without accounts and sessions. -/
def World.vacant : World Session.Memory where
  clock := .startingAt .epoch
  store := .empty
  users := Table.empty
  musicians := Table.empty
  calls := []
  log := []

/-- A call for a session. -/
def Demand.small : Demand :=
  .errand (.issue (TokenService.sameBytes 1) .small)

/-- A call that is withdrawn while the store delays its reply is abandoned then. -/
theorem truncates_slow :
    (Demand.small.run .small (fun _ => .slow) ⟨some 4, some 9⟩ .vacant).ending =
        .finished (.failed .canceled) ∧
      (Demand.small.run .small (fun _ => .slow) ⟨some 4, some 9⟩ .vacant).time = 4 ∧
      ∃ earlier last, Abandons (fun _ => .slow) .vacant
        (Demand.small.run .small (fun _ => .slow) .unlimited .vacant)
        (Demand.small.run .small (fun _ => .slow) ⟨some 4, some 9⟩ .vacant) earlier last := by
  have ends : (Demand.small.run .small (fun _ => .slow) .unlimited World.vacant).time = 5 := rfl
  have untied : Context.Untied ⟨some 4, some 9⟩
      (Demand.small.run .small (fun _ => .slow) .unlimited World.vacant).time := by
    rw [ends]
    rintro withdrawal ⟨⟩
    decide
  have interrupts : Context.Interrupts ⟨some 4, some 9⟩
      (Demand.small.run .small (fun _ => .slow) .unlimited World.vacant).time 4 .canceled := by
    rw [ends]
    refine .canceled rfl (by decide) ?_
    rintro limit ⟨⟩
    decide
  have truncated := (truncates .small (fun _ => .slow) ⟨some 4, some 9⟩ .vacant .small).2 rfl untied
  exact ⟨(truncated.answer .canceled).2 ⟨4, interrupts⟩, truncated.abandoned 4 .canceled interrupts⟩

end Bearer
