import Bearer.Proofs.Config.Validity
import Bearer.Proofs.Service.Interrupted

/-!
# How long a session may be

The calendar ends, and so a session must not be too long. A configuration is accepted with any
lifetimes in order, but a service can be set up only with lifetimes that are spans, and it breaks
off before the year 10000 unless its sessions end by the end of the calendar: `unbroken_iff`. The
limit for both is given in seconds.
-/

namespace Bearer

open Operation (Befalls)
open Session (Memory)

/-- The usual instants are those from the epoch through the year 9999. -/
def Instant.Usual (now : Instant) : Prop :=
  0 ≤ now.nanoseconds ∧ now.nanoseconds < 253402300800000000000

/-- The last second of the year 9999. -/
def Instant.lastUsual : Instant :=
  ⟨253402300799000000000, by decide, by decide⟩

namespace Operation

variable {α β : Type} {operation : Operation α} {now : Instant} {store after : Memory}
  {made : List Call} {fate : Fate α}

/-- An operation completes if it does not break off at usual instants, whatever the clock shows each
time that it is read or a request is served, and whatever is replied. -/
def Completes : Operation α → Prop
  | finish _ => True
  | overflow => False
  | clock next => ∀ now, now.Usual → (next now).Completes
  | note _ next => next.Completes
  | ask request next =>
    (∀ surroundings now (store : Memory), now.Usual →
      (request.served surroundings now store).1 ≠ none) ∧
        ∀ reply, (next reply).Completes

theorem completes_bind {next : α → Operation β} (first : operation.Completes)
    (second : ∀ value, (next value).Completes) : (operation.bind next).Completes := by
  induction operation with
  | finish value => exact second value
  | overflow => exact first.elim
  | clock rest ih => exact fun now usual => ih now (first now usual)
  | note event rest ih => exact ih first
  | ask request rest ih => exact ⟨first.1, fun reply => ih reply (first.2 reply)⟩

theorem completes_mapped (completes : operation.Completes) (f : α → β) :
    (operation.mapped f).Completes :=
  completes_bind completes fun _ => trivial

theorem Completes.fate_ne (completes : operation.Completes) (usual : now.Usual)
    (befalls : Befalls now operation store made fate after) : fate ≠ .overflowed := by
  induction befalls with
  | finish value store => nofun
  | overflow store => exact completes.elim
  | clock follows ih => exact ih (completes _ usual)
  | note follows ih => exact ih completes
  | refused refusal follows ih => exact ih (completes.2 _)
  | served surroundings replied follows ih => exact ih (completes.2 _)
  | broken surroundings replied =>
      exact absurd (congrArg Prod.fst replied) (completes.1 _ _ _ usual)
  | unserved store => nofun
  | lost surroundings replied => nofun

end Operation

namespace Demand

/-- A call whose operation completes ends with an answer, whatever becomes of it. -/
theorem exists_answer {service : TokenService} {demand : Demand}
    (completes : (demand.operation service).Completes) (conducts : Conducts) (context : Context)
    (world : World Memory) (usual : world.clock.now.Usual) :
    ∃ answer, (demand.run service conducts context world).ending = .finished answer := by
  rcases run_befalls service conducts context world demand with
    withdrawn | ⟨made, fate, befalls, -, ends | ⟨-, cause, interrupted⟩⟩
  · rw [withdrawn]
    exact ⟨_, rfl⟩
  · cases fate with
    | answered answer => exact ⟨answer, ends⟩
    | overflowed => exact absurd rfl (completes.fate_ne usual befalls)
    | interrupted => exact ends.elim
  · exact ⟨_, interrupted⟩

end Demand

/-- The greatest number of seconds that lead from a usual instant to none beyond the calendar. -/
def Span.longestSeconds : Int := 7956864576000

theorem Instant.exists_plus?_of_usual {now : Instant} {span : Span} (usual : now.Usual)
    (positive : 0 < span.nanoseconds)
    (short : span.nanoseconds ≤ Span.longestSeconds * Span.second) :
    ∃ later, now.plus? span = some later := by
  obtain ⟨begun, ended⟩ := usual
  simp only [Span.longestSeconds, Span.second] at short
  exact Instant.exists_plus?_iff.2 (by omega)

theorem Request.served_set_ne {surroundings : Surroundings} {now expiry : Instant} {store : Memory}
    {lifetime : Span} (key : String) (payload : Payload)
    (ends : now.plus? lifetime = some expiry) :
    ((Request.set key payload lifetime).served surroundings now store).1 ≠ none := by
  change (store.set now key payload lifetime).1 ≠ none
  cases live : store.live? now key with
  | some entry =>
      rw [Memory.set_of_live live]
      nofun
  | none =>
      rw [Memory.set_of_free live ends]
      nofun

namespace TokenService

variable {service : TokenService}

/-- The sessions of a service are short enough for the calendar. -/
structure Short (service : TokenService) : Prop extends Lasting service where
  /-- Sessions end by the end of the calendar. -/
  short : service.refreshLifetime.nanoseconds ≤ Span.longestSeconds * Span.second

theorem Short.ends (short : service.Short) {now : Instant} (usual : now.Usual) :
    ∃ later, now.plus? service.refreshLifetime = some later :=
  Instant.exists_plus?_of_usual usual (Int.lt_trans short.positive short.longer) short.short

theorem completes_mint (short : service.Short) (draw : Draw) (payload : Payload) :
    (service.mint draw payload).Completes := by
  intro now usual
  obtain ⟨expiry, ends⟩ := short.ends usual
  obtain ⟨pair, tokens⟩ := pair?_isSome short.toLasting draw payload ends
  dsimp only
  rw [tokens]
  refine ⟨fun surroundings written store usual => ?_, fun reply => ?_⟩
  · obtain ⟨last, ends⟩ := short.ends usual
    exact Request.served_set_ne _ payload ends
  · cases reply with
    | ok _ => exact trivial
    | error failure => exact trivial

theorem completes_issue (short : service.Short) (draw : Draw) (payload : Payload) :
    (service.issue draw payload).Completes := by
  refine Operation.completes_bind (completes_mint short draw payload) fun result => ?_
  cases result with
  | ok pair => exact trivial
  | error error => exact trivial

theorem completes_refresh (short : service.Short) (draw : Draw) (token : String) :
    (service.refresh draw token).Completes := by
  refine ⟨fun surroundings now store usual => nofun, fun reply => ?_⟩
  rcases reply with failure | _ | payload
  · exact trivial
  · exact trivial
  · exact completes_mint short draw payload

theorem completes_revoke (service : TokenService) (token : String) :
    (service.revoke token).Completes := by
  refine ⟨fun surroundings now store usual => nofun, fun reply => ?_⟩
  cases reply with
  | ok existed => exact trivial
  | error failure => exact trivial

/-- A service does not break off at usual instants: its errands complete, and its calls end with
answers. -/
structure Unbroken (service : TokenService) : Prop where
  /-- Every errand completes. -/
  completes : ∀ errand : Errand, (errand.operation service).Completes
  /-- Every call that runs an errand ends with an answer. -/
  answered : ∀ (errand : Errand) conducts context (world : World Memory), world.clock.now.Usual →
    ∃ answer, ((Demand.errand errand).run service conducts context world).ending = .finished answer

theorem Short.unbroken (short : service.Short) : service.Unbroken := by
  have completes : ∀ errand : Errand, (errand.operation service).Completes := by
    intro errand
    cases errand with
    | issue draw payload => exact Operation.completes_mapped (completes_issue short draw payload) _
    | refresh draw token => exact Operation.completes_mapped (completes_refresh short draw token) _
    | revoke token => exact Operation.completes_mapped (completes_revoke service token) _
  exact ⟨completes, fun errand => Demand.exists_answer (completes errand)⟩

theorem pair?_eq_none {now : Instant} (draw : Draw) (payload : Payload)
    (beyond : now.wholeSecond.plus? service.refreshLifetime = none) :
    service.pair? draw payload now = none := by
  unfold pair?
  cases now.wholeSecond.plus? service.accessLifetime with
  | none => rfl
  | some accessExpiry =>
      rw [beyond]
      rfl

/-- A call that opens a session breaks off in the last second of the year 9999, unless sessions are
short enough. -/
theorem overflows_of_long {conducts : Conducts} {world : World Memory}
    (long : Instant.lastUsual.plus? service.refreshLifetime = none) (draw : Draw)
    (payload : Payload) (last : world.clock.now = .lastUsual) :
    ((Demand.errand (.issue draw payload)).run service conducts .unlimited world).ending =
      .overflowed := by
  have tokens : service.pair? draw payload world.clock.now = none := by
    rw [last]
    exact pair?_eq_none draw payload long
  rw [Demand.run_unlimited]
  refine (congrArg Outcome.ending (Operation.run_of_goes (.clock (.stay _ _ _)))).trans ?_
  dsimp only
  rw [tokens]
  rfl

end TokenService

namespace TokenService

variable {issuer audience activeKey : String} {accessSeconds refreshSeconds : Int}
  {hashKey : List UInt8} {keys : List Token.NamedKey} {config : Config} {service : TokenService}

/-- A service can be set up exactly if its sessions are no longer than any span. -/
theorem exists_ofConfig_iff
    (accepted : Config.new issuer audience accessSeconds refreshSeconds hashKey keys activeKey =
      .ok config) :
    (∃ service, ofConfig config = .ok service) ↔ config.refreshSeconds ≤ Span.greatestSeconds := by
  obtain ⟨positive, longer⟩ := Config.lifetimes_of_new accepted
  constructor
  · rintro ⟨service, setUp⟩
    exact (Span.ofSeconds?_eq_some_iff.1 (lifetimes_ofConfig setUp).2).1.2
  · intro inside
    obtain ⟨ring, made⟩ := Config.exists_ring accepted
    have least : -Span.greatestSeconds ≤ 0 := by decide
    have access : Span.ofSeconds? config.accessSeconds =
        some ⟨config.accessSeconds * Span.second⟩ :=
      Span.ofSeconds?_eq_some_iff.2 ⟨⟨by omega, by omega⟩, rfl⟩
    have refresh : Span.ofSeconds? config.refreshSeconds =
        some ⟨config.refreshSeconds * Span.second⟩ :=
      Span.ofSeconds?_eq_some_iff.2 ⟨⟨by omega, by omega⟩, rfl⟩
    rw [ofConfig, made, access, refresh]
    exact ⟨_, rfl⟩

theorem Short.ofConfig
    (accepted : Config.new issuer audience accessSeconds refreshSeconds hashKey keys activeKey =
      .ok config)
    (setUp : TokenService.ofConfig config = .ok service)
    (inside : config.refreshSeconds ≤ Span.longestSeconds) : service.Short where
  toLasting := Lasting.ofConfig accepted setUp
  short := by
    rw [(Span.ofSeconds?_eq_some_iff.1 (lifetimes_ofConfig setUp).2).2]
    exact Int.mul_le_mul_of_nonneg_right inside (by decide)

theorem plus?_lastUsual_eq_none (setUp : TokenService.ofConfig config = .ok service)
    (long : Span.longestSeconds < config.refreshSeconds) :
    Instant.lastUsual.plus? service.refreshLifetime = none := by
  have lifetime := (Span.ofSeconds?_eq_some_iff.1 (lifetimes_ofConfig setUp).2).2
  rw [Option.eq_none_iff_forall_ne_some]
  intro later moved
  have within := Instant.exists_plus?_iff.1 ⟨later, moved⟩
  simp only [Span.longestSeconds, Span.second, Instant.lastUsual] at long lifetime within
  omega

end TokenService

/-- A world in the last second of the year 9999. -/
def World.last : World Memory :=
  { vacant with clock := .startingAt .lastUsual }

/-- An accepted configuration can be used until the year 10000 exactly if its sessions are short
enough. If they are too long for any span, then no service is set up; if they are too long for the
calendar, then a call that opens a session breaks off. -/
theorem unbroken_iff {issuer audience activeKey : String} {accessSeconds refreshSeconds : Int}
    {hashKey : List UInt8} {keys : List Token.NamedKey} {config : Config}
    (accepted : Config.new issuer audience accessSeconds refreshSeconds hashKey keys activeKey =
      .ok config) :
    ((∃ service, TokenService.ofConfig config = .ok service ∧ service.Unbroken) ↔
        config.refreshSeconds ≤ Span.longestSeconds) ∧
      ((∃ service, TokenService.ofConfig config = .ok service) ↔
        config.refreshSeconds ≤ Span.greatestSeconds) ∧
      ∀ service, TokenService.ofConfig config = .ok service →
        Span.longestSeconds < config.refreshSeconds →
          ∀ conducts draw payload (world : World Memory), world.clock.now = .lastUsual →
            ((Demand.errand (.issue draw payload)).run service conducts .unlimited world).ending =
              .overflowed := by
  have overflows : ∀ service, TokenService.ofConfig config = .ok service →
      Span.longestSeconds < config.refreshSeconds →
        ∀ conducts draw payload (world : World Memory), world.clock.now = .lastUsual →
          ((Demand.errand (.issue draw payload)).run service conducts .unlimited world).ending =
            .overflowed := fun service setUp long conducts draw payload world last =>
    TokenService.overflows_of_long (TokenService.plus?_lastUsual_eq_none setUp long) draw payload
      last
  refine ⟨⟨?_, ?_⟩, TokenService.exists_ofConfig_iff accepted, overflows⟩
  · rintro ⟨service, setUp, unbroken⟩
    by_contra long
    have broken := overflows service setUp (Int.not_le.1 long) (fun _ => .slow)
      (TokenService.sameBytes 1) .small .last rfl
    obtain ⟨answer, ended⟩ := unbroken.answered (.issue (TokenService.sameBytes 1) .small)
      (fun _ => .slow) .unlimited .last ⟨by decide, by decide⟩
    cases broken.symm.trans ended
  · intro inside
    obtain ⟨service, setUp⟩ := (TokenService.exists_ofConfig_iff accepted).2
      (Int.le_trans inside (by decide))
    exact ⟨service, setUp, (TokenService.Short.ofConfig accepted setUp inside).unbroken⟩

/-- Sessions of ten minutes are short enough. -/
theorem unbroken_small : TokenService.small.Unbroken := by
  obtain ⟨service, setUp, unbroken⟩ := (unbroken_iff Config.new_small).1.2 (by decide)
  cases TokenService.ofConfig_small.symm.trans setUp
  exact unbroken

/-- The small configuration with sessions of so many seconds. -/
def Config.withSessions (seconds : Int) : Config :=
  { small with refreshSeconds := seconds }

/-- The small service with sessions of so many seconds. -/
def TokenService.withSessions (seconds : Int) : TokenService :=
  { small with refreshLifetime := ⟨seconds * Span.second⟩ }

/-- Configurations are accepted whose sessions are too long: for the greatest lifetime in 64 bits
there is no service, and with one second too many an opened session leads beyond the calendar. -/
theorem sessions_too_long :
    (Config.new "issuer" "audience" 60 9223372036854775807 (List.replicate 32 7)
          [("k1", List.replicate 32 3)] "k1" = .ok (.withSessions 9223372036854775807) ∧
        TokenService.ofConfig (.withSessions 9223372036854775807) = .error .lifetime) ∧
      Config.new "issuer" "audience" 60 7956864576001 (List.replicate 32 7)
          [("k1", List.replicate 32 3)] "k1" = .ok (.withSessions 7956864576001) ∧
        TokenService.ofConfig (.withSessions 7956864576001) =
          .ok (.withSessions 7956864576001) ∧
        (Demand.small.run (.withSessions 7956864576001) (fun _ => .slow) .unlimited .last).ending =
          .overflowed := by
  refine ⟨⟨rfl, rfl⟩, rfl, rfl, ?_⟩
  exact TokenService.overflows_of_long rfl _ _ rfl

end Bearer
