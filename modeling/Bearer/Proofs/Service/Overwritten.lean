import Bearer.Proofs.Service.Minting
import Bearer.Proofs.Service.Tampered
import Bearer.Proofs.Session.Agreement
import Bearer.Proofs.Token.Genuine

/-!
# Whatever the server holds

A refresh renews a session exactly if the value under the key of its token is legible, and for
whomever the value names. Any other value is lost: the answer is an internal error, nothing is
written, and the token is unknown from then on. `identities_whole` adds that no access token is
accepted for a subject that names nobody, and that nothing of the kind is handed on in a pool.
-/

namespace Bearer

open Payload (Legible Names)
open Redis (Link payloadIn)

namespace TokenService

variable {σ : Type} [Session.Store σ] {service : TokenService} {conducts : Conducts}
  {world : World σ} {payload : Payload}

theorem performed_verifyAccess (service : TokenService) (conducts : Conducts) (world : World σ)
    (token : String) : ((service.verifyAccess token).performed conducts world).1 =
      some (service.signer.verify world.clock.now token) := by
  rw [verifyAccess, Operation.performed]
  split
  · rename_i refused
    rw [refused]
    rfl
  · rfl

theorem verify_of_identify {presented : Option String}
    (authenticated : ((service.identify presented).performed conducts world).1 =
      some (.authenticated payload)) :
    ∃ token, presented = some token ∧
      service.signer.verify world.clock.now token = .ok payload := by
  cases presented with
  | none => cases authenticated
  | some token =>
      refine ⟨token, rfl, ?_⟩
      rw [identify, Operation.performed_bind] at authenticated
      have checked := performed_verifyAccess service conducts world token
      cases ended : (service.verifyAccess token).performed conducts world with
      | mk result after =>
          rw [ended] at authenticated checked
          rcases result with _ | error | found
          · cases authenticated
          · cases authenticated
          · cases authenticated
            exact (Option.some.inj checked).symm

end TokenService

theorem World.asked_take {world : World Link} {conduct : Conduct} (up : world.store.outage = none)
    (willing : conduct.takeFailure = none) (key : String) :
    world.asked conduct (.take key) = (some (payloadIn (world.store.server.find? key)),
      world.called (.take key) true (world.store.carrying (.getDelete key))) := by
  have taken : Session.Store.take world.store world.clock.now key = _ :=
    Link.takeSession_of_up up key
  have refusal : conduct.refusal? (.take key) = none := congrArg (Option.map Except.error) willing
  have replied : conduct.reply? world (.take key) =
      some (payloadIn (world.store.server.find? key)) := by
    rw [Conduct.reply?, taken]
  rw [World.asked_of_reply refusal replied]
  exact congrArg (fun taken => (_, world.called (.take key) true taken.2)) taken

theorem Redis.Link.set_of_up (link : Link) (up : link.outage = none) (now : Instant) (key : String)
    (payload : Payload) (lifetime : Span) :
    ((Session.Store.set link now key payload lifetime).1 = some (.ok ()) ↔
      link.server.find? key = none) ∧
    (link.server.find? key = none → (Session.Store.set link now key payload lifetime).2.server.find?
      key = some (String.ofList payload.encode)) := by
  have written : Session.Store.set link now key payload lifetime =
      (some (link.setSession key payload lifetime).1, (link.setSession key payload lifetime).2) :=
    rfl
  rw [written, setSession_of_up up]
  constructor
  · cases link.server.find? key <;> simp
  · intro free
    rw [carrying, Server.find?_setAbsent, if_pos rfl, free]
    rfl

/-- The store does whatever it is asked to do for a refresh. -/
def Conducts.Working (conducts : Conducts) : Prop :=
  ∀ count, (conducts count).takeFailure = none ∧ (conducts count).setFailure = none

namespace TokenService

/-- A pair is out that was made for a payload, and so is its session. -/
structure Renewed (service : TokenService) (draw : Draw) (token : String) (payload : Payload)
    (world : World Link) (outcome : Outcome (World Link) Answer) (pair : TokenPair) : Prop where
  /-- The answer is the pair. -/
  answered : outcome.ending = .finished (.pair pair)
  /-- Its tokens speak of the payload. -/
  tokens : service.pair? draw payload world.clock.now = some pair
  /-- One session was taken, and then one was written for the payload. -/
  calls : outcome.state.calls = world.calls ++ [⟨.take (service.key token), true⟩,
    ⟨.set (service.key pair.refresh) payload service.refreshLifetime, true⟩]
  /-- The server has the payload. -/
  kept : outcome.state.store.server.find? (service.key pair.refresh) =
    some (String.ofList payload.encode)

/-- A session is lost, because what the server had of it cannot be read. -/
structure Lost (service : TokenService) (token value : String) (world : World Link)
    (outcome : Outcome (World Link) Answer) : Prop where
  /-- The answer is an error that does not go away. -/
  answered : ∃ fault, Payload.decode (Text.bytes value) = .error fault ∧
    outcome.ending = .finished (.failed (.internal fault.message)) ∧
      (TokenError.internal fault.message).isRetryable = false
  /-- Nothing was asked for but the session. -/
  calls : outcome.state.calls = world.calls ++ [⟨.take (service.key token), true⟩]
  /-- The value is gone, and nothing else changed on the server. -/
  gone : outcome.state.store.server = world.store.server.erase (service.key token)
  /-- The token is unknown to the next refresh. -/
  unknown : ∀ draw conducts (later : World Link), conducts.Working →
    later.store = outcome.state.store →
      ((Demand.errand (.refresh draw token)).run service conducts .unlimited later).ending =
        .finished (.failed .sessionNotFound)

/-- What a refresh makes of a value under the key of its token. -/
structure Refreshes (service : TokenService) (draw : Draw) (token value : String)
    (world : World Link) (outcome : Outcome (World Link) Answer) : Prop where
  /-- A pair is out for whomever the value names, if the tokens end within the calendar and the key
  of the drawn one is free. -/
  renewed_iff (payload : Payload) (pair : TokenPair) :
    service.Renewed draw token payload world outcome pair ↔
      Legible value payload.subject payload.role ∧
        service.pair? draw payload world.clock.now = some pair ∧
        (world.store.server.erase (service.key token)).find? (service.key pair.refresh) = none
  /-- There is no other pair. -/
  renewed (pair : TokenPair) : outcome.ending = .finished (.pair pair) →
    ∃ payload, service.Renewed draw token payload world outcome pair
  /-- A value that is not legible is lost. -/
  lost : (∀ subject role, ¬ Legible value subject role) → service.Lost token value world outcome

variable {service : TokenService} {conducts : Conducts} {world : World Link} {draw : Draw}
  {token value : String}

/-- What is left of a refresh when the take of the session got its reply. -/
def afterTake (service : TokenService) (draw : Draw) :
    Except Session.Failure (Option Payload) → Operation (Except TokenError TokenPair)
  | .ok (some payload) => service.mint draw payload
  | .ok none => .note .refreshUnknown (.finish (.error .sessionNotFound))
  | .error failure => failed .take failure

theorem refresh_eq (service : TokenService) (draw : Draw) (token : String) :
    service.refresh draw token = .ask (.take (service.key token)) (service.afterTake draw) :=
  congrArg (Operation.ask _) (funext fun reply => by rcases reply with _ | _ | _ <;> rfl)

/-- The world after the session of a token was taken. -/
def taken (service : TokenService) (token : String) (world : World Link) : World Link :=
  world.called (.take (service.key token)) true
    (world.store.carrying (.getDelete (service.key token)))

/-- A refresh goes on with what the server had under the key of the token. -/
theorem run_refresh (service : TokenService) (up : world.store.outage = none)
    (working : conducts.Working) (draw : Draw) (token : String) :
    let result := (service.afterTake draw (payloadIn (world.store.server.find?
      (service.key token)))).performed conducts (service.taken token world)
    let outcome := (Demand.errand (.refresh draw token)).run service conducts .unlimited world
    outcome.ending = .ofOption (result.1.map .ofPair) ∧ outcome.state = result.2 := by
  have ended := Demand.run_performed service conducts world (.errand (.refresh draw token))
  rw [Demand.operation, Errand.operation, Operation.performed_mapped, refresh_eq,
    Operation.performed_ask (World.asked_take up (working _).1 (service.key token))] at ended
  exact ended

theorem run_refresh_unknown (up : world.store.outage = none) (working : conducts.Working)
    (absent : world.store.server.find? (service.key token) = none) (draw : Draw) :
    ((Demand.errand (.refresh draw token)).run service conducts .unlimited world).ending =
      .finished (.failed .sessionNotFound) := by
  rw [(run_refresh service up working draw token).1, absent]
  rfl

private theorem lost_of_error {fault : Json.Fault} (up : world.store.outage = none)
    (working : conducts.Working)
    (held : world.store.server.find? (service.key token) = some value)
    (spoilt : Payload.decode (Text.bytes value) = .error fault) :
    service.Lost token value world
      ((Demand.errand (.refresh draw token)).run service conducts .unlimited world) := by
  obtain ⟨ending, state⟩ := run_refresh service up working draw token
  have found : payloadIn (world.store.server.find? (service.key token)) =
      .error (.corrupted fault.message) := by
    rw [held, payloadIn, spoilt]
  rw [found] at ending state
  have gone : ((Demand.errand (.refresh draw token)).run service conducts .unlimited
      world).state.store = world.store.carrying (.getDelete (service.key token)) := by
    rw [state]
    rfl
  refine ⟨⟨fault, spoilt, ending, rfl⟩, by rw [state]; rfl, by rw [gone]; rfl, ?_⟩
  intro next conducts later working same
  refine run_refresh_unknown ?_ working ?_ next
  · rw [same, gone]
    exact up
  · rw [same, gone, Link.carrying, Redis.Server.find?_getDelete, if_pos rfl]

private theorem refreshes_of_mints {payload : Payload} {conduct : Conduct}
    {result : Option (Except TokenError TokenPair) × World Link}
    {outcome : Outcome (World Link) Answer} (up : world.store.outage = none)
    (willing : conduct.setFailure = none) (read : Payload.decode (Text.bytes value) = .ok payload)
    (mints : Mints service conduct draw payload (service.taken token world) result)
    (ending : outcome.ending = .ofOption (result.1.map .ofPair))
    (state : outcome.state = result.2) :
    service.Refreshes draw token value world outcome := by
  have legible := Payload.legible_iff.2 read
  have made : ∀ pair, outcome.ending = .finished (.pair pair) ↔ result.1 = some (.ok pair) := by
    intro pair
    rw [ending]
    exact Ending.ofOption_eq_pair_iff (fun _ => rfl) fun _ _ same => by cases same
  have written := fun key => Link.set_of_up (service.taken token world).store up world.clock.now
    key payload service.refreshLifetime
  have out_iff : ∀ pair, outcome.ending = .finished (.pair pair) ↔
      service.pair? draw payload world.clock.now = some pair ∧
        (world.store.server.erase (service.key token)).find? (service.key pair.refresh) = none := by
    intro pair
    rw [made, mints.pair_iff]
    exact and_congr_right fun _ => (and_iff_right willing).trans (written _).1
  have renewed : ∀ pair, outcome.ending = .finished (.pair pair) →
      service.Renewed draw token payload world outcome pair := by
    intro pair out
    obtain ⟨tokens, free⟩ := (out_iff pair).1 out
    obtain ⟨calls, store⟩ := mints.written pair ((made pair).1 out)
    refine ⟨out, tokens, ?_, ?_⟩
    · rw [state, calls, writing, ← (pair?_eq_some tokens).1]
      exact List.append_assoc _ _ _
    · rw [state, store]
      exact (written _).2 free
  refine ⟨fun other pair => ⟨fun out => ?_, fun opens => ?_⟩, fun pair out => ⟨_, renewed pair out⟩,
    fun illegible => absurd legible (illegible _ _)⟩
  · have calls := out.calls.symm.trans (renewed pair out.answered).calls
    obtain rfl : other = payload := by simpa using calls
    exact ⟨legible, (out_iff pair).1 out.answered⟩
  · obtain ⟨reads, opens⟩ := opens
    cases (Payload.legible_iff.1 reads).symm.trans read
    exact renewed pair ((out_iff pair).2 opens)

private theorem refreshes_of_lost {outcome : Outcome (World Link) Answer} {fault : Json.Fault}
    (spoilt : Payload.decode (Text.bytes value) = .error fault)
    (lost : service.Lost token value world outcome) :
    service.Refreshes draw token value world outcome := by
  have unpaired : ∀ pair, outcome.ending ≠ .finished (.pair pair) := by
    intro pair out
    obtain ⟨fault, -, ending, -⟩ := lost.answered
    cases ending.symm.trans out
  refine ⟨fun payload pair => iff_of_false (fun out => unpaired pair out.answered) ?_,
    fun pair out => absurd out (unpaired pair), fun _ => lost⟩
  rintro ⟨legible, -⟩
  cases (Payload.legible_iff.1 legible).symm.trans spoilt

/-- Every value is renewed or lost. -/
theorem refreshes_run (up : world.store.outage = none) (working : conducts.Working)
    (held : world.store.server.find? (service.key token) = some value) :
    service.Refreshes draw token value world
      ((Demand.errand (.refresh draw token)).run service conducts .unlimited world) := by
  cases read : Payload.decode (Text.bytes value) with
  | error fault => exact refreshes_of_lost read (lost_of_error up working held read)
  | ok payload =>
      obtain ⟨ending, state⟩ := run_refresh service up working draw token
      have found : payloadIn (world.store.server.find? (service.key token)) =
          .ok (some payload) := by
        rw [held, payloadIn, read]
      rw [found] at ending state
      exact refreshes_of_mints up (working _).2 read (mints_mint service conducts draw payload _)
        ending state

end TokenService

/-! ## A pool with a value that somebody else wrote -/

private theorem tamperedRuns_renewal {service : TokenService} {draw : Draw} {token value : String}
    {payload : Payload} {now : Instant} {pair : TokenPair} {link held taken renewed : Link}
    (puts : { link with server := link.server.insert (service.key token) value } = held)
    (takes : (Request.take (service.key token)).served .deserted now held =
      (some (.ok (some payload)), taken))
    (tokens : service.pair? draw payload now = some pair)
    (renews : (Request.set (service.key pair.refresh) payload service.refreshLifetime).served
      .deserted now taken = (some (.ok ()), renewed)) :
    Pool.TamperedRuns (Pool.serving service now link [.errand (.refresh draw token)])
      ⟨now, renewed, [.returned (.pair pair)],
        [.done 0 now held ⟨.take (service.key token), .ok (some payload)⟩,
          .done 0 now taken
            ⟨.set (service.key pair.refresh) payload service.refreshLifetime, .ok ()⟩]⟩ := by
  obtain ⟨refreshing, presents, -, goesOn⟩ := Demand.operation_refresh service draw token
  obtain ⟨minting, mints, written, writes, closes⟩ := TokenService.mapped_mint tokens
  have clocked : Phase.Moves now (.clock minting) (.running (.ask
      (.set (service.key pair.refresh) payload service.refreshLifetime) written)) :=
    writes ▸ .clock minting
  simp only [Pool.serving, Pool.start, List.map_cons, List.map_nil, presents]
  refine .head (.overwrite _ (service.key token) value) ?_
  rw [Pool.overwritten, puts]
  refine .head (.step (.ask 0 rfl (.served .deserted takes))) ?_
  rw [goesOn, mints]
  refine .head (.step (.move 0 rfl clocked)) ?_
  refine .head (.step (.ask 0 rfl (.served .deserted renews))) ?_
  rw [closes]
  exact .head (.step (.move 0 rfl (.finish _))) .refl

/-- What somebody else put under the key of a token is renewed for whomever it names. -/
theorem Pool.exists_tampered_renewal {service : TokenService} {draw : Draw} {token value : String}
    {payload : Payload} {now : Instant} {pair : TokenPair}
    (read : Payload.decode (Text.bytes value) = .ok payload)
    (tokens : service.pair? draw payload now = some pair) :
    ∃ pool, TamperedRuns (serving service now Link.fresh [.errand (.refresh draw token)]) pool ∧
      pool.phases[0]? = some (.returned (.pair pair)) := by
  obtain ⟨held, puts⟩ : ∃ held, { Link.fresh with
      server := Link.fresh.server.insert (service.key token) value } = held := ⟨_, rfl⟩
  have up : held.outage = none := puts ▸ rfl
  have values : ∀ key, held.server.find? key =
      if key = service.key token then some value else none := by
    intro key
    rw [← puts]
    exact Table.find?_insert _ _ key value
  have takes : (Request.take (service.key token)).served .deserted now held =
      (some (.ok (some payload)), held.carrying (.getDelete (service.key token))) := by
    change (held.takeSession (service.key token)).map some id = _
    rw [Link.takeSession_of_up up, values, if_pos rfl, payloadIn, read]
    rfl
  have free : (held.carrying (.getDelete (service.key token))).server.find?
      (service.key pair.refresh) = none := by
    rw [Link.carrying, Redis.Server.find?_getDelete, values]
    split <;> rfl
  have renews : (Request.set (service.key pair.refresh) payload service.refreshLifetime).served
      .deserted now (held.carrying (.getDelete (service.key token))) = (some (.ok ()), _) :=
    Prod.ext ((Link.set_of_up (held.carrying _) up now _ payload _).1.2 free) rfl
  exact ⟨_, tamperedRuns_renewal puts takes tokens renews, rfl⟩

open Token (Genuine)

/-- Whatever others write to the server, whatever tokens are presented and whichever accounts are
found, an identity that is handed on, accepted or renewed names somebody. A value of the server is
renewed exactly if it is legible, and otherwise it is lost. -/
theorem identities_whole (service : TokenService) :
    (∀ demands now (link : Link) pool,
      Pool.TamperedRuns (Pool.serving service now link demands) pool →
        Pool.Whole service demands pool) ∧
    (∀ conducts (world : World Link) token payload,
      ((service.verifyAccess token).performed conducts world).1 = some (.ok payload) →
        Names payload.subject ∧
          ∃ parts, Genuine service.signer world.clock.now token payload parts) ∧
    (∀ conducts (world : World Link) presented payload,
      ((service.identify presented).performed conducts world).1 =
          some (.authenticated payload) →
        Names payload.subject ∧ ∃ token parts, presented = some token ∧
          Genuine service.signer world.clock.now token payload parts) ∧
    ∀ conducts (world : World Link) draw token value, conducts.Working →
      world.store.outage = none → world.store.server.find? (service.key token) = some value →
        service.Refreshes draw token value world
          ((Demand.errand (.refresh draw token)).run service conducts .unlimited world) := by
  have named : ∀ {now token payload}, service.signer.verify now token = .ok payload →
      Names payload.subject ∧ ∃ parts, Genuine service.signer now token payload parts := by
    intro now token payload accepted
    obtain ⟨parts, genuine⟩ := Token.genuine_of_verify accepted
    refine ⟨?_, parts, genuine⟩
    -- The subject is the one that the claims of the token have.
    rw [genuine.subject]
    exact Payload.names_iff.2 genuine.identified
  refine ⟨fun demands now link pool runs => Pool.whole_of_runs runs, ?_, ?_,
    fun conducts world draw token value working up held =>
      TokenService.refreshes_run up working held⟩
  · intro conducts world token payload verified
    rw [TokenService.performed_verifyAccess service] at verified
    exact named (Option.some.inj verified)
  · intro conducts world presented payload authenticated
    obtain ⟨token, same, accepted⟩ := TokenService.verify_of_identify authenticated
    obtain ⟨names, parts, genuine⟩ := named accepted
    exact ⟨names, token, parts, same, genuine⟩

/-- A musician, written as a list. -/
def Payload.listed : String :=
  "[\"eve\",\"musician\"]"

/-- A user without a name: the subject is one wide space. -/
def Payload.nameless : String :=
  "\x7b\"subject_id\":\"\\u2003\",\"role\":\"user\"\x7d"

/-- A world whose server has one value, under the key of a token of the small service. -/
def World.holding (token value : String) : World Link :=
  { vacant with
    store := { Link.fresh with
      server := Table.empty.insert (TokenService.small.key token) value } }

private theorem decode_listed : Payload.decode (Text.bytes Payload.listed) =
    .ok ⟨"eve", .musician, by decide⟩ :=
  Token.eq_ok_of_toOption (by decide +kernel)

private theorem illegible_nameless (subject : String) (role : Role) :
    ¬ Legible Payload.nameless subject role := by
  intro legible
  obtain ⟨payload, read, -⟩ := Payload.exists_of_legible legible
  have unread : (Payload.decode (Text.bytes Payload.nameless)).toOption = none := by
    decide +kernel
  rw [read] at unread
  cases unread

/-- The musician that somebody else put on the server gets a pair, and the user without a name is
lost. -/
theorem identities_whole_overwritten :
    (∃ pool pair claims, Pool.TamperedRuns (Pool.serving .small .epoch Link.fresh
        [.errand (.refresh (TokenService.sameBytes 1) "a")]) pool ∧
      pool.phases[0]? = some (.returned (.pair pair)) ∧
      pair.access = TokenService.small.signer.sealed claims ∧ Names claims.subject) ∧
    (∃ pair, ((Demand.errand (.refresh (TokenService.sameBytes 1) "a")).run .small
      (fun _ => .prompt (· == ·)) .unlimited (.holding "a" Payload.listed)).ending =
        .finished (.pair pair)) ∧
    ∃ fault : Json.Fault, ((Demand.errand (.refresh (TokenService.sameBytes 1) "a")).run .small
      (fun _ => .prompt (· == ·)) .unlimited (.holding "a" Payload.nameless)).ending =
        .finished (.failed (.internal fault.message)) := by
  obtain ⟨pools, -, -, refreshes⟩ := identities_whole .small
  have lasting := TokenService.Lasting.ofConfig Config.new_small TokenService.ofConfig_small
  have ends : Instant.epoch.plus? TokenService.small.refreshLifetime =
      some ⟨600000000000, by decide, by decide⟩ := rfl
  obtain ⟨pair, tokens⟩ := TokenService.pair?_isSome lasting (TokenService.sameBytes 1)
    ⟨"eve", .musician, by decide⟩ ends
  have working : Conducts.Working fun _ => .prompt (· == ·) := fun _ => ⟨rfl, rfl⟩
  have held : ∀ value, (World.holding "a" value).store.server.find?
      (TokenService.small.key "a") = some value := by
    intro value
    exact (Table.find?_insert _ _ _ value).trans (if_pos rfl)
  refine ⟨?_, ?_, ?_⟩
  · obtain ⟨pool, runs, returned⟩ := Pool.exists_tampered_renewal decode_listed tokens
    obtain ⟨claims, access, names, -⟩ := (pools _ _ _ pool runs).returned 0 pair returned
    exact ⟨pool, pair, claims, runs, returned, access, names⟩
  · have refreshed := refreshes _ _ (TokenService.sameBytes 1) "a" Payload.listed working rfl
      (held Payload.listed)
    have free : ((World.holding "a" Payload.listed).store.server.erase
        (TokenService.small.key "a")).find? (TokenService.small.key pair.refresh) = none := by
      rw [Table.find?_erase, World.holding, Table.find?_insert]
      split <;> rfl
    exact ⟨pair, ((refreshed.renewed_iff _ pair).2
      ⟨Payload.legible_iff.2 decode_listed, tokens, free⟩).answered⟩
  · have refreshed := refreshes _ _ (TokenService.sameBytes 1) "a" Payload.nameless working rfl
      (held Payload.nameless)
    obtain ⟨fault, -, ending, -⟩ := (refreshed.lost illegible_nameless).answered
    exact ⟨fault, ending⟩

end Bearer
