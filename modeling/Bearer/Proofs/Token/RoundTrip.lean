import Bearer.Proofs.Config.Validity
import Bearer.Proofs.Operation.Fate
import Bearer.Proofs.Service.InMemory
import Bearer.Proofs.Session.Rows
import Bearer.Proofs.Token.Sealed

/-!
# Tokens made here are accepted

Where the names of the secrets differ, a token made with one of them is accepted up to the last
whole second before its end, for the payload it was made for, and has expired afterwards:
`verify_issue`. An accepted configuration has such names, so what a service opens a session with
holds exactly as long as it says: `issued_until_expiry`.
-/

namespace Bearer

open Json (Number.Fits)

namespace Instant

variable {instant : Instant}

theorem fits_seconds (instant : Instant) : Number.Fits instant.seconds := by
  have begun := instant.begun
  have notEnded := instant.notEnded
  simp only [Number.Fits, Number.signedBound64, seconds, Span.second]
  omega

theorem ofSeconds?_seconds (instant : Instant) :
    ofSeconds? instant.seconds = some instant.wholeSecond :=
  ofNanoseconds?_eq_some_iff.2 rfl

theorem wholeSecond_of_seconds {count : Int} (whole : instant.nanoseconds = count * Span.second) :
    instant.wholeSecond = instant := by
  apply Instant.ext
  simp only [wholeSecond, seconds, whole, Span.second]
  omega

theorem seconds_nonneg (since : epoch ≤ instant) : 0 ≤ instant.seconds :=
  Int.ediv_nonneg since (by decide)

end Instant

namespace Token.Signer

variable {signer : Signer} {expiry : Instant}

theorem claimsOf?_textSegment {claims : Claims} (expiry : Number.Fits claims.expiry)
    (issuedAt : Number.Fits claims.issuedAt) (since : 0 ≤ claims.expiry) :
    claimsOf? (textSegment claims.encode) = some claims := by
  rw [claimsOf?, decode?_textSegment, Option.bind_eq_bind, Option.bind_some,
    Claims.decode_encode expiry issuedAt]
  exact if_pos ⟨Registered.accepts_encode expiry, since⟩

/-- A token made here is checked for its issuer, its audience and its end. -/
theorem verify_sealed (distinct : (signer.ring.keys.map Prod.fst).Nodup) {claims : Claims}
    (expiry : Number.Fits claims.expiry) (issuedAt : Number.Fits claims.issuedAt)
    (since : 0 ≤ claims.expiry) (moment : Instant) :
    signer.verify moment (signer.sealed claims) = signer.admitted moment claims := by
  rw [verify_of_segmented (segmented_sealed signer claims), if_pos (isSealed_sealed distinct _),
    claimsOf?_textSegment expiry issuedAt since]

theorem admitted_claims (signer : Signer) (payload : Payload) (now expiry : Instant)
    (identifier : String) (moment : Instant) :
    signer.admitted moment (signer.claims payload now expiry identifier) =
      if moment ≤ expiry.wholeSecond then .ok payload else .error .expired := by
  have meant : ¬ ((signer.claims payload now expiry identifier).issuer ≠ signer.issuer ∨
      (signer.claims payload now expiry identifier).audience ≠ signer.audience) :=
    not_or.2 ⟨not_not.2 rfl, not_not.2 rfl⟩
  have ends : Instant.ofSeconds? (signer.claims payload now expiry identifier).expiry =
      some expiry.wholeSecond := Instant.ofSeconds?_seconds expiry
  rw [admitted, if_neg meant, ends]
  dsimp only
  by_cases timely : moment ≤ expiry.wholeSecond
  · have inTime : ¬ expiry.wholeSecond < moment := Int.not_lt.2 timely
    rw [if_neg inTime, if_pos timely, claims, Payload.new?_subject]
  · have late : expiry.wholeSecond < moment := Int.not_le.1 timely
    rw [if_pos late, if_neg timely]

/-- A token made here is accepted up to the last whole second before its end. -/
theorem verify_issue (distinct : (signer.ring.keys.map Prod.fst).Nodup) (payload : Payload)
    (now : Instant) (since : .epoch ≤ expiry) (random : List UInt8) (moment : Instant) :
    signer.verify moment (signer.issue payload now expiry random) =
      if moment ≤ expiry.wholeSecond then .ok payload else .error .expired := by
  rw [issue, verify_sealed distinct (Instant.fits_seconds expiry) (Instant.fits_seconds now)
    (Instant.seconds_nonneg since), admitted_claims]

end Token.Signer

namespace TokenService

variable {service : TokenService} {surroundings : Surroundings} {now : Instant} {draw : Draw}
  {payload : Payload} {pair : TokenPair} {σ : Type} [Session.Store σ] {store after : σ}

theorem keys_ofConfig {config : Config} (setUp : ofConfig config = .ok service) :
    service.signer.ring.keys = config.keys := by
  unfold ofConfig at setUp
  cases made : Token.KeyRing.new config.keys config.activeKey with
  | error fault =>
      rw [made] at setUp
      cases setUp
  | ok ring =>
      rw [made] at setUp
      split at setUp
      · cases setUp
        exact (Token.KeyRing.new_eq_ok made).1
      · cases setUp

/-- A pair was made at an instant, and its session was the last thing that was written. -/
def Opened (service : TokenService) (now : Instant) (payload : Payload) (pair : TokenPair)
    (after : σ) : Prop :=
  ∃ draw, service.pair? draw payload now = some pair ∧
    ∃ before, Session.Store.set before now (service.key pair.refresh) payload
      service.refreshLifetime = (some (.ok ()), after)

variable {made : List Call}

open Operation (Befalls answered_ask answered_bind)

private theorem opened_mint
    (befalls : Befalls now (service.mint draw payload) store made (.answered (.ok pair)) after) :
    Opened service now payload pair after := by
  rw [mint_eq] at befalls
  obtain _ | _ | follows := befalls
  dsimp only at follows
  cases tokens : service.pair? draw payload now with
  | none =>
      rw [tokens] at follows
      cases follows
  | some made =>
      rw [tokens] at follows
      obtain ⟨reply, middle, later, ended, refused | ⟨surroundings, served⟩⟩ := answered_ask follows
      · obtain ⟨failure, rfl⟩ := refused
        obtain _ | _ | _ | logged := ended
        cases logged
      · cases reply with
        | ok _ =>
            cases ended
            obtain ⟨drawn, -⟩ := pair?_eq_some tokens
            exact ⟨draw, tokens, store, by rw [drawn]; exact served⟩
        | error failure =>
            obtain _ | _ | _ | logged := ended
            cases logged

private theorem opened_issue
    (befalls : Befalls now (service.issue draw payload) store made (.answered (.ok pair)) after) :
    Opened service now payload pair after := by
  obtain ⟨result, middle, earlier, last, minted, ended⟩ := answered_bind befalls
  cases result with
  | ok tokens =>
      obtain _ | _ | _ | logged := ended
      cases logged
      exact opened_mint minted
  | error error => cases ended

private theorem opened_refresh {token : String}
    (befalls : Befalls now (service.refresh draw token) store made (.answered (.ok pair)) after) :
    ∃ payload, Opened service now payload pair after := by
  obtain ⟨reply, middle, later, ended, -⟩ := answered_ask befalls
  rcases reply with failure | _ | payload
  · obtain _ | _ | _ | logged := ended
    cases logged
  · obtain _ | _ | _ | logged := ended
    cases logged
  · exact ⟨payload, opened_mint ended⟩

private theorem opened_letIn {name : String}
    (befalls : Befalls now (service.letIn draw name payload) store made (.answered (.ok pair))
      after) : Opened service now payload pair after := by
  obtain ⟨result, middle, earlier, last, issued, ended⟩ := answered_bind befalls
  cases result with
  | ok tokens =>
      obtain _ | _ | _ | logged := ended
      cases logged
      exact opened_issue issued
  | error error => cases ended

private theorem opened_checkAccount {name password : String} {account : Account}
    (befalls : Befalls now (service.checkAccount draw name password account) store made
      (.answered (.ok pair)) after) : ∃ payload, Opened service now payload pair after := by
  obtain ⟨reply, middle, later, ended, -⟩ := answered_ask befalls
  cases reply with
  | false =>
      obtain _ | _ | _ | logged := ended
      cases logged
  | true =>
      cases identified : Payload.new? account.subject account.role with
      | none =>
          rw [identified] at ended
          cases ended
      | some payload =>
          rw [identified] at ended
          exact ⟨payload, opened_letIn ended⟩

private theorem opened_logIn {name password : String}
    (befalls : Befalls now (service.logIn draw name password) store made (.answered (.ok pair))
      after) : ∃ payload, Opened service now payload pair after := by
  obtain ⟨reply, middle, later, ended, -⟩ := answered_ask befalls
  rcases reply with outage | _ | account
  · cases ended
  · obtain ⟨reply, middle, later, ended, -⟩ := answered_ask ended
    rcases reply with outage | _ | account
    · cases ended
    · obtain ⟨reply, middle, later, ended, -⟩ := answered_ask ended
      obtain _ | _ | _ | logged := ended
      cases logged
    · exact opened_checkAccount ended
  · exact opened_checkAccount ended

/-- Whoever is answered a pair has opened its session, whatever else became of the demand. -/
theorem opened_of_befalls {demand : Demand}
    (befalls : Befalls now (demand.operation service) store made (.answered (.pair pair)) after) :
    ∃ payload, Opened service now payload pair after := by
  rcases demand with (⟨draw, payload⟩ | ⟨draw, token⟩ | token) | ⟨draw, name, password⟩
  · obtain ⟨result, middle, earlier, last, issued, ended⟩ := answered_bind befalls
    cases result with
    | ok tokens =>
        cases ended
        exact ⟨payload, opened_issue issued⟩
    | error error => cases ended
  · obtain ⟨result, middle, earlier, last, refreshed, ended⟩ := answered_bind befalls
    cases result with
    | ok tokens =>
        cases ended
        exact opened_refresh refreshed
    | error error => cases ended
  · obtain ⟨result, middle, earlier, last, -, ended⟩ := answered_bind befalls
    cases result <;> cases ended
  · obtain ⟨result, middle, earlier, last, loggedIn, ended⟩ := answered_bind befalls
    cases result with
    | ok tokens =>
        cases ended
        exact opened_logIn loggedIn
    | error error => cases ended

theorem opened_of_demand {demand : Demand}
    (ended : (demand.operation service).carried surroundings now store =
      (some (.pair pair), after)) : ∃ payload, Opened service now payload pair after := by
  obtain ⟨made, befalls⟩ := Operation.befalls_of_carried ended
  exact opened_of_befalls befalls

theorem access_of_pair? (made : service.pair? draw payload now = some pair) :
    now.wholeSecond.plus? service.accessLifetime = some pair.accessExpiry ∧
      pair.access = service.signer.issue payload now pair.accessExpiry draw.identifier := by
  obtain ⟨ends, -, access, -⟩ := made_of_pair? made
  exact ⟨ends, access⟩

/-- What is opened at an instant since the epoch is accepted up to the end that the pair names,
which lies the lifetime after the last whole second. -/
theorem Opened.verify_access {config : Config} (setUp : TokenService.ofConfig config = .ok service)
    (distinct : (config.keys.map Prod.fst).Nodup) (lasting : 0 < config.accessSeconds)
    (opened : Opened service now payload pair after) (since : .epoch ≤ now) :
    pair.accessExpiry.nanoseconds =
        now.wholeSecond.nanoseconds + config.accessSeconds * Span.second ∧
      ∀ moment, service.signer.verify moment pair.access =
        if moment ≤ pair.accessExpiry then .ok payload else .error .expired := by
  obtain ⟨draw, made, -⟩ := opened
  obtain ⟨moved, access⟩ := access_of_pair? made
  have lifetime := (Span.ofSeconds?_eq_some_iff.1 (lifetimes_ofConfig setUp).1).2
  have ends : pair.accessExpiry.nanoseconds =
      now.wholeSecond.nanoseconds + config.accessSeconds * Span.second := by
    rw [Instant.plus?_eq_some_iff.1 moved, lifetime]
  have whole : pair.accessExpiry.nanoseconds =
      (now.seconds + config.accessSeconds) * Span.second := by
    rw [ends, Int.add_mul]
    rfl
  have later : Instant.epoch ≤ pair.accessExpiry := by
    have begun := Instant.seconds_nonneg since
    rw [Instant.le_def, whole]
    exact Int.mul_nonneg (by omega) (by decide)
  refine ⟨ends, fun moment => ?_⟩
  rw [← keys_ofConfig setUp] at distinct
  rw [access, Token.Signer.verify_issue distinct payload now later,
    Instant.wholeSecond_of_seconds whole]

end TokenService

/-- A token made here has three segments and is accepted for its payload up to the last whole second
before its end, and has expired afterwards. So whoever is answered a pair at an instant, by a
service of an accepted configuration, can use the access token for the payload of the session up to
the end that the pair names. -/
theorem issued_until_expiry :
    (∀ (signer : Token.Signer) (payload : Payload) (now expiry : Instant) (random : List UInt8),
      (signer.ring.keys.map Prod.fst).Nodup → Instant.epoch ≤ expiry →
        (∃ head body signature,
          Token.Segmented (signer.issue payload now expiry random) head body signature) ∧
        ∀ moment, signer.verify moment (signer.issue payload now expiry random) =
          if moment ≤ expiry.wholeSecond then .ok payload else .error .expired) ∧
    ∀ {issuer audience activeKey : String} {accessSeconds refreshSeconds : Int}
      {hashKey : List UInt8} {keys : List Token.NamedKey} {config : Config}
      {service : TokenService},
      Config.new issuer audience accessSeconds refreshSeconds hashKey keys activeKey =
        .ok config →
      TokenService.ofConfig config = .ok service →
      ∀ {σ : Type} [Session.Store σ] [Session.Rows σ] (demand : Demand)
        (surroundings : Surroundings) (now : Instant) (store after : σ) (pair : TokenPair),
        Instant.epoch ≤ now →
        (demand.operation service).carried surroundings now store = (some (.pair pair), after) →
        ∃ payload, Session.Rows.row? after (service.key pair.refresh) = some (some payload) ∧
          pair.accessExpiry.nanoseconds =
            now.wholeSecond.nanoseconds + config.accessSeconds * Span.second ∧
          ∀ moment, service.signer.verify moment pair.access =
            if moment ≤ pair.accessExpiry then .ok payload else .error .expired := by
  constructor
  · intro signer payload now expiry random distinct since
    exact ⟨⟨_, _, _, Token.Signer.segmented_sealed signer _⟩,
      Token.Signer.verify_issue distinct payload now since random⟩
  · intro issuer audience activeKey accessSeconds refreshSeconds hashKey keys config service
      accepted setUp σ _ _ demand surroundings now store after pair since answered
    obtain ⟨payload, opened⟩ := TokenService.opened_of_demand answered
    obtain ⟨ends, verified⟩ := opened.verify_access setUp (Config.nodup_of_new accepted)
      (Config.lifetimes_of_new accepted).1 since
    obtain ⟨draw, -, before, written⟩ := opened
    exact ⟨payload, Session.Rows.row_set written, ends, verified⟩

/-- A session of the small service, opened at the epoch, is accepted for a minute. -/
theorem issued_until_expiry_small :
    (∀ moment, TokenService.small.signer.verify moment
        (TokenService.small.signer.issue .small .epoch ⟨61500000000, by decide, by decide⟩ []) =
      if moment ≤ ⟨61000000000, by decide, by decide⟩ then .ok .small else .error .expired) ∧
    ∃ pair after, ((Demand.errand (.issue (TokenService.sameBytes 1) .small)).operation
        .small).carried .deserted .epoch Session.Memory.empty = (some (.pair pair), after) ∧
      ∃ payload, pair.accessExpiry.nanoseconds = 60000000000 ∧
        ∀ moment, TokenService.small.signer.verify moment pair.access =
          if moment ≤ pair.accessExpiry then .ok payload else .error .expired := by
  have lasting := TokenService.Lasting.ofConfig Config.new_small TokenService.ofConfig_small
  have ends : Instant.epoch.plus? TokenService.small.refreshLifetime =
      some ⟨600000000000, by decide, by decide⟩ := rfl
  obtain ⟨pair, -, answered⟩ := Errand.carried_issue lasting
    (rfl : Session.Memory.empty.live? .epoch (TokenService.smallKey 1) = none) ends
  constructor
  · exact (issued_until_expiry.1 TokenService.small.signer .small .epoch
      ⟨61500000000, by decide, by decide⟩ [] (by decide) (by decide)).2
  · obtain ⟨payload, -, expiry, verified⟩ := issued_until_expiry.2 Config.new_small
      TokenService.ofConfig_small (.errand (.issue (TokenService.sameBytes 1) .small)) .deserted
      .epoch Session.Memory.empty _ pair (by decide) answered
    exact ⟨pair, _, answered, payload, expiry, verified⟩

end Bearer
