import Bearer.Proofs.Config.Validity
import Bearer.Service.Tokens

/-!
# The lifetimes of an accepted configuration

A service that was set up from an accepted configuration keeps its access tokens for a while and its
sessions for longer. So where the end of a session lies within the calendar, the tokens of the
session can be made: `pair?_isSome`.
-/

namespace Bearer

theorem Instant.exists_plus?_iff {instant : Instant} {span : Span} :
    (∃ later, instant.plus? span = some later) ↔
      -8334601228800000000000 ≤ instant.nanoseconds + span.nanoseconds ∧
        instant.nanoseconds + span.nanoseconds < 8210266876800000000000 := by
  constructor
  · rintro ⟨later, moved⟩
    rw [← plus?_eq_some_iff.1 moved]
    exact ⟨later.begun, later.notEnded⟩
  · intro within
    exact ⟨⟨_, within.1, within.2⟩, plus?_eq_some_iff.2 rfl⟩

theorem Instant.nanoseconds_wholeSecond_le (instant : Instant) :
    instant.wholeSecond.nanoseconds ≤ instant.nanoseconds := by
  simp only [wholeSecond, seconds, Span.second]
  omega

theorem Instant.lt_wholeSecond_add (instant : Instant) :
    instant.nanoseconds < instant.wholeSecond.nanoseconds + Span.second := by
  simp only [wholeSecond, seconds, Span.second]
  omega

namespace TokenService

/-- The lifetimes of a service in order. -/
structure Lasting (service : TokenService) : Prop where
  /-- Access tokens count for a while. -/
  positive : 0 < service.accessLifetime.nanoseconds
  /-- Sessions are kept for longer. -/
  longer : service.accessLifetime.nanoseconds < service.refreshLifetime.nanoseconds

theorem lifetimes_ofConfig {config : Config} {service : TokenService}
    (setUp : ofConfig config = .ok service) :
    Span.ofSeconds? config.accessSeconds = some service.accessLifetime ∧
      Span.ofSeconds? config.refreshSeconds = some service.refreshLifetime := by
  unfold ofConfig at setUp
  cases made : Token.KeyRing.new config.keys config.activeKey with
  | error fault =>
      rw [made] at setUp
      cases setUp
  | ok ring =>
      rw [made] at setUp
      cases access : Span.ofSeconds? config.accessSeconds with
      | none =>
          rw [access] at setUp
          cases setUp
      | some accessLifetime =>
          cases refresh : Span.ofSeconds? config.refreshSeconds with
          | none =>
              rw [access, refresh] at setUp
              cases setUp
          | some refreshLifetime =>
              rw [access, refresh] at setUp
              cases setUp
              exact ⟨rfl, rfl⟩

theorem Lasting.ofConfig {issuer audience activeKey : String} {accessSeconds refreshSeconds : Int}
    {hashKey : List UInt8} {keys : List Token.NamedKey} {config : Config} {service : TokenService}
    (accepted : Config.new issuer audience accessSeconds refreshSeconds hashKey keys activeKey =
      .ok config)
    (setUp : TokenService.ofConfig config = .ok service) : Lasting service := by
  obtain ⟨positive, longer⟩ := Config.lifetimes_of_new accepted
  obtain ⟨access, refresh⟩ := lifetimes_ofConfig setUp
  have accessNanoseconds := (Span.ofSeconds?_eq_some_iff.1 access).2
  have refreshNanoseconds := (Span.ofSeconds?_eq_some_iff.1 refresh).2
  simp only [Span.second] at accessNanoseconds refreshNanoseconds
  constructor <;> omega

/-- Where a session ends within the calendar, its tokens can be made. -/
theorem pair?_isSome {service : TokenService} (lasting : Lasting service) (draw : Draw)
    (payload : Payload) {now expiry : Instant}
    (ends : now.plus? service.refreshLifetime = some expiry) :
    ∃ pair, service.pair? draw payload now = some pair := by
  have before := now.nanoseconds_wholeSecond_le
  have begun := now.wholeSecond.begun
  obtain ⟨positive, longer⟩ := lasting
  have within := Instant.exists_plus?_iff.1 ⟨expiry, ends⟩
  obtain ⟨accessExpiry, access⟩ : ∃ later, now.wholeSecond.plus? service.accessLifetime =
      some later := Instant.exists_plus?_iff.2 (by omega)
  obtain ⟨refreshExpiry, refresh⟩ : ∃ later, now.wholeSecond.plus? service.refreshLifetime =
      some later := Instant.exists_plus?_iff.2 (by omega)
  simp [pair?, access, refresh]

end TokenService

/-- A configuration with one secret. -/
def Config.small : Config where
  issuer := "issuer"
  audience := "audience"
  accessSeconds := 60
  refreshSeconds := 600
  hashKey := List.replicate 32 7
  keys := [("k1", List.replicate 32 3)]
  activeKey := "k1"
  storeHost := usualHost
  timeout := none

/-- The service of that configuration. -/
def TokenService.small : TokenService where
  signer := ⟨⟨Config.small.keys, "k1", List.replicate 32 3, rfl⟩, "issuer", "audience"⟩
  hashKey := List.replicate 32 7
  accessLifetime := ⟨60000000000⟩
  refreshLifetime := ⟨600000000000⟩

/-- A payload of a user. -/
def Payload.small : Payload :=
  ⟨"subject", .user, by decide⟩

theorem Config.new_small : new "issuer" "audience" 60 600 (List.replicate 32 7)
    [("k1", List.replicate 32 3)] "k1" = .ok small := rfl

namespace TokenService

theorem ofConfig_small : ofConfig Config.small = .ok small := rfl

/-- The random bytes that are all alike. -/
def sameBytes (byte : UInt8) : Draw :=
  ⟨List.replicate 16 byte, List.replicate 32 byte⟩

/-- The key of the token that such a draw makes. -/
def smallKey (byte : UInt8) : String :=
  small.key (refreshToken (sameBytes byte).refresh)

private theorem nodup_smallKey : ([1, 2, 3].map smallKey).Nodup := by
  decide +kernel

theorem smallKey_ne (left right : UInt8) (leftListed : left ∈ [1, 2, 3])
    (rightListed : right ∈ [1, 2, 3]) (different : left ≠ right) :
    smallKey left ≠ smallKey right := by
  intro same
  exact different (List.inj_on_of_nodup_map nodup_smallKey leftListed rightListed same)

end TokenService

end Bearer
