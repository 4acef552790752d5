import Bearer.Proofs.Service.Calendar
import Bearer.Proofs.Token.Classified
import Bearer.Proofs.Token.RoundTrip

/-!
# Tokens across a change of secrets

The header of a token names the secret that signed, so another signer checks the token under what it
has by that name, whichever secret is active there. If the tag is the same under that secret, then
only the issuer and the audience of the other signer matter (`verify_elsewhere`); if it is not, or
if there is nothing by that name, then nothing else does (`verify_unsealed`). `rotated` says what
this means for the tokens of one accepted configuration under another one.
-/

namespace Bearer

open Json (Number.Fits)

namespace Config

/-- The configuration is accepted, whatever its host and its time-out are. -/
def Accepted (config : Config) : Prop :=
  ∃ made, new config.issuer config.audience config.accessSeconds config.refreshSeconds
    config.hashKey config.keys config.activeKey = .ok made

theorem Accepted.nodup {config : Config} (accepted : config.Accepted) :
    (config.keys.map Prod.fst).Nodup := by
  obtain ⟨made, accepted⟩ := accepted
  have distinct := nodup_of_new accepted
  obtain ⟨-, rfl⟩ := new_eq_ok accepted
  exact distinct

end Config

namespace Token.Signer

/-- The signer that a configuration describes. -/
def ofConfig (config : Config) : Except ConfigError Signer :=
  (KeyRing.new config.keys config.activeKey).map fun ring =>
    ⟨ring, config.issuer, config.audience⟩

section

variable {config : Config} {signer : Signer}

theorem ofConfig_eq_ok (setUp : ofConfig config = .ok signer) :
    (signer.ring.keys = config.keys ∧ signer.ring.active = config.activeKey) ∧
      signer.issuer = config.issuer ∧ signer.audience = config.audience := by
  unfold ofConfig at setUp
  cases made : KeyRing.new config.keys config.activeKey with
  | error fault =>
      rw [made] at setUp
      cases setUp
  | ok ring =>
      rw [made] at setUp
      cases setUp
      exact ⟨KeyRing.new_eq_ok made, rfl, rfl⟩

theorem ofConfig_of_service {service : TokenService}
    (setUp : TokenService.ofConfig config = .ok service) :
    ofConfig config = .ok service.signer := by
  unfold TokenService.ofConfig at setUp
  cases made : KeyRing.new config.keys config.activeKey with
  | error fault =>
      rw [made] at setUp
      cases setUp
  | ok ring =>
      rw [made] at setUp
      split at setUp
      · cases setUp
        rw [ofConfig, made]
        rfl
      · cases setUp

theorem exists_ofConfig (accepted : config.Accepted) : ∃ signer, ofConfig config = .ok signer := by
  obtain ⟨made, accepted⟩ := accepted
  obtain ⟨ring, found⟩ := Config.exists_ring accepted
  obtain ⟨-, rfl⟩ := Config.new_eq_ok accepted
  refine ⟨⟨ring, config.issuer, config.audience⟩, ?_⟩
  rw [ofConfig, found]
  rfl

end

variable {signer other : Signer} {name : String} {body signature : List Char} {claims : Claims}

theorem checking?_of_mem {ring : KeyRing} {secret : List UInt8}
    (distinct : (ring.keys.map Prod.fst).Nodup) (listed : (name, secret) ∈ ring.keys) :
    ring.checking? (some name) = some secret :=
  checking?_of_lastUnder (lastUnder_of_mem distinct listed)

theorem checking?_eq_some_iff {ring : KeyRing} {secret : List UInt8}
    (distinct : (ring.keys.map Prod.fst).Nodup) :
    ring.checking? (some name) = some secret ↔ (name, secret) ∈ ring.keys := by
  refine ⟨fun found => ?_, checking?_of_mem distinct⟩
  obtain ⟨earlier, later, split, -⟩ := lastUnder_of_checking? found
  rw [split]
  exact List.mem_append_right earlier List.mem_cons_self

theorem secretFor?_textSegment (other : Signer) (name : String) :
    other.secretFor? (textSegment (Header.encode name)) = other.ring.checking? (some name) := by
  rw [secretFor?, decode?_textSegment, Option.bind_eq_bind, Option.bind_some,
    Header.decode_encode]
  exact if_pos rfl

/-- Segments behind a header that was made here are sealed exactly if they carry the tag under the
secret that the header names. -/
theorem isSealed_textSegment (distinct : (other.ring.keys.map Prod.fst).Nodup) :
    other.isSealed (textSegment (Header.encode name)) body signature = true ↔
      ∃ secret, (name, secret) ∈ other.ring.keys ∧
        tag secret (textSegment (Header.encode name)) body = signature := by
  simp only [← checking?_eq_some_iff distinct]
  rw [isSealed, secretFor?_textSegment]
  cases other.ring.checking? (some name) with
  | none => simp
  | some secret => simp

/-- The tag of a token is the one that another signer expects. -/
def TaggedFor (signer other : Signer) (claims : Claims) : Prop :=
  ∃ secret, (signer.ring.active, secret) ∈ other.ring.keys ∧
    tag secret (textSegment (Header.encode signer.ring.active)) (textSegment claims.encode) =
      tag signer.ring.signing (textSegment (Header.encode signer.ring.active))
        (textSegment claims.encode)

/-- Under the expected tag, a token is checked for the issuer and the audience of the other signer
and for its end. -/
theorem verify_elsewhere (distinct : (other.ring.keys.map Prod.fst).Nodup)
    (tagged : TaggedFor signer other claims) (expiry : Number.Fits claims.expiry)
    (issuedAt : Number.Fits claims.issuedAt) (since : 0 ≤ claims.expiry) (moment : Instant) :
    other.verify moment (signer.sealed claims) = other.admitted moment claims := by
  rw [verify_of_segmented (segmented_sealed signer claims),
    if_pos ((isSealed_textSegment distinct).2 tagged), claimsOf?_textSegment expiry issuedAt since]

/-- Under another tag, a token has a wrong signature. -/
theorem verify_unsealed (distinct : (other.ring.keys.map Prod.fst).Nodup)
    (untagged : ¬ TaggedFor signer other claims) (moment : Instant) :
    other.verify moment (signer.sealed claims) = .error .invalidSignature := by
  rw [verify_of_segmented (segmented_sealed signer claims),
    if_neg fun fits => untagged ((isSealed_textSegment distinct).1 fits)]

/-- Only the issuer and the audience of a signer bear on whether claims count. -/
theorem admitted_congr (issuer : other.issuer = signer.issuer)
    (audience : other.audience = signer.audience) (moment : Instant) (claims : Claims) :
    other.admitted moment claims = signer.admitted moment claims := by
  rw [admitted, admitted, issuer, audience]

/-- Claims for somebody else are a wrong signature, whether they have ended or not. -/
theorem admitted_foreign (foreign : other.issuer ≠ claims.issuer ∨ other.audience ≠ claims.audience)
    (moment : Instant) : other.admitted moment claims = .error .invalidSignature :=
  if_pos (foreign.imp Ne.symm Ne.symm)

end Token.Signer

namespace Token

/-- What a token of one configuration counts for under another one. -/
structure Rotated (before after : Config) (signer next : Signer) (token : String) : Prop where
  /-- Where the issuer, the audience and the secret that signed are the same, so is the outcome,
  whatever else is there. -/
  kept (secret : List UInt8) : (before.activeKey, secret) ∈ before.keys →
    (before.activeKey, secret) ∈ after.keys → after.issuer = before.issuer →
      after.audience = before.audience →
        ∀ moment, next.verify moment token = signer.verify moment token
  /-- Where nothing has the name of the secret that signed, the signature is wrong. -/
  retired : before.activeKey ∉ after.keys.map Prod.fst →
    ∀ moment, next.verify moment token = .error .invalidSignature
  /-- Where something else has that name and the tag is not the same under it, the signature is
  wrong. -/
  replaced (secret : List UInt8) (head body signature : List Char) :
    (before.activeKey, secret) ∈ after.keys → Segmented token head body signature →
      Signer.tag secret head body ≠ signature →
        ∀ moment, next.verify moment token = .error .invalidSignature
  /-- Where the secret that signed is the same but the issuer or the audience differ, the signature
  is wrong. -/
  foreign (secret : List UInt8) : (before.activeKey, secret) ∈ before.keys →
    (before.activeKey, secret) ∈ after.keys →
      after.issuer ≠ before.issuer ∨ after.audience ≠ before.audience →
        ∀ moment, next.verify moment token = .error .invalidSignature

private theorem secret_unique {keys : List NamedKey} {name : String} {secret twin : List UInt8}
    (distinct : (keys.map Prod.fst).Nodup) (listed : (name, secret) ∈ keys)
    (twinListed : (name, twin) ∈ keys) : secret = twin :=
  (Prod.mk.inj (List.inj_on_of_nodup_map distinct listed twinListed rfl)).2

/-- Two accepted configurations have signers. What the first one issues, to end since the epoch,
counts for the second one just as for the first if the issuer, the audience and the secret that
signed are the same; it is a wrong signature at every instant if that secret is gone or gives
another tag, or if the issuer or the audience differ. -/
theorem rotated {before after : Config} (accepted : before.Accepted)
    (acceptedAfter : after.Accepted) :
    ∃ signer next, Signer.ofConfig before = .ok signer ∧ Signer.ofConfig after = .ok next ∧
      ∀ (payload : Payload) (now expiry : Instant) (random : List UInt8), Instant.epoch ≤ expiry →
        Rotated before after signer next (signer.issue payload now expiry random) := by
  obtain ⟨signer, setUp⟩ := Signer.exists_ofConfig accepted
  obtain ⟨next, setUpAfter⟩ := Signer.exists_ofConfig acceptedAfter
  refine ⟨signer, next, setUp, setUpAfter, fun payload now expiry random since => ?_⟩
  obtain ⟨⟨keys, active⟩, issuer, audience⟩ := Signer.ofConfig_eq_ok setUp
  obtain ⟨⟨keysAfter, -⟩, issuerAfter, audienceAfter⟩ := Signer.ofConfig_eq_ok setUpAfter
  have distinct := keys ▸ accepted.nodup
  have distinctAfter := keysAfter ▸ acceptedAfter.nodup
  have expiryFits := Instant.fits_seconds expiry
  have nowFits := Instant.fits_seconds now
  have sinceEpoch := Instant.seconds_nonneg since
  have elsewhere : ∀ secret, (before.activeKey, secret) ∈ before.keys →
      (before.activeKey, secret) ∈ after.keys → ∀ moment,
        next.verify moment (signer.issue payload now expiry random) =
          next.admitted moment
            (signer.claims payload now expiry (Identifier.ofBytes random)) := by
    intro secret listed kept
    rw [← keys, ← active] at listed
    obtain rfl := secret_unique distinct listed signer.ring.active_mem
    rw [← keysAfter, ← active] at kept
    exact Signer.verify_elsewhere distinctAfter ⟨_, kept, rfl⟩ expiryFits nowFits sinceEpoch
  refine ⟨?kept, ?retired, ?replaced, ?foreign⟩
  case kept =>
    intro secret listed kept sameIssuer sameAudience moment
    have own : signer.verify moment (signer.issue payload now expiry random) =
        signer.admitted moment (signer.claims payload now expiry (Identifier.ofBytes random)) :=
      Signer.verify_sealed distinct expiryFits nowFits sinceEpoch moment
    rw [elsewhere secret listed kept, own]
    exact Signer.admitted_congr (issuerAfter.trans (sameIssuer.trans issuer.symm))
      (audienceAfter.trans (sameAudience.trans audience.symm)) moment _
  case retired =>
    intro gone
    refine Signer.verify_unsealed distinctAfter fun ⟨secret, listed, _⟩ => gone ?_
    rw [active, keysAfter] at listed
    exact List.mem_map_of_mem listed
  case replaced =>
    intro secret head body signature listed segmented different
    refine Signer.verify_unsealed distinctAfter fun ⟨found, foundListed, same⟩ => different ?_
    rw [active, keysAfter] at foundListed
    obtain rfl := secret_unique acceptedAfter.nodup foundListed listed
    obtain ⟨rfl, rfl, rfl⟩ := segmented.unique (Signer.segmented_sealed signer _)
    exact same
  case foreign =>
    intro secret listed kept elsewhereMeant moment
    rw [elsewhere secret listed kept]
    refine Signer.admitted_foreign ?_ moment
    rwa [issuerAfter, audienceAfter, Signer.claims, issuer, audience]

/-- The small configuration with another active secret. -/
def smallRotated : Config :=
  { Config.small with
    keys := [("k2", List.replicate 32 4), ("k1", List.replicate 32 3)]
    activeKey := "k2" }

/-- The small configuration without its secret. -/
def smallRetired : Config :=
  { Config.small with keys := [("k2", List.replicate 32 4)], activeKey := "k2" }

/-- The small configuration with another secret of the same name. -/
def smallReplaced : Config :=
  { Config.small with keys := [("k1", List.replicate 32 4)] }

/-- The small configuration for another audience. -/
def smallForeign : Config :=
  { Config.small with audience := "others" }

/-- A token of the small service that ends after a minute. -/
def smallIssued : String :=
  TokenService.small.signer.sealed smallClaims

private theorem tags_replaced :
    Signer.tag (List.replicate 32 4) smallStart (Signer.textSegment smallClaims.encode) ≠
      Signer.tag (List.replicate 32 3) smallStart (Signer.textSegment smallClaims.encode) := by
  decide +kernel

/-- The token counts as before where its secret is kept, and never without the secret, under another
one of that name, or for another audience. -/
theorem rotated_small :
    (∃ next, Signer.ofConfig smallRotated = .ok next ∧ ∀ moment,
      next.verify moment smallIssued = TokenService.small.signer.verify moment smallIssued) ∧
    ∀ after ∈ [smallRetired, smallReplaced, smallForeign],
      ∃ next, Signer.ofConfig after = .ok next ∧ ∀ moment,
        next.verify moment smallIssued = .error .invalidSignature := by
  have applied : ∀ after : Config, after.Accepted → ∃ next, Signer.ofConfig after = .ok next ∧
      Rotated .small after TokenService.small.signer next smallIssued := by
    intro after acceptedAfter
    have accepted : Config.small.Accepted := ⟨_, Config.new_small⟩
    obtain ⟨signer, next, setUp, setUpAfter, counts⟩ := rotated accepted acceptedAfter
    rw [Signer.ofConfig_of_service TokenService.ofConfig_small] at setUp
    cases setUp
    exact ⟨next, setUpAfter, counts .small .epoch ⟨60000000000, by decide, by decide⟩
      (List.replicate 16 1) (by decide)⟩
  have listed : (Config.small.activeKey, List.replicate 32 3) ∈ Config.small.keys := by decide
  constructor
  · obtain ⟨next, setUp, counts⟩ := applied smallRotated ⟨_, rfl⟩
    exact ⟨next, setUp, counts.kept _ listed (by decide) rfl rfl⟩
  · intro after member
    simp only [List.mem_cons, List.not_mem_nil, or_false] at member
    rcases member with rfl | rfl | rfl
    · obtain ⟨next, setUp, counts⟩ := applied smallRetired ⟨_, rfl⟩
      exact ⟨next, setUp, counts.retired (by decide)⟩
    · obtain ⟨next, setUp, counts⟩ := applied smallReplaced ⟨_, rfl⟩
      exact ⟨next, setUp, counts.replaced (List.replicate 32 4) _ _ _ (by decide)
        (Signer.segmented_sealed _ _) tags_replaced⟩
    · obtain ⟨next, setUp, counts⟩ := applied smallForeign ⟨_, rfl⟩
      exact ⟨next, setUp, counts.foreign _ listed (by decide) (.inr (by decide))⟩

end Token

end Bearer
