import Bearer.Proofs.Token.Sealed

/-!
# Why a token does not count

A text without three segments is malformed, whatever they hold. Segments that are not sealed are a
wrong signature, whatever the claims say, and only behind a good tag do the claims and the clock
matter. As time goes on, the outcome can only change to expired (`verify_of_le`), and a sealed token
with one character exchanged is not sealed any more (`verify_altered`). `classifies` has it all.
-/

namespace Bearer.Token

namespace Signer

variable {signer : Signer} {head body signature : List Char} {token : String} {claims : Claims}
  {now earlier later : Instant}

/-- Claims that have expired are meant for this issuer and audience, and have ended. -/
theorem admitted_eq_expired (expired : signer.admitted now claims = .error .expired) :
    claims.issuer = signer.issuer ∧ claims.audience = signer.audience ∧
      claims.expiry * Span.second < now.nanoseconds := by
  unfold admitted at expired
  split at expired
  · cases expired
  · rename_i meant
    obtain ⟨issuer, audience⟩ := not_or.1 meant
    split at expired
    · cases expired
    · rename_i expiry instant
      split at expired
      · rename_i ended
        rw [Instant.lt_def, Instant.ofNanoseconds?_eq_some_iff.1 instant] at ended
        exact ⟨not_not.1 issuer, not_not.1 audience, ended⟩
      · split at expired
        · cases expired
        · cases expired

/-- As time goes on, claims may expire, but they are never taken for a wrong signature then. -/
theorem admitted_of_le (order : earlier ≤ later) (claims : Claims) :
    signer.admitted later claims = signer.admitted earlier claims ∨
      signer.admitted later claims = .error .expired ∧
        signer.admitted earlier claims ≠ .error .invalidSignature := by
  unfold admitted
  split
  · exact .inl rfl
  · split
    · exact .inl rfl
    · rename_i expiry instant
      by_cases ended : expiry < later
      · right
        refine ⟨if_pos ended, ?_⟩
        split
        · exact fun same => by cases same
        · split
          · exact fun same => by cases same
          · exact fun same => by cases same
      · left
        have running : ¬ expiry < earlier := fun past =>
          ended (Int.lt_of_lt_of_le past (Instant.le_def.1 order))
        rw [if_neg ended, if_neg running]

/-- As time goes on, the outcome of a check can only change to expired. -/
theorem verify_of_le (order : earlier ≤ later) (token : String) :
    signer.verify later token = signer.verify earlier token ∨
      signer.verify later token = .error .expired ∧
        signer.verify earlier token ≠ .error .invalidSignature := by
  by_cases segments : ∃ head body signature, Segmented token head body signature
  · obtain ⟨head, body, signature, segmented⟩ := segments
    rw [verify_of_segmented segmented, verify_of_segmented segmented]
    split
    · split
      · exact admitted_of_le order _
      · exact .inl rfl
    · exact .inl rfl
  · left
    simp only [not_exists] at segments
    rw [verify_of_not_segmented segments, verify_of_not_segmented segments]

end Signer

/-- Two texts are alike but for one character, which is no dot in either of them. -/
def Altered (token other : String) : Prop :=
  ∃ before old new after, token.toList = before ++ old :: after ∧
    other.toList = before ++ new :: after ∧ old ≠ '.' ∧ new ≠ '.' ∧ old ≠ new

section

variable {token other : String} {head body signature : List Char}

private theorem split_of_append_eq {before after first rest : List Char} {old : Char}
    (noDot : old ≠ '.') (same : before ++ old :: after = first ++ '.' :: rest) :
    (∃ more, first = before ++ old :: more ∧ after = more ++ '.' :: rest) ∨
      ∃ more, before = first ++ '.' :: more ∧ rest = more ++ old :: after := by
  rcases List.append_eq_append_iff.1 same with ⟨more, firstEq, rest⟩ | ⟨more, beforeEq, rest⟩
  · cases more with
    | nil =>
        cases rest
        exact absurd rfl noDot
    | cons character more =>
        cases rest
        exact .inl ⟨more, firstEq, rfl⟩
  · cases more with
    | nil =>
        cases rest
        exact absurd rfl noDot
    | cons character more =>
        cases rest
        exact .inr ⟨more, beforeEq, rfl⟩

private theorem exchange_ne {before after : List Char} {old new : Char} (different : old ≠ new) :
    before ++ new :: after ≠ before ++ old :: after := by
  intro same
  exact different (List.cons.inj (List.append_cancel_left same)).1.symm

private theorem dot_not_mem_exchange {before after : List Char} {old new : Char}
    (undotted : '.' ∉ before ++ old :: after) (noDot : new ≠ '.') :
    '.' ∉ before ++ new :: after := by
  simp only [List.mem_append, List.mem_cons, not_or] at undotted ⊢
  exact ⟨undotted.1, noDot.symm, undotted.2.2⟩

private theorem exchange_ne_nil {before after : List Char} {new : Char} :
    before ++ new :: after ≠ [] :=
  List.append_ne_nil_of_right_ne_nil before (List.cons_ne_nil new after)

/-- Where one character is exchanged, there are still three segments, and either the first two or
the last one differ. -/
theorem Altered.segmented (altered : Altered token other)
    (segmented : Segmented token head body signature) :
    ∃ newHead newBody newSignature, Segmented other newHead newBody newSignature ∧
      (newSignature = signature ∧ newHead ++ '.' :: newBody ≠ head ++ '.' :: body ∨
        newHead = head ∧ newBody = body ∧ newSignature ≠ signature) := by
  obtain ⟨before, old, new, after, shape, otherShape, oldSolid, newSolid, different⟩ := altered
  obtain ⟨joined, ⟨noDotHead, noDotBody, noDotSignature⟩, headSome, bodySome, signatureSome⟩ :=
    segmented
  rw [shape] at joined
  rcases split_of_append_eq oldSolid joined with ⟨more, rfl, rfl⟩ | ⟨start, rfl, rejoined⟩
  · refine ⟨before ++ new :: more, body, signature, ⟨by simp [otherShape], ⟨?_, noDotBody,
      noDotSignature⟩, exchange_ne_nil, bodySome, signatureSome⟩, .inl ⟨rfl, fun same => ?_⟩⟩
    · exact dot_not_mem_exchange noDotHead newSolid
    · exact exchange_ne different (List.append_cancel_right same)
  · rcases split_of_append_eq oldSolid rejoined.symm with ⟨more, rfl, rfl⟩ | ⟨more, rfl, rfl⟩
    · refine ⟨head, start ++ new :: more, signature, ⟨by simp [otherShape], ⟨noDotHead, ?_,
        noDotSignature⟩, headSome, exchange_ne_nil, signatureSome⟩, .inl ⟨rfl, fun same => ?_⟩⟩
      · exact dot_not_mem_exchange noDotBody newSolid
      · exact exchange_ne different (List.cons.inj (List.append_cancel_left same)).2
    · refine ⟨head, body, more ++ new :: after, ⟨by simp [otherShape], ⟨noDotHead, noDotBody, ?_⟩,
        headSome, bodySome, exchange_ne_nil⟩, .inr ⟨rfl, rfl, exchange_ne different⟩⟩
      exact dot_not_mem_exchange noDotSignature newSolid

end

namespace Signer

/-- What is tagged in a token with some claims. -/
def covered (signer : Signer) (claims : Claims) : List Char :=
  textSegment (Header.encode signer.ring.active) ++ '.' :: textSegment claims.encode

/-- No tag of a text is forged: whatever seals the text is the signing secret, and it was put under
the claims. -/
def Unforged (signer : Signer) (claims : Claims) (other : String) : Prop :=
  ∀ head body signature text header secret, Segmented other head body signature →
    signer.Seals head body signature text header secret →
      secret = signer.ring.signing ∧ head ++ '.' :: body = signer.covered claims

variable {signer : Signer} {claims : Claims} {other : String}

/-- A token with one character exchanged has a wrong signature, unless its tag is forged. -/
theorem verify_altered (altered : Altered (signer.sealed claims) other)
    (unforged : signer.Unforged claims other) (now : Instant) :
    signer.verify now other = .error .invalidSignature := by
  obtain ⟨head, body, signature, segmented, change⟩ :=
    altered.segmented (segmented_sealed signer claims)
  have unsealed : ¬ signer.isSealed head body signature = true := by
    intro fits
    obtain ⟨text, header, secret, seals⟩ := isSealed_iff.1 fits
    obtain ⟨rfl, same⟩ := unforged head body signature text header secret segmented seals
    rcases change with ⟨-, different⟩ | ⟨sameHead, sameBody, different⟩
    · exact different same
    · rw [sameHead, sameBody] at seals
      exact different seals.signed
  rw [verify_of_segmented segmented, if_neg unsealed]

/-- If a text has other segments before the tag than a token with the claims, then no secret of the
ring gives both the same tag. -/
def TaggedApart (signer : Signer) (claims : Claims) (other : String) : Prop :=
  ∀ head body signature, Segmented other head body signature →
    head ++ '.' :: body ≠ signer.covered claims → ∀ name secret, (name, secret) ∈ signer.ring.keys →
      Digest.Hmac.tag secret (Text.bytes (String.ofList (head ++ '.' :: body))) ≠
        Digest.Hmac.tag signer.ring.signing
          (Text.bytes (String.ofList (signer.covered claims)))

/-- Where the names of the secrets differ, no tag is forged if the tags of what was altered differ
from the tag of what was not. -/
theorem unforged_of_apart (distinct : (signer.ring.keys.map Prod.fst).Nodup)
    (altered : Altered (signer.sealed claims) other) (apart : signer.TaggedApart claims other) :
    signer.Unforged claims other := by
  intro head body signature text header secret segmented seals
  obtain ⟨newHead, newBody, newSignature, newSegmented, change⟩ :=
    altered.segmented (segmented_sealed signer claims)
  obtain ⟨rfl, rfl, rfl⟩ := segmented.unique newSegmented
  rcases change with ⟨kept, different⟩ | ⟨sameHead, sameBody, -⟩
  · obtain ⟨earlier, later, listed, -⟩ := seals.asked
    have member : (_, secret) ∈ signer.ring.keys :=
      listed ▸ List.mem_append_right earlier List.mem_cons_self
    have tagged := Base64.encode_urlSafe_inj (seals.signed.symm.trans kept)
    exact absurd tagged (apart head body signature segmented different _ secret member)
  · rw [sameHead, sameBody] at seals ⊢
    refine ⟨?_, rfl⟩
    have headText := Base64.encode_urlSafe_inj seals.written.symm
    obtain rfl : header = ⟨.hs256, some signer.ring.active⟩ := by
      rw [headText] at seals
      exact Except.ok.inj (seals.read.symm.trans (Header.decode_encode _))
    have last := lastUnder_of_mem distinct signer.ring.active_mem
    exact Option.some.inj ((checking?_of_lastUnder seals.asked).symm.trans
      (checking?_of_lastUnder last))

/-! ## All outcomes -/

/-- How a signer tells the tokens apart that do not count. -/
structure Classifies (signer : Signer) : Prop where
  /-- What is not three segments is malformed. -/
  malformed (now : Instant) (token : String) :
    (∀ head body signature, ¬ Segmented token head body signature) →
      signer.verify now token = .error .malformed
  /-- Segments that nothing seals are a wrong signature, whatever the claims say. -/
  unsealed (now : Instant) {token : String} {head body signature : List Char} :
    Segmented token head body signature →
      (∀ text header secret, ¬ signer.Seals head body signature text header secret) →
        signer.verify now token = .error .invalidSignature
  /-- Segments that are malformed are sealed. -/
  malformed_sealed (now : Instant) {token : String} {head body signature : List Char} :
    Segmented token head body signature → signer.verify now token = .error .malformed →
      ∃ text header secret, signer.Seals head body signature text header secret
  /-- Segments that have expired are sealed, and their claims are meant for this issuer and audience
  and have ended. -/
  expired_sealed (now : Instant) {token : String} {head body signature : List Char} :
    Segmented token head body signature → signer.verify now token = .error .expired →
      (∃ text header secret, signer.Seals head body signature text header secret) ∧
        ∃ text claims, body = Base64.encode Base64.urlSafe text ∧
          Claims.decode text = .ok claims ∧ claims.issuer = signer.issuer ∧
            claims.audience = signer.audience ∧ claims.expiry * Span.second < now.nanoseconds
  /-- What has expired stays so. -/
  expired_later {earlier later : Instant} (token : String) : earlier ≤ later →
    signer.verify earlier token = .error .expired → signer.verify later token = .error .expired
  /-- What is accepted was accepted for the same payload before. -/
  accepted_earlier {earlier later : Instant} (token : String) (payload : Payload) :
    earlier ≤ later → signer.verify later token = .ok payload →
      signer.verify earlier token = .ok payload
  /-- As time goes on, an outcome can only change to expired. -/
  aging {earlier later : Instant} (token : String) : earlier ≤ later →
    signer.verify later token = signer.verify earlier token ∨
      signer.verify later token = .error .expired
  /-- A wrong signature is one at every instant. -/
  refused_always (now moment : Instant) (token : String) :
    signer.verify now token = .error .invalidSignature →
      signer.verify moment token = .error .invalidSignature
  /-- A token that was issued has a wrong signature with one character exchanged, unless its tag is
  forged. -/
  altered (payload : Payload) (now expiry moment : Instant) (random : List UInt8)
    (other : String) : Altered (signer.issue payload now expiry random) other →
      signer.Unforged (signer.claims payload now expiry (Identifier.ofBytes random)) other →
        signer.verify moment other = .error .invalidSignature
  /-- Where the names of the secrets differ, it has a wrong signature unless the altered segments
  get the tag of the unaltered ones. -/
  altered_apart (payload : Payload) (now expiry moment : Instant) (random : List UInt8)
    (other : String) : (signer.ring.keys.map Prod.fst).Nodup →
      Altered (signer.issue payload now expiry random) other →
        signer.TaggedApart (signer.claims payload now expiry (Identifier.ofBytes random)) other →
          signer.verify moment other = .error .invalidSignature

/-- Every signer tells the tokens apart that do not count. -/
theorem classifies (signer : Signer) : signer.Classifies where
  malformed now token other := verify_of_not_segmented other now
  unsealed now token head body signature segmented other := by
    have unsealed : ¬ signer.isSealed head body signature = true := by
      intro fits
      obtain ⟨text, header, secret, seals⟩ := isSealed_iff.1 fits
      exact other text header secret seals
    rw [verify_of_segmented segmented, if_neg unsealed]
  malformed_sealed now token head body signature segmented malformed := by
    rw [verify_of_segmented segmented] at malformed
    split at malformed
    · rename_i fits
      exact isSealed_iff.1 fits
    · cases malformed
  expired_sealed now token head body signature segmented expired := by
    rw [verify_of_segmented segmented] at expired
    split at expired
    · rename_i fits
      refine ⟨isSealed_iff.1 fits, ?_⟩
      split at expired
      · rename_i claims found
        obtain ⟨text, written, read, -⟩ := claimsOf?_eq_some found
        obtain ⟨issuer, audience, ended⟩ := admitted_eq_expired expired
        exact ⟨text, claims, written, read, issuer, audience, ended⟩
      · cases expired
    · cases expired
  expired_later token order expired := by
    rcases verify_of_le order token with same | ⟨ended, -⟩
    · rw [same, expired]
    · exact ended
  accepted_earlier token payload order accepted := by
    rcases verify_of_le order token with same | ⟨ended, -⟩
    · rw [← same, accepted]
    · rw [ended] at accepted
      cases accepted
  aging token order := (verify_of_le order token).imp_right And.left
  refused_always now moment token refused := by
    rcases Int.le_total now.nanoseconds moment.nanoseconds with order | order
    · rcases verify_of_le (Instant.le_def.2 order) token with same | ⟨-, sealed⟩
      · rw [same, refused]
      · exact absurd refused sealed
    · rcases verify_of_le (Instant.le_def.2 order) token with same | ⟨ended, -⟩
      · rw [← same, refused]
      · rw [ended] at refused
        cases refused
  altered payload now expiry moment random other altered unforged :=
    verify_altered altered unforged moment
  altered_apart payload now expiry moment random other distinct altered apart :=
    verify_altered altered (unforged_of_apart distinct altered apart) moment

end Signer

/-- The claims of a token of the small service. -/
def smallClaims : Claims :=
  TokenService.small.signer.claims .small .epoch ⟨60000000000, by decide, by decide⟩
    (Identifier.ofBytes (List.replicate 16 1))

/-- The segment of these claims after its first character. -/
def smallRest : List Char :=
  (Signer.textSegment smallClaims.encode).tail

/-- The first segment of a token of the small service. -/
def smallStart : List Char :=
  Signer.textSegment (Header.encode "k1")

/-- The token with another first character of its claims. -/
def alteredToken : String :=
  String.ofList (smallStart ++ '.' :: ('f' :: smallRest ++ '.' ::
    Signer.tag (List.replicate 32 3) smallStart ('e' :: smallRest)))

private theorem textSegment_smallClaims :
    Signer.textSegment smallClaims.encode = 'e' :: smallRest := by
  decide +kernel

private theorem segmented_sealed_small :
    Segmented (TokenService.small.signer.sealed smallClaims) smallStart ('e' :: smallRest)
      (Signer.tag (List.replicate 32 3) smallStart ('e' :: smallRest)) :=
  textSegment_smallClaims ▸ Signer.segmented_sealed TokenService.small.signer smallClaims

private theorem altered_alteredToken :
    Altered (TokenService.small.signer.sealed smallClaims) alteredToken := by
  refine ⟨smallStart ++ ['.'], 'e', 'f', smallRest ++ '.' ::
    Signer.tag (List.replicate 32 3) smallStart ('e' :: smallRest), ?_, ?_, by decide, by decide,
    by decide⟩
  · simp [segmented_sealed_small.joined]
  · simp [alteredToken]

private theorem segmented_alteredToken :
    Segmented alteredToken smallStart ('f' :: smallRest)
      (Signer.tag (List.replicate 32 3) smallStart ('e' :: smallRest)) := by
  have filled := segmented_sealed_small.filled
  have undotted := segmented_sealed_small.undotted
  have noDotBody : '.' ∉ 'f' :: smallRest := fun member => by
    rcases List.mem_cons.1 member with same | later
    · exact absurd same (by decide)
    · exact undotted.2.1 (List.mem_cons_of_mem 'e' later)
  exact ⟨by simp [alteredToken], ⟨undotted.1, noDotBody, undotted.2.2⟩, filled.1,
    List.cons_ne_nil _ _, filled.2.2⟩

private theorem tags_apart :
    Digest.Hmac.tag (List.replicate 32 3)
        (Text.bytes (String.ofList (smallStart ++ '.' :: 'f' :: smallRest))) ≠
      Digest.Hmac.tag (List.replicate 32 3)
        (Text.bytes (String.ofList (TokenService.small.signer.covered smallClaims))) := by
  decide +kernel

private theorem taggedApart_alteredToken :
    TokenService.small.signer.TaggedApart smallClaims alteredToken := by
  intro head body signature segmented different name secret member
  have same := segmented.unique segmented_alteredToken
  cases List.mem_singleton.1 member
  rw [same.1, same.2.1]
  exact tags_apart

/-- The altered token has a wrong signature at every instant. -/
theorem classifies_small : ∀ moment,
    TokenService.small.signer.verify moment alteredToken = .error .invalidSignature := by
  intro moment
  exact (Signer.classifies TokenService.small.signer).altered_apart .small .epoch
    ⟨60000000000, by decide, by decide⟩ moment (List.replicate 16 1) alteredToken (by decide)
    altered_alteredToken taggedApart_alteredToken

end Bearer.Token
