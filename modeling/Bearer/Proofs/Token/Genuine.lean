import Bearer.Proofs.Operation.Carried
import Bearer.Proofs.Service.Lifetimes
import Bearer.Proofs.Text.Base64
import Bearer.Proofs.Token.Segments
import Bearer.Session.Memory

/-!
# Tokens that are accepted are genuine

A text is accepted as a token only if it has all the parts of a token that was made with a secret of
the ring for this issuer and audience and that has not expired. `Genuine` lists what must hold of
the parts, without reference to how a token is checked; `genuine_of_verify` is the central theorem,
and there is one lemma for each stage of the check.
-/

namespace Bearer.Token

/-- The parts of a token. -/
structure Parts where
  /-- The segment of the header. -/
  head : List Char
  /-- The segment of the claims. -/
  body : List Char
  /-- The segment of the tag. -/
  signature : List Char
  /-- The JSON text of the header. -/
  headText : List UInt8
  /-- What the header says. -/
  header : Header
  /-- The secret that the header asks for. -/
  secret : List UInt8
  /-- The JSON text of the claims. -/
  bodyText : List UInt8
  /-- What the claims say. -/
  claims : Claims

/-- The last secret under a name in a list of named secrets. -/
def LastUnder (keys : List NamedKey) (name : String) (secret : List UInt8) : Prop :=
  ∃ earlier later, keys = earlier ++ (name, secret) :: later ∧ ∀ other ∈ later, other.1 ≠ name

/-- A text with some parts is a token for a payload that was made with a secret of the ring and has
not expired. -/
structure Genuine (signer : Signer) (now : Instant) (token : String) (payload : Payload)
    (parts : Parts) : Prop where
  /-- The text is the three segments, joined by dots. -/
  joined : token.toList = parts.head ++ '.' :: (parts.body ++ '.' :: parts.signature)
  /-- No segment has a dot. -/
  undotted : '.' ∉ parts.head ∧ '.' ∉ parts.body ∧ '.' ∉ parts.signature
  /-- No segment is empty. -/
  filled : parts.head ≠ [] ∧ parts.body ≠ [] ∧ parts.signature ≠ []
  /-- The first segment is the base64 text of a header. -/
  head : parts.head = Base64.encode Base64.urlSafe parts.headText
  /-- The header is read from its JSON text. -/
  header : Header.decode parts.headText = .ok parts.header
  /-- The header names the one algorithm that is used. -/
  algorithm : parts.header.algorithm = .hs256
  /-- The header names a secret of the ring, or leaves it at the active one. -/
  secret : LastUnder signer.ring.keys (parts.header.keyName.getD signer.ring.active) parts.secret
  /-- The last segment is the base64 text of the tag of the first two under that secret. -/
  signature : parts.signature = Base64.encode Base64.urlSafe
    (Digest.Hmac.tag parts.secret (Text.bytes (String.ofList (parts.head ++ '.' :: parts.body))))
  /-- The second segment is the base64 text of claims. -/
  body : parts.body = Base64.encode Base64.urlSafe parts.bodyText
  /-- The claims are read from their JSON text. -/
  claims : Claims.decode parts.bodyText = .ok parts.claims
  /-- The token was made by the right issuer. -/
  issuer : parts.claims.issuer = signer.issuer
  /-- The token was made for the right audience. -/
  audience : parts.claims.audience = signer.audience
  /-- The token does not end before the epoch. -/
  expiry : 0 ≤ parts.claims.expiry
  /-- The last second of the token has not passed. -/
  unexpired : now.nanoseconds ≤ parts.claims.expiry * Span.second
  /-- The payload has the subject of the claims. -/
  subject : payload.subject = parts.claims.subject
  /-- The subject is not blank. -/
  identified : Text.isBlankText parts.claims.subject = false
  /-- The payload has the role of the claims. -/
  role : payload.role = parts.claims.role

variable {signer : Signer} {now : Instant} {token : String} {payload : Payload}

theorem lastUnder_of_checking? {ring : KeyRing} {name : Option String} {secret : List UInt8}
    (found : ring.checking? name = some secret) :
    LastUnder ring.keys (name.getD ring.active) secret := by
  obtain ⟨before, after, split, others⟩ := List.lookup_eq_some_iff.1 found
  refine ⟨after.reverse, before.reverse, ?_, ?_⟩
  · rw [← List.reverse_reverse ring.keys, split]
    simp
  · intro other member same
    have different := others other (List.mem_reverse.1 member)
    rw [same] at different
    exact absurd different (by simp)

namespace Signer

theorem secretFor?_eq_some {head : List Char} {secret : List UInt8}
    (found : signer.secretFor? head = some secret) :
    ∃ text header, head = Base64.encode Base64.urlSafe text ∧ Header.decode text = .ok header ∧
      header.algorithm = .hs256 ∧ signer.ring.checking? header.keyName = some secret := by
  obtain ⟨text, decoded, chosen⟩ := Option.bind_eq_some_iff.1 found
  have written := Base64.decode?_urlSafe_eq_some_iff.1 decoded
  split at chosen
  · rename_i header read
    split at chosen
    · rename_i algorithm
      exact ⟨text, header, written, read, algorithm, chosen⟩
    · cases chosen
  · cases chosen

theorem isSealed_eq_true {head body signature : List Char}
    (fits : signer.isSealed head body signature = true) :
    ∃ secret, signer.secretFor? head = some secret ∧ signature = tag secret head body := by
  unfold isSealed at fits
  split at fits
  · rename_i secret found
    exact ⟨secret, found, (of_decide_eq_true fits).symm⟩
  · cases fits

theorem claimsOf?_eq_some {body : List Char} {claims : Claims}
    (found : claimsOf? body = some claims) :
    ∃ text, body = Base64.encode Base64.urlSafe text ∧ Claims.decode text = .ok claims ∧
      0 ≤ claims.expiry := by
  obtain ⟨text, decoded, chosen⟩ := Option.bind_eq_some_iff.1 found
  have written := Base64.decode?_urlSafe_eq_some_iff.1 decoded
  split at chosen
  · rename_i read
    split at chosen
    · rename_i lasting
      cases chosen
      exact ⟨text, written, read, lasting.2⟩
    · cases chosen
  · cases chosen

theorem admitted_eq_ok {claims : Claims} (admits : signer.admitted now claims = .ok payload) :
    claims.issuer = signer.issuer ∧ claims.audience = signer.audience ∧
      now.nanoseconds ≤ claims.expiry * Span.second ∧ payload.subject = claims.subject ∧
        payload.role = claims.role := by
  unfold admitted at admits
  split at admits
  · cases admits
  · rename_i meant
    obtain ⟨issuer, audience⟩ := not_or.1 meant
    split at admits
    · cases admits
    · rename_i expiry instant
      split at admits
      · cases admits
      · rename_i unexpired
        split at admits
        · rename_i found identified
          cases admits
          obtain ⟨subject, role⟩ := Payload.new?_eq_some_iff.1 identified
          refine ⟨not_not.1 issuer, not_not.1 audience, ?_, subject, role⟩
          rw [← Instant.ofNanoseconds?_eq_some_iff.1 instant]
          exact Int.not_lt.1 unexpired
        · cases admits

/-- A token is accepted exactly if it passes each stage. -/
theorem verify_eq_ok_iff : signer.verify now token = .ok payload ↔
    ∃ head body signature claims, token.toList.splitOn '.' = [head, body, signature] ∧
      (head ≠ [] ∧ body ≠ [] ∧ signature ≠ []) ∧ signer.isSealed head body signature = true ∧
        claimsOf? body = some claims ∧ signer.admitted now claims = .ok payload := by
  constructor
  · intro accepted
    unfold verify at accepted
    split at accepted
    · rename_i head body signature split
      split at accepted
      · cases accepted
      · rename_i filled
        rw [not_or, not_or] at filled
        split at accepted
        · rename_i fits
          split at accepted
          · rename_i claims found
            exact ⟨head, body, signature, claims, split, filled, fits, found, accepted⟩
          · cases accepted
        · cases accepted
    · cases accepted
  · rintro ⟨head, body, signature, claims, split, filled, fits, found, admits⟩
    rw [← not_or, ← not_or] at filled
    rw [verify, split]
    dsimp only
    rw [if_neg filled, if_pos fits, found]
    exact admits

end Signer

/-- A text that is accepted is a genuine token for the payload. -/
theorem genuine_of_verify (accepted : signer.verify now token = .ok payload) :
    ∃ parts, Genuine signer now token payload parts := by
  obtain ⟨head, body, signature, claims, split, filled, fits, found, admits⟩ :=
    Signer.verify_eq_ok_iff.1 accepted
  obtain ⟨secret, asked, signed⟩ := Signer.isSealed_eq_true fits
  obtain ⟨headText, header, headWritten, headRead, algorithm, checking⟩ :=
    Signer.secretFor?_eq_some asked
  obtain ⟨bodyText, bodyWritten, bodyRead, expiry⟩ := Signer.claimsOf?_eq_some found
  obtain ⟨issuer, audience, unexpired, subject, role⟩ := Signer.admitted_eq_ok admits
  obtain ⟨joined, undotted⟩ := Segments.splitOn_eq_three_iff.1 split
  exact ⟨⟨head, body, signature, headText, header, secret, bodyText, claims⟩,
    { joined
      undotted
      filled
      head := headWritten
      header := headRead
      algorithm
      secret := lastUnder_of_checking? checking
      signature := signed
      body := bodyWritten
      claims := bodyRead
      issuer
      audience
      expiry
      unexpired
      subject
      identified := subject ▸ payload.identified
      role }⟩

end Bearer.Token

namespace Bearer.TokenService

open Token (Parts Genuine)

variable {σ : Type} [Session.Store σ] {service : TokenService} {surroundings : Surroundings}
  {now : Instant} {store : σ} {payload : Payload}

theorem carried_verifyAccess (token : String) :
    (service.verifyAccess token).carried surroundings now store =
      (some (service.signer.verify now token), store) := by
  rw [verifyAccess, Operation.carried_clock]
  split
  · rename_i refused
    rw [refused]
    rfl
  · rfl

theorem identify_eq_authenticated_iff {presented : Option String} :
    ((service.identify presented).carried surroundings now store).1 =
        some (.authenticated payload) ↔
      ∃ token, presented = some token ∧ service.signer.verify now token = .ok payload := by
  cases presented with
  | none => simp [identify]
  | some token =>
      rw [identify, Operation.carried_bind, carried_verifyAccess]
      cases checked : service.signer.verify now token with
      | ok found => simp [checked]
      | error error => simp [checked]

/-- A caller is authenticated exactly where its token is accepted, and then the token is genuine. -/
theorem authenticated_genuine (service : TokenService) (surroundings : Surroundings)
    (now : Instant) (store : σ) {token : String} {payload : Payload} :
    (((service.identify (some token)).carried surroundings now store).1 =
        some (.authenticated payload) ↔ service.signer.verify now token = .ok payload) ∧
      (service.signer.verify now token = .ok payload →
        ∃ parts, Genuine service.signer now token payload parts) := by
  refine ⟨?_, Token.genuine_of_verify⟩
  rw [identify_eq_authenticated_iff]
  constructor
  · rintro ⟨found, same, accepted⟩
    cases same
    exact accepted
  · intro accepted
    exact ⟨token, rfl, accepted⟩

end Bearer.TokenService

namespace Bearer.Token

/-- The JSON text of a header that names no key. -/
def smallHead : List UInt8 :=
  Text.bytes "\x7b\"alg\":\"HS256\"\x7d"

/-- The JSON text of claims for the small service. -/
def smallBody : List UInt8 :=
  Text.bytes ("\x7b\"sub\":\"subject\",\"role\":\"user\",\"iss\":\"issuer\"," ++
    "\"aud\":\"audience\",\"exp\":60,\"iat\":0,\"jti\":\"1\"\x7d")

/-- A token with that header and these claims. -/
def smallToken : String :=
  String.ofList (Signer.segment smallHead ++ '.' :: (Signer.segment smallBody ++ '.' ::
    Signer.tag (List.replicate 32 3) (Signer.segment smallHead) (Signer.segment smallBody)))

theorem eq_ok_of_toOption {ε α : Type} {result : Except ε α} {value : α}
    (some : result.toOption = some value) : result = .ok value := by
  cases result with
  | ok found => exact congrArg Except.ok (Option.some.inj some)
  | error error => cases some

private theorem decode_smallHead : Header.decode smallHead = .ok ⟨.hs256, none⟩ :=
  eq_ok_of_toOption (by decide +kernel)

private theorem decode_smallBody : Claims.decode smallBody =
    .ok ⟨"subject", .user, "issuer", "audience", 60, 0, "1"⟩ :=
  eq_ok_of_toOption (by decide +kernel)

private theorem accepts_smallBody : Registered.accepts smallBody = true := by
  decide +kernel

private theorem verify_smallToken : TokenService.small.signer.verify .epoch smallToken =
    .ok ⟨"subject", .user, by decide⟩ := by
  have decodedHead : Base64.decode? Base64.urlSafe (Signer.segment smallHead) = some smallHead :=
    Base64.decode?_urlSafe_eq_some_iff.2 rfl
  have decodedBody : Base64.decode? Base64.urlSafe (Signer.segment smallBody) = some smallBody :=
    Base64.decode?_urlSafe_eq_some_iff.2 rfl
  have secret : TokenService.small.signer.secretFor? (Signer.segment smallHead) =
      some (List.replicate 32 3) := by
    rw [Signer.secretFor?, decodedHead, Option.bind_eq_bind, Option.bind_some, decode_smallHead]
    rfl
  have signed : TokenService.small.signer.isSealed (Signer.segment smallHead)
      (Signer.segment smallBody) (Signer.tag (List.replicate 32 3) (Signer.segment smallHead)
        (Signer.segment smallBody)) = true := by
    rw [Signer.isSealed, secret]
    exact decide_eq_true rfl
  have found : Signer.claimsOf? (Signer.segment smallBody) =
      some ⟨"subject", .user, "issuer", "audience", 60, 0, "1"⟩ := by
    rw [Signer.claimsOf?, decodedBody, Option.bind_eq_bind, Option.bind_some, decode_smallBody]
    exact if_pos ⟨accepts_smallBody, by decide⟩
  have tagged : ∀ text, Digest.Hmac.tag (List.replicate 32 3) text ≠ [] := by
    intro text empty
    have length := Digest.Hmac.length_tag (List.replicate 32 3) text
    rw [empty] at length
    cases length
  refine Signer.verify_eq_ok_iff.2 ⟨_, _, _, _, ?_, ?_, signed, found, rfl⟩
  · rw [smallToken, String.toList_ofList, Segments.splitOn_eq_three_iff]
    exact ⟨rfl, Base64.dot_not_mem_encode _, Base64.dot_not_mem_encode _,
      Base64.dot_not_mem_encode _⟩
  · exact ⟨Base64.encode_urlSafe_ne_nil (by decide), Base64.encode_urlSafe_ne_nil (by decide),
      Base64.encode_urlSafe_ne_nil (tagged _)⟩

/-- The small token is genuine at the epoch. -/
theorem smallToken_genuine : ∃ parts, Genuine TokenService.small.signer .epoch smallToken
    ⟨"subject", .user, by decide⟩ parts :=
  (TokenService.authenticated_genuine .small .deserted .epoch Session.Memory.empty).2
    verify_smallToken

end Bearer.Token
