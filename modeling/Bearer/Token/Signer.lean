import Bearer.Digest.Hmac
import Bearer.Identity.Payload
import Bearer.Text.Base64
import Bearer.Time.Instant
import Bearer.Token.Claims
import Bearer.Token.Error
import Bearer.Token.Header
import Bearer.Token.Identifier
import Bearer.Token.KeyRing
import Bearer.Token.Registered

/-!
# Making and checking access tokens

A token is three base64 texts joined by dots: a header, claims and a tag. The tag is made with a
secret of the ring from the two texts before it, so that nothing in them can be changed. Whatever is
wrong up to the tag is a wrong signature; only behind a good tag do the claims and the clock matter.
-/

namespace Bearer.Token

/-- Who makes tokens, for whom and with which secrets. -/
structure Signer where
  /-- The secrets. -/
  ring : KeyRing
  /-- Who makes the tokens. -/
  issuer : String
  /-- Whom the tokens are meant for. -/
  audience : String

namespace Signer

/-- The base64 text of some bytes. -/
def segment (bytes : List UInt8) : List Char :=
  Base64.encode Base64.urlSafe bytes

/-- The base64 text of a JSON text. -/
def textSegment (characters : List Char) : List Char :=
  segment (Text.bytes (String.ofList characters))

/-- The tag of two segments under a secret. -/
def tag (secret : List UInt8) (header claims : List Char) : List Char :=
  segment (Digest.Hmac.tag secret (Text.bytes (String.ofList (header ++ '.' :: claims))))

/-- The claims of a token for a payload. -/
def claims (signer : Signer) (payload : Payload) (now expiry : Instant) (identifier : String) :
    Claims where
  subject := payload.subject
  role := payload.role
  issuer := signer.issuer
  audience := signer.audience
  expiry := expiry.seconds
  issuedAt := now.seconds
  identifier := identifier

/-- The token with some claims. -/
def sealed (signer : Signer) (claims : Claims) : String :=
  let header := textSegment (Header.encode signer.ring.active)
  let body := textSegment claims.encode
  String.ofList (['.'].intercalate [header, body, tag signer.ring.signing header body])

/-- A token for a payload that counts up to the second of an instant. The name of the token is made
of sixteen random bytes. -/
def issue (signer : Signer) (payload : Payload) (now expiry : Instant) (random : List UInt8) :
    String :=
  signer.sealed (signer.claims payload now expiry (Identifier.ofBytes random))

/-- The secret that a header asks to be checked with. -/
def secretFor? (signer : Signer) (header : List Char) : Option (List UInt8) := do
  let bytes ← Base64.decode? Base64.urlSafe header
  match Header.decode bytes with
  | .ok found => if found.algorithm = .hs256 then signer.ring.checking? found.keyName else none
  | .error _ => none

/-- Whether three segments were made with a secret of the ring. -/
def isSealed (signer : Signer) (header body signature : List Char) : Bool :=
  match signer.secretFor? header with
  | some secret => tag secret header body = signature
  | none => false

/-- The claims in a segment. -/
def claimsOf? (body : List Char) : Option Claims := do
  let bytes ← Base64.decode? Base64.urlSafe body
  match Claims.decode bytes with
  | .ok claims => if Registered.accepts bytes ∧ 0 ≤ claims.expiry then some claims else none
  | .error _ => none

/-- The payload of claims that count at an instant. -/
def admitted (signer : Signer) (now : Instant) (claims : Claims) : Except TokenError Payload :=
  if claims.issuer ≠ signer.issuer ∨ claims.audience ≠ signer.audience then
    .error .invalidSignature
  else
    match Instant.ofSeconds? claims.expiry with
    | none => .error .malformed
    | some expiry =>
      if expiry < now then .error .expired
      else
        match Payload.new? claims.subject claims.role with
        | some payload => .ok payload
        | none => .error .malformed

/-- The payload of a token at an instant, or why it does not count. -/
def verify (signer : Signer) (now : Instant) (token : String) : Except TokenError Payload :=
  match token.toList.splitOn '.' with
  | [header, body, signature] =>
    if header = [] ∨ body = [] ∨ signature = [] then .error .malformed
    else if signer.isSealed header body signature then
      match claimsOf? body with
      | some claims => signer.admitted now claims
      | none => .error .malformed
    else .error .invalidSignature
  | _ => .error .malformed

end Signer

end Bearer.Token
