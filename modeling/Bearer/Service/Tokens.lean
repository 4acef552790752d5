import Bearer.Config.Basic
import Bearer.Service.Operation
import Bearer.Session.Key
import Bearer.Token.Signer

/-!
# Sessions and their tokens

To open a session is to make two tokens: an access token, which is checked without the store, and a
refresh token, whose digest is the key of the session. A refresh token is good for one new pair: the
session is taken out of the store before the next one is put in.
-/

namespace Bearer

/-- The two tokens of a session and when they end. -/
structure TokenPair where
  /-- The token that proves who the caller is. -/
  access : String
  /-- The token that opens the next session. -/
  refresh : String
  /-- The last second of the access token. -/
  accessExpiry : Instant
  /-- The second at which the refresh token ends, rounded down. -/
  refreshExpiry : Instant
deriving DecidableEq

/-- The random bytes of one session. -/
structure Draw where
  /-- Sixteen bytes that name the access token. -/
  identifier : List UInt8
  /-- Thirty-two bytes that are the refresh token. -/
  refresh : List UInt8

/-- Who a caller turns out to be. -/
inductive Caller where
  | unauthenticated
  | authenticated (payload : Payload)
deriving DecidableEq

/-- What opens, renews and closes sessions. -/
structure TokenService where
  /-- What makes and checks access tokens. -/
  signer : Token.Signer
  /-- The key under which refresh tokens are digested. -/
  hashKey : List UInt8
  /-- How long an access token counts. -/
  accessLifetime : Span
  /-- How long a session is kept. -/
  refreshLifetime : Span

/-- Why no service can be set up. -/
inductive SetupError where
  /-- The configuration is at fault. -/
  | config (error : ConfigError)
  /-- A lifetime is longer than any span. -/
  | lifetime
deriving DecidableEq, Repr

namespace TokenService

/-- The service that a configuration describes. -/
def ofConfig (config : Config) : Except SetupError TokenService := do
  let ring ← (Token.KeyRing.new config.keys config.activeKey).mapError .config
  match Span.ofSeconds? config.accessSeconds, Span.ofSeconds? config.refreshSeconds with
  | some accessLifetime, some refreshLifetime =>
    return {
      signer := ⟨ring, config.issuer, config.audience⟩
      hashKey := config.hashKey
      accessLifetime
      refreshLifetime }
  | _, _ => throw .lifetime

/-- The key of the session that belongs to a refresh token. -/
def key (service : TokenService) (refresh : String) : String :=
  Session.key service.hashKey refresh

/-- The refresh token made of random bytes. -/
def refreshToken (bytes : List UInt8) : String :=
  String.ofList (Base64.encode Base64.urlSafe bytes)

/-- The tokens of a session that is opened at an instant; none beyond the calendar. -/
def pair? (service : TokenService) (draw : Draw) (payload : Payload) (now : Instant) :
    Option TokenPair := do
  let accessExpiry ← now.wholeSecond.plus? service.accessLifetime
  let refreshExpiry ← now.wholeSecond.plus? service.refreshLifetime
  return {
    access := service.signer.issue payload now accessExpiry draw.identifier
    refresh := refreshToken draw.refresh
    accessExpiry
    refreshExpiry }

/-- A failure of the store, logged and as an error. -/
def failed {α : Type} (call : StoreCall) (failure : Session.Failure) :
    Operation (Except TokenError α) :=
  .note (.storeFailed call failure) (.finish (.error (.ofFailure failure)))

/-- Makes the tokens of a session and puts the session into the store. The clock is read once, for
the ends of the tokens and for the second at which the access token was issued: nothing is waited
for between the two, and no check of a token looks at the latter. -/
def mint (service : TokenService) (draw : Draw) (payload : Payload) :
    Operation (Except TokenError TokenPair) :=
  .clock fun now =>
    match service.pair? draw payload now with
    | none => .overflow
    | some pair =>
      .ask (.set (service.key pair.refresh) payload service.refreshLifetime) fun
        | .ok () => .finish (.ok pair)
        | .error failure => failed .set failure

/-- Opens a session for a caller whose identity is known. -/
def issue (service : TokenService) (draw : Draw) (payload : Payload) :
    Operation (Except TokenError TokenPair) :=
  (service.mint draw payload).bind fun
    | .ok pair => .note (.sessionIssued payload.subject) (.finish (.ok pair))
    | .error error => .finish (.error error)

/-- Takes the session of a refresh token and opens the next one for the same payload. -/
def refresh (service : TokenService) (draw : Draw) (token : String) :
    Operation (Except TokenError TokenPair) :=
  .ask (.take (service.key token)) fun
    | .ok (some payload) => service.mint draw payload
    | .ok none => .note .refreshUnknown (.finish (.error .sessionNotFound))
    | .error failure => failed .take failure

/-- Closes the session of a refresh token, if it is open. -/
def revoke (service : TokenService) (token : String) : Operation (Except TokenError Unit) :=
  .ask (.delete (service.key token)) fun
    | .ok existed => .note (.sessionRevoked existed) (.finish (.ok ()))
    | .error failure => failed .delete failure

/-- Checks an access token. -/
def verifyAccess (service : TokenService) (token : String) :
    Operation (Except TokenError Payload) :=
  .clock fun now =>
    match service.signer.verify now token with
    | .error .invalidSignature => .note .signatureRefused (.finish (.error .invalidSignature))
    | result => .finish result

/-- Finds out who calls with an access token, or without one. -/
def identify (service : TokenService) : Option String → Operation Caller
  | none => .finish .unauthenticated
  | some token => (service.verifyAccess token).bind fun
    | .ok payload => .finish (.authenticated payload)
    | .error error => .note (.tokenRejected error) (.finish .unauthenticated)

end TokenService

end Bearer
