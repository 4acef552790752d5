import Bearer.Identity.Directory
import Bearer.Session.Store

/-!
# Why no token is accepted or made

Callers learn the cause and whether to try again. Internal causes are kept from the wording.
-/

namespace Bearer

/-- Why a token operation failed. -/
inductive TokenError where
  /-- The token has not the form of a token. -/
  | malformed
  /-- The token was not made with a known key for this issuer and audience. -/
  | invalidSignature
  /-- The token counted and counts no longer. -/
  | expired
  /-- No session belongs to the refresh token. -/
  | sessionNotFound
  /-- The session store could not be reached. -/
  | storeUnavailable (reason : String)
  /-- The caller withdrew the operation. -/
  | canceled
  /-- The deadline passed. -/
  | timedOut
  /-- Something that no caller can mend. -/
  | internal (reason : String)
deriving DecidableEq, Repr

namespace TokenError

/-- The wording of an error. -/
def message : TokenError → String
  | malformed => "token could not be decoded"
  | invalidSignature => "token signature is invalid"
  | expired => "token has expired"
  | sessionNotFound => "session not found, please log in again"
  | storeUnavailable reason => "session store unavailable: " ++ reason
  | canceled => "operation canceled"
  | timedOut => "operation timed out"
  | internal _ => "Something went wrong, please try again later."

/-- Whether the same operation may succeed later. -/
def isRetryable : TokenError → Bool
  | storeUnavailable _ => true
  | _ => false

/-- The string inside an error. -/
def detail? : TokenError → Option String
  | storeUnavailable reason => some reason
  | internal reason => some reason
  | _ => none

/-- What a failure of the session store means for a token operation. -/
def ofFailure : Session.Failure → TokenError
  | .unavailable reason => storeUnavailable reason
  | .corrupted reason => internal reason
  | .keyExists => internal "session key collision"

end TokenError

/-- Why nobody was logged in. -/
inductive LoginError where
  /-- The name, the password or the account is not right. -/
  | invalidCredentials
  /-- A directory could not be asked. -/
  | directoryUnavailable (reason : String)
  /-- The session could not be opened. -/
  | token (error : TokenError)
deriving DecidableEq, Repr

namespace LoginError

/-- The wording of an error. -/
def message : LoginError → String
  | invalidCredentials => "invalid name or password"
  | directoryUnavailable _ => "Something went wrong, please try again later."
  | token error => error.message

/-- Whether the same attempt may succeed later. -/
def isRetryable : LoginError → Bool
  | invalidCredentials => false
  | directoryUnavailable _ => true
  | token error => error.isRetryable

/-- The string inside an error. -/
def detail? : LoginError → Option String
  | invalidCredentials => none
  | directoryUnavailable reason => some reason
  | token error => error.detail?

end LoginError

end Bearer
