import Bearer.Token.Error

/-!
# What is logged

Events say what happened without any secret: no password, no token and no key is in them.
-/

namespace Bearer

/-- How much an event matters. -/
inductive Severity where
  | debug
  | info
  | warning
  | error
deriving DecidableEq, Repr

/-- A call to the session store. -/
inductive StoreCall where
  | set
  | take
  | delete
deriving DecidableEq, Repr

/-- The name of a call. -/
def StoreCall.name : StoreCall → String
  | set => "set"
  | take => "take"
  | delete => "delete"

/-- Something that happened. -/
inductive Event where
  /-- The session store failed. -/
  | storeFailed (call : StoreCall) (failure : Session.Failure)
  /-- A session was opened. -/
  | sessionIssued (subject : String)
  /-- No session belongs to a refresh token. -/
  | refreshUnknown
  /-- A session was closed, if it was open. -/
  | sessionRevoked (existed : Bool)
  /-- The tag of an access token is wrong. -/
  | signatureRefused
  /-- An access token does not count. -/
  | tokenRejected (error : TokenError)
  /-- Nobody has the name. -/
  | nameUnknown (name : String)
  /-- The password is wrong. -/
  | passwordMismatch (name : String)
  /-- Somebody was logged in. -/
  | loggedIn (name : String) (role : Role)
deriving DecidableEq, Repr

namespace Event

/-- How much the event matters. -/
def severity : Event → Severity
  | storeFailed .. => .error
  | signatureRefused => .warning
  | loggedIn .. => .info
  | _ => .debug

/-- What happened, in words. -/
def message : Event → String
  | storeFailed .. => "session store call failed"
  | sessionIssued _ => "session issued"
  | refreshUnknown => "refresh token not found, consumed or expired"
  | sessionRevoked _ => "session revoked"
  | signatureRefused => "access token failed signature check"
  | tokenRejected _ => "access token rejected"
  | nameUnknown _ => "login failed: unknown name"
  | passwordMismatch _ => "login failed: password mismatch"
  | loggedIn .. => "logged in"

/-- The value of a field of an event. -/
inductive Field where
  | text (value : String)
  | truth (value : Bool)
deriving DecidableEq, Repr

/-- The fields of the event by name. -/
def fields : Event → List (String × Field)
  | storeFailed call failure => [("op", .text call.name), ("error", .text failure.message)]
  | sessionIssued subject => [("subject", .text subject)]
  | sessionRevoked existed => [("existed", .truth existed)]
  | tokenRejected error => [("error", .text error.message)]
  | nameUnknown name => [("name", .text name)]
  | passwordMismatch name => [("name", .text name)]
  | loggedIn name role => [("name", .text name), ("role", .text role.name)]
  | refreshUnknown => []
  | signatureRefused => []

end Event

end Bearer
