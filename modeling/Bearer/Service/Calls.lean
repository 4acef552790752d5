import Bearer.Service.World
import Bearer.Timed.Nested

/-!
# Calls of the service

Callers call the service inside a context. Only the requests of a call are limited: that a session
was opened is logged behind them. A login opens its session by a call of its own, inside the same
context, so that the session is limited twice.
-/

namespace Bearer

/-- What an interrupted call comes to: its error, lifted to the errors of the call. -/
def Interruption.settled {ε α : Type} (lift : TokenError → ε) :
    Except Interruption (Except ε α) → Except ε α
  | .ok result => result
  | .error cause => .error (lift cause.error)

variable {σ α : Type} [Session.Store σ]

namespace Operation

/-- An operation inside a context, from a moment on, whose interruption is one of its errors. -/
def callFrom {ε : Type} (conducts : Conducts) (context : Context) (now : Nat)
    (lift : TokenError → ε) (operation : Operation (Except ε α)) : Timed (World σ) (Except ε α) :=
  ((operation.timedBy conducts).limitedFrom context now).mapped (Interruption.settled lift)

end Operation

namespace TokenService

/-- Opens a session inside a context, from a moment on, and logs it. -/
def issueFrom (service : TokenService) (conducts : Conducts) (context : Context) (now : Nat)
    (draw : Draw) (payload : Payload) : Timed (World σ) (Except TokenError TokenPair) :=
  ((service.mint draw payload).callFrom conducts context now id).bind fun
    | .ok pair => .act (·.noted (.sessionIssued payload.subject)) fun _ => .finish (.ok pair)
    | .error error => .finish (.error error)

/-- Renews a session inside a context. -/
def refreshWithin (service : TokenService) (conducts : Conducts) (context : Context) (draw : Draw)
    (token : String) : Timed (World σ) (Except TokenError TokenPair) :=
  (service.refresh draw token).callFrom conducts context 0 id

/-- Closes a session inside a context. -/
def revokeWithin (service : TokenService) (conducts : Conducts) (context : Context)
    (token : String) : Timed (World σ) (Except TokenError Unit) :=
  (service.revoke token).callFrom conducts context 0 id

/-- The payload of an account, if the password is right. -/
def identified (name password : String) (account : Account) :
    Operation (Except LoginError Payload) :=
  .ask (.compare account.passwordHash password) fun
    | false => .note (.passwordMismatch name) (.finish (.error .invalidCredentials))
    | true =>
      match Payload.new? account.subject account.role with
      | none => .finish (.error .invalidCredentials)
      | some payload => .finish (.ok payload)

/-- The payload that a name and a password belong to. -/
def authenticated (name password : String) : Operation (Except LoginError Payload) :=
  .ask (.find .users name) fun
    | .error outage => .finish (.error (.directoryUnavailable outage.message))
    | .ok (some account) => identified name password account
    | .ok none => .ask (.find .musicians name) fun
      | .error outage => .finish (.error (.directoryUnavailable outage.message))
      | .ok (some account) => identified name password account
      | .ok none => .ask (.compare Password.dummyHash password) fun _ =>
        .note (.nameUnknown name) (.finish (.error .invalidCredentials))

/-- Opens a session for a payload whose password was right, by a call in the middle of a login. -/
def letInFrom (service : TokenService) (conducts : Conducts) (context : Context) (draw : Draw)
    (name : String) (now : Nat) :
    Except LoginError Payload → Timed (World σ) (Except LoginError TokenPair)
  | .ok payload => (service.issueFrom conducts context now draw payload).bind fun
    | .ok pair => .act (·.noted (.loggedIn name payload.role)) fun _ => .finish (.ok pair)
    | .error error => .finish (.error (.token error))
  | .error error => .finish (.error error)

/-- Looks a name up, checks the password and opens a session, all inside a context. -/
def logInWithin (service : TokenService) (conducts : Conducts) (context : Context) (draw : Draw)
    (name password : String) : Timed (World σ) (Except LoginError TokenPair) :=
  ((Timed.bindAt 0 ((authenticated name password).timedBy conducts)
    (service.letInFrom conducts context draw name)).limitedFrom context 0).mapped
      (Interruption.settled .token)

end TokenService

end Bearer
