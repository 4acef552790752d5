import Bearer.Password.Comparator
import Bearer.Service.Tokens

/-!
# Logging in

A name is looked up among the users and then among the musicians, and the password is checked
against the hash that was found. Where there is none, it is checked against a hash of nobody, so
that the same work is done for every name.
-/

namespace Bearer.TokenService

/-- Why a login failed without a session. -/
def refused : Operation (Except LoginError TokenPair) :=
  .finish (.error .invalidCredentials)

/-- A directory that could not be asked. -/
def unreachable (outage : Directory.Outage) : Operation (Except LoginError TokenPair) :=
  .finish (.error (.directoryUnavailable outage.message))

/-- Checks the password of a name that nobody has. -/
def rejectUnknown (name password : String) : Operation (Except LoginError TokenPair) :=
  .ask (.compare Password.dummyHash password) fun _ => .note (.nameUnknown name) refused

/-- Opens a session for a payload whose password was right. -/
def letIn (service : TokenService) (draw : Draw) (name : String) (payload : Payload) :
    Operation (Except LoginError TokenPair) :=
  (service.issue draw payload).bind fun
    | .ok pair => .note (.loggedIn name payload.role) (.finish (.ok pair))
    | .error error => .finish (.error (.token error))

/-- Checks the password of an account and opens a session. -/
def checkAccount (service : TokenService) (draw : Draw) (name password : String)
    (account : Account) : Operation (Except LoginError TokenPair) :=
  .ask (.compare account.passwordHash password) fun
    | false => .note (.passwordMismatch name) refused
    | true =>
      match Payload.new? account.subject account.role with
      | none => refused
      | some payload => service.letIn draw name payload

/-- Looks a name up in both directories, the users first. -/
def logIn (service : TokenService) (draw : Draw) (name password : String) :
    Operation (Except LoginError TokenPair) :=
  .ask (.find .users name) fun
    | .error outage => unreachable outage
    | .ok (some account) => service.checkAccount draw name password account
    | .ok none => .ask (.find .musicians name) fun
      | .error outage => unreachable outage
      | .ok (some account) => service.checkAccount draw name password account
      | .ok none => rejectUnknown name password

end Bearer.TokenService
