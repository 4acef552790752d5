import Bearer.Proofs.Operation.Exchange
import Bearer.Service.LogIn

/-!
# What callers demand of the service

An errand is a call that acts on sessions, and a demand is an errand or a login. What a demand asks
of the store has a simple shape, whatever the replies are: `leads_refresh` says that a refresh takes
one key and, only if it got a payload, writes that payload once under the key of its own draw;
`leads_issue`, `leads_revoke` and `leads_logIn` do the same for the other demands. The lemmas on
`finish` say which exchanges stand behind each answer, and `mint_eq` says that to make tokens is to
write the session.
-/

namespace Bearer

open Operation (Leads leads_finish leads_clock leads_note leads_lastNote leads_ask leads_bind_silent
  leads_bind_finish)

/-- A call that acts on sessions, with the random bytes that it would draw. -/
inductive Errand where
  /-- Open a session for a payload. -/
  | issue (draw : Draw) (payload : Payload)
  /-- Exchange a refresh token for a new pair. -/
  | refresh (draw : Draw) (token : String)
  /-- Close the session of a refresh token, as a logout does. -/
  | revoke (token : String)

/-- What a caller demands: an errand, or to be logged in by name and password. -/
inductive Demand where
  /-- An errand of its own. -/
  | errand (errand : Errand)
  /-- A login, which ends in an errand for whoever the account belongs to. -/
  | logIn (draw : Draw) (name password : String)

/-- What a caller is answered. -/
inductive Answer where
  /-- A pair of tokens. -/
  | pair (pair : TokenPair)
  /-- The session is closed. -/
  | closed
  /-- A token operation failed. -/
  | failed (error : TokenError)
  /-- A login failed. -/
  | rejected (error : LoginError)
deriving DecidableEq

namespace Answer

/-- The answer with the outcome of an operation that makes a pair. -/
def ofPair : Except TokenError TokenPair → Answer
  | .ok made => pair made
  | .error error => failed error

/-- The answer with the outcome of an operation that closes a session. -/
def ofUnit : Except TokenError Unit → Answer
  | .ok () => closed
  | .error error => failed error

/-- The answer with the outcome of a login. -/
def ofLogIn : Except LoginError TokenPair → Answer
  | .ok made => pair made
  | .error error => rejected error

end Answer

/-- The operation that runs an errand. -/
def Errand.operation (service : TokenService) : Errand → Operation Answer
  | issue draw payload => (service.issue draw payload).mapped .ofPair
  | refresh draw token => (service.refresh draw token).mapped .ofPair
  | revoke token => (service.revoke token).mapped .ofUnit

/-- The operation that meets a demand. -/
def Demand.operation (service : TokenService) : Demand → Operation Answer
  | .errand wanted => wanted.operation service
  | .logIn draw name password => (service.logIn draw name password).mapped .ofLogIn

namespace TokenService

variable {service : TokenService} {draw : Draw} {payload : Payload} {token name password : String}
  {exchanges : List Exchange} {rest : Operation (Except TokenError TokenPair)}

theorem made_of_pair? {now : Instant} {pair : TokenPair}
    (made : service.pair? draw payload now = some pair) :
    now.wholeSecond.plus? service.accessLifetime = some pair.accessExpiry ∧
      now.wholeSecond.plus? service.refreshLifetime = some pair.refreshExpiry ∧
      pair.access = service.signer.issue payload now pair.accessExpiry draw.identifier ∧
      pair.refresh = refreshToken draw.refresh := by
  unfold pair? at made
  cases access : now.wholeSecond.plus? service.accessLifetime with
  | none => simp [access] at made
  | some accessExpiry =>
      cases refresh : now.wholeSecond.plus? service.refreshLifetime with
      | none => simp [access, refresh] at made
      | some refreshExpiry =>
          simp only [access, refresh, Option.bind_eq_bind, Option.bind_some, Option.pure_def,
            Option.some.injEq] at made
          subst made
          exact ⟨rfl, rfl, rfl, rfl⟩

theorem pair?_eq_some {now : Instant} {pair : TokenPair}
    (made : service.pair? draw payload now = some pair) :
    pair.refresh = refreshToken draw.refresh ∧
      ∃ expiry, pair.access = service.signer.issue payload now expiry draw.identifier := by
  obtain ⟨-, -, access, refresh⟩ := made_of_pair? made
  exact ⟨refresh, _, access⟩

/-- The request that writes a session under the key of the drawn token. -/
def writing (service : TokenService) (draw : Draw) (payload : Payload) : Request :=
  .set (service.key (refreshToken draw.refresh)) payload service.refreshLifetime

/-- What is left of making tokens when the write of the session got its reply. -/
def afterWrite (pair : TokenPair) :
    Except Session.Failure Unit → Operation (Except TokenError TokenPair)
  | .ok () => .finish (.ok pair)
  | .error failure => failed .set failure

/-- To make tokens is to write the session, unless the tokens would end beyond the calendar. -/
theorem mint_eq (service : TokenService) (draw : Draw) (payload : Payload) :
    service.mint draw payload = .clock fun now =>
      match service.pair? draw payload now with
      | none => .overflow
      | some pair => .ask (service.writing draw payload) (afterWrite pair) := by
  refine congrArg Operation.clock (funext fun now => ?_)
  cases tokens : service.pair? draw payload now with
  | none => rfl
  | some pair =>
      obtain ⟨access, refresh, accessExpiry, refreshExpiry⟩ := pair
      obtain rfl : refresh = refreshToken draw.refresh := (pair?_eq_some tokens).1
      exact congrArg (Operation.ask _) (funext fun reply => by cases reply <;> rfl)

/-- The exchanges of making tokens: at most the write. -/
inductive Minting (service : TokenService) (draw : Draw) (payload : Payload) :
    List Exchange → Prop where
  /-- Nothing was written yet. -/
  | begun : Minting service draw payload []
  /-- The write got a reply. -/
  | written (reply : (service.writing draw payload).Reply) :
      Minting service draw payload [⟨service.writing draw payload, reply⟩]

theorem Minting.eq_writing {exchange : Exchange}
    (minting : Minting service draw payload exchanges) (member : exchange ∈ exchanges) :
    ∃ reply, exchange = ⟨service.writing draw payload, reply⟩ := by
  cases minting with
  | begun => cases member
  | written reply => exact ⟨reply, List.mem_singleton.1 member⟩

/-- The exchanges of having made tokens, with the outcome. -/
inductive Minted (service : TokenService) (draw : Draw) (payload : Payload) :
    List Exchange → Except TokenError TokenPair → Prop where
  /-- The session is written and its tokens are out. -/
  | made {now : Instant} {pair : TokenPair}
      (tokens : service.pair? draw payload now = some pair) :
      Minted service draw payload [⟨service.writing draw payload, .ok ()⟩] (.ok pair)
  /-- The session could not be written. -/
  | failed (failure : Session.Failure) :
      Minted service draw payload [⟨service.writing draw payload, .error failure⟩]
        (.error (.ofFailure failure))

private theorem leads_failed {α : Type} {call : StoreCall} {failure : Session.Failure}
    {rest : Operation (Except TokenError α)} (leads : Leads (failed call failure) exchanges rest) :
    exchanges = [] ∧ ∀ result, rest = .finish result → result = .error (.ofFailure failure) := by
  rcases leads_note leads with ⟨rfl, rfl⟩ | later
  · exact ⟨rfl, fun _ ended => by cases ended⟩
  · obtain ⟨rfl, rfl⟩ := leads_finish later
    exact ⟨rfl, fun _ ended => by cases ended; rfl⟩

private theorem leads_mint_cases (leads : Leads (service.mint draw payload) exchanges rest) :
    (exchanges = [] ∧ ∀ result, rest ≠ .finish result) ∨
      (∃ reply, exchanges = [⟨service.writing draw payload, reply⟩]) ∧
        ∀ result, rest = .finish result → Minted service draw payload exchanges result := by
  rw [mint_eq] at leads
  rcases leads_clock leads with ⟨rfl, rfl⟩ | ⟨now, afterClock⟩
  · exact .inl ⟨rfl, fun _ ended => by cases ended⟩
  · cases made : service.pair? draw payload now with
    | none =>
        rw [made] at afterClock
        obtain ⟨rfl, rfl⟩ := Operation.leads_overflow afterClock
        exact .inl ⟨rfl, fun _ ended => by cases ended⟩
    | some pair =>
        rw [made] at afterClock
        rcases leads_ask afterClock with ⟨rfl, rfl⟩ | ⟨reply, later, rfl, afterReply⟩
        · exact .inl ⟨rfl, fun _ ended => by cases ended⟩
        · right
          cases reply with
          | ok written =>
              obtain ⟨rfl, rfl⟩ := leads_finish afterReply
              exact ⟨⟨.ok (), rfl⟩, fun _ ended => by cases ended; exact .made made⟩
          | error failure =>
              obtain ⟨rfl, outcome⟩ := leads_failed afterReply
              exact ⟨⟨.error failure, rfl⟩, fun result ended => by
                rw [outcome result ended]; exact .failed failure⟩

theorem leads_mint (leads : Leads (service.mint draw payload) exchanges rest) :
    Minting service draw payload exchanges := by
  rcases leads_mint_cases leads with ⟨rfl, -⟩ | ⟨⟨reply, rfl⟩, -⟩
  · exact .begun
  · exact .written reply

theorem leads_mint_finish {result : Except TokenError TokenPair}
    (leads : Leads (service.mint draw payload) exchanges (.finish result)) :
    Minted service draw payload exchanges result := by
  rcases leads_mint_cases leads with ⟨-, unfinished⟩ | ⟨-, minted⟩
  · exact absurd rfl (unfinished result)
  · exact minted result rfl

theorem leads_issue (leads : Leads (service.issue draw payload) exchanges rest) :
    Minting service draw payload exchanges := by
  obtain ⟨middle, begun⟩ := leads_bind_silent (fun value later ended => by
    cases value with
    | ok pair => exact leads_lastNote ended
    | error error => exact (leads_finish ended).1) leads
  exact leads_mint begun

theorem leads_issue_finish {result : Except TokenError TokenPair}
    (leads : Leads (service.issue draw payload) exchanges (.finish result)) :
    Minted service draw payload exchanges result := by
  obtain ⟨earlier, later, value, rfl, begun, ended⟩ := leads_bind_finish leads
  have unchanged : later = [] ∧ result = value := by
    cases value with
    | ok pair =>
        rcases leads_note ended with ⟨-, unfinished⟩ | ended
        · cases unfinished
        · obtain ⟨silent, same⟩ := leads_finish ended
          exact ⟨silent, by cases same; rfl⟩
    | error error =>
        obtain ⟨silent, same⟩ := leads_finish ended
        exact ⟨silent, by cases same; rfl⟩
  obtain ⟨rfl, rfl⟩ := unchanged
  rw [List.append_nil]
  exact leads_mint_finish begun

/-- The exchanges of a refresh: at most one take, and after a payload at most the write. -/
inductive Refreshing (service : TokenService) (draw : Draw) (token : String) :
    List Exchange → Prop where
  /-- Nothing was asked yet. -/
  | begun : Refreshing service draw token []
  /-- The store gave no payload. -/
  | refused (reply : (Request.take (service.key token)).Reply) :
      Refreshing service draw token [⟨.take (service.key token), reply⟩]
  /-- The store gave a payload, for which tokens are made. -/
  | taken {payload : Payload} {exchanges : List Exchange}
      (minting : Minting service draw payload exchanges) :
      Refreshing service draw token (⟨.take (service.key token), .ok (some payload)⟩ :: exchanges)

/-- The exchanges of a finished refresh, with the outcome. -/
inductive Refreshed (service : TokenService) (draw : Draw) (token : String) :
    List Exchange → Except TokenError TokenPair → Prop where
  /-- The session was taken and the next one opened, or not. -/
  | taken {payload : Payload} {exchanges : List Exchange} {result : Except TokenError TokenPair}
      (minted : Minted service draw payload exchanges result) :
      Refreshed service draw token
        (⟨.take (service.key token), .ok (some payload)⟩ :: exchanges) result
  /-- There was no session. -/
  | unknown :
      Refreshed service draw token [⟨.take (service.key token), .ok none⟩] (.error .sessionNotFound)
  /-- The store failed. -/
  | failed (failure : Session.Failure) :
      Refreshed service draw token [⟨.take (service.key token), .error failure⟩]
        (.error (.ofFailure failure))

/-- A refresh takes once, and writes at most once what it took. -/
theorem leads_refresh (leads : Leads (service.refresh draw token) exchanges rest) :
    Refreshing service draw token exchanges := by
  rcases leads_ask leads with ⟨rfl, -⟩ | ⟨reply, later, rfl, afterTake⟩
  · exact .begun
  · rcases reply with failure | _ | payload
    · obtain ⟨rfl, -⟩ := leads_failed afterTake
      exact .refused (.error failure)
    · obtain rfl := leads_lastNote afterTake
      exact .refused (.ok none)
    · exact .taken (leads_mint afterTake)

theorem leads_refresh_finish {result : Except TokenError TokenPair}
    (leads : Leads (service.refresh draw token) exchanges (.finish result)) :
    Refreshed service draw token exchanges result := by
  rcases leads_ask leads with ⟨-, unfinished⟩ | ⟨reply, later, rfl, afterTake⟩
  · cases unfinished
  · rcases reply with failure | _ | payload
    · obtain ⟨rfl, outcome⟩ := leads_failed afterTake
      rw [outcome result rfl]
      exact .failed failure
    · rcases leads_note afterTake with ⟨-, unfinished⟩ | ended
      · cases unfinished
      · obtain ⟨rfl, same⟩ := leads_finish ended
        cases same
        exact .unknown
    · exact .taken (leads_mint_finish afterTake)

theorem leads_revoke {rest : Operation (Except TokenError Unit)}
    (leads : Leads (service.revoke token) exchanges rest) :
    exchanges = [] ∨ ∃ reply, exchanges = [⟨.delete (service.key token), reply⟩] := by
  rcases leads_ask leads with ⟨rfl, -⟩ | ⟨reply, later, rfl, afterDelete⟩
  · exact .inl rfl
  · right
    cases reply with
    | ok existed =>
        obtain rfl := leads_lastNote afterDelete
        exact ⟨.ok existed, rfl⟩
    | error failure =>
        obtain ⟨rfl, -⟩ := leads_failed afterDelete
        exact ⟨.error failure, rfl⟩

/-! ## Logging in -/

/-- Whether a request leaves the session store alone. -/
def asksElsewhere : Request → Bool
  | .find .. => true
  | .compare .. => true
  | _ => false

/-- The exchanges of a login: questions to others, then at most the write of a new session. -/
inductive LoggingIn (service : TokenService) (draw : Draw) : List Exchange → Prop where
  /-- A question to others comes before the rest. -/
  | elsewhere {exchange : Exchange} {exchanges : List Exchange}
      (other : asksElsewhere exchange.request = true)
      (later : LoggingIn service draw exchanges) : LoggingIn service draw (exchange :: exchanges)
  /-- A session is being opened. -/
  | opening {payload : Payload} {exchanges : List Exchange}
      (minting : Minting service draw payload exchanges) : LoggingIn service draw exchanges
  /-- Nothing more was asked. -/
  | silent : LoggingIn service draw []

/-- The exchanges of a finished login, with the outcome. -/
inductive LoggedIn (service : TokenService) (draw : Draw) :
    List Exchange → Except LoginError TokenPair → Prop where
  /-- A question to others comes before the rest. -/
  | elsewhere {exchange : Exchange} {exchanges : List Exchange}
      {result : Except LoginError TokenPair} (other : asksElsewhere exchange.request = true)
      (later : LoggedIn service draw exchanges result) :
      LoggedIn service draw (exchange :: exchanges) result
  /-- A session was opened. -/
  | opened {payload : Payload} {exchanges : List Exchange} {pair : TokenPair}
      (minted : Minted service draw payload exchanges (.ok pair)) :
      LoggedIn service draw exchanges (.ok pair)
  /-- A session could not be opened. -/
  | failed {payload : Payload} {exchanges : List Exchange} {error : TokenError}
      (minted : Minted service draw payload exchanges (.error error)) :
      LoggedIn service draw exchanges (.error (.token error))
  /-- Nobody was let in. -/
  | refused (error : LoginError) : LoggedIn service draw [] (.error error)

/-- What a login asked before what is left of it. -/
structure LogsIn (service : TokenService) (draw : Draw) (exchanges : List Exchange)
    (last : Operation (Except LoginError TokenPair)) : Prop where
  begun : LoggingIn service draw exchanges
  ended : ∀ result, last = .finish result → LoggedIn service draw exchanges result

variable {last : Operation (Except LoginError TokenPair)}

private theorem leads_refused {error : LoginError}
    (leads : Leads (.finish (.error error)) exchanges last) :
    LogsIn service draw exchanges last := by
  obtain ⟨rfl, rfl⟩ := leads_finish leads
  exact ⟨.silent, fun _ ended => by cases ended; exact .refused error⟩

theorem leads_letIn_minting
    (leads : Leads (service.letIn draw name payload) exchanges last) :
    Minting service draw payload exchanges := by
  obtain ⟨middle, begun⟩ := leads_bind_silent (fun value later ended => by
    cases value with
    | ok pair => exact leads_lastNote ended
    | error error => exact (leads_finish ended).1) leads
  exact leads_issue begun

private theorem leads_letIn (leads : Leads (service.letIn draw name payload) exchanges last) :
    LogsIn service draw exchanges last := by
  constructor
  · exact .opening (leads_letIn_minting leads)
  · rintro result rfl
    obtain ⟨earlier, later, value, rfl, begun, ended⟩ := leads_bind_finish leads
    have minted := leads_issue_finish begun
    cases value with
    | ok pair =>
        rcases leads_note ended with ⟨-, unfinished⟩ | ended
        · cases unfinished
        · obtain ⟨rfl, same⟩ := leads_finish ended
          cases same
          rw [List.append_nil]
          exact .opened minted
    | error error =>
        obtain ⟨rfl, same⟩ := leads_finish ended
        cases same
        rw [List.append_nil]
        exact .failed minted

private theorem leads_elsewhere {request : Request}
    {next : request.Reply → Operation (Except LoginError TokenPair)}
    (other : asksElsewhere request = true)
    (following : ∀ reply exchanges, Leads (next reply) exchanges last →
      LogsIn service draw exchanges last)
    (leads : Leads (.ask request next) exchanges last) :
    LogsIn service draw exchanges last := by
  rcases leads_ask leads with ⟨rfl, rfl⟩ | ⟨reply, later, rfl, remaining⟩
  · exact ⟨.silent, fun _ ended => by cases ended⟩
  · obtain ⟨asked, ends⟩ := following reply later remaining
    exact ⟨.elsewhere other asked, fun result ended => .elsewhere other (ends result ended)⟩

private theorem leads_noted {event : Event} {error : LoginError}
    (leads : Leads (.note event (.finish (.error error))) exchanges last) :
    LogsIn service draw exchanges last := by
  rcases leads_note leads with ⟨rfl, rfl⟩ | ended
  · exact ⟨.silent, fun _ ended => by cases ended⟩
  · exact leads_refused ended

private theorem leads_checkAccount {account : Account}
    (leads : Leads (service.checkAccount draw name password account) exchanges last) :
    LogsIn service draw exchanges last := by
  refine leads_elsewhere rfl (fun reply exchanges remaining => ?_) leads
  cases reply with
  | false => exact leads_noted remaining
  | true =>
      cases identified : Payload.new? account.subject account.role with
      | none =>
          rw [identified] at remaining
          exact leads_refused remaining
      | some payload =>
          rw [identified] at remaining
          exact leads_letIn remaining

private theorem leads_logIn_cases
    (leads : Leads (service.logIn draw name password) exchanges last) :
    LogsIn service draw exchanges last := by
  refine leads_elsewhere rfl (fun reply exchanges remaining => ?_) leads
  rcases reply with outage | _ | account
  · exact leads_refused remaining
  · refine leads_elsewhere rfl (fun reply exchanges remaining => ?_) remaining
    rcases reply with outage | _ | account
    · exact leads_refused remaining
    · exact leads_elsewhere rfl (fun reply exchanges remaining => leads_noted remaining) remaining
    · exact leads_checkAccount remaining
  · exact leads_checkAccount remaining

/-- A login asks others, and then writes at most once. -/
theorem leads_logIn (leads : Leads (service.logIn draw name password) exchanges last) :
    LoggingIn service draw exchanges :=
  (leads_logIn_cases leads).begun

theorem leads_logIn_finish {result : Except LoginError TokenPair}
    (leads : Leads (service.logIn draw name password) exchanges (.finish result)) :
    LoggedIn service draw exchanges result :=
  (leads_logIn_cases leads).ended result rfl

end TokenService

theorem TokenService.mapped_mint {service : TokenService} {draw : Draw} {payload : Payload}
    {now : Instant} {pair : TokenPair} (made : service.pair? draw payload now = some pair) :
    ∃ next, (service.mint draw payload).mapped Answer.ofPair = .clock next ∧
      ∃ following, next now =
          .ask (.set (service.key pair.refresh) payload service.refreshLifetime) following ∧
        following (.ok ()) = .finish (.pair pair) := by
  refine ⟨_, rfl, ?_⟩
  dsimp only
  rw [made]
  exact ⟨_, rfl, rfl⟩

namespace Demand

theorem operation_refresh (service : TokenService) (draw : Draw) (token : String) :
    ∃ next, (errand (.refresh draw token)).operation service =
        .ask (.take (service.key token)) next ∧
      next (.ok none) = .note .refreshUnknown (.finish (.failed .sessionNotFound)) ∧
      ∀ payload, next (.ok (some payload)) = (service.mint draw payload).mapped .ofPair :=
  ⟨_, rfl, rfl, fun _ => rfl⟩

end Demand

end Bearer
