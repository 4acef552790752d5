import Bearer.Proofs.Service.Demand
import Bearer.Proofs.Timed.Within
import Bearer.Service.Calls

/-!
# Calls are operations inside a context

A call of the service limits only its requests, and a login is limited twice where it opens its
session. It comes to the same to limit the whole operation once: `callWithin_eq`.
-/

namespace Bearer

variable {σ α β : Type} [Session.Store σ] {service : TokenService} {conducts : Conducts}
  {context : Context} {now : Nat}

namespace Operation

theorem timedBy_mapped (operation : Operation α) (f : α → β) :
    ((operation.mapped f).timedBy conducts : Timed (World σ) β) =
      (operation.timedBy conducts).mapped f :=
  timedBy_bind conducts operation _

theorem mapped_callFrom {ε : Type} (lift : TokenError → ε) (f : Except ε α → β)
    (operation : Operation (Except ε α)) :
    (operation.callFrom conducts context now lift : Timed (World σ) _).mapped f =
      (((operation.mapped f).timedBy conducts).limitedFrom context now).mapped fun
        | .ok value => value
        | .error cause => f (.error (lift cause.error)) := by
  rw [callFrom, Timed.mapped_mapped, timedBy_mapped, Timed.limitedFrom_mapped, Timed.mapped_mapped]
  exact Timed.mapped_congr (fun verdict => by cases verdict <;> rfl) _

end Operation

namespace TokenService

open Operation (timedBy_bind)

/-- That a session was opened may as well be logged inside the context. -/
theorem issueFrom_eq (service : TokenService) (conducts : Conducts) (context : Context) (now : Nat)
    (draw : Draw) (payload : Payload) :
    (service.issueFrom conducts context now draw payload : Timed (World σ) _) =
      (service.issue draw payload).callFrom conducts context now id := by
  rw [issueFrom, issue, Operation.callFrom, Operation.callFrom, timedBy_bind, Timed.mapped_bind]
  unfold Timed.limitedFrom
  split
  · rfl
  · rw [Timed.within_bind_atOnce, Timed.mapped, Timed.bind_assoc]
    · exact congrArg (Timed.bind _) (funext fun verdict => by rcases verdict with _ | _ | _ <;> rfl)
    · rintro (error | pair) moment <;> rfl

theorem logIn_eq (service : TokenService) (draw : Draw) (name password : String) :
    service.logIn draw name password = (authenticated name password).bind fun
      | .ok payload => service.letIn draw name payload
      | .error error => .finish (.error error) := by
  have checked : ∀ account, service.checkAccount draw name password account =
      (identified name password account).bind fun
        | .ok payload => service.letIn draw name payload
        | .error error => .finish (.error error) := by
    intro account
    refine congrArg (Operation.ask _) (funext fun right => ?_)
    cases right with
    | false => rfl
    | true =>
        dsimp only
        cases Payload.new? account.subject account.role <;> rfl
  refine congrArg (Operation.ask _) (funext fun reply => ?_)
  rcases reply with outage | _ | account
  · rfl
  · refine congrArg (Operation.ask _) (funext fun reply => ?_)
    rcases reply with outage | _ | account
    · rfl
    · rfl
    · exact checked account
  · exact checked account

private theorem within_letInFrom (draw : Draw) (name : String)
    (free : context.interruption? now (some now) = none) (found : Except LoginError Payload) :
    ((service.letInFrom conducts context draw name now found : Timed (World σ) _).within
        context now).mapped (Interruption.settled .token) =
      ((Operation.timedBy conducts (match found with
        | .ok payload => service.letIn draw name payload
        | .error error => .finish (.error error))).within context now).mapped
          (Interruption.settled .token) := by
  cases found with
  | error error => rfl
  | ok payload =>
      have inTime : context.isCanceledBy now = false := Context.isCanceledBy_eq_false free
      dsimp only
      rw [letInFrom, issueFrom_eq, letIn, timedBy_bind, Operation.callFrom, Timed.mapped_bind,
        Timed.limitedFrom, if_neg (Bool.eq_false_iff.1 inTime)]
      -- The inner limit can go: its interruption is what the outer one would come to.
      refine (Timed.within_bind_within (fun _ => rfl) _ (fun _ => rfl) now).trans ?_
      congr 3
      funext result
      cases result <;> rfl

/-- A login may as well be limited once. -/
theorem logInWithin_eq (service : TokenService) (conducts : Conducts) (context : Context)
    (draw : Draw) (name password : String) :
    (service.logInWithin conducts context draw name password : Timed (World σ) _) =
      (service.logIn draw name password).callFrom conducts context 0 .token := by
  rw [logInWithin, logIn_eq, Operation.callFrom, timedBy_bind]
  unfold Timed.limitedFrom
  split
  · rfl
  · rename_i wanted
    have free := Context.interruption?_start (Bool.eq_false_iff.2 wanted)
    exact Timed.within_bindAt (fun moment found free => within_letInFrom draw name free found) free

end TokenService

/-- The call that runs an errand. -/
def Errand.callWithin (service : TokenService) (conducts : Conducts) (context : Context) :
    Errand → Timed (World σ) Answer
  | issue draw payload => (service.issueFrom conducts context 0 draw payload).mapped .ofPair
  | refresh draw token => (service.refreshWithin conducts context draw token).mapped .ofPair
  | revoke token => (service.revokeWithin conducts context token).mapped .ofUnit

namespace Demand

/-- The call that meets a demand. -/
def callWithin (service : TokenService) (conducts : Conducts) (context : Context) :
    Demand → Timed (World σ) Answer
  | errand wanted => wanted.callWithin service conducts context
  | logIn draw name password =>
    (service.logInWithin conducts context draw name password).mapped .ofLogIn

/-- The answer that tells an error. -/
def told (error : TokenError) : Demand → Answer
  | errand _ => .failed error
  | logIn .. => .rejected (.token error)

/-- What an interrupted call is answered. -/
def interrupted (demand : Demand) (cause : Interruption) : Answer :=
  demand.told cause.error

/-- What a call comes to. -/
def settled (demand : Demand) : Except Interruption Answer → Answer
  | .ok answer => answer
  | .error cause => demand.interrupted cause

/-- A call meets its demand inside the context. -/
theorem callWithin_eq (service : TokenService) (conducts : Conducts) (context : Context)
    (demand : Demand) : (demand.callWithin service conducts context : Timed (World σ) Answer) =
      (((demand.operation service).timedBy conducts).limitedFrom context 0).mapped
        demand.settled := by
  have meets : ∀ {ε α : Type} (lift : TokenError → ε) (f : Except ε α → Answer)
      (operation : Operation (Except ε α)),
      (∀ cause, demand.interrupted cause = f (.error (lift cause.error))) →
      (operation.callFrom conducts context 0 lift : Timed (World σ) _).mapped f =
        (((operation.mapped f).timedBy conducts).limitedFrom context 0).mapped demand.settled := by
    intro ε α lift f operation told
    rw [Operation.mapped_callFrom]
    refine Timed.mapped_congr (fun verdict => ?_) _
    cases verdict with
    | ok answer => rfl
    | error cause => exact (told cause).symm
  cases demand with
  | errand wanted =>
      cases wanted with
      | issue draw payload =>
          rw [callWithin, Errand.callWithin, TokenService.issueFrom_eq]
          exact meets id .ofPair _ fun _ => rfl
      | refresh draw token => exact meets id .ofPair _ fun _ => rfl
      | revoke token => exact meets id .ofUnit _ fun _ => rfl
  | logIn draw name password =>
      rw [callWithin, TokenService.logInWithin_eq]
      exact meets .token .ofLogIn _ fun _ => rfl

end Demand

end Bearer
