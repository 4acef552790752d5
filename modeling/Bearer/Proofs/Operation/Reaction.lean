import Bearer.Proofs.Operation.Carried
import Bearer.Proofs.Operation.Exchange
import Bearer.Proofs.Session.Rows

/-!
# How a store reacts to a request

A request is served and its reply arrives, or it is refused before it is served, or its reply is
lost after it was served. Whatever the reaction, a row that is there afterwards was written by it or
was there before (`Reacts.row_after`), and a row that was given away is gone (`Reacts.row_taken`).
-/

namespace Bearer

/-- Whether a reply says that the request was not done. -/
def Refusal : (request : Request) → request.Reply → Prop
  | .set .., reply => ∃ failure, reply = .error failure
  | .take _, reply => ∃ failure, reply = .error failure
  | .delete _, reply => ∃ failure, reply = .error failure
  | .find .., reply => ∃ outage, reply = .error outage
  | .compare .., _ => False

theorem Conduct.refusal_of_refusal? (conduct : Conduct) {request : Request}
    {reply : request.Reply} (refused : conduct.refusal? request = some reply) :
    Refusal request reply := by
  cases request with
  | set key payload lifetime =>
      obtain ⟨failure, -, same⟩ := Option.map_eq_some_iff.1 refused
      exact ⟨failure, same.symm⟩
  | take key =>
      obtain ⟨failure, -, same⟩ := Option.map_eq_some_iff.1 refused
      exact ⟨failure, same.symm⟩
  | delete key =>
      obtain ⟨failure, -, same⟩ := Option.map_eq_some_iff.1 refused
      exact ⟨failure, same.symm⟩
  | find place name =>
      cases place with
      | users =>
          obtain ⟨outage, -, same⟩ := Option.map_eq_some_iff.1 refused
          exact ⟨outage, same.symm⟩
      | musicians =>
          obtain ⟨outage, -, same⟩ := Option.map_eq_some_iff.1 refused
          exact ⟨outage, same.symm⟩
  | compare hash password => cases refused

/-- A request with what the store does about it, what is replied, and the store after it. -/
inductive Reacts {σ : Type} [Session.Store σ] (now : Instant) (store : σ) (request : Request) :
    Option Exchange → request.Reply → σ → Prop where
  /-- The request is served and its reply arrives. -/
  | served {reply : request.Reply} {after : σ} (surroundings : Surroundings)
      (served : request.served surroundings now store = (some reply, after)) :
      Reacts now store request (some ⟨request, reply⟩) reply after
  /-- The request fails before it is served. -/
  | refused {reply : request.Reply} (refusal : Refusal request reply) :
      Reacts now store request none reply store
  /-- The request is served, but its reply is lost. -/
  | lost {done reply : request.Reply} {after : σ} (surroundings : Surroundings)
      (served : request.served surroundings now store = (some done, after))
      (refusal : Refusal request reply) :
      Reacts now store request (some ⟨request, done⟩) reply after

namespace Exchange

/-- The key and the payload that were written. -/
def written? : Exchange → Option (String × Payload)
  | ⟨.set key payload _, .ok ()⟩ => some (key, payload)
  | _ => none

/-- The key and the payload that were taken. -/
def taken? : Exchange → Option (String × Payload)
  | ⟨.take key, .ok (some payload)⟩ => some (key, payload)
  | _ => none

/-- The key that could not be written because it was in use. -/
def collided? : Exchange → Option String
  | ⟨.set key _ _, .error .keyExists⟩ => some key
  | _ => none

variable {exchange : Exchange} {key : String} {payload : Payload}

theorem request_of_written? (written : exchange.written? = some (key, payload)) :
    ∃ lifetime, exchange.request = .set key payload lifetime := by
  obtain ⟨request, reply⟩ := exchange
  cases request with
  | set other given lifetime =>
      rcases reply with _ | _
      · cases written
      · cases written
        exact ⟨lifetime, rfl⟩
  | _ => cases written

theorem eq_of_taken? (taken : exchange.taken? = some (key, payload)) :
    exchange = ⟨.take key, .ok (some payload)⟩ := by
  obtain ⟨request, reply⟩ := exchange
  cases request with
  | take other =>
      rcases reply with _ | _ | _
      · cases taken
      · cases taken
      · cases taken
        rfl
  | _ => cases taken

theorem eq_of_collided? (collided : exchange.collided? = some key) :
    ∃ payload lifetime, exchange = ⟨.set key payload lifetime, .error .keyExists⟩ := by
  obtain ⟨request, reply⟩ := exchange
  cases request with
  | set other payload lifetime =>
      rcases reply with (_ | _ | _) | _
      · cases collided
      · cases collided
      · cases collided
        exact ⟨payload, lifetime, rfl⟩
      · cases collided
  | _ => cases collided

theorem written?_of_refusal {request : Request} {reply : request.Reply}
    (refusal : Refusal request reply) : (⟨request, reply⟩ : Exchange).written? = none := by
  cases request with
  | set key payload lifetime =>
      obtain ⟨failure, rfl⟩ := refusal
      rfl
  | _ => rfl

theorem taken?_of_refusal {request : Request} {reply : request.Reply}
    (refusal : Refusal request reply) : (⟨request, reply⟩ : Exchange).taken? = none := by
  cases request with
  | take key =>
      obtain ⟨failure, rfl⟩ := refusal
      rfl
  | _ => rfl

end Exchange

section

variable {σ : Type} [Session.Store σ] [Session.Rows σ] {now : Instant} {store after : σ}
  {request : Request} {surroundings : Surroundings}

open Session (Rows)

/-- A row that is there after a request was written by it, or it was there before. -/
theorem Request.row_served {reply : Option request.Reply} {key : String} {row : Option Payload}
    (served : request.served surroundings now store = (reply, after))
    (held : Rows.row? after key = some row) :
    (∃ done payload, reply = some done ∧
        (⟨request, done⟩ : Exchange).written? = some (key, payload) ∧ row = some payload) ∨
      Rows.row? store key = some row := by
  cases request with
  | set other payload lifetime =>
      by_cases done : reply = some (.ok ())
      · subst done
        by_cases same : key = other
        · subst same
          left
          refine ⟨.ok (), payload, rfl, rfl, ?_⟩
          exact Option.some.inj (held.symm.trans (Rows.row_set served))
        · exact .inr (Rows.row_set_other served same held)
      · exact .inr (Rows.fades_set served done key row held)
  | take other =>
      cases served
      exact .inr (Rows.fades_take store now other key row held)
  | delete other =>
      cases served
      exact .inr (Rows.fades_delete store now other key row held)
  | find place name =>
      cases served
      exact .inr held
  | compare hash password =>
      cases served
      exact .inr held

/-- A row that is taken was there before, and is not there after. -/
theorem Request.row_taken {reply : request.Reply} {key : String} {payload : Payload}
    (served : request.served surroundings now store = (some reply, after))
    (taken : (⟨request, reply⟩ : Exchange).taken? = some (key, payload)) :
    Rows.row? store key = some (some payload) ∧ Rows.row? after key = none := by
  cases Exchange.eq_of_taken? taken
  have replied : (Session.Store.take store now key).1 = .ok (some payload) :=
    Option.some.inj (congrArg Prod.fst served)
  have left : (Session.Store.take store now key).2 = after := congrArg Prod.snd served
  exact ⟨Rows.row_of_take replied, left ▸ Rows.row_take replied⟩

theorem Request.row_of_collided {reply : request.Reply} {key : String}
    (served : request.served surroundings now store = (some reply, after))
    (collided : (⟨request, reply⟩ : Exchange).collided? = some key) :
    ∃ row, Rows.row? store key = some row := by
  obtain ⟨payload, lifetime, same⟩ := Exchange.eq_of_collided? collided
  cases same
  exact Rows.row_of_keyExists (congrArg Prod.fst served)

variable {effect : Option Exchange} {reply : request.Reply} {key : String} {payload : Payload}

/-- A row that is there after a reaction was written, or it was there before. -/
theorem Reacts.row_after {row : Option Payload}
    (reacts : Reacts now store request effect reply after)
    (held : Rows.row? after key = some row) :
    (∃ payload, row = some payload ∧ effect.bind Exchange.written? = some (key, payload)) ∨
      Rows.row? store key = some row := by
  cases reacts with
  | served surroundings served =>
      rcases Request.row_served served held with ⟨done, payload, replied, written, same⟩ | before
      · cases replied
        exact .inl ⟨payload, same, written⟩
      · exact .inr before
  | refused refusal => exact .inr held
  | lost surroundings served refusal =>
      rcases Request.row_served served held with ⟨done, payload, replied, written, same⟩ | before
      · cases replied
        exact .inl ⟨payload, same, written⟩
      · exact .inr before

/-- A row that was given away was there before, and is not there after. -/
theorem Reacts.row_taken (reacts : Reacts now store request effect reply after)
    (taken : effect.bind Exchange.taken? = some (key, payload)) :
    Rows.row? store key = some (some payload) ∧ Rows.row? after key = none := by
  cases reacts with
  | served surroundings served => exact Request.row_taken served taken
  | refused refusal => cases taken
  | lost surroundings served refusal => exact Request.row_taken served taken

theorem Reacts.row_of_collided (reacts : Reacts now store request effect reply after)
    (collided : effect.bind Exchange.collided? = some key) :
    ∃ row, Rows.row? store key = some row := by
  cases reacts with
  | served surroundings served => exact Request.row_of_collided served collided
  | refused refusal => cases collided
  | lost surroundings served refusal => exact Request.row_of_collided served collided

omit [Rows σ] in
theorem Reacts.request_eq {exchange : Exchange}
    (reacts : Reacts now store request (some exchange) reply after) :
    exchange.request = request := by
  cases reacts with
  | served surroundings served => rfl
  | lost surroundings served refusal => rfl

omit [Rows σ] in
/-- Unless something was refused, the store did what is heard of. -/
theorem Reacts.served_of_accepted (reacts : Reacts now store request effect reply after)
    (accepted : ¬ Refusal request reply) : effect = some ⟨request, reply⟩ ∧
      ∃ surroundings, request.served surroundings now store = (some reply, after) := by
  cases reacts with
  | served surroundings served => exact ⟨rfl, surroundings, served⟩
  | refused refusal => exact absurd refusal accepted
  | lost surroundings served refusal => exact absurd refusal accepted

end

end Bearer
