import Bearer.Proofs.Operation.Fate
import Bearer.Proofs.Service.Demand
import Bearer.Proofs.Service.Lifetimes
import Bearer.Session.Memory
import Mathlib.Logic.Function.Basic

/-!
# How sessions in memory are opened

A request to the store changes the session under its own key at most. So whatever becomes of it, an
operation that opens a session adds one under the key of the drawn token, or it changes nothing:
`opening_issue`. A login asks others first, and then it opens a session or not: `entering_logIn`.
-/

namespace Bearer

open Session (Entry Memory)
open TokenService (refreshToken)

/-- A session is added under a free key, and nothing else changes. -/
def Session.Adds (key : String) (before after : String → Option Entry) : Prop :=
  before key = none ∧ ∃ entry, after = Function.update before key (some entry)

open Session (Adds)

namespace Session.Memory

theorem live?_later {now later : Instant} (order : now ≤ later) (memory : Memory) (key : String) :
    memory.live? later key = (memory.live? now key).filter (·.isLive later) := by
  rw [← live?_purged_of_le memory order, live?, purged, Table.find?_filter]
  rfl

end Session.Memory

namespace Request

variable {surroundings : Surroundings} {now : Instant} {store after : Memory} {key : String}

theorem live?_served_take {reply : Option (Except Session.Failure (Option Payload))}
    (served : (Request.take key).served surroundings now store = (reply, after)) :
    reply = some (.ok ((store.live? now key).map (·.payload))) ∧
      after.live? now = Function.update (store.live? now) key none := by
  cases served
  refine ⟨rfl, funext fun other => ?_⟩
  rw [Function.update_apply]
  exact Memory.live?_take store now now key other

theorem live?_served_delete {reply : Option (Except Session.Failure Bool)}
    (served : (Request.delete key).served surroundings now store = (reply, after)) :
    (∃ existed, reply = some (.ok existed)) ∧
      after.live? now = Function.update (store.live? now) key none := by
  cases served
  refine ⟨⟨_, rfl⟩, funext fun other => ?_⟩
  rw [Function.update_apply]
  exact Memory.live?_take store now now key other

theorem live?_served_set {reply : Option (Except Session.Failure Unit)} {payload : Payload}
    {lifetime : Span} (positive : 0 < lifetime.nanoseconds)
    (served : (Request.set key payload lifetime).served surroundings now store = (reply, after)) :
    (reply = some (.ok ()) ∧ Adds key (store.live? now) (after.live? now)) ∨
      (reply = none ∨ reply = some (.error .keyExists)) ∧
        after.live? now = store.live? now := by
  change store.set now key payload lifetime = (reply, after) at served
  cases used : store.live? now key with
  | some entry =>
      cases (Memory.set_of_live used payload lifetime).symm.trans served
      exact .inr ⟨.inr rfl, rfl⟩
  | none =>
      cases ends : now.plus? lifetime with
      | none =>
          cases (Memory.set_of_beyond used ends payload).symm.trans served
          exact .inr ⟨.inl rfl, funext fun other => Memory.live?_purged store now other⟩
      | some expiry =>
          have live : (⟨payload, expiry⟩ : Entry).isLive now = true := by
            have later := Instant.plus?_eq_some_iff.1 ends
            rw [Entry.isLive, decide_eq_true_eq, Instant.lt_def]
            dsimp only
            omega
          have added : (store.set now key payload lifetime).2.live? now =
              Function.update (store.live? now) key (some ⟨payload, expiry⟩) := by
            funext other
            rw [Memory.live?_set used ends (Int.le_refl _), Function.update_apply,
              Option.filter_some, live, if_pos rfl]
          rw [Memory.set_of_free used ends payload] at added
          cases (Memory.set_of_free used ends payload).symm.trans served
          exact .inl ⟨rfl, used, _, added⟩

end Request

namespace TokenService

open Operation (Befalls befalls_bind befalls_finish)

variable {service : TokenService} {now : Instant} {store after : Memory} {made : List Call}
  {draw : Draw} {payload : Payload} {token name password : String}

theorem befalls_lastNote {α : Type} {event : Event} {value : α} {fate : Fate α}
    (befalls : Befalls now (.note event (.finish value)) store made fate after) :
    made = [] ∧ fate = .answered value ∧ after = store := by
  cases befalls with
  | note follows => exact befalls_finish follows

/-- How opening a session under a key changes the sessions. -/
inductive Opening (service : TokenService) (key : String) (before : String → Option Entry) :
    List Call → Fate (Except TokenError TokenPair) → (String → Option Entry) → Prop where
  /-- The session is opened. -/
  | opened {payload : Payload} {pair : TokenPair} {after : String → Option Entry}
      (adds : Adds key before after) :
      Opening service key before [⟨.set key payload service.refreshLifetime, true⟩]
        (.answered (.ok pair)) after
  /-- The session is opened, but nobody hears of it. -/
  | lost {payload : Payload} {after : String → Option Entry} (adds : Adds key before after) :
      Opening service key before [⟨.set key payload service.refreshLifetime, false⟩] .interrupted
        after
  /-- The key is in use. -/
  | collided {payload : Payload} :
      Opening service key before [⟨.set key payload service.refreshLifetime, true⟩]
        (.answered (.error (.ofFailure .keyExists))) before
  /-- The session is not opened. -/
  | failed {made : List Call} {fate : Fate (Except TokenError TokenPair)}
      (undone : ∀ call ∈ made, call.done = false)
      (unanswered : ∀ result, fate = .answered result →
        ∃ failure, result = .error (.ofFailure failure)) :
      Opening service key before made fate before

/-- The key of the token that is drawn. -/
def drawnKey (service : TokenService) (draw : Draw) : String :=
  service.key (refreshToken draw.refresh)

/-- Making tokens breaks off, or it comes to what becomes of the write. -/
theorem befalls_mint {σ : Type} [Session.Store σ] {store after : σ}
    {fate : Fate (Except TokenError TokenPair)}
    (befalls : Befalls now (service.mint draw payload) store made fate after) :
    (made = [] ∧ fate = .overflowed ∧ after = store) ∨
      ∃ pair, Befalls now (.ask (service.writing draw payload) (afterWrite pair)) store made fate
        after := by
  rw [mint_eq] at befalls
  obtain _ | _ | follows := befalls
  dsimp only at follows
  cases tokens : service.pair? draw payload now with
  | none =>
      rw [tokens] at follows
      cases follows
      exact .inl ⟨rfl, rfl, rfl⟩
  | some pair =>
      rw [tokens] at follows
      exact .inr ⟨pair, follows⟩

/-- Making tokens opens a session under the key of the drawn token, or it changes nothing. -/
theorem opening_mint {fate : Fate (Except TokenError TokenPair)} (lasting : service.Lasting)
    (befalls : Befalls now (service.mint draw payload) store made fate after) :
    Opening service (service.drawnKey draw) (store.live? now) made fate (after.live? now) := by
  have positive : 0 < service.refreshLifetime.nanoseconds :=
    Int.lt_trans lasting.positive lasting.longer
  rcases befalls_mint befalls with ⟨rfl, rfl, rfl⟩ | ⟨pair, follows⟩
  · exact .failed nofun fun _ told => by cases told
  · cases follows with
    | refused refusal following =>
        obtain ⟨failure, rfl⟩ := refusal
        obtain ⟨rfl, rfl, rfl⟩ := befalls_lastNote following
        refine .failed (List.forall_mem_singleton.2 rfl) ?_
        rintro result ⟨⟩
        exact ⟨failure, rfl⟩
    | served surroundings replied following =>
        rcases Request.live?_served_set positive replied with ⟨told, adds⟩ | ⟨told | told, kept⟩
        · cases told
          obtain ⟨rfl, rfl, rfl⟩ := befalls_finish following
          exact .opened adds
        · cases told
        · cases told
          obtain ⟨rfl, rfl, rfl⟩ := befalls_lastNote following
          rw [kept]
          exact .collided
    | broken surroundings replied =>
        -- Rows may have gone from the store, but only those of sessions that are over.
        rcases Request.live?_served_set positive replied with ⟨told, -⟩ | ⟨-, kept⟩
        · cases told
        · rw [kept]
          exact .failed (List.forall_mem_singleton.2 rfl) fun _ told => by cases told
    | unserved => exact .failed (List.forall_mem_singleton.2 rfl) fun _ told => by cases told
    | lost surroundings replied =>
        rcases Request.live?_served_set positive replied with ⟨-, adds⟩ | ⟨-, kept⟩
        · exact .lost adds
        · rw [kept]
          exact .failed (List.forall_mem_singleton.2 rfl) fun _ told => by cases told

theorem opening_issue {fate : Fate (Except TokenError TokenPair)} (lasting : service.Lasting)
    (befalls : Befalls now (service.issue draw payload) store made fate after) :
    Opening service (service.drawnKey draw) (store.live? now) made fate (after.live? now) := by
  rcases befalls_bind befalls with
    ⟨rfl, first⟩ | ⟨rfl, first⟩ | ⟨result, middle, earlier, last, rfl, first, second⟩
  · exact opening_mint lasting first
  · exact opening_mint lasting first
  · have logged : last = [] ∧ fate = .answered result ∧ after = middle := by
      cases result with
      | ok pair => exact befalls_lastNote second
      | error error => exact befalls_finish second
    obtain ⟨rfl, rfl, rfl⟩ := logged
    rw [List.append_nil]
    exact opening_mint lasting first

private theorem befalls_elsewhere {α : Type} {request : Request}
    {next : request.Reply → Operation α} {fate : Fate α} (other : asksElsewhere request = true)
    (befalls : Befalls now (.ask request next) store made fate after) :
    (fate = .interrupted ∧ made = [⟨request, false⟩] ∧ after = store) ∨
      ∃ reply done later, made = ⟨request, done⟩ :: later ∧
        Befalls now (next reply) store later fate after := by
  have served : ∀ {surroundings reply middle},
      request.served surroundings now store = (reply, middle) → reply ≠ none ∧ middle = store := by
    intro surroundings reply middle replied
    cases request with
    | find place name =>
        cases replied
        exact ⟨nofun, rfl⟩
    | compare hash password =>
        cases replied
        exact ⟨nofun, rfl⟩
    | set key payload lifetime => cases other
    | take key => cases other
    | delete key => cases other
  cases befalls with
  | refused refusal follows => exact .inr ⟨_, _, _, rfl, follows⟩
  | served surroundings replied follows =>
      obtain ⟨-, rfl⟩ := served replied
      exact .inr ⟨_, _, _, rfl, follows⟩
  | broken surroundings replied => exact absurd rfl (served replied).1
  | unserved => exact .inl ⟨rfl, rfl, rfl⟩
  | lost surroundings replied => exact .inl ⟨rfl, rfl, (served replied).2⟩

/-- How a login under a key changes the sessions. -/
inductive Entering (service : TokenService) (key : String) (before : String → Option Entry) :
    List Call → Fate (Except LoginError TokenPair) → (String → Option Entry) → Prop where
  /-- A question to others comes before the rest. -/
  | elsewhere {call : Call} {made : List Call} {fate : Fate (Except LoginError TokenPair)}
      {after : String → Option Entry} (other : asksElsewhere call.request = true)
      (later : Entering service key before made fate after) :
      Entering service key before (call :: made) fate after
  /-- A session is opened, or not. -/
  | opening {made : List Call} {fate : Fate (Except TokenError TokenPair)}
      {after : String → Option Entry} (opening : Opening service key before made fate after) :
      Entering service key before made (fate.map (Except.mapError .token)) after
  /-- Nobody is let in. -/
  | denied {fate : Fate (Except LoginError TokenPair)}
      (refused : ∀ pair, fate ≠ .answered (.ok pair)) : Entering service key before [] fate before

variable {fate : Fate (Except LoginError TokenPair)}

private theorem entering_denied {error : LoginError}
    (befalls : Befalls now (.finish (.error error)) store made fate after) :
    Entering service (service.drawnKey draw) (store.live? now) made fate (after.live? now) := by
  obtain ⟨rfl, rfl, rfl⟩ := befalls_finish befalls
  exact .denied fun pair told => by cases told

private theorem entering_elsewhere {request : Request}
    {next : request.Reply → Operation (Except LoginError TokenPair)}
    (other : asksElsewhere request = true)
    (follows : ∀ reply later, Befalls now (next reply) store later fate after →
      Entering service (service.drawnKey draw) (store.live? now) later fate (after.live? now))
    (befalls : Befalls now (.ask request next) store made fate after) :
    Entering service (service.drawnKey draw) (store.live? now) made fate (after.live? now) := by
  rcases befalls_elsewhere other befalls with ⟨rfl, rfl, rfl⟩ | ⟨reply, done, later, rfl, rest⟩
  · exact .elsewhere other (.denied fun pair told => by cases told)
  · exact .elsewhere other (follows reply later rest)

private theorem entering_letIn (lasting : service.Lasting)
    (befalls : Befalls now (service.letIn draw name payload) store made fate after) :
    Entering service (service.drawnKey draw) (store.live? now) made fate (after.live? now) := by
  rcases befalls_bind befalls with
    ⟨rfl, first⟩ | ⟨rfl, first⟩ | ⟨result, middle, earlier, last, rfl, first, second⟩
  · exact .opening (opening_issue lasting first)
  · exact .opening (opening_issue lasting first)
  · have logged : last = [] ∧ fate = .answered (result.mapError .token) ∧ after = middle := by
      cases result with
      | ok pair => exact befalls_lastNote second
      | error error => exact befalls_finish second
    obtain ⟨rfl, rfl, rfl⟩ := logged
    rw [List.append_nil]
    exact .opening (opening_issue lasting first)

private theorem entering_checkAccount {account : Account} (lasting : service.Lasting)
    (befalls : Befalls now (service.checkAccount draw name password account) store made fate
      after) :
    Entering service (service.drawnKey draw) (store.live? now) made fate (after.live? now) := by
  refine entering_elsewhere rfl (fun reply later follows => ?_) befalls
  cases reply with
  | false =>
      obtain ⟨rfl, rfl, rfl⟩ := befalls_lastNote follows
      exact .denied fun pair told => by cases told
  | true =>
      cases identified : Payload.new? account.subject account.role with
      | none =>
          rw [identified] at follows
          exact entering_denied follows
      | some payload =>
          rw [identified] at follows
          exact entering_letIn lasting follows

/-- A login asks others, and then it opens a session under the key of the drawn token at most. -/
theorem entering_logIn (lasting : service.Lasting)
    (befalls : Befalls now (service.logIn draw name password) store made fate after) :
    Entering service (service.drawnKey draw) (store.live? now) made fate (after.live? now) := by
  refine entering_elsewhere rfl (fun reply later follows => ?_) befalls
  rcases reply with outage | _ | account
  · exact entering_denied follows
  · refine entering_elsewhere rfl (fun reply later follows => ?_) follows
    rcases reply with outage | _ | account
    · exact entering_denied follows
    · refine entering_elsewhere rfl (fun reply later follows => ?_) follows
      obtain ⟨rfl, rfl, rfl⟩ := befalls_lastNote follows
      exact .denied fun pair told => by cases told
    · exact entering_checkAccount lasting follows
  · exact entering_checkAccount lasting follows

end TokenService

end Bearer
