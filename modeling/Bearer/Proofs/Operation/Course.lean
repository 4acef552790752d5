import Bearer.Proofs.Timed.Within
import Bearer.Service.Calls

/-!
# The course of an operation in time

An operation in time makes its requests one after the other. `Goes` tells how far it came. Its run
comes to a stop (`exists_stop`), and wherever it waits a request is pending (`exists_pending`). What
it did until then is told by the calls that it made: `travels_of_goes`.
-/

namespace Bearer

variable {σ α : Type} [Session.Store σ]

/-- What a request does to a store at an instant. -/
def Request.effect (now : Instant) (store : σ) : Request → σ
  | .set key payload lifetime => (Session.Store.set store now key payload lifetime).2
  | .take key => (Session.Store.take store now key).2
  | .delete key => (Session.Store.delete store now key).2
  | .find .. => store
  | .compare .. => store

namespace Conduct

/-- What a request does that may be refused. -/
def effect (conduct : Conduct) (now : Instant) (store : σ) (request : Request) : σ :=
  if (conduct.refusal? request).isSome then store else request.effect now store

/-- How long a call takes. -/
def duration (conduct : Conduct) (call : Call) : Nat :=
  conduct.before call.request + if call.done then conduct.after call.request else 0

end Conduct

namespace Conducts

/-- What requests do one after the other, the first of them after some others. -/
def effects (conducts : Conducts) (now : Instant) : Nat → σ → List Request → σ
  | _, store, [] => store
  | index, store, request :: later =>
    conducts.effects now (index + 1) ((conducts index).effect now store request) later

/-- How long calls take one after the other, the first of them after some others. -/
def duration (conducts : Conducts) : Nat → List Call → Nat
  | _, [] => 0
  | index, call :: later => (conducts index).duration call + conducts.duration (index + 1) later

variable {conducts : Conducts}

theorem effects_append (now : Instant) (index : Nat) (store : σ) (earlier later : List Request) :
    conducts.effects now index store (earlier ++ later) =
      conducts.effects now (index + earlier.length)
        (conducts.effects now index store earlier) later := by
  induction earlier generalizing index store with
  | nil => rfl
  | cons request earlier ih =>
      rw [List.cons_append, effects, effects, ih, List.length_cons, Nat.add_right_comm,
        Nat.add_assoc]

theorem duration_append (index : Nat) (earlier later : List Call) :
    conducts.duration index (earlier ++ later) =
      conducts.duration index earlier + conducts.duration (index + earlier.length) later := by
  induction earlier generalizing index with
  | nil => exact (Nat.zero_add _).symm
  | cons call earlier ih =>
      rw [List.cons_append, duration, duration, ih, List.length_cons, Nat.add_right_comm index,
        Nat.add_assoc, Nat.add_assoc]

end Conducts

namespace Operation

variable {conducts : Conducts} {conduct : Conduct} {operation rest : Operation α}
  {request : Request} {reply : request.Reply} {next : request.Reply → Operation α}
  {moment later since woken : Nat} {world after stage : World σ}

/-- A request that is made at a moment in a world gets a reply, at another moment. -/
inductive Replies (conduct : Conduct) (request : Request) (moment : Nat) (world : World σ) :
    request.Reply → Nat → World σ → Prop where
  /-- The request is refused. -/
  | refused {reply : request.Reply} (refusal : conduct.refusal? request = some reply) :
      Replies conduct request moment world reply (moment + conduct.before request)
        (world.begun request)
  /-- The request is served. -/
  | served {reply : request.Reply} (willing : conduct.refusal? request = none)
      (replied : conduct.reply? (world.begun request) request = some reply) :
      Replies conduct request moment world reply
        (moment + conduct.before request + conduct.after request)
        (((world.begun request).served request).settled world.calls.length)

/-- An operation at a moment in a world comes to the rest of it, at another moment. -/
inductive Goes (conducts : Conducts) :
    Operation α → Nat → World σ → Operation α → Nat → World σ → Prop where
  /-- Nothing happened yet. -/
  | stay (operation : Operation α) (moment : Nat) (world : World σ) :
      Goes conducts operation moment world operation moment world
  /-- The clock was read. -/
  | clock {next : Instant → Operation α} {moment later : Nat} {world after : World σ}
      {rest : Operation α}
      (following : Goes conducts (next world.clock.now) moment world rest later after) :
      Goes conducts (.clock next) moment world rest later after
  /-- Something was logged. -/
  | note {event : Event} {next : Operation α} {moment later : Nat} {world after : World σ}
      {rest : Operation α}
      (following : Goes conducts next moment (world.noted event) rest later after) :
      Goes conducts (.note event next) moment world rest later after
  /-- A request got a reply. -/
  | ask {request : Request} {reply : request.Reply} {next : request.Reply → Operation α}
      {moment middle later : Nat} {world between after : World σ} {rest : Operation α}
      (replies : Replies (conducts world.calls.length) request moment world reply middle between)
      (following : Goes conducts (next reply) middle between rest later after) :
      Goes conducts (.ask request next) moment world rest later after

/-! ## To the end of a run -/

private theorem run_of_replies {timed : request.Reply → Timed (World σ) α}
    (replies : Replies conduct request moment world reply later after) :
    (asked conduct request timed).run moment world = (timed reply).run later after := by
  cases replies with
  | refused refusal => rw [asked, Timed.run, Timed.run_wait, refusal]
  | served willing replied =>
      rw [asked, Timed.run, Timed.run_wait, willing]
      dsimp only
      rw [Timed.run, replied]
      exact Timed.run_wait _ _ _ _

/-- A run goes on from wherever it came. -/
theorem run_of_goes (goes : Goes conducts operation moment world rest later after) :
    (operation.timedBy conducts).run moment world = (rest.timedBy conducts).run later after := by
  induction goes with
  | stay operation moment world => rfl
  | clock _ ih => exact ih
  | note _ ih => exact ih
  | ask replies _ ih => exact (run_of_replies replies).trans ih

/-- A run ends where the operation is over, or where it leaves the calendar. -/
inductive Stops (conducts : Conducts) (moment : Nat) (world : World σ) :
    Operation α → Outcome (World σ) α → Prop where
  /-- The operation is over. -/
  | finish (value : α) :
      Stops conducts moment world (.finish value) ⟨.finished value, moment, world⟩
  /-- The operation breaks off. -/
  | overflow : Stops conducts moment world .overflow ⟨.overflowed, moment, world⟩
  /-- A request breaks off. -/
  | ask {request : Request} {next : request.Reply → Operation α}
      (willing : (conducts world.calls.length).refusal? request = none)
      (broken : (conducts world.calls.length).reply? (world.begun request) request = none) :
      Stops conducts moment world (.ask request next)
        ⟨.overflowed, moment + (conducts world.calls.length).before request,
          (world.begun request).served request⟩

private theorem stops_ask (willing : (conducts world.calls.length).refusal? request = none)
    (broken : (conducts world.calls.length).reply? (world.begun request) request = none) :
    Stops conducts moment world (.ask request next)
      (((ask request next).timedBy conducts).run moment world) := by
  have stopped : ((ask request next).timedBy conducts).run moment world =
      ⟨.overflowed, moment + (conducts world.calls.length).before request,
        (world.begun request).served request⟩ := by
    rw [timedBy, Timed.run, asked, Timed.run, Timed.run_wait]
    dsimp only [id]
    rw [willing]
    dsimp only
    rw [Timed.run, broken]
    rfl
  rw [stopped]
  exact .ask willing broken

/-- Every run comes to a stop. -/
theorem exists_stop (conducts : Conducts) (operation : Operation α) (moment : Nat)
    (world : World σ) : ∃ rest later after,
      Goes conducts operation moment world rest later after ∧
        Stops conducts later after rest ((operation.timedBy conducts).run moment world) := by
  induction operation generalizing moment world with
  | finish value => exact ⟨_, _, _, .stay _ _ _, .finish value⟩
  | overflow => exact ⟨_, _, _, .stay _ _ _, .overflow⟩
  | clock next ih =>
      obtain ⟨rest, later, after, goes, stops⟩ := ih world.clock.now moment world
      exact ⟨rest, later, after, .clock goes, stops⟩
  | note event next ih =>
      obtain ⟨rest, later, after, goes, stops⟩ := ih moment (world.noted event)
      exact ⟨rest, later, after, .note goes, stops⟩
  | ask request next ih =>
      have goesOn : ∀ reply middle between,
          Replies (conducts world.calls.length) request moment world reply middle between →
          ∃ rest later after,
            Goes conducts (.ask request next) moment world rest later after ∧
              Stops conducts later after rest
                (((ask request next).timedBy conducts).run moment world) := by
        intro reply middle between replies
        obtain ⟨rest, later, after, goes, stops⟩ := ih reply middle between
        refine ⟨rest, later, after, .ask replies goes, ?_⟩
        rw [run_of_goes (.ask replies (.stay _ _ _))]
        exact stops
      cases refusal : (conducts world.calls.length).refusal? request with
      | some reply => exact goesOn reply _ _ (.refused refusal)
      | none =>
          cases replied : (conducts world.calls.length).reply? (world.begun request) request with
          | some reply => exact goesOn reply _ _ (.served refusal replied)
          | none => exact ⟨_, _, _, .stay _ _ _, stops_ask refusal replied⟩

theorem ending_ne_hung (conducts : Conducts) (operation : Operation α) (moment : Nat)
    (world : World σ) : ((operation.timedBy conducts).run moment world).ending ≠ .hung := by
  obtain ⟨rest, later, after, goes, stops⟩ := exists_stop conducts operation moment world
  generalize (operation.timedBy conducts).run moment world = outcome at stops
  cases stops <;> nofun

/-- A request is pending from one moment until another one, in a world. -/
inductive Pending (conduct : Conduct) (request : Request) (moment : Nat) (world : World σ) :
    Nat → Nat → World σ → Prop where
  /-- The request waits before it is served. -/
  | unserved : Pending conduct request moment world moment (moment + conduct.before request)
      (world.begun request)
  /-- The request waits after it was served. -/
  | served {reply : request.Reply} (willing : conduct.refusal? request = none)
      (replied : conduct.reply? (world.begun request) request = some reply) :
      Pending conduct request moment world (moment + conduct.before request)
        (moment + conduct.before request + conduct.after request)
        ((world.begun request).served request)

omit [Session.Store σ] in
private theorem waits_wait {milliseconds : Nat} {timed : Timed (World σ) α}
    (waits : Timed.Waits (.wait milliseconds timed) moment world since woken stage) :
    (since = moment ∧ woken = moment + milliseconds ∧ stage = world) ∨
      Timed.Waits timed (moment + milliseconds) world since woken stage := by
  unfold Timed.wait at waits
  split at waits
  · rename_i none
    rw [none]
    exact .inr waits
  · cases waits with
    | here => exact .inl ⟨rfl, rfl, rfl⟩
    | pause following => exact .inr following

private theorem waits_asked {timed : request.Reply → Timed (World σ) α}
    (waits : Timed.Waits (asked conduct request timed) moment world since woken stage) :
    Pending conduct request moment world since woken stage ∨
      ∃ reply later after, Replies conduct request moment world reply later after ∧
        Timed.Waits (timed reply) later after since woken stage := by
  obtain _ | begun := waits
  rcases waits_wait begun with ⟨rfl, rfl, rfl⟩ | waited
  · exact .inl .unserved
  · cases refusal : conduct.refusal? request with
    | some reply =>
        rw [refusal] at waited
        exact .inr ⟨reply, _, _, .refused refusal, waited⟩
    | none =>
        rw [refusal] at waited
        obtain _ | served := waited
        dsimp only at served
        cases replied : conduct.reply? (world.begun request) request with
        | none =>
            rw [replied] at served
            cases served
        | some reply =>
            rw [replied] at served
            rcases waits_wait served with ⟨rfl, rfl, rfl⟩ | waitedOn
            · exact .inl (.served refusal replied)
            · obtain _ | settled := waitedOn
              exact .inr ⟨reply, _, _, .served refusal replied, settled⟩

/-- Wherever an operation in time waits, a request is pending. -/
theorem exists_pending
    (waits : Timed.Waits (operation.timedBy conducts) moment world since woken stage) :
    ∃ request next later after,
      Goes conducts operation moment world (.ask request next) later after ∧
        Pending (conducts after.calls.length) request later after since woken stage := by
  induction operation generalizing moment world with
  | finish value => cases waits
  | overflow => cases waits
  | clock next ih =>
      obtain _ | following := waits
      obtain ⟨request, rest, later, after, goes, pending⟩ := ih _ following
      exact ⟨request, rest, later, after, .clock goes, pending⟩
  | note event next ih =>
      obtain _ | following := waits
      obtain ⟨request, rest, later, after, goes, pending⟩ := ih following
      exact ⟨request, rest, later, after, .note goes, pending⟩
  | ask request next ih =>
      obtain _ | following := waits
      rcases waits_asked following with pending | ⟨reply, middle, between, replies, waitsOn⟩
      · exact ⟨request, next, moment, world, .stay _ _ _, pending⟩
      · obtain ⟨request, rest, later, after, goes, pending⟩ := ih reply waitsOn
        exact ⟨request, rest, later, after, .ask replies goes, pending⟩

/-- The calls that are made on the way from one world to another one, and what they do. -/
structure Travels (conducts : Conducts) (moment : Nat) (world : World σ) (made : List Call)
    (later : Nat) (after : World σ) : Prop where
  /-- The calls are recorded. -/
  calls : after.calls = world.calls ++ made
  /-- The calls take their time. -/
  time : later = moment + conducts.duration world.calls.length made
  /-- The calls have their effects on the store. -/
  store : after.store =
    conducts.effects world.clock.now world.calls.length world.store (made.map (·.request))
  /-- The clock stands. -/
  clock : after.clock = world.clock
  /-- The log grows. -/
  log : world.log <+: after.log

theorem Travels.trans {middle : Nat} {between : World σ} {first second : List Call}
    (begun : Travels conducts moment world first middle between)
    (ended : Travels conducts middle between second later after) :
    Travels conducts moment world (first ++ second) later after := by
  have index : between.calls.length = world.calls.length + first.length := by
    rw [begun.calls, List.length_append]
  refine ⟨?_, ?_, ?_, ended.clock.trans begun.clock, begun.log.trans ended.log⟩
  · rw [ended.calls, begun.calls, List.append_assoc]
  · rw [ended.time, begun.time, index, Conducts.duration_append, Nat.add_assoc]
  · rw [ended.store, begun.store, begun.clock, index, List.map_append, Conducts.effects_append,
      List.length_map]

theorem calls_served (world : World σ) (request : Request) :
    ((world.begun request).served request).calls = world.calls ++ [⟨request, false⟩] := by
  cases request <;> rfl

theorem calls_settled (world : World σ) (request : Request) :
    (((world.begun request).served request).settled world.calls.length).calls =
      world.calls ++ [⟨request, true⟩] := by
  rw [World.settled, calls_served, List.modify_eq_take_drop, List.take_left, List.drop_left]
  rfl

theorem log_served (world : World σ) (request : Request) :
    (world.served request).log = world.log := by cases request <;> rfl

theorem travels_served (moment : Nat)
    (willing : (conducts world.calls.length).refusal? request = none) :
    Travels conducts moment world [⟨request, false⟩]
      (moment + (conducts world.calls.length).before request)
      ((world.begun request).served request) := by
  refine ⟨calls_served world request, rfl, ?_, ?_, ?_⟩
  · have effect : ((world.begun request).served request).store =
        request.effect world.clock.now world.store := by cases request <;> rfl
    rw [effect, List.map_singleton, Conducts.effects, Conducts.effects, Conduct.effect, willing]
    rfl
  · cases request <;> rfl
  · rw [log_served]
    exact List.prefix_refl _

theorem travels_of_replies
    (replies : Replies (conducts world.calls.length) request moment world reply later after) :
    ∃ done, Travels conducts moment world [⟨request, done⟩] later after := by
  cases replies with
  | refused refusal =>
      refine ⟨false, rfl, rfl, ?_, rfl, List.prefix_refl _⟩
      rw [List.map_singleton, Conducts.effects, Conducts.effects, Conduct.effect, refusal]
      rfl
  | served willing replied =>
      obtain ⟨-, -, store, clock, log⟩ := travels_served moment willing
      exact ⟨true, calls_settled world request, Nat.add_assoc _ _ _, store, clock, log⟩

/-- On its way an operation in time makes calls. -/
theorem travels_of_goes (goes : Goes conducts operation moment world rest later after) :
    ∃ made, Travels conducts moment world made later after := by
  induction goes with
  | stay operation moment world =>
      exact ⟨[], (List.append_nil _).symm, rfl, rfl, rfl, List.prefix_refl _⟩
  | clock _ ih => exact ih
  | note _ ih =>
      obtain ⟨made, calls, time, store, clock, log⟩ := ih
      exact ⟨made, calls, time, store, clock, (List.prefix_append _ _).trans log⟩
  | ask replies _ ih =>
      obtain ⟨done, begun⟩ := travels_of_replies replies
      obtain ⟨made, ended⟩ := ih
      exact ⟨_, begun.trans ended⟩

private theorem travels_of_stops {outcome : Outcome (World σ) α}
    (stops : Stops conducts moment world operation outcome) :
    ∃ made, Travels conducts moment world made outcome.time outcome.state := by
  cases stops with
  | finish value => exact ⟨[], (List.append_nil _).symm, rfl, rfl, rfl, List.prefix_refl _⟩
  | overflow => exact ⟨[], (List.append_nil _).symm, rfl, rfl, rfl, List.prefix_refl _⟩
  | ask willing broken => exact ⟨_, travels_served _ willing⟩

/-- A run that comes to a request makes it. -/
theorem travels_run_ask (conducts : Conducts) (request : Request)
    (next : request.Reply → Operation α) (moment : Nat) (world : World σ) :
    ∃ done made, Travels conducts moment world (⟨request, done⟩ :: made)
      (((ask request next).timedBy conducts).run moment world).time
      (((ask request next).timedBy conducts).run moment world).state := by
  obtain ⟨rest, later, after, goes, stops⟩ :=
    exists_stop conducts (.ask request next) moment world
  cases goes with
  | stay =>
      generalize ((ask request next).timedBy conducts).run moment world = outcome at stops
      cases stops with
      | ask willing broken => exact ⟨false, [], travels_served _ willing⟩
  | ask replies following =>
      obtain ⟨done, begun⟩ := travels_of_replies replies
      obtain ⟨made, middle⟩ := travels_of_goes following
      obtain ⟨last, ended⟩ := travels_of_stops stops
      exact ⟨done, made ++ last, begun.trans (middle.trans ended)⟩

end Operation

end Bearer
