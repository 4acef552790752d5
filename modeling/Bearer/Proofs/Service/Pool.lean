import Bearer.Proofs.Operation.Reaction
import Bearer.Proofs.Service.Demand
import Mathlib.Data.List.Basic
import Mathlib.Logic.Relation

/-!
# Many operations on one store

A pool is a store with operations under way on it, in any order. The store reacts to their requests
in any of the possible ways. Between the requests the clock moves, the store forgets, and operations
are abandoned. In every pool that is reached, `tracked_of_runs` tells how far each operation came,
and `balanced_of_runs` accounts for the rows of the store.
-/

namespace Bearer

/-- What became of an operation. -/
inductive Phase where
  /-- The rest is still to be done. -/
  | running (rest : Operation Answer)
  /-- It ended in an answer. -/
  | returned (answer : Answer)
  /-- It was abandoned, or it broke off. -/
  | stopped

/-- A request that an operation of a pool made. -/
structure Happening (σ : Type) where
  /-- The operation. -/
  task : Nat
  /-- When the request was made. -/
  now : Instant
  /-- The store before the request. -/
  store : σ
  /-- What the store did, if it came to that. -/
  effect : Option Exchange
  /-- What the operation heard. -/
  heard : Exchange

/-- Operations under way on one store. -/
structure Pool (σ : Type) where
  /-- What the clock shows. -/
  now : Instant
  /-- The store. -/
  store : σ
  /-- What became of each operation. -/
  phases : List Phase
  /-- The requests that were made, in order. -/
  history : List (Happening σ)

namespace Phase

/-- What an operation does by itself, or what is done to it. -/
inductive Moves (now : Instant) : Operation Answer → Phase → Prop where
  /-- It reads the clock. -/
  | clock (next : Instant → Operation Answer) : Moves now (.clock next) (.running (next now))
  /-- It logs something. -/
  | note (event : Event) (next : Operation Answer) : Moves now (.note event next) (.running next)
  /-- It ends. -/
  | finish (answer : Answer) : Moves now (.finish answer) (.returned answer)
  /-- It breaks off. -/
  | overflow : Moves now .overflow .stopped
  /-- It is abandoned, wherever it is. -/
  | abandon (rest : Operation Answer) : Moves now rest .stopped

/-- What may have become of an operation that heard some exchanges. -/
inductive After (operation : Operation Answer) (exchanges : List Exchange) : Phase → Prop where
  /-- The exchanges lead to what is still to be done. -/
  | running {rest : Operation Answer} (leads : operation.Leads exchanges rest) :
      After operation exchanges (.running rest)
  /-- The exchanges lead to the answer. -/
  | returned {answer : Answer} (leads : operation.Leads exchanges (.finish answer)) :
      After operation exchanges (.returned answer)
  /-- The exchanges lead somewhere. -/
  | stopped {rest : Operation Answer} (leads : operation.Leads exchanges rest) :
      After operation exchanges .stopped

variable {now : Instant} {operation rest : Operation Answer} {exchanges : List Exchange}
  {phase : Phase}

theorem After.leads (reached : phase.After operation exchanges) :
    ∃ rest, operation.Leads exchanges rest := by
  cases reached with
  | running leads => exact ⟨_, leads⟩
  | returned leads => exact ⟨_, leads⟩
  | stopped leads => exact ⟨_, leads⟩

theorem after_moves (leads : operation.Leads exchanges rest) (moves : Moves now rest phase) :
    phase.After operation exchanges := by
  cases moves with
  | clock next =>
      have shown := leads.trans (.clock now (.stay (next now)))
      rw [List.append_nil] at shown
      exact .running shown
  | note event next =>
      have logged := leads.trans (.note (.stay next))
      rw [List.append_nil] at logged
      exact .running logged
  | finish answer => exact .returned leads
  | overflow => exact .stopped leads
  | abandon => exact .stopped leads

end Phase

namespace Happening

variable {σ : Type}

/-- A request that was served and whose reply arrived. -/
def done (task : Nat) (now : Instant) (store : σ) (exchange : Exchange) : Happening σ :=
  ⟨task, now, store, some exchange, exchange⟩

/-- The key and the payload that the store wrote. -/
def written? (happening : Happening σ) : Option (String × Payload) :=
  happening.effect.bind Exchange.written?

/-- The key and the payload that the store gave away. -/
def taken? (happening : Happening σ) : Option (String × Payload) :=
  happening.effect.bind Exchange.taken?

/-- The key that the store did not write because it was in use. -/
def collided? (happening : Happening σ) : Option String :=
  happening.effect.bind Exchange.collided?

/-- Whether the store wrote a key. -/
def writes (key : String) (happening : Happening σ) : Bool :=
  happening.written?.any fun row => row.1 = key

/-- Whether the store gave the row of a key away. -/
def takes (key : String) (happening : Happening σ) : Bool :=
  happening.taken?.any fun row => row.1 = key

/-- The store reacted to the request in one of the possible ways. -/
def Real [Session.Store σ] (happening : Happening σ) : Prop :=
  ∃ request reply after, happening.heard = ⟨request, reply⟩ ∧
    Reacts happening.now happening.store request happening.effect reply after

variable {happening : Happening σ} {key : String} {payload : Payload}

private theorem any_key_iff {row? : Option (String × Payload)} :
    (row?.any fun row => row.1 = key) = true ↔ ∃ payload, row? = some (key, payload) := by
  rw [Option.any_eq_true]
  constructor
  · rintro ⟨⟨other, payload⟩, found, same⟩
    obtain rfl : other = key := of_decide_eq_true same
    exact ⟨payload, found⟩
  · rintro ⟨payload, found⟩
    exact ⟨(key, payload), found, decide_eq_true rfl⟩

theorem writes_eq_true_iff : happening.writes key = true ↔
    ∃ payload, happening.written? = some (key, payload) :=
  any_key_iff

theorem takes_eq_true_iff : happening.takes key = true ↔
    ∃ payload, happening.taken? = some (key, payload) :=
  any_key_iff

variable [Session.Store σ]

theorem taken?_of_heard (real : happening.Real)
    (heard : happening.heard.taken? = some (key, payload)) :
    happening.taken? = some (key, payload) := by
  obtain ⟨request, reply, after, same, reacts⟩ := real
  rw [same] at heard
  have accepted : ¬ Refusal request reply := by
    intro refusal
    cases (Exchange.taken?_of_refusal refusal).symm.trans heard
  rw [taken?, (reacts.served_of_accepted accepted).1]
  exact heard

theorem written?_of_heard (real : happening.Real)
    (heard : happening.heard.written? = some (key, payload)) :
    happening.written? = some (key, payload) := by
  obtain ⟨request, reply, after, same, reacts⟩ := real
  rw [same] at heard
  have accepted : ¬ Refusal request reply := by
    intro refusal
    cases (Exchange.written?_of_refusal refusal).symm.trans heard
  rw [written?, (reacts.served_of_accepted accepted).1]
  exact heard

theorem request_of_effect {exchange : Exchange} (real : happening.Real)
    (done : happening.effect = some exchange) :
    happening.heard.request = exchange.request := by
  obtain ⟨request, reply, after, same, reacts⟩ := real
  rw [done] at reacts
  exact (congrArg Exchange.request same).trans reacts.request_eq.symm

theorem request_of_written? (real : happening.Real)
    (written : happening.written? = some (key, payload)) :
    ∃ lifetime, happening.heard.request = .set key payload lifetime := by
  obtain ⟨exchange, done, wrote⟩ := Option.bind_eq_some_iff.1 written
  obtain ⟨lifetime, asked⟩ := Exchange.request_of_written? wrote
  exact ⟨lifetime, (request_of_effect real done).trans asked⟩

theorem request_of_taken? (real : happening.Real)
    (taken : happening.taken? = some (key, payload)) : happening.heard.request = .take key := by
  obtain ⟨exchange, done, took⟩ := Option.bind_eq_some_iff.1 taken
  rw [request_of_effect real done, Exchange.eq_of_taken? took]

theorem request_of_collided? (real : happening.Real)
    (collided : happening.collided? = some key) :
    (∃ payload lifetime, happening.heard.request = .set key payload lifetime) ∧
      happening.written? = none := by
  obtain ⟨exchange, done, used⟩ := Option.bind_eq_some_iff.1 collided
  obtain ⟨payload, lifetime, rfl⟩ := Exchange.eq_of_collided? used
  refine ⟨⟨payload, lifetime, request_of_effect real done⟩, ?_⟩
  rw [written?, done]
  rfl

theorem served_of_heard {request : Request} {reply : request.Reply} (real : happening.Real)
    (heard : happening.heard = ⟨request, reply⟩) (accepted : ¬ Refusal request reply) :
    ∃ surroundings after,
      request.served surroundings happening.now happening.store = (some reply, after) := by
  obtain ⟨asked, replied, after, same, reacts⟩ := real
  cases heard.symm.trans same
  obtain ⟨-, surroundings, served⟩ := reacts.served_of_accepted accepted
  exact ⟨surroundings, after, served⟩

theorem take_of_heard {found : Option Payload} (real : happening.Real)
    (heard : happening.heard = ⟨.take key, .ok found⟩) :
    (Session.Store.take happening.store happening.now key).1 = .ok found := by
  have accepted : ¬ Refusal (.take key) (.ok found) := by
    rintro ⟨failure, failed⟩
    cases failed
  obtain ⟨surroundings, after, served⟩ := served_of_heard real heard accepted
  exact Option.some.inj (congrArg Prod.fst served)

end Happening

namespace Pool

variable {σ : Type}

/-- The pool in which all operations are to be done. -/
def start (now : Instant) (store : σ) (operations : List (Operation Answer)) : Pool σ :=
  ⟨now, store, operations.map .running, []⟩

/-- The pool in which something became of one operation. -/
def moved (pool : Pool σ) (task : Nat) (phase : Phase) : Pool σ :=
  { pool with phases := pool.phases.set task phase }

/-- The pool in which a request was made. -/
def reacted (pool : Pool σ) (happening : Happening σ) (after : σ) : Pool σ :=
  { pool with store := after, history := pool.history ++ [happening] }

/-- What an operation heard so far. -/
def trace (pool : Pool σ) (task : Nat) : List Exchange :=
  (pool.history.filter fun happening => happening.task = task).map Happening.heard

variable {origin after : σ} {now : Instant} {operations : List (Operation Answer)}
  {pool next : Pool σ} {task : Nat} {happening : Happening σ} {key : String} {payload : Payload}

theorem mem_trace {exchange : Exchange} : exchange ∈ pool.trace task ↔
    ∃ happening ∈ pool.history, happening.task = task ∧ happening.heard = exchange := by
  simp only [trace, List.mem_map, List.mem_filter, decide_eq_true_eq, and_assoc]

private theorem trace_reacted_self (pool : Pool σ) (happening : Happening σ) (after : σ) :
    (pool.reacted happening after).trace happening.task =
      pool.trace happening.task ++ [happening.heard] := by
  simp [trace, reacted, List.filter_append]

private theorem trace_reacted_other (pool : Pool σ) (after : σ)
    (other : happening.task ≠ task) :
    (pool.reacted happening after).trace task = pool.trace task := by
  simp [trace, reacted, List.filter_append, other]

variable [Session.Store σ] [Session.Rows σ]

open Session (Rows)

/-- What may happen next in a pool. -/
inductive Step : Pool σ → Pool σ → Prop where
  /-- The clock shows another instant, earlier or later. -/
  | tick (pool : Pool σ) (now : Instant) : Step pool { pool with now }
  /-- The store becomes another one by itself. -/
  | drift {pool : Pool σ} {after : σ} (drifts : Rows.Drifts pool.store after) :
      Step pool { pool with store := after }
  /-- An operation goes on without a request, ends or is abandoned. -/
  | move {pool : Pool σ} {rest : Operation Answer} {phase : Phase} (task : Nat)
      (found : pool.phases[task]? = some (.running rest))
      (moves : Phase.Moves pool.now rest phase) : Step pool (pool.moved task phase)
  /-- An operation makes a request and goes on with the reply. -/
  | ask {pool : Pool σ} {request : Request} {next : request.Reply → Operation Answer}
      {effect : Option Exchange} {reply : request.Reply} {after : σ} (task : Nat)
      (found : pool.phases[task]? = some (.running (.ask request next)))
      (reacts : Reacts pool.now pool.store request effect reply after) :
      Step pool ((pool.moved task (.running (next reply))).reacted
        ⟨task, pool.now, pool.store, effect, ⟨request, reply⟩⟩ after)
  /-- An operation makes a request whose end lies beyond the calendar. -/
  | broken {pool : Pool σ} {request : Request} {next : request.Reply → Operation Answer}
      {after : σ} (task : Nat) (surroundings : Surroundings)
      (found : pool.phases[task]? = some (.running (.ask request next)))
      (served : request.served surroundings pool.now pool.store = (none, after)) :
      Step pool { pool.moved task .stopped with store := after }

/-- A pool is reached from another one. -/
def Runs : Pool σ → Pool σ → Prop :=
  Relation.ReflTransGen Step

theorem history_of_step {pool next : Pool σ} (step : Step pool next) :
    next.history = pool.history ∨ ∃ happening, next.history = pool.history ++ [happening] := by
  cases step with
  | tick now => exact .inl rfl
  | drift drifts => exact .inl rfl
  | move task found moves => exact .inl rfl
  | ask task found reacts => exact .inr ⟨_, rfl⟩
  | broken task surroundings found served => exact .inl rfl

theorem mem_history_of_step {pool next : Pool σ} (step : Step pool next) :
    ∀ happening ∈ pool.history, happening ∈ next.history := by
  intro happening member
  rcases history_of_step step with same | ⟨latest, appended⟩
  · rwa [same]
  · rw [appended]
    exact List.mem_append_left _ member

/-- Each operation came as far as what it heard leads. -/
structure Tracked (operations : List (Operation Answer)) (pool : Pool σ) : Prop where
  /-- Something became of each operation, and of nothing else. -/
  length : pool.phases.length = operations.length
  /-- What became of an operation fits what it heard. -/
  phases : ∀ task operation, operations[task]? = some operation →
    ∃ phase, pool.phases[task]? = some phase ∧ Phase.After operation (pool.trace task) phase
  /-- Each request was made by an operation and got a possible reply. -/
  real : ∀ happening ∈ pool.history, happening.task < operations.length ∧ happening.Real

omit [Session.Rows σ] in
theorem tracked_start : Tracked operations (start now origin operations) := by
  refine ⟨List.length_map _, ?_, ?_⟩
  · intro task operation listed
    refine ⟨.running operation, ?_, .running (.stay operation)⟩
    rw [start, List.getElem?_map, listed, Option.map_some]
  · intro happening member
    cases member

omit [Session.Rows σ] in
private theorem phases_moved {rest : Operation Answer} {phase : Phase}
    (tracked : Tracked operations pool) (found : pool.phases[task]? = some (.running rest))
    (next : Pool σ) (changed : next.phases = pool.phases.set task phase)
    (others : ∀ other, task ≠ other → next.trace other = pool.trace other)
    (fits : ∀ operation : Operation Answer, operation.Leads (pool.trace task) rest →
      Phase.After operation (next.trace task) phase) :
    next.phases.length = operations.length ∧
      ∀ task operation, operations[task]? = some operation →
        ∃ phase, next.phases[task]? = some phase ∧
          Phase.After operation (next.trace task) phase := by
  constructor
  · rw [changed, List.length_set, tracked.length]
  · intro other operation listed
    obtain ⟨before, was, reached⟩ := tracked.phases other operation listed
    rw [changed]
    by_cases same : task = other
    · subst same
      cases was.symm.trans found
      cases reached with
      | running leads =>
          refine ⟨phase, ?_, fits operation leads⟩
          rw [List.getElem?_set_self (List.getElem?_eq_some_iff.1 found).1]
    · refine ⟨before, ?_, ?_⟩
      · rw [List.getElem?_set_ne same, was]
      · rw [others other same]
        exact reached

theorem tracked_step (tracked : Tracked operations pool) (step : Step pool next) :
    Tracked operations next := by
  cases step with
  | tick now => exact ⟨tracked.length, tracked.phases, tracked.real⟩
  | drift drifts => exact ⟨tracked.length, tracked.phases, tracked.real⟩
  | move task found moves =>
      obtain ⟨length, phases⟩ := phases_moved tracked found (pool.moved _ _) rfl
        (fun _ _ => rfl) fun _ leads => Phase.after_moves leads moves
      exact ⟨length, phases, tracked.real⟩
  | broken task surroundings found served =>
      obtain ⟨length, phases⟩ := phases_moved tracked found
        { pool.moved _ .stopped with store := _ } rfl (fun _ _ => rfl) fun _ leads => .stopped leads
      exact ⟨length, phases, tracked.real⟩
  | @ask request following effect reply after task found reacts =>
      let happening : Happening σ := ⟨task, pool.now, pool.store, effect, ⟨request, reply⟩⟩
      let asked := pool.moved task (.running (following reply))
      have begun : task < operations.length :=
        tracked.length ▸ (List.getElem?_eq_some_iff.1 found).1
      obtain ⟨length, phases⟩ := phases_moved tracked found (asked.reacted happening after) rfl
        (fun other different => trace_reacted_other asked after different) fun operation leads => by
          have heard := leads.trans (.ask reply (.stay (following reply)))
          rw [show (asked.reacted happening after).trace task = pool.trace task ++
            [⟨request, reply⟩] from trace_reacted_self asked happening after]
          exact .running heard
      refine ⟨length, phases, fun other member => ?_⟩
      rcases List.mem_append.1 member with earlier | latest
      · exact tracked.real other earlier
      · rw [List.mem_singleton.1 latest]
        exact ⟨begun, request, reply, after, rfl, reacts⟩

/-! ## What the store holds -/

/-- The number of rows under a key. -/
def rowCount (store : σ) (key : String) : Nat :=
  if (Rows.row? store key).isSome then 1 else 0

/-- The rows are accounted for by what the store did to its first rows. -/
structure Balanced (origin : σ) (pool : Pool σ) : Prop where
  /-- A row was there from the beginning, or it is as it was written. -/
  row : ∀ key row, Rows.row? pool.store key = some row → Rows.row? origin key = some row ∨
    ∃ payload, row = some payload ∧ ∃ happening ∈ pool.history,
      happening.written? = some (key, payload)
  /-- A row that was given away was there from the beginning, or it was as it was written. -/
  taken : ∀ happening ∈ pool.history, ∀ key payload, happening.taken? = some (key, payload) →
    Rows.row? origin key = some (some payload) ∨
      ∃ earlier ∈ pool.history, earlier.written? = some (key, payload)
  /-- A key that was in use had a row from the beginning, or it was written. -/
  collided : ∀ happening ∈ pool.history, ∀ key, happening.collided? = some key →
    (∃ row, Rows.row? origin key = some row) ∨ ∃ earlier ∈ pool.history, earlier.writes key = true
  /-- Of a key no more rows were given away or are left than there were and were written. -/
  count : ∀ key, pool.history.countP (Happening.takes key) + rowCount pool.store key ≤
    rowCount origin key + pool.history.countP (Happening.writes key)

private theorem balanced_start : Balanced origin (start now origin operations) := by
  refine ⟨fun key row held => .inl held, ?_, ?_, ?_⟩
  · intro happening member
    cases member
  · intro happening member
    cases member
  · intro key
    simp [start]

private theorem rowCount_le (fades : ∀ row, Rows.row? after key = some row →
    Rows.row? origin key = some row) : rowCount after key ≤ rowCount origin key := by
  unfold rowCount
  cases held : Rows.row? after key with
  | none => simp
  | some row => rw [fades row held]

private theorem balanced_fades (balanced : Balanced origin pool)
    (fades : Session.Fades (Rows.row? pool.store) (Rows.row? after)) :
    Balanced origin { pool with store := after } := by
  refine ⟨fun key row held => balanced.row key row (fades key row held), balanced.taken,
    balanced.collided, ?_⟩
  intro key
  have fewer := rowCount_le fun row held => fades key row held
  exact Nat.le_trans (Nat.add_le_add_left fewer _) (balanced.count key)

private theorem count_reacts (happening : Happening σ)
    (reacts : ∃ request reply, happening.heard = ⟨request, reply⟩ ∧
      Reacts happening.now happening.store request happening.effect reply after) (key : String) :
    (if happening.takes key then 1 else 0) + rowCount after key ≤
      rowCount happening.store key + if happening.writes key then 1 else 0 := by
  obtain ⟨request, reply, -, reacts⟩ := reacts
  unfold rowCount
  by_cases takes : happening.takes key = true
  · obtain ⟨payload, taken⟩ := Happening.takes_eq_true_iff.1 takes
    obtain ⟨before, gone⟩ := reacts.row_taken taken
    rw [before, gone, if_pos takes]
    simp
  · rw [if_neg takes]
    cases held : Rows.row? after key with
    | none => simp
    | some row =>
        rcases reacts.row_after held with ⟨payload, -, written⟩ | before
        · have writes := Happening.writes_eq_true_iff.2 ⟨payload, written⟩
          rw [if_pos writes]
          simp
        · rw [before]
          simp

private theorem balanced_reacted {request : Request} {effect : Option Exchange}
    {reply : request.Reply} (balanced : Balanced origin pool) (task : Nat)
    (reacts : Reacts pool.now pool.store request effect reply after) :
    Balanced origin
      (pool.reacted ⟨task, pool.now, pool.store, effect, ⟨request, reply⟩⟩ after) := by
  refine ⟨?_, ?_, ?_, ?_⟩
  · intro key row held
    rcases reacts.row_after held with ⟨payload, same, written⟩ | before
    · exact .inr ⟨payload, same, _, List.mem_append_right _ (List.mem_singleton_self _), written⟩
    · rcases balanced.row key row before with first | ⟨payload, same, earlier, member, written⟩
      · exact .inl first
      · exact .inr ⟨payload, same, earlier, List.mem_append_left _ member, written⟩
  · intro happening member key payload taken
    have before : Rows.row? origin key = some (some payload) ∨
        ∃ earlier ∈ pool.history, earlier.written? = some (key, payload) := by
      rcases List.mem_append.1 member with earlier | latest
      · exact balanced.taken happening earlier key payload taken
      · rw [List.mem_singleton.1 latest] at taken
        rcases balanced.row key _ (reacts.row_taken taken).1 with
          first | ⟨given, same, earlier, old, written⟩
        · exact .inl first
        · cases same
          exact .inr ⟨earlier, old, written⟩
    rcases before with first | ⟨earlier, old, written⟩
    · exact .inl first
    · exact .inr ⟨earlier, List.mem_append_left _ old, written⟩
  · intro happening member key collided
    have before : (∃ row, Rows.row? origin key = some row) ∨
        ∃ earlier ∈ pool.history, earlier.writes key = true := by
      rcases List.mem_append.1 member with earlier | latest
      · exact balanced.collided happening earlier key collided
      · rw [List.mem_singleton.1 latest] at collided
        obtain ⟨row, held⟩ := reacts.row_of_collided collided
        rcases balanced.row key row held with first | ⟨payload, -, earlier, old, written⟩
        · exact .inl ⟨row, first⟩
        · exact .inr ⟨earlier, old, Happening.writes_eq_true_iff.2 ⟨payload, written⟩⟩
    rcases before with first | ⟨earlier, old, writes⟩
    · exact .inl first
    · exact .inr ⟨earlier, List.mem_append_left _ old, writes⟩
  · intro key
    have earlier := balanced.count key
    have latest := count_reacts ⟨task, pool.now, pool.store, effect, ⟨request, reply⟩⟩
      ⟨request, reply, rfl, reacts⟩ key
    simp only [reacted, List.countP_append, List.countP_singleton] at earlier latest ⊢
    omega

private theorem balanced_step (balanced : Balanced origin pool) (step : Step pool next) :
    Balanced origin next := by
  cases step with
  | tick now => exact ⟨balanced.row, balanced.taken, balanced.collided, balanced.count⟩
  | drift drifts => exact balanced_fades balanced (Rows.fades_drifts drifts)
  | move task found moves => exact ⟨balanced.row, balanced.taken, balanced.collided, balanced.count⟩
  | @broken request following after task surroundings found served =>
      have stopped : Balanced origin (pool.moved task .stopped) :=
        ⟨balanced.row, balanced.taken, balanced.collided, balanced.count⟩
      apply balanced_fades stopped
      intro key row held
      rcases Request.row_served served held with ⟨done, payload, replied, -, -⟩ | before
      · cases replied
      · exact before
  | @ask request following effect reply after task found reacts =>
      have moved : Balanced origin (pool.moved task (.running (following reply))) :=
        ⟨balanced.row, balanced.taken, balanced.collided, balanced.count⟩
      exact balanced_reacted moved task reacts

/-- In every pool that is reached, each operation came as far as what it heard leads. -/
theorem tracked_of_runs (runs : Runs (start now origin operations) pool) :
    Tracked operations pool := by
  induction runs with
  | refl => exact tracked_start
  | tail _ step ih => exact tracked_step ih step

/-- In every pool that is reached, the rows are accounted for. -/
theorem balanced_of_runs (runs : Runs (start now origin operations) pool) :
    Balanced origin pool := by
  induction runs with
  | refl => exact balanced_start
  | tail _ step ih => exact balanced_step ih step

theorem eq_of_countP_le_one {α : Type} {list : List α} {test : α → Bool} {left right : α}
    (once : list.countP test ≤ 1) (leftMember : left ∈ list) (leftPasses : test left = true)
    (rightMember : right ∈ list) (rightPasses : test right = true) : left = right := by
  have leftFound := List.mem_filter.2 ⟨leftMember, leftPasses⟩
  have rightFound := List.mem_filter.2 ⟨rightMember, rightPasses⟩
  rw [List.countP_eq_length_filter] at once
  match list.filter test, leftFound, rightFound, once with
  | [only], leftFound, rightFound, _ =>
      rw [List.mem_singleton.1 leftFound, List.mem_singleton.1 rightFound]

/-- The row of a key that was there or written only once in all is given away only once. -/
theorem Balanced.eq_of_takes (balanced : Balanced origin pool)
    (once : rowCount origin key + pool.history.countP (Happening.writes key) ≤ 1)
    {left right : Happening σ} (leftMember : left ∈ pool.history)
    (leftTakes : left.takes key = true) (rightMember : right ∈ pool.history)
    (rightTakes : right.takes key = true) : left = right := by
  have count := balanced.count key
  exact eq_of_countP_le_one (by omega) leftMember leftTakes rightMember rightTakes

end Pool

end Bearer
