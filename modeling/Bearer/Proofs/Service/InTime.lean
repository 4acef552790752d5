import Bearer.Proofs.Service.Serving
import Bearer.Timed.Race

/-!
# Operations in time are operations of a pool

A computation in time that runs an operation tracks what becomes of the operation in a pool:
whatever it does to the world, the pool can follow. So two operations at once, each in a context of
its own, leave a store that a pool with the two operations reaches, and what they come to is what
became of them there: `exists_runs_of_beside`.
-/

namespace Bearer.Pool

variable {σ : Type} [Session.Store σ] [Session.Rows σ] {α β : Type}

/-- A pool has the store of a world, and its clock shows the same instant. -/
structure Fits (world : World σ) (pool : Pool σ) : Prop where
  /-- The stores are the same. -/
  store : pool.store = world.store
  /-- The clocks show the same. -/
  now : pool.now = world.clock.now

/-- While a world changes, a pool that fits it can go on with one operation and fit it again. -/
def Advances (before : World σ) (phase : Phase) (after : World σ) (reached : Phase) : Prop :=
  ∀ (pool : Pool σ) (task : Nat), Fits before pool → pool.phases[task]? = some phase →
    ∃ next, Runs pool next ∧ Fits after next ∧ next.phases = pool.phases.set task reached

/-- A computation can be followed by what becomes of an operation, and ends as it should. -/
inductive Tracks (ends : α → Phase → Prop) : Timed (World σ) α → Phase → Prop where
  /-- The computation is over. -/
  | finish {value : α} {phase : Phase} (ended : ends value phase) :
      Tracks ends (.finish value) phase
  /-- The computation breaks off. -/
  | overflow (phase : Phase) : Tracks ends .overflow phase
  /-- The world changes. -/
  | act {change : World σ → World σ} {next : World σ → Timed (World σ) α} {phase : Phase}
      (reached : World σ → Phase)
      (advances : ∀ world, Advances world phase (change world) (reached world))
      (later : ∀ world, Tracks ends (next world) (reached world)) :
      Tracks ends (.act change next) phase
  /-- Time goes by while there is still something to be done. -/
  | pause {next : Timed (World σ) α} {rest : Operation Answer} (milliseconds : Nat)
      (later : Tracks ends next (.running rest)) :
      Tracks ends (.pause milliseconds next) (.running rest)
  /-- Nothing happens any more. -/
  | never (rest : Operation Answer) : Tracks ends .never (.running rest)

variable {ends : α → Phase → Prop} {timed : Timed (World σ) α} {rest : Operation Answer}

private theorem set_of_found {phases : List Phase} {task : Nat} {phase : Phase}
    (found : phases[task]? = some phase) : phases.set task phase = phases := by
  obtain ⟨within, same⟩ := List.getElem?_eq_some_iff.1 found
  rw [← same, List.set_getElem_self]

private theorem advances_of_eq {before after : World σ} (phase : Phase)
    (store : after.store = before.store) (now : after.clock = before.clock) :
    Advances before phase after phase := by
  intro pool task fits found
  refine ⟨pool, .refl, ⟨fits.store.trans store.symm, ?_⟩, (set_of_found found).symm⟩
  rw [fits.now, now]

private theorem tracks_wait (milliseconds : Nat) (tracks : Tracks ends timed (.running rest)) :
    Tracks ends (Timed.wait milliseconds timed) (.running rest) := by
  unfold Timed.wait
  split
  · exact tracks
  · exact .pause milliseconds tracks

private theorem advances_of_step {before after : World σ} {phase reached : Phase}
    (steps : ∀ (pool : Pool σ) (task : Nat), Fits before pool →
      pool.phases[task]? = some phase → ∃ next, Step pool next ∧ Fits after next ∧
        next.phases = pool.phases.set task reached) :
    Advances before phase after reached := by
  intro pool task fits found
  obtain ⟨next, step, fitsAfter, phases⟩ := steps pool task fits found
  exact ⟨next, .single step, fitsAfter, phases⟩

/-- What becomes of an operation once a request was served. -/
private def afterRequest (conduct : Conduct) (request : Request)
    (next : request.Reply → Operation Answer) (world : World σ) : Phase :=
  ((conduct.reply? world request).map fun reply => Phase.running (next reply)).getD .stopped

private theorem advances_served (conduct : Conduct) (request : Request)
    (next : request.Reply → Operation Answer) (world : World σ) :
    Advances world (.running (.ask request next)) (world.served request)
      (afterRequest conduct request next world) := by
  have still : (world.served request).clock = world.clock := by cases request <;> rfl
  have served := conduct.served_surroundings world request
  apply advances_of_step
  intro pool task fits found
  unfold afterRequest
  rw [← fits.store, ← fits.now] at served
  cases replied : conduct.reply? world request with
  | none =>
      rw [replied] at served
      refine ⟨_, .broken task _ found served, ⟨rfl, ?_⟩, rfl⟩
      rw [still]
      exact fits.now
  | some reply =>
      rw [replied] at served
      refine ⟨_, .ask task found (.served _ served), ⟨rfl, ?_⟩, rfl⟩
      rw [still]
      exact fits.now

/-- The end of an operation and what became of it. -/
def EndsAs (answer : Answer) (phase : Phase) : Prop :=
  phase = .running (.finish answer)

theorem tracks_timedBy (conducts : Conducts) (operation : Operation Answer) :
    Tracks EndsAs (operation.timedBy conducts : Timed (World σ) Answer) (.running operation) := by
  induction operation with
  | finish answer => exact .finish rfl
  | overflow => exact .overflow _
  | clock next ih =>
      refine .act (fun world => .running (next world.clock.now)) (fun world => ?_) fun world =>
        ih world.clock.now
      apply advances_of_step
      intro pool task fits found
      refine ⟨_, .move task found (.clock next), ⟨fits.store, fits.now⟩, ?_⟩
      rw [moved, fits.now]
  | note event next ih =>
      refine .act (fun _ => .running next) (fun world => ?_) fun _ => ih
      apply advances_of_step
      intro pool task fits found
      exact ⟨_, .move task found (.note event next), ⟨fits.store, fits.now⟩, rfl⟩
  | ask request next ih =>
      refine .act (fun _ => .running (.ask request next))
        (fun world => advances_of_eq _ rfl rfl) fun world => ?_
      rw [Operation.asked]
      cases refused : (conducts world.calls.length).refusal? request with
      | some reply =>
          -- The refusal is brought forward: nothing but the wait lies between it and the call.
          refine .act (fun _ => .running (next reply)) (fun world => ?_) fun world =>
            tracks_wait _ (ih reply)
          apply advances_of_step
          intro pool task fits found
          exact ⟨_, .ask task found (.refused (Conduct.refusal_of_refusal? _ refused)),
            ⟨fits.store, fits.now⟩, rfl⟩
      | none =>
          refine .act (fun _ => .running (.ask request next))
            (fun world => advances_of_eq _ rfl rfl) fun begun => tracks_wait _ ?_
          refine .act (afterRequest (conducts world.calls.length) request next)
            (fun before => advances_served _ request next before) fun before => ?_
          rw [afterRequest]
          cases (conducts world.calls.length).reply? before request with
          | none => exact .overflow _
          | some reply =>
              refine tracks_wait _ (.act (fun _ => .running (next reply)) (fun after => ?_)
                fun _ => ih reply)
              exact advances_of_eq _ rfl rfl

/-- The end of an operation inside a context and what became of it. -/
def SettlesAs (result : Except Interruption Answer) (phase : Phase) : Prop :=
  match result with
  | .ok answer => EndsAs answer phase
  | .error _ => ∃ rest, phase = .running rest

private theorem tracks_within {timed : Timed (World σ) Answer} {phase : Phase} (context : Context)
    (tracks : Tracks EndsAs timed phase) (now : Nat) :
    Tracks SettlesAs (timed.within context now) phase := by
  induction tracks generalizing now with
  | finish ended => exact .finish ended
  | overflow phase => exact .overflow phase
  | act reached advances later ih => exact .act reached advances fun world => ih world now
  | pause milliseconds later ih =>
      rw [Timed.within]
      cases context.interruption? now (some (now + milliseconds)) with
      | none => exact .pause milliseconds (ih _)
      | some interruption => exact tracks_wait _ (.finish ⟨_, rfl⟩)
  | never rest =>
      rw [Timed.within]
      cases context.interruption? now none with
      | none => exact .never rest
      | some interruption => exact tracks_wait _ (.finish ⟨_, rfl⟩)

private theorem tracks_limited {timed : Timed (World σ) Answer} (context : Context)
    (tracks : Tracks EndsAs timed (.running rest)) :
    Tracks SettlesAs (timed.limited context) (.running rest) := by
  unfold Timed.limited
  split
  · exact .finish ⟨rest, rfl⟩
  · exact tracks_within context tracks 0

private theorem runs_of_tracks {phase : Phase} (tracks : Tracks ends timed phase) (moment : Nat)
    (world : World σ) (pool : Pool σ) (task : Nat) (fits : Fits world pool)
    (found : pool.phases[task]? = some phase) :
    ∃ next reached, Runs pool next ∧ Fits (timed.run moment world).state next ∧
      next.phases = pool.phases.set task reached ∧
      ∀ value, (timed.run moment world).ending = .finished value → ends value reached := by
  induction tracks generalizing moment world pool with
  | finish ended =>
      refine ⟨pool, _, .refl, fits, (set_of_found found).symm, ?_⟩
      intro value finished
      cases finished
      exact ended
  | overflow phase =>
      refine ⟨pool, phase, .refl, fits, (set_of_found found).symm, ?_⟩
      intro value finished
      cases finished
  | @act change following phase reached advances later ih =>
      obtain ⟨middle, began, fitsMiddle, changed⟩ := advances world pool task fits found
      have again : middle.phases[task]? = some (reached world) := by
        rw [changed, List.getElem?_set_self (List.getElem?_eq_some_iff.1 found).1]
      obtain ⟨next, final, went, fitsNext, phases, ended⟩ :=
        ih world moment (change world) middle fitsMiddle again
      refine ⟨next, final, began.trans went, fitsNext, ?_, ended⟩
      rw [phases, changed, List.set_set]
  | pause milliseconds later ih => exact ih _ world pool fits found
  | never rest =>
      refine ⟨pool, .running rest, .refl, fits, (set_of_found found).symm, ?_⟩
      intro value finished
      cases finished

/-! ## Two computations at once -/

/-- A pool with two operations goes on to fit what two computations come to. -/
def Follows (leftEnds : α → Phase → Prop) (rightEnds : β → Phase → Prop)
    (outcome : Outcome (World σ) (α × β)) (pool : Pool σ) : Prop :=
  ∃ next left right, Runs pool next ∧ Fits outcome.state next ∧ next.phases = [left, right] ∧
    ∀ values, outcome.ending = .finished values →
      leftEnds values.1 left ∧ rightEnds values.2 right

variable {leftEnds : α → Phase → Prop} {rightEnds : β → Phase → Prop} {left right : Phase}
  {leftTimed : Timed (World σ) α} {rightTimed : Timed (World σ) β}

private theorem Follows.of_runs {outcome : Outcome (World σ) (α × β)} {pool middle : Pool σ}
    (runs : Runs pool middle) (follows : Follows leftEnds rightEnds outcome middle) :
    Follows leftEnds rightEnds outcome pool := by
  obtain ⟨next, left, right, went, rest⟩ := follows
  exact ⟨next, left, right, runs.trans went, rest⟩

/-- What two computations come to, whichever way they go on, is followed by a pool. -/
def Followed (leftEnds : α → Phase → Prop) (rightEnds : β → Phase → Prop)
    (timed : Timed (World σ) (α × β)) (left right : Phase) : Prop :=
  ∀ moment world (pool : Pool σ), Fits world pool → pool.phases = [left, right] →
    Follows leftEnds rightEnds (timed.run moment world) pool

private theorem followed_wait {timed : Timed (World σ) (α × β)} (milliseconds : Nat)
    (followed : Followed leftEnds rightEnds timed left right) :
    Followed leftEnds rightEnds (Timed.wait milliseconds timed) left right := by
  intro moment world pool fits phases
  rw [Timed.run_wait]
  exact followed _ world pool fits phases

private theorem followed_pause {timed : Timed (World σ) (α × β)} (milliseconds : Nat)
    (followed : Followed leftEnds rightEnds timed left right) :
    Followed leftEnds rightEnds (.pause milliseconds timed) left right :=
  fun _ world pool fits phases => followed _ world pool fits phases

private theorem followed_overflow :
    Followed leftEnds rightEnds (.overflow : Timed (World σ) (α × β)) left right := by
  intro moment world pool fits phases
  refine ⟨pool, left, right, .refl, fits, phases, fun values finished => ?_⟩
  cases finished

private theorem followed_never :
    Followed leftEnds rightEnds (.never : Timed (World σ) (α × β)) left right := by
  intro moment world pool fits phases
  refine ⟨pool, left, right, .refl, fits, phases, fun values finished => ?_⟩
  cases finished

private theorem followed_finish {values : α × β} (leftEnded : leftEnds values.1 left)
    (rightEnded : rightEnds values.2 right) :
    Followed leftEnds rightEnds (.finish values : Timed (World σ) (α × β)) left right := by
  intro moment world pool fits phases
  refine ⟨pool, left, right, .refl, fits, phases, fun finished same => ?_⟩
  cases same
  exact ⟨leftEnded, rightEnded⟩

private theorem followed_bind {γ : Type} {ends : γ → Phase → Prop} {timed : Timed (World σ) γ}
    {phase : Phase} (tracks : Tracks ends timed phase) (task : Nat)
    (found : [left, right][task]? = some phase) {next : γ → Timed (World σ) (α × β)}
    (tail : ∀ value reached, ends value reached → ∀ newLeft newRight,
      [left, right].set task reached = [newLeft, newRight] →
        Followed leftEnds rightEnds (next value) newLeft newRight) :
    Followed leftEnds rightEnds (timed.bind next) left right := by
  intro moment world pool fits phases
  obtain ⟨middle, reached, runs, fitsMiddle, changed, ended⟩ :=
    runs_of_tracks tracks moment world pool task fits (phases ▸ found)
  rw [phases] at changed
  obtain ⟨newLeft, newRight, pair⟩ : ∃ newLeft newRight,
      [left, right].set task reached = [newLeft, newRight] :=
    List.length_eq_two.1 (List.length_set)
  refine .of_runs runs ?_
  rw [Timed.run_bind, Timed.resume]
  cases ending : (timed.run moment world).ending with
  | finished value =>
      exact tail value reached (ended value ending) newLeft newRight pair _ _ middle fitsMiddle
        (changed.trans pair)
  | overflowed =>
      refine ⟨middle, newLeft, newRight, .refl, fitsMiddle, changed.trans pair,
        fun _ finished => ?_⟩
      cases finished
  | hung =>
      refine ⟨middle, newLeft, newRight, .refl, fitsMiddle, changed.trans pair,
        fun _ finished => ?_⟩
      cases finished

private theorem followed_right {value : α} (leftEnded : leftEnds value left)
    (tracks : Tracks rightEnds rightTimed right) :
    Followed leftEnds rightEnds (rightTimed.mapped fun second => (value, second)) left right := by
  apply followed_bind tracks 1 rfl
  intro second reached ended newLeft newRight pair
  cases pair
  exact followed_finish leftEnded ended

private theorem followed_left {value : β} (tracks : Tracks leftEnds leftTimed left)
    (rightEnded : rightEnds value right) :
    Followed leftEnds rightEnds (leftTimed.mapped fun first => (first, value)) left right := by
  apply followed_bind tracks 0 rfl
  intro first reached ended newLeft newRight pair
  cases pair
  exact followed_finish ended rightEnded

private theorem followed_act {change : World σ → World σ}
    {next : World σ → Timed (World σ) (α × β)} {phase : Phase} (task : Nat)
    (found : [left, right][task]? = some phase) {reached : World σ → Phase}
    (advances : ∀ world, Advances world phase (change world) (reached world))
    (later : ∀ world newLeft newRight,
      [left, right].set task (reached world) = [newLeft, newRight] →
        Followed leftEnds rightEnds (next world) newLeft newRight) :
    Followed leftEnds rightEnds (.act change next) left right := by
  intro moment world pool fits phases
  obtain ⟨middle, runs, fitsMiddle, changed⟩ := advances world pool task fits (phases ▸ found)
  rw [phases] at changed
  obtain ⟨newLeft, newRight, pair⟩ : ∃ newLeft newRight,
      [left, right].set task (reached world) = [newLeft, newRight] :=
    List.length_eq_two.1 (List.length_set)
  exact .of_runs runs (later world newLeft newRight pair _ _ middle fitsMiddle (changed.trans pair))

private theorem followed_meanwhile
    {resume : Timed.Lead → Nat → Timed (World σ) β → Timed (World σ) (α × β)}
    (leftTracks : Tracks leftEnds leftTimed left)
    (resumes : ∀ lead others (rightTimed : Timed (World σ) β) right,
      Tracks rightEnds rightTimed right →
        Followed leftEnds rightEnds (resume lead others rightTimed) left right)
    (rightTracks : Tracks rightEnds rightTimed right) (lead : Timed.Lead) (milliseconds : Nat) :
    Followed leftEnds rightEnds (Timed.meanwhile resume leftTimed lead milliseconds rightTimed)
      left right := by
  induction rightTracks generalizing lead milliseconds with
  | finish ended =>
      exact followed_wait _ (followed_left leftTracks ended)
  | overflow phase => exact followed_overflow
  | act reached advances later ih =>
      apply followed_act 1 rfl advances
      intro world newLeft newRight pair
      cases pair
      exact ih world lead milliseconds
  | pause others later ih =>
      rw [Timed.meanwhile]
      split
      · exact ih lead milliseconds
      · split
        · exact resumes lead others _ _ later
        · split
          · exact followed_pause _ (ih lead.next _)
          · apply followed_pause _
            split
            · exact ih lead.next 0
            · exact resumes lead.next _ _ _ later
  | never rest =>
      apply followed_wait _
      apply followed_bind leftTracks 0 rfl
      intro first reached ended newLeft newRight pair
      exact followed_never

private theorem followed_besideAfter (leftTracks : Tracks leftEnds leftTimed left)
    (rightTracks : Tracks rightEnds rightTimed right) (lead : Timed.Lead) (others : Nat) :
    Followed leftEnds rightEnds (Timed.besideAfter leftTimed lead others rightTimed) left
      right := by
  induction leftTracks generalizing lead others rightTimed right with
  | finish ended => exact followed_wait _ (followed_right ended rightTracks)
  | overflow phase => exact followed_overflow
  | act reached advances later ih =>
      apply followed_act 0 rfl advances
      intro world newLeft newRight pair
      cases pair
      exact ih world rightTracks lead others
  | pause milliseconds later ih =>
      have resumes := followed_meanwhile later
        (fun lead others _ _ tracks => ih tracks lead others) rightTracks
      rw [Timed.besideAfter]
      split
      · exact ih rightTracks lead others
      · split
        · exact resumes lead milliseconds
        · split
          · exact followed_pause _ (ih rightTracks lead.next _)
          · apply followed_pause _
            split
            · exact ih rightTracks lead.next 0
            · exact resumes lead.next _
  | never rest =>
      apply followed_wait _
      apply followed_bind rightTracks 1 rfl
      intro second reached ended newLeft newRight pair
      exact followed_never

/-- What became of an operation whose computation came to a result. -/
def settled : Except Interruption Answer → Phase
  | .ok answer => .returned answer
  | .error _ => .stopped

private theorem runs_of_settlesAs {pool : Pool σ} {task : Nat} {phase : Phase}
    {result : Except Interruption Answer} (found : pool.phases[task]? = some phase)
    (settles : SettlesAs result phase) : Runs pool (pool.moved task (settled result)) := by
  cases result with
  | ok answer =>
      rw [settles] at found
      exact .single (.move task found (.finish answer))
  | error interruption =>
      obtain ⟨rest, rfl⟩ := settles
      exact .single (.move task found (.abandon rest))

/-- Two demands that are met at once in time, each in a context of its own, are met side by side. -/
theorem exists_runs_of_beside (service : TokenService) (conduct : Conduct)
    (leftContext rightContext : Context) (left right : Demand) (moment : Nat) (world : World σ) :
    let timed (context : Context) (demand : Demand) :=
      ((demand.operation service).timed conduct).limited context
    let outcome := ((timed leftContext left).beside (timed rightContext right)).run moment world
    ∃ pool, Runs (serving service world.clock.now world.store [left, right]) pool ∧
      pool.store = outcome.state.store ∧
      ∀ results, outcome.ending = .finished results →
        pool.phases = [settled results.1, settled results.2] := by
  intro timed outcome
  have tracks : ∀ context demand, Tracks SettlesAs (timed context demand)
      (.running (demand.operation service)) := fun context demand =>
    tracks_limited context (tracks_timedBy _ (demand.operation service))
  obtain ⟨middle, leftPhase, rightPhase, runs, fits, phases, ended⟩ :=
    followed_besideAfter (tracks leftContext left) (tracks rightContext right) .left 0 moment world
      (serving service world.clock.now world.store [left, right]) ⟨rfl, rfl⟩ rfl
  cases ending : outcome.ending with
  | finished results =>
      obtain ⟨leftSettles, rightSettles⟩ := ended results ending
      have first : Runs middle (middle.moved 0 (settled results.1)) :=
        runs_of_settlesAs (by rw [phases]; rfl) leftSettles
      have second : Runs (middle.moved 0 (settled results.1))
          ((middle.moved 0 (settled results.1)).moved 1 (settled results.2)) :=
        runs_of_settlesAs (by rw [moved, phases]; rfl) rightSettles
      refine ⟨_, (runs.trans first).trans second, fits.store, ?_⟩
      intro same finished
      cases finished
      rw [moved, moved, phases]
      rfl
  | overflowed =>
      refine ⟨middle, runs, fits.store, ?_⟩
      intro results finished
      cases finished
  | hung =>
      refine ⟨middle, runs, fits.store, ?_⟩
      intro results finished
      cases finished

end Bearer.Pool
