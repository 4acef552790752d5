import Bearer.Timed.Nested

/-!
# What a context does to a computation

A context leaves a computation as it is or cuts it short where it waits: `run_within`. Whether, when
and why depends on nothing but the moment at which the computation would end by itself. A part that
is limited once more by the same context is cut short no differently: `within_bind_within`.
-/

namespace Bearer

namespace Context

variable {context : Context} {now early late moment withdrawal limit : Nat} {cause : Interruption}
  {verdict : Nat × Interruption}

private theorem notAfter_iff {bound : Option Nat} :
    notAfter moment bound = true ↔ ∀ limit ∈ bound, moment ≤ limit := by
  simp [notAfter, Option.all_eq_true]

theorem interruption?_eq_canceled (withdrawn : context.canceledAt = some withdrawal)
    (inTime : ∀ limit ∈ context.deadline, withdrawal ≤ limit) (asleep : withdrawal ≤ late) :
    context.interruption? now (some late) = some (max now withdrawal, .canceled) := by
  have counts : (notAfter withdrawal context.deadline && notAfter withdrawal (some late)) = true :=
    Bool.and_eq_true_iff.2 ⟨notAfter_iff.2 inTime, notAfter_iff.2 (by simpa using asleep)⟩
  rw [interruption?, withdrawn, Option.filter_some, if_pos counts]

private theorem withdrawal_eq_none (late : Nat)
    (wanted : ∀ withdrawal ∈ context.canceledAt,
      late < withdrawal ∨ ∃ limit ∈ context.deadline, limit < withdrawal) :
    (context.canceledAt.filter fun moment =>
      notAfter moment context.deadline && notAfter moment (some late)) = none := by
  rw [Option.filter_eq_none_iff]
  intro withdrawal withdrawn counts
  rw [Bool.and_eq_true, notAfter_iff, notAfter_iff] at counts
  rcases wanted withdrawal withdrawn with awake | ⟨limit, limited, passed⟩
  · exact Nat.not_le.2 awake (counts.2 late rfl)
  · exact Nat.not_le.2 passed (counts.1 limit limited)

theorem interruption?_eq_timedOut (limited : context.deadline = some limit) (asleep : limit < late)
    (wanted : ∀ withdrawal ∈ context.canceledAt, limit < withdrawal) :
    context.interruption? now (some late) = some (max now limit, .timedOut) := by
  have kept := withdrawal_eq_none late fun withdrawal withdrawn =>
    .inr ⟨limit, limited, wanted withdrawal withdrawn⟩
  have passing : (!(some late).any (· ≤ limit)) = true := by simpa using asleep
  rw [interruption?, kept, limited, Option.filter_some, if_pos passing]

theorem interruption?_eq_none (wanted : ∀ withdrawal ∈ context.canceledAt, late < withdrawal)
    (inTime : ∀ limit ∈ context.deadline, late ≤ limit) :
    context.interruption? now (some late) = none := by
  have kept := withdrawal_eq_none late fun withdrawal withdrawn =>
    .inl (wanted withdrawal withdrawn)
  have passing : (context.deadline.filter fun moment => !(some late).any (· ≤ moment)) = none := by
    rw [Option.filter_eq_none_iff]
    intro limit limited passed
    exact absurd (inTime limit limited) (by simpa using passed)
  rw [interruption?, kept, passing]

theorem interruption?_cases (context : Context) (late : Nat) :
    (∃ withdrawal, context.canceledAt = some withdrawal ∧
        (∀ limit ∈ context.deadline, withdrawal ≤ limit) ∧ withdrawal ≤ late) ∨
      (∃ limit, context.deadline = some limit ∧ limit < late ∧
        ∀ withdrawal ∈ context.canceledAt, limit < withdrawal) ∨
      (∀ withdrawal ∈ context.canceledAt, late < withdrawal) ∧
        ∀ limit ∈ context.deadline, late ≤ limit := by
  obtain ⟨canceledAt, deadline⟩ := context
  cases canceledAt <;> cases deadline <;> simp <;> omega

theorem interruption?_of_le (order : early ≤ late)
    (cut : context.interruption? now (some early) = some verdict) :
    context.interruption? now (some late) = some verdict := by
  rcases context.interruption?_cases early with
    ⟨withdrawal, withdrawn, inTime, asleep⟩ | ⟨limit, limited, asleep, wanted⟩ | ⟨wanted, inTime⟩
  · rw [interruption?_eq_canceled withdrawn inTime asleep] at cut
    rw [interruption?_eq_canceled withdrawn inTime (Nat.le_trans asleep order), cut]
  · rw [interruption?_eq_timedOut limited asleep wanted] at cut
    rw [interruption?_eq_timedOut limited (Nat.lt_of_lt_of_le asleep order) wanted, cut]
  · rw [interruption?_eq_none wanted inTime] at cut
    cases cut

theorem interruption?_after (begun : now ≤ early)
    (free : context.interruption? now (some early) = none) :
    context.interruption? now (some late) = context.interruption? early (some late) := by
  rcases context.interruption?_cases early with
    ⟨withdrawal, withdrawn, inTime, asleep⟩ | ⟨limit, limited, asleep, wanted⟩ | ⟨wanted, inTime⟩
  · rw [interruption?_eq_canceled withdrawn inTime asleep] at free
    cases free
  · rw [interruption?_eq_timedOut limited asleep wanted] at free
    cases free
  · -- Whatever interrupts the rest comes after the part that nothing interrupts.
    rcases context.interruption?_cases late with
      ⟨withdrawal, withdrawn, timely, asleep⟩ | ⟨limit, limited, asleep, kept⟩ | ⟨kept, timely⟩
    · have after := wanted withdrawal withdrawn
      rw [interruption?_eq_canceled withdrawn timely asleep,
        interruption?_eq_canceled withdrawn timely asleep, Nat.max_eq_right (by omega),
        Nat.max_eq_right (by omega)]
    · have after := inTime limit limited
      rw [interruption?_eq_timedOut limited asleep kept,
        interruption?_eq_timedOut limited asleep kept, Nat.max_eq_right (by omega),
        Nat.max_eq_right after]
    · rw [interruption?_eq_none kept timely, interruption?_eq_none kept timely]

theorem interruption?_self (begun : now ≤ late)
    (free : context.interruption? now (some late) = none) :
    context.interruption? late (some late) = none :=
  (interruption?_after begun free).symm.trans free

/-- A wait is interrupted while it lasts. -/
theorem interruption?_bounds (begun : now ≤ late)
    (cut : context.interruption? now (some late) = some (moment, cause)) :
    now ≤ moment ∧ moment ≤ late := by
  rcases context.interruption?_cases late with
    ⟨withdrawal, withdrawn, inTime, asleep⟩ | ⟨limit, limited, asleep, wanted⟩ | ⟨wanted, inTime⟩
  · rw [interruption?_eq_canceled withdrawn inTime asleep] at cut
    cases cut
    omega
  · rw [interruption?_eq_timedOut limited asleep wanted] at cut
    cases cut
    omega
  · rw [interruption?_eq_none wanted inTime] at cut
    cases cut

/-- A wait up to an interruption is interrupted no differently, if at all. -/
theorem interruption?_again (begun : now ≤ late)
    (cut : context.interruption? now (some late) = some (moment, cause)) :
    context.interruption? now (some moment) = some (moment, cause) ∨
      context.interruption? now (some moment) = none := by
  cases again : context.interruption? now (some moment) with
  | none => exact .inr rfl
  | some verdict =>
      rw [interruption?_of_le (interruption?_bounds begun cut).2 again] at cut
      exact .inl cut

/-- Waiting for ever is interrupted as a long wait is. -/
theorem exists_wake (context : Context) (now : Nat) : ∃ late, now ≤ late ∧
    context.interruption? now none = context.interruption? now (some late) := by
  obtain ⟨canceledAt, deadline⟩ := context
  refine ⟨now + canceledAt.getD 0 + deadline.getD 0 + 1, by omega, ?_⟩
  have withdrawn : ∀ withdrawal ∈ canceledAt,
      withdrawal ≤ now + canceledAt.getD 0 + deadline.getD 0 + 1 := by
    rintro withdrawal ⟨⟩
    simp only [Option.getD_some]
    omega
  have limited : ∀ limit ∈ deadline, ¬ now + canceledAt.getD 0 + deadline.getD 0 + 1 ≤ limit := by
    rintro limit ⟨⟩
    simp only [Option.getD_some]
    omega
  cases canceledAt <;> cases deadline <;>
    simp_all [interruption?, notAfter, Option.filter]

theorem interruption?_start (wanted : context.isCanceledBy 0 = false) :
    context.interruption? 0 (some 0) = none := by
  apply interruption?_eq_none
  · intro withdrawal withdrawn
    rw [isCanceledBy, withdrawn] at wanted
    simpa [Nat.pos_iff_ne_zero] using wanted
  · exact fun limit _ => Nat.zero_le limit

theorem isCanceledBy_eq_false (free : context.interruption? now (some now) = none) :
    context.isCanceledBy now = false := by
  rcases context.interruption?_cases now with
    ⟨withdrawal, withdrawn, inTime, asleep⟩ | ⟨limit, limited, asleep, wanted⟩ | ⟨wanted, inTime⟩
  · rw [interruption?_eq_canceled withdrawn inTime asleep] at free
    cases free
  · rw [interruption?_eq_timedOut limited asleep wanted] at free
    cases free
  · rw [isCanceledBy, Option.any_eq_false]
    intro withdrawal withdrawn
    exact decide_eq_false (Nat.not_le.2 (wanted withdrawal withdrawn))

end Context

namespace Timed

variable {σ α β γ : Type} {context : Context} {timed : Timed σ α} {now : Nat} {state : σ}

/-- A computation comes to a wait from one moment until another one, in a state. -/
inductive Waits : Timed σ α → Nat → σ → Nat → Nat → σ → Prop where
  /-- It waits. -/
  | here {milliseconds now : Nat} {next : Timed σ α} {state : σ} :
      Waits (pause milliseconds next) now state now (now + milliseconds) state
  /-- It waits after a change. -/
  | act {change : σ → σ} {next : σ → Timed σ α} {now since woken : Nat} {state stage : σ}
      (later : Waits (next state) now (change state) since woken stage) :
      Waits (act change next) now state since woken stage
  /-- It waits after another wait. -/
  | pause {milliseconds now since woken : Nat} {next : Timed σ α} {state stage : σ}
      (later : Waits next (now + milliseconds) state since woken stage) :
      Waits (pause milliseconds next) now state since woken stage

/-- A computation that ends is left as it is, or it is cut short in a wait. -/
theorem run_within (ends : (timed.run now state).ending ≠ .hung)
    (free : context.interruption? now (some now) = none) :
    (context.interruption? now (some (timed.run now state).time) = none ∧
        (timed.within context now).run now state = (timed.mapped Except.ok).run now state) ∨
      ∃ moment cause, context.interruption? now (some (timed.run now state).time) =
          some (moment, cause) ∧
        ∃ since woken stage, Waits timed now state since woken stage ∧ since ≤ moment ∧
          moment ≤ woken ∧ (timed.within context now).run now state =
            ⟨.finished (.error cause), moment, stage⟩ := by
  induction timed generalizing now state with
  | finish value => exact .inl ⟨free, rfl⟩
  | overflow => exact .inl ⟨free, rfl⟩
  | act change next ih =>
      rcases ih state ends free with same | ⟨moment, cause, cut, since, woken, stage, waits, rest⟩
      · exact .inl same
      · exact .inr ⟨moment, cause, cut, since, woken, stage, .act waits, rest⟩
  | pause milliseconds next ih =>
      have begun : now ≤ now + milliseconds := Nat.le_add_right now milliseconds
      have order := next.le_time_run (now + milliseconds) state
      cases cut : context.interruption? now (some (now + milliseconds)) with
      | none =>
          rw [Timed.run, Context.interruption?_after begun cut]
          rw [within, cut]
          rcases ih ends (Context.interruption?_self begun cut) with
            same | ⟨moment, cause, rest, since, woken, stage, waits, later⟩
          · exact .inl same
          · exact .inr ⟨moment, cause, rest, since, woken, stage, .pause waits, later⟩
      | some verdict =>
          obtain ⟨moment, cause⟩ := verdict
          have bounds := Context.interruption?_bounds begun cut
          refine .inr ⟨moment, cause, Context.interruption?_of_le order cut, now, _, state, .here,
            bounds.1, bounds.2, ?_⟩
          rw [within, cut]
          simp [run, Nat.add_sub_cancel' bounds.1]
  | never => exact absurd rfl ends

/-! ## Limited twice -/

theorem within_bind_atOnce {after : α → Timed σ β}
    (atOnce : ∀ value moment, (after value).within context moment = (after value).mapped .ok)
    (timed : Timed σ α) (now : Nat) :
    (timed.bind after).within context now = (timed.within context now).bind fun
      | .ok value => (after value).mapped .ok
      | .error cause => finish (.error cause) := by
  induction timed generalizing now with
  | finish value => exact atOnce value now
  | overflow => rfl
  | act change next ih => exact congrArg (act change) (funext fun state => ih state now)
  | pause milliseconds next ih =>
      rw [bind, within, within]
      cases context.interruption? now (some (now + milliseconds)) with
      | none => exact congrArg (pause milliseconds) (ih (now + milliseconds))
      | some verdict =>
          obtain ⟨moment, cause⟩ := verdict
          dsimp only
          rw [bind_wait]
          rfl
  | never =>
      rw [bind, within, within]
      cases context.interruption? now none with
      | none => rfl
      | some verdict =>
          obtain ⟨moment, cause⟩ := verdict
          dsimp only
          rw [bind_wait]
          rfl

variable {settle : Except Interruption γ → γ}

private theorem within_wait_settled (kept : ∀ value, settle (.ok value) = value) {moment : Nat}
    {cause : Interruption} (begun : now ≤ moment)
    (again : context.interruption? now (some moment) = some (moment, cause) ∨
      context.interruption? now (some moment) = none) :
    ((wait (moment - now) (finish (settle (.error cause))) : Timed σ γ).within
        context now).mapped settle =
      (wait (moment - now) (finish (.error cause))).mapped settle := by
  by_cases atOnce : moment - now = 0
  · rw [wait, if_pos atOnce, wait, if_pos atOnce]
    exact congrArg finish (kept _)
  · rw [mapped, mapped, bind_wait, wait, wait, if_neg atOnce, if_neg atOnce, within,
      Nat.add_sub_cancel' begun]
    rcases again with cut | free
    · rw [cut]
      exact (bind_wait _ _ _).trans (if_neg atOnce)
    · rw [free]
      exact congrArg (pause _) (congrArg finish (kept _))

/-- A computation inside a context comes to the same inside the same context once more, if its
interruption is what the whole would come to. -/
theorem within_bind_within (kept : ∀ value, settle (.ok value) = value) (timed : Timed σ β)
    {after : Except Interruption β → Timed σ γ}
    (told : ∀ cause, after (.error cause) = finish (settle (.error cause))) (now : Nat) :
    (((timed.within context now).bind after).within context now).mapped settle =
      ((timed.bind fun value => after (.ok value)).within context now).mapped settle := by
  induction timed generalizing now with
  | finish value => rfl
  | overflow => rfl
  | act change next ih => exact congrArg (act change) (funext fun state => ih state now)
  | pause milliseconds next ih =>
      rw [bind, within, within]
      cases cut : context.interruption? now (some (now + milliseconds)) with
      | none =>
          dsimp only
          rw [bind, within, cut]
          exact congrArg (pause milliseconds) (ih (now + milliseconds))
      | some verdict =>
          obtain ⟨moment, cause⟩ := verdict
          have begun : now ≤ now + milliseconds := Nat.le_add_right now milliseconds
          dsimp only
          rw [bind_wait, bind, told]
          exact within_wait_settled kept (Context.interruption?_bounds begun cut).1
            (Context.interruption?_again begun cut)
  | never =>
      obtain ⟨late, begun, same⟩ := context.exists_wake now
      rw [bind, within, within, same]
      cases cut : context.interruption? now (some late) with
      | none =>
          dsimp only
          rw [bind, within, same, cut]
      | some verdict =>
          obtain ⟨moment, cause⟩ := verdict
          dsimp only
          rw [bind_wait, bind, told]
          exact within_wait_settled kept (Context.interruption?_bounds begun cut).1
            (Context.interruption?_again begun cut)

/-- A part comes to the same wherever it begins, if it does so where nothing was interrupted yet. -/
theorem within_bindAt {next : Nat → α → Timed σ γ} {flat : α → Timed σ γ}
    (same : ∀ moment value, context.interruption? moment (some moment) = none →
      ((next moment value).within context moment).mapped settle =
        ((flat value).within context moment).mapped settle)
    (free : context.interruption? now (some now) = none) :
    ((bindAt now timed next).within context now).mapped settle =
      ((timed.bind flat).within context now).mapped settle := by
  induction timed generalizing now with
  | finish value => exact same now value free
  | overflow => rfl
  | act change next ih => exact congrArg (act change) (funext fun state => ih state free)
  | pause milliseconds next ih =>
      rw [bindAt, bind, within, within]
      cases cut : context.interruption? now (some (now + milliseconds)) with
      | none =>
          exact congrArg (pause milliseconds)
            (ih (Context.interruption?_self (Nat.le_add_right now milliseconds) cut))
      | some verdict => rfl
  | never => rfl

theorem limitedFrom_mapped (timed : Timed σ α) (f : α → β) :
    (timed.mapped f).limitedFrom context now =
      (timed.limitedFrom context now).mapped fun
        | .ok value => .ok (f value)
        | .error cause => .error cause := by
  unfold limitedFrom
  split
  · rfl
  · refine (within_bind_atOnce (fun _ _ => rfl) timed now).trans ?_
    exact congrArg (bind _) (funext fun verdict => by cases verdict <;> rfl)

end Timed

end Bearer
