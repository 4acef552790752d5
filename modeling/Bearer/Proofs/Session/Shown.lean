import Bearer.Session.Memory
import Mathlib.Data.Finset.Card

/-!
# What a memory shows of a set of tokens

Each token has a key. From an instant on, a store shows some tokens if the live sessions are exactly
those under the keys of the tokens. `shows_take` and `shows_set` say how the tokens that are shown
change, and `count_eq_card` counts them.
-/

namespace Bearer.Session.Memory

variable {key : String → String} {store : Memory} {now later expiry : Instant}
  {alive : Instant → String → Prop} {token : String} {payload : Payload} {lifetime : Span}

/-- From an instant on, the live sessions are those under the keys of the tokens that are alive. -/
def Shows (key : String → String) (store : Memory) (now : Instant)
    (alive : Instant → String → Prop) : Prop :=
  ∀ later, now ≤ later → ∀ name,
    (store.live? later name).isSome ↔ ∃ token, key token = name ∧ alive later token

theorem shows_empty (none : ∀ later token, ¬ alive later token) :
    Shows key empty now alive := by
  intro later _ name
  constructor
  · intro live
    cases live
  · rintro ⟨token, -, living⟩
    exact absurd living (none later token)

theorem Shows.afterwards (shows : Shows key store now alive) (order : now ≤ later) :
    Shows key store later alive := by
  intro last after
  exact shows last (Int.le_trans order after)

theorem Shows.congr {other : Instant → String → Prop} (shows : Shows key store now alive)
    (same : ∀ later, now ≤ later → ∀ token, other later token ↔ alive later token) :
    Shows key store now other := by
  intro later order name
  simpa only [same later order] using shows later order name

theorem live?_isSome_iff (shows : Shows key store now alive) (order : now ≤ later)
    (apart : ∀ other, alive later other → key other = key token → other = token) :
    (store.live? later (key token)).isSome ↔ alive later token := by
  rw [shows later order]
  constructor
  · rintro ⟨other, same, living⟩
    exact apart other living same ▸ living
  · intro living
    exact ⟨token, rfl, living⟩

theorem live?_eq_none (shows : Shows key store now alive) (order : now ≤ later)
    (free : ∀ other, alive later other → key other ≠ key token) :
    store.live? later (key token) = none := by
  rw [← Option.not_isSome_iff_eq_none, shows later order]
  rintro ⟨other, same, living⟩
  exact free other living same

/-- A token whose session is taken is shown no more. -/
theorem shows_take (shows : Shows key store now alive)
    (apart : ∀ later other, alive later other → key other = key token → other = token) :
    Shows key (store.take now (key token)).2 now
      fun later other => other ≠ token ∧ alive later other := by
  intro later order name
  rw [live?_take]
  split
  · rename_i taken
    constructor
    · intro live
      cases live
    · rintro ⟨other, same, different, living⟩
      exact absurd (apart later other living (same.trans taken)) different
  · rename_i kept
    rw [shows later order]
    constructor
    · rintro ⟨other, same, living⟩
      refine ⟨other, same, ?_, living⟩
      rintro rfl
      exact kept same.symm
    · rintro ⟨other, same, -, living⟩
      exact ⟨other, same, living⟩

/-- A token whose session is set is shown up to its end. -/
theorem shows_set (shows : Shows key store now alive)
    (free : ∀ later other, alive later other → key other ≠ key token)
    (ends : now.plus? lifetime = some expiry) :
    Shows key (store.set now (key token) payload lifetime).2 now
      fun later other => other = token ∧ later < expiry ∨ alive later other := by
  have absent := live?_eq_none shows (Int.le_refl _) (free now)
  intro later order name
  rw [live?_set absent ends order]
  split
  · rename_i written
    rw [Option.isSome_filter]
    constructor
    · intro before
      exact ⟨token, written.symm, .inl ⟨rfl, of_decide_eq_true before⟩⟩
    · rintro ⟨other, same, ⟨-, before⟩ | living⟩
      · exact decide_eq_true before
      · exact absurd (same.trans written) (free later other living)
  · rename_i kept
    rw [shows later order]
    constructor
    · rintro ⟨other, same, living⟩
      exact ⟨other, same, .inr living⟩
    · rintro ⟨other, same, ⟨rfl, -⟩ | living⟩
      · exact absurd same.symm kept
      · exact ⟨other, same, living⟩

/-- The number of live sessions is the number of tokens that are shown. -/
theorem count_eq_card (shows : Shows key store now alive) {tokens : Finset String}
    (complete : ∀ token, token ∈ tokens ↔ alive now token)
    (apart : ∀ left ∈ tokens, ∀ right ∈ tokens, key left = key right → left = right) :
    store.count now = tokens.card := by
  have names : (store.purged now).table.keys.toFinset = tokens.image key := by
    ext name
    have live : (store.purged now).table.find? name = store.live? now name :=
      Table.find?_filter _ _ _
    rw [List.mem_toFinset, Table.mem_keys_iff, live, shows now (Int.le_refl _), Finset.mem_image]
    simp only [complete, and_comm]
  calc store.count now
      = (store.purged now).table.keys.length := Table.size_eq_length_keys _
    _ = (store.purged now).table.keys.toFinset.card :=
        (List.toFinset_card_of_nodup (store.purged now).table.distinct).symm
    _ = (tokens.image key).card := by rw [names]
    _ = tokens.card := Finset.card_image_of_injOn fun left member right other same =>
        apart left member right other same

end Bearer.Session.Memory
