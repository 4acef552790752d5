/-!
# Tables with text keys

A table holds at most one value under each key. What it holds is seen through `find?`: the equations
`find?_insert`, `find?_erase` and `find?_filter` say what each operation does to it, and
`size_eq_length_keys` counts by keys.
-/

namespace Bearer

variable {α : Type}

/-- Values under distinct keys. -/
structure Table (α : Type) where
  /-- The keys with their values, the latest first. -/
  rows : List (String × α)
  /-- No key occurs twice. -/
  distinct : (rows.map Prod.fst).Nodup

namespace Table

/-- The table without keys. -/
def empty : Table α :=
  ⟨[], List.nodup_nil⟩

/-- The value under a key. -/
def find? (table : Table α) (key : String) : Option α :=
  table.rows.lookup key

/-- The number of keys. -/
def size (table : Table α) : Nat :=
  table.rows.length

/-- The keys in order. -/
def keys (table : Table α) : List String :=
  table.rows.map Prod.fst

/-- The rows that pass a test. -/
def filter (keep : String → α → Bool) (table : Table α) : Table α where
  rows := table.rows.filter fun row => keep row.1 row.2
  distinct := table.distinct.sublist (List.filter_sublist.map Prod.fst)

/-- The table without a key. -/
def erase (table : Table α) (key : String) : Table α :=
  table.filter fun other _ => other != key

/-- The table with a value under a key, in place of the one that was there. -/
def insert (table : Table α) (key : String) (value : α) : Table α where
  rows := (key, value) :: (table.erase key).rows
  distinct := by
    refine List.nodup_cons.2 ⟨?_, (table.erase key).distinct⟩
    simp [erase, filter]

@[simp]
theorem find?_empty (key : String) : (empty : Table α).find? key = none := rfl

private theorem lookup_eq_none {rows : List (String × α)} {key : String}
    (absent : key ∉ rows.map Prod.fst) : rows.lookup key = none := by
  induction rows with
  | nil => rfl
  | cons row rest ih =>
      obtain ⟨other, value⟩ := row
      simp only [List.map_cons, List.mem_cons, not_or] at absent
      have different : (key == other) = false := by simpa using absent.1
      simp [List.lookup_cons, different, ih absent.2]

/-- A filtered table holds the values that pass. -/
@[simp]
theorem find?_filter (keep : String → α → Bool) (table : Table α) (key : String) :
    (table.filter keep).find? key = (table.find? key).filter (keep key) := by
  obtain ⟨rows, distinct⟩ := table
  simp only [find?, filter]
  induction rows with
  | nil => rfl
  | cons row rest ih =>
      obtain ⟨other, value⟩ := row
      have distinctRest : (rest.map Prod.fst).Nodup := (List.nodup_cons.1 distinct).2
      have absent : other ∉ rest.map Prod.fst := (List.nodup_cons.1 distinct).1
      by_cases same : key = other
      · subst same
        cases kept : keep key value with
        | true => simp [Option.filter, kept]
        | false =>
            have absentKept : key ∉ (rest.filter fun row => keep row.1 row.2).map Prod.fst :=
              fun member => absent ((List.filter_sublist.map Prod.fst).subset member)
            simp [Option.filter, kept, lookup_eq_none absentKept]
      · have different : (key == other) = false := by simpa using same
        cases kept : keep other value <;>
          simp [List.lookup_cons, kept, different, ih distinctRest]

/-- An erased key has no value, and the others keep theirs. -/
@[simp]
theorem find?_erase (table : Table α) (key other : String) :
    (table.erase key).find? other = if other = key then none else table.find? other := by
  rw [erase, find?_filter]
  by_cases same : other = key
  · simp [same]
  · cases table.find? other <;> simp [Option.filter, same]

/-- An inserted value is found under its key, and the other keys keep theirs. -/
@[simp]
theorem find?_insert (table : Table α) (key other : String) (value : α) :
    (table.insert key value).find? other =
      if other = key then some value else table.find? other := by
  by_cases same : other = key
  · simp [find?, insert, same]
  · have different : (other == key) = false := by simpa using same
    have := find?_erase table key other
    simp only [find?, same, if_false] at this
    simp [find?, insert, List.lookup_cons, different, same, this]

/-- A table has as many values as keys. -/
theorem size_eq_length_keys (table : Table α) : table.size = table.keys.length := by
  simp [size, keys]

theorem mem_keys_iff {table : Table α} {key : String} :
    key ∈ table.keys ↔ (table.find? key).isSome = true := by
  obtain ⟨rows, distinct⟩ := table
  simp only [keys, find?]
  clear distinct
  induction rows with
  | nil => simp
  | cons row rest ih =>
      obtain ⟨other, value⟩ := row
      by_cases same : key = other
      · simp [same]
      · have different : (key == other) = false := by simpa using same
        simp [List.lookup_cons, different, same, ih]

end Table

end Bearer
