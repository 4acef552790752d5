/-!
# The segments of a token

Splitting a text at its dots and joining segments without dots by dots undo each other. So a text
has three segments exactly if it is three texts without dots that are joined by two dots:
`splitOn_eq_three_iff`.
-/

namespace Bearer.Token

/-- A text is three segments, joined by dots: none is empty, and none has a dot. -/
structure Segmented (token : String) (head body signature : List Char) : Prop where
  /-- The segments are joined by dots. -/
  joined : token.toList = head ++ '.' :: (body ++ '.' :: signature)
  /-- No segment has a dot. -/
  undotted : '.' ∉ head ∧ '.' ∉ body ∧ '.' ∉ signature
  /-- No segment is empty. -/
  filled : head ≠ [] ∧ body ≠ [] ∧ signature ≠ []

namespace Segments

/-- A mark that separates nothing and is in no segment is not in what the segments are joined to. -/
theorem not_mem_intercalate {α : Type} {mark separator : α} {segments : List (List α)}
    (other : mark ≠ separator) (unmarked : ∀ segment ∈ segments, mark ∉ segment) :
    mark ∉ [separator].intercalate segments := by
  induction segments with
  | nil => exact List.not_mem_nil
  | cons first segments ih =>
      obtain ⟨unmarkedFirst, unmarked⟩ := List.forall_mem_cons.1 unmarked
      cases segments with
      | nil =>
          rw [List.intercalate_singleton]
          exact unmarkedFirst
      | cons second segments =>
          rw [List.intercalate_cons_cons, List.mem_append, List.mem_append, List.mem_singleton,
            not_or, not_or]
          exact ⟨⟨unmarkedFirst, other⟩, ih unmarked⟩

variable {α : Type} [BEq α] [LawfulBEq α] {mark : α} {text : List α}

theorem not_mem_of_mem_splitOn {segment : List α} (member : segment ∈ text.splitOn mark) :
    mark ∉ segment := by
  induction text generalizing segment with
  | nil =>
      rw [List.splitOn_nil, List.mem_singleton] at member
      rw [member]
      exact List.not_mem_nil
  | cons first rest ih =>
      rw [List.splitOn_cons_eq_if_modifyHead] at member
      split at member
      · rcases List.mem_cons.1 member with rfl | member
        · exact List.not_mem_nil
        · exact ih member
      · rename_i other
        obtain ⟨head, tail, split⟩ := List.exists_cons_of_ne_nil (List.splitOn_ne_nil mark rest)
        rw [split] at ih member
        rcases List.mem_cons.1 member with rfl | member
        · rw [List.mem_cons, not_or]
          exact ⟨fun same => other (beq_iff_eq.2 same.symm), ih List.mem_cons_self⟩
        · exact ih (List.mem_cons_of_mem head member)

theorem splitOn_eq_iff {segments : List (List α)} (some : segments ≠ []) :
    text.splitOn mark = segments ↔
      [mark].intercalate segments = text ∧ ∀ segment ∈ segments, mark ∉ segment := by
  constructor
  · rintro rfl
    exact ⟨List.intercalate_splitOn mark, fun _ member => not_mem_of_mem_splitOn member⟩
  · rintro ⟨rfl, unmarked⟩
    exact List.splitOn_intercalate mark unmarked some

/-- A text has three segments exactly if it is three texts without marks, joined by two of them. -/
theorem splitOn_eq_three_iff {first second third : List α} :
    text.splitOn mark = [first, second, third] ↔
      text = first ++ mark :: (second ++ mark :: third) ∧ mark ∉ first ∧ mark ∉ second ∧
        mark ∉ third := by
  have joined : [mark].intercalate [first, second, third] =
      first ++ mark :: (second ++ mark :: third) := by simp [List.intercalate]
  rw [splitOn_eq_iff (List.cons_ne_nil _ _), joined]
  exact and_congr eq_comm (by simp)

end Segments

theorem segmented_iff {token : String} {head body signature : List Char} :
    Segmented token head body signature ↔
      token.toList.splitOn '.' = [head, body, signature] ∧
        head ≠ [] ∧ body ≠ [] ∧ signature ≠ [] := by
  rw [Segments.splitOn_eq_three_iff]
  constructor
  · rintro ⟨joined, undotted, filled⟩
    exact ⟨⟨joined, undotted⟩, filled⟩
  · rintro ⟨⟨joined, undotted⟩, filled⟩
    exact ⟨joined, undotted, filled⟩

/-- A text has only one way of being three segments. -/
theorem Segmented.unique {token : String} {head body signature otherHead otherBody
    otherSignature : List Char} (segmented : Segmented token head body signature)
    (other : Segmented token otherHead otherBody otherSignature) :
    head = otherHead ∧ body = otherBody ∧ signature = otherSignature := by
  have same := (segmented_iff.1 segmented).1.symm.trans (segmented_iff.1 other).1
  simpa using same

end Bearer.Token
