import Bearer.Proofs.Json.Layout

/-!
# Records read back

A record is written as an object. `Fills` says that the written members come once each, as far as
they are known, and lead from one draft to another; then the object is read as the record that the
last draft makes, however it is laid out: `reads_value_of_spells`.
-/

namespace Bearer.Json.Record

open Reading

variable {α δ : Type} {record : Record δ α} {draft last : δ} {members : List (String × List Char)}
  {first : Bool} {written : List Char}

/-- The written members lead from one draft to another: known ones, which come once each, are read,
and the others are read over. -/
inductive Fills (record : Record δ α) : δ → List (String × List Char) → δ → Prop
  /-- Nothing changes without members. -/
  | nil (draft : δ) : Fills record draft [] draft
  /-- The first member is read into the draft, the others into what comes of it. -/
  | cons {draft middle last : δ} {name : String} {written : List Char} {member : Member δ}
      {members : List (String × List Char)}
      (known : record.members.find? (fun member => member.name = name) = some member)
      (fresh : member.present draft = false)
      (reads : Reads Delimited (member.read draft) written middle)
      (later : Fills record middle members last) :
      Fills record draft ((name, written) :: members) last
  /-- A first member that is not known does not matter. -/
  | unknown {draft last : δ} {name : String} {written : List Char}
      {members : List (String × List Char)}
      (unknown : record.members.find? (fun member => member.name = name) = none)
      (reads : Reads Delimited skipValue written ())
      (later : Fills record draft members last) :
      Fills record draft ((name, written) :: members) last

private theorem delimited_of_gap {gap : List Char} (blank : Gap gap) {rest : List UInt8}
    (delimited : Delimited rest) : Delimited (encoded gap ++ rest) := by
  cases gap with
  | nil => exact delimited
  | cons character gap =>
      refine ⟨character, .inl (blank character List.mem_cons_self), encoded gap ++ rest, ?_⟩
      rw [← List.singleton_append, encoded_append, List.append_assoc]

private theorem delimited_of_laid (laid : Laid SpellsMember false members written)
    {rest : List UInt8} (closing : Closing rest) : Delimited (encoded written ++ rest) := by
  cases laid with
  | nil blank => exact delimited_of_gap blank ⟨'\x7d', .inr (.inr rfl), closing⟩
  | cons introduced spelled later =>
      cases introduced with
      | later ended begun =>
          rw [List.append_assoc, encoded_append, List.append_assoc]
          refine delimited_of_gap ended ⟨',', .inr (.inl rfl), ?_⟩
          rw [List.cons_append, ← List.singleton_append, encoded_append, List.append_assoc]
          exact ⟨_, rfl⟩

private theorem exists_introduced {name : String} {value : List Char}
    (laid : Laid SpellsMember first ((name, value) :: members) written) :
    ∃ opening gap later, Reads Anything (nextName first) opening (some name) ∧ Gap gap ∧
      Laid SpellsMember false members later ∧
        written = opening ++ ((gap ++ [':']) ++ (value ++ later)) := by
  cases laid with
  | @cons _ _ _ lead _ later introduced spelled others =>
      obtain ⟨spelling, gap, named, blank, rfl⟩ := spelled
      exact ⟨lead ++ spelling, gap, later, reads_nextName introduced named, blank, others,
        by simp⟩

private theorem room_of_enough {opening gap value later : List Char} {steps : Nat}
    (enough : (encoded (opening ++ ((gap ++ [':']) ++ (value ++ later)))).length < steps + 1) :
    (encoded later).length < steps := by
  simp only [encoded_append, List.length_append] at enough
  have colon : (encoded [':']).length = 1 := rfl
  omega

theorem reads_readMembers (fills : Fills record draft members last)
    (laid : Laid SpellsMember first members written) {steps : Nat}
    (enough : (encoded written).length < steps) :
    Reads Closing (record.readMembers steps first draft) written last := by
  induction fills generalizing first written steps with
  | nil draft =>
      obtain ⟨left, rfl⟩ : ∃ left, steps = left + 1 := ⟨steps - 1, by omega⟩
      cases laid with
      | nil blank =>
          rw [← List.append_nil written, readMembers]
          exact reads_bind (reads_nextName_none first blank) (reads_pure draft) fun _ closing =>
            closing
  | @cons draft middle last name value member members known fresh reads others ih =>
      obtain ⟨left, rfl⟩ : ∃ left, steps = left + 1 := ⟨steps - 1, by omega⟩
      obtain ⟨opening, gap, later, named, blank, followed, rfl⟩ := exists_introduced laid
      rw [readMembers]
      refine reads_then named ?_
      simp only [known, fresh, Bool.false_eq_true, if_false]
      exact reads_then (reads_colon blank) (reads_bind reads (ih followed (room_of_enough enough))
        fun _ closing => delimited_of_laid followed closing)
  | @unknown draft last name value members unknown reads others ih =>
      obtain ⟨left, rfl⟩ : ∃ left, steps = left + 1 := ⟨steps - 1, by omega⟩
      obtain ⟨opening, gap, later, named, blank, followed, rfl⟩ := exists_introduced laid
      rw [readMembers]
      refine reads_then named ?_
      simp only [unknown]
      exact reads_then (reads_colon blank) (reads_bind reads (ih followed (room_of_enough enough))
        fun _ closing => delimited_of_laid followed closing)

private theorem isToken_openBrace : IsToken '\x7b' := ⟨rfl, rfl, rfl⟩

/-- An object whose members fill a draft is read as the record that the draft makes, however it is
laid out. -/
theorem reads_value_of_spells {value : α} (fills : Fills record record.blank members last)
    (complete : record.complete last = .ok value) (spelled : SpellsObject members written) :
    Reads Anything record.value written value := by
  obtain ⟨inside, laid, rfl⟩ := spelled
  have read : Reads Closing (bounded (record.readMembers · true record.blank)) inside last :=
    reads_bounded fun _ enough => reads_readMembers fills laid enough
  have made : Reads Closing (record.completed last) [] value := by
    rw [completed, complete]
    exact reads_pure value
  have content : Reads Closing
      (do record.completed (← bounded (record.readMembers · true record.blank)))
      (inside ++ []) value :=
    reads_bind read made fun _ closing => closing
  rw [List.append_nil] at content
  refine reads_placed (reads_peekToken isToken_openBrace (reads_skip_then isToken_openBrace ?_))
  exact reads_closedBy content reads_endObject fun rest _ => ⟨rest, rfl⟩

theorem reads_value {value : α} (fills : Fills record record.blank members last)
    (complete : record.complete last = .ok value) :
    Reads Anything record.value (printObject members) value :=
  reads_value_of_spells fills complete (spellsObject_printObject members)

end Bearer.Json.Record
