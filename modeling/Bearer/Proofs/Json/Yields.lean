import Bearer.Proofs.Json.Numeral

/-!
# What readings give

`Yields property reading` says that whatever the reading gives, before any text, has the property.
Readings in sequence pass properties on (`yields_bind`), and a record has what every member keeps
true of the draft (`Record.yields_value`). An integer that is read is one of 64 bits, whatever the
text is: `yields_integerValue`.
-/

namespace Bearer.Json

namespace Reading

variable {α β : Type} {property : α → Prop} {reading : Reading α}

/-- Whatever a reading gives has a property. -/
def Yields (property : α → Prop) (reading : Reading α) : Prop :=
  ∀ cursor value after, reading.on cursor = (.ok value, after) → property value

theorem on_bind_error {cursor after : Cursor} {fault : Fault}
    (failed : reading.on cursor = (.error fault, after)) (next : α → Reading β) :
    (reading >>= next).on cursor = (.error fault, after) := by
  unfold on at failed ⊢
  rw [ExceptT.run_bind, StateT.run_bind, failed]
  rfl

theorem yields_pure {value : α} (holds : property value) : Yields property (pure value) := by
  intro cursor found after read
  cases read
  exact holds

theorem yields_fail (problem : Problem) : Yields property (fail problem : Reading α) := by
  intro cursor value after read
  cases read

theorem yields_failAhead (problem : Problem) : Yields property (failAhead problem : Reading α) := by
  intro cursor value after read
  cases read

theorem yields_refuse (problem : Problem) : Yields property (refuse problem : Reading α) := by
  intro cursor value after read
  cases read

theorem yields_throw (fault : Fault) : Yields property (throw fault : Reading α) := by
  intro cursor value after read
  cases read

theorem yields_anything (reading : Reading α) : Yields (fun _ => True) reading :=
  fun _ _ _ _ => trivial

/-- A later reading has to do with what an earlier one gives. -/
theorem yields_bind {middle : β → Prop} {first : Reading β} {next : β → Reading α}
    (earlier : Yields middle first) (later : ∀ value, middle value → Yields property (next value)) :
    Yields property (first >>= next) := by
  intro cursor value after read
  cases ran : first.on cursor with
  | mk result reached =>
      cases result with
      | error fault =>
          rw [on_bind_error ran] at read
          cases read
      | ok found =>
          rw [on_bind ran] at read
          exact later found (earlier cursor found reached ran) reached value after read

theorem yields_then {first : Reading β} {next : β → Reading α}
    (later : ∀ value, Yields property (next value)) : Yields property (first >>= next) :=
  yields_bind (yields_anything first) fun value _ => later value

theorem yields_ite {condition : Prop} [Decidable condition] {other : Reading α}
    (first : condition → Yields property reading) (second : Yields property other) :
    Yields property (if condition then reading else other) := by
  split
  · exact first ‹_›
  · exact second

theorem yields_outcome (yields : Yields property reading) :
    Yields (fun result => ∀ value, result = .ok value → property value) (outcome reading) := by
  intro cursor result after read value found
  rw [on_outcome] at read
  cases read
  exact yields cursor value (reading.on cursor).2 (Prod.ext found rfl)

theorem yields_placed (yields : Yields property reading) : Yields property (placed reading) := by
  refine yields_bind (yields_outcome yields) fun result holds => ?_
  rcases result with ⟨problem, _ | place⟩ | value
  · exact yields_fail problem
  · exact yields_throw _
  · exact yields_pure (holds value rfl)

theorem yields_closedBy (yields : Yields property reading) (closing : Reading Unit) :
    Yields property (closedBy reading closing) := by
  refine yields_bind (yields_outcome yields) fun result holds => yields_then fun closed => ?_
  cases result with
  | error fault => cases closed <;> exact yields_throw fault
  | ok value =>
      cases closed with
      | error fault => exact yields_throw fault
      | ok _ => exact yields_pure (holds value rfl)

theorem yields_bounded {steps : Nat → Reading α} (yields : ∀ count, Yields property (steps count)) :
    Yields property (bounded steps) :=
  yields_then fun cursor => yields (cursor.rest.length + 1)

theorem of_whole_eq_ok {text : List UInt8} {value : α} (yields : Yields property reading)
    (read : whole reading text = .ok value) : property value := by
  have complete : Yields property (do let value ← reading; finish; return value) :=
    yields_bind yields fun _ holds => yields_then fun _ => yields_pure holds
  exact complete (Cursor.start text) value _ (Prod.ext read rfl)

theorem whole_eq_ok_iff {text : List UInt8} {value : α} : whole reading text = .ok value ↔
    ∃ reached after, reading.on (Cursor.start text) = (.ok value, reached) ∧
      finish.on reached = (.ok (), after) := by
  change ((reading >>= fun value => finish >>= fun _ => pure value).on _).1 = .ok value ↔ _
  cases read : reading.on (Cursor.start text) with
  | mk result reached =>
      cases result with
      | error fault =>
          rw [on_bind_error read]
          simp
      | ok found =>
          rw [on_bind read]
          cases ended : finish.on reached with
          | mk closed after =>
              cases closed with
              | error fault =>
                  rw [on_bind_error ended]
                  simp [ended]
              | ok _ =>
                  rw [on_bind ended]
                  simp [ended]

/-- Where what was read is only checked afterwards, a whole text gives what passes the check. -/
theorem whole_checked_iff {first : Reading β} {next : β → Reading α} (check : β → Except Fault α)
    (still : ∀ found cursor, (next found).on cursor = (check found, cursor)) {text : List UInt8}
    {value : α} : whole (first >>= next) text = .ok value ↔
      ∃ found, whole first text = .ok found ∧ check found = .ok value := by
  simp only [whole_eq_ok_iff]
  constructor
  · rintro ⟨reached, after, read, ended⟩
    cases began : first.on (Cursor.start text) with
    | mk result middle =>
        cases result with
        | error fault => cases (on_bind_error began next).symm.trans read
        | ok found =>
            rw [on_bind began, still] at read
            obtain ⟨passed, rfl⟩ := Prod.mk.inj read
            exact ⟨found, ⟨middle, after, rfl, ended⟩, passed⟩
  · rintro ⟨found, ⟨reached, after, began, ended⟩, passed⟩
    refine ⟨reached, after, ?_, ended⟩
    rw [on_bind began, still, passed]

end Reading

/-- A negative integer has at most 64 bits. -/
def Number.Bounded : Number → Prop
  | .negative size => size ≤ Number.signedBound64
  | _ => True

theorem Number.bounded_ofInteger {negative : Bool} {size : Nat} {number : Number}
    (made : ofInteger negative size = some number) : number.Bounded := by
  unfold ofInteger at made
  split at made
  · split at made
    · obtain ⟨rounded, -, rfl⟩ := Option.map_eq_some_iff.1 made
      trivial
    · rename_i inside
      cases made
      exact Nat.not_lt.1 (not_or.1 inside).2
  · cases made
    trivial

namespace Reading

private theorem yields_scaled (negative : Bool) (significand : Nat) (exponent : Int) :
    Yields Number.Bounded (scaled negative significand exponent) := by
  unfold scaled
  split
  · exact yields_pure trivial
  · exact yields_fail _

private theorem yields_exponent (negative : Bool) (significand : Nat) (shift : Int) :
    Yields Number.Bounded (exponent negative significand shift) := by
  unfold exponent
  refine yields_then fun _ => yields_then fun sign => ?_
  extract_lets rest
  have yields : ∀ done, Yields Number.Bounded (rest done) := by
    intro done
    refine yields_then fun next => ?_
    split
    · exact yields_fail _
    · split
      · exact yields_fail _
      · refine yields_then fun size => ?_
        split
        · exact yields_scaled _ _ _
        · refine yields_ite (fun _ => yields_fail _) (yields_then fun _ => ?_)
          exact yields_pure trivial
  exact yields_ite (fun _ => yields_then yields) (yields ())

private theorem yields_afterDigits (negative : Bool) (significand : Nat) (shift : Int) :
    Yields Number.Bounded (afterDigits negative significand shift) :=
  yields_then fun _ => yields_ite (fun _ => yields_exponent _ _ _) (yields_scaled _ _ _)

private theorem yields_fraction (negative : Bool) (whole : Nat) (shift : Int) :
    Yields Number.Bounded (fraction negative whole shift) := by
  unfold fraction
  refine yields_then fun _ => yields_then fun (value, taken, more) => ?_
  refine yields_ite (fun _ => ?_) (yields_ite (fun _ => ?_) (yields_afterDigits _ _ _))
  · exact yields_then fun _ => yields_afterDigits _ _ _
  · exact yields_then fun _ => yields_failAhead _

private theorem yields_afterWhole (negative : Bool) (whole : Nat) :
    Yields Number.Bounded (afterWhole negative whole) := by
  unfold afterWhole
  refine yields_then fun next => yields_ite (fun _ => yields_fraction _ _ _) ?_
  refine yields_ite (fun _ => yields_exponent _ _ _) ?_
  split
  · rename_i number made
    exact yields_pure (Number.bounded_ofInteger made)
  · exact yields_fail _

private theorem yields_unsigned (negative : Bool) : Yields Number.Bounded (unsigned negative) := by
  unfold unsigned
  refine yields_then fun next => ?_
  split
  · exact yields_fail _
  · split
    · exact yields_fail _
    · refine yields_then fun _ => ?_
      exact yields_ite (fun _ => yields_failAhead _) (yields_afterWhole _ _)
    · refine yields_then fun (value, taken, more) => ?_
      refine yields_ite (fun _ => yields_then fun shift => ?_) (yields_afterWhole _ _)
      refine yields_then fun _ => ?_
      exact yields_ite (fun _ => yields_fraction _ _ _) (yields_afterDigits _ _ _)

/-- A negative integer that is read has at most 64 bits. -/
theorem yields_number : Yields Number.Bounded number := by
  refine yields_then fun next => ?_
  split
  · exact yields_then fun _ => yields_unsigned true
  · exact yields_unsigned false

theorem yields_wrongKind (expected : String) : Yields property (wrongKind expected) := by
  unfold wrongKind
  refine yields_then fun next => ?_
  split
  · exact yields_then fun _ => yields_then fun _ => yields_refuse _
  · exact yields_then fun _ => yields_then fun _ => yields_refuse _
  · exact yields_then fun _ => yields_then fun _ => yields_refuse _
  · exact yields_then fun _ => yields_then fun _ => yields_refuse _
  · exact yields_refuse _
  · exact yields_refuse _
  · exact yields_ite (fun _ => yields_then fun _ => yields_refuse _) (yields_failAhead _)
  · exact yields_failAhead _

/-- An integer that is read is one of 64 bits. -/
theorem yields_integerValue (expected : String) : Yields Number.Fits (integerValue expected) := by
  refine yields_placed (yields_then fun next => ?_)
  split
  · exact yields_failAhead _
  · refine yields_ite (fun _ => ?_) (yields_wrongKind _)
    refine yields_bind yields_number fun number inside => ?_
    cases number with
    | natural value =>
        refine yields_ite (fun small => yields_pure ?_) (yields_refuse _)
        unfold Number.Fits
        omega
    | negative size =>
        refine yields_pure ?_
        have positive : 0 < Number.signedBound64 := by decide
        simp only [Number.Bounded] at inside
        unfold Number.Fits
        omega
    | double value => exact yields_refuse _

end Reading

namespace Record

open Reading

variable {α β δ : Type} {record : Record δ α} {kept : δ → Prop} {property : α → Prop}

theorem exists_of_need {name : String} {found : Option α} {next : α → Except Problem β} {result : β}
    (made : (need name found >>= next) = .ok result) :
    ∃ value, found = some value ∧ next value = .ok result := by
  cases found with
  | none => cases made
  | some value => exact ⟨value, rfl, made⟩

private theorem yields_readElements {members : List (Member δ)}
    (each : ∀ member ∈ members, ∀ draft, kept draft → Yields kept (member.read draft))
    (index : Nat) {draft : δ} (begun : kept draft) :
    Yields kept (record.readElements members index draft) := by
  induction members generalizing index draft with
  | nil => exact yields_pure begun
  | cons member members ih =>
      refine yields_then fun more => yields_ite (fun _ => ?_) (yields_refuse _)
      refine yields_bind (each member List.mem_cons_self draft begun) fun next holds => ?_
      exact ih (fun other listed => each other (List.mem_cons_of_mem member listed)) _ holds

private theorem yields_readMembers
    (each : ∀ member ∈ record.members, ∀ draft, kept draft → Yields kept (member.read draft))
    (steps : Nat) (first : Bool) {draft : δ} (begun : kept draft) :
    Yields kept (record.readMembers steps first draft) := by
  induction steps generalizing first draft with
  | zero => exact yields_fail _
  | succ steps ih =>
      refine yields_then fun name => ?_
      split
      · exact yields_pure begun
      · split
        · exact yields_then fun _ => yields_then fun _ => ih false begun
        · rename_i member found
          refine yields_ite (fun _ => yields_refuse _) (yields_then fun _ => ?_)
          refine yields_bind (each member (List.mem_of_find?_eq_some found) draft begun) ?_
          exact fun next holds => ih false holds

/-- What every member keeps true of the draft is true of the draft that makes the record. -/
theorem yields_value (blank : kept record.blank)
    (each : ∀ member ∈ record.members, ∀ draft, kept draft → Yields kept (member.read draft))
    (complete : ∀ draft value, kept draft → record.complete draft = .ok value → property value) :
    Yields property record.value := by
  have completed : ∀ draft, kept draft → Yields property (record.completed draft) := by
    intro draft holds
    unfold Record.completed
    split
    · rename_i value made
      exact yields_pure (complete draft value holds made)
    · exact yields_refuse _
  refine yields_placed (yields_then fun next => ?_)
  split
  · exact yields_failAhead _
  · refine yields_then fun _ => yields_closedBy ?_ _
    exact yields_bind (yields_readElements each 0 blank) completed
  · refine yields_then fun _ => yields_closedBy ?_ _
    refine yields_bind (yields_bounded fun steps => ?_) completed
    exact yields_readMembers each steps true blank
  · exact yields_wrongKind _

end Record

end Bearer.Json
