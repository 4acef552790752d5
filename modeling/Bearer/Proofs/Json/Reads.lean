import Bearer.Json.Printer
import Bearer.Json.Record

/-!
# Reading back what was written

`Reads follow reading written value` says that a reading takes exactly the written characters, gives
the value and leaves the rest alone, whatever the rest is among those that may follow. Readings in
sequence read texts in sequence (`reads_bind`); each form of reading has one lemma of its own.
-/

namespace Bearer.Json

/-- The bytes of some characters. -/
def encoded (written : List Char) : List UInt8 :=
  written.flatMap String.utf8EncodeChar

@[simp]
theorem encoded_nil : encoded [] = [] := rfl

@[simp]
theorem encoded_append (left right : List Char) :
    encoded (left ++ right) = encoded left ++ encoded right :=
  List.flatMap_append

theorem encoded_cons (character : Char) (written : List Char) :
    encoded (character :: written) = String.utf8EncodeChar character ++ encoded written := rfl

theorem bytes_eq_encoded (written : List Char) : Text.bytes (String.ofList written) =
    encoded written :=
  Text.bytes_ofList written

namespace Reading

variable {α β : Type}

/-- What a reading comes to at a cursor, and the cursor it leaves. -/
def on (reading : Reading α) (cursor : Cursor) : Except Fault α × Cursor :=
  reading.run.run cursor

@[simp]
theorem on_pure (value : α) (cursor : Cursor) :
    (pure value : Reading α).on cursor = (.ok value, cursor) := rfl

theorem on_bind {reading : Reading α} {cursor after : Cursor} {value : α}
    (read : reading.on cursor = (.ok value, after)) (next : α → Reading β) :
    (reading >>= next).on cursor = (next value).on after := by
  unfold on at read ⊢
  rw [ExceptT.run_bind, StateT.run_bind, read]
  rfl

/-- A reading takes the written characters and gives a value, before any rest that may follow. -/
def Reads (follow : List UInt8 → Prop) (reading : Reading α) (written : List Char) (value : α) :
    Prop :=
  ∀ rest line column, follow rest → ∃ nextLine nextColumn,
    reading.on ⟨encoded written ++ rest, line, column⟩ = (.ok value, ⟨rest, nextLine, nextColumn⟩)

/-- Anything may follow. -/
def Anything : List UInt8 → Prop := fun _ => True

variable {follow : List UInt8 → Prop} {reading : Reading α} {written : List Char} {value : α}

theorem reads_pure (value : α) : Reads follow (pure value) [] value :=
  fun _ line column _ => ⟨line, column, rfl⟩

/-- Readings in sequence read texts in sequence. -/
theorem reads_bind {middle : List UInt8 → Prop} {next : α → Reading β} {later : List Char}
    {result : β} (first : Reads middle reading written value)
    (second : Reads follow (next value) later result)
    (fits : ∀ rest, follow rest → middle (encoded later ++ rest)) :
    Reads follow (reading >>= next) (written ++ later) result := by
  intro rest line column allowed
  obtain ⟨firstLine, firstColumn, firstRead⟩ :=
    first (encoded later ++ rest) line column (fits rest allowed)
  obtain ⟨secondLine, secondColumn, secondRead⟩ := second rest firstLine firstColumn allowed
  refine ⟨secondLine, secondColumn, ?_⟩
  rw [encoded_append, List.append_assoc, on_bind firstRead, secondRead]

theorem reads_then {next : α → Reading β} {later : List Char} {result : β}
    (first : Reads Anything reading written value)
    (second : Reads follow (next value) later result) :
    Reads follow (reading >>= next) (written ++ later) result :=
  reads_bind first second fun _ _ => trivial

theorem reads_return (f : α → β) (reads : Reads follow reading written value) :
    Reads follow (do return f (← reading)) written (f value) := by
  intro rest line column allowed
  obtain ⟨nextLine, nextColumn, read⟩ := reads rest line column allowed
  exact ⟨nextLine, nextColumn, by rw [on_bind read]; rfl⟩

theorem reads_weaken {middle : List UInt8 → Prop} (reads : Reads middle reading written value)
    (fits : ∀ rest, follow rest → middle rest) : Reads follow reading written value :=
  fun rest line column allowed => reads rest line column (fits rest allowed)

/-- A character of one byte that is no gap. -/
def IsToken (character : Char) : Prop :=
  String.utf8EncodeChar character = [character.toNat.toUInt8] ∧
    Cursor.character character.toNat.toUInt8 = character ∧ Cursor.isGap character = false

theorem reads_peek {character : Char} {next : Option Char → Reading β} {result : β}
    {later : List Char} (token : IsToken character)
    (second : Reads follow (next (some character)) (character :: later) result) :
    Reads follow (peek >>= next) (character :: later) result := by
  intro rest line column allowed
  obtain ⟨nextLine, nextColumn, read⟩ := second rest line column allowed
  obtain ⟨single, back, -⟩ := token
  have ahead : peek.on ⟨encoded (character :: later) ++ rest, line, column⟩ =
      (.ok (some character), ⟨encoded (character :: later) ++ rest, line, column⟩) := by
    change (Except.ok (Cursor.next? _), _) = _
    simp [encoded_cons, single, Cursor.next?, back]
  exact ⟨nextLine, nextColumn, by rw [on_bind ahead, read]⟩

theorem on_peekToken {character : Char} (token : IsToken character) (later : List UInt8)
    (line column : Nat) :
    peekToken.on ⟨String.utf8EncodeChar character ++ later, line, column⟩ =
      (.ok (some character), ⟨String.utf8EncodeChar character ++ later, line, column⟩) := by
  obtain ⟨single, back, solid⟩ := token
  have noBreak : character ≠ '\n' := by
    rintro rfl
    exact absurd solid (by decide)
  change (Except.ok (Cursor.skipGaps _).next?, Cursor.skipGaps _) = _
  simp [single, Cursor.skipGaps, Cursor.atToken, back, solid, noBreak, Cursor.next?]

theorem reads_peekToken {character : Char} {next : Option Char → Reading β} {result : β}
    {later : List Char} (token : IsToken character)
    (second : Reads follow (next (some character)) (character :: later) result) :
    Reads follow (peekToken >>= next) (character :: later) result := by
  intro rest line column allowed
  obtain ⟨nextLine, nextColumn, read⟩ := second rest line column allowed
  refine ⟨nextLine, nextColumn, ?_⟩
  rw [encoded_cons, List.append_assoc] at read ⊢
  rw [on_bind (on_peekToken token _ line column), read]

theorem reads_skip {character : Char} (token : IsToken character) :
    Reads Anything skip [character] () := by
  intro rest line column _
  obtain ⟨single, back, solid⟩ := token
  have noBreak : character ≠ '\n' := by
    rintro rfl
    exact absurd solid (by decide)
  refine ⟨line, column + 1, ?_⟩
  change (Except.ok (), Cursor.advance _) = _
  simp [encoded_cons, single, Cursor.advance, back, noBreak]

theorem reads_skip_then {character : Char} {next : Unit → Reading β} {result : β}
    {later : List Char} (token : IsToken character)
    (second : Reads follow (next ()) later result) :
    Reads follow (skip >>= next) (character :: later) result :=
  reads_then (reads_skip token) second

theorem on_outcome (reading : Reading α) (cursor : Cursor) :
    (outcome reading).on cursor = (.ok (reading.on cursor).1, (reading.on cursor).2) := rfl

theorem reads_outcome (reads : Reads follow reading written value) :
    Reads follow (outcome reading) written (.ok value) := by
  intro rest line column allowed
  obtain ⟨nextLine, nextColumn, read⟩ := reads rest line column allowed
  exact ⟨nextLine, nextColumn, by rw [on_outcome, read]⟩

theorem reads_placed (reads : Reads follow reading written value) :
    Reads follow (placed reading) written value := by
  intro rest line column allowed
  obtain ⟨nextLine, nextColumn, tried⟩ := reads_outcome reads rest line column allowed
  refine ⟨nextLine, nextColumn, ?_⟩
  rw [placed, on_bind tried]
  rfl

theorem reads_closedBy {middle : List UInt8 → Prop} {closing : Reading Unit} {later : List Char}
    (content : Reads middle reading written value) (closes : Reads follow closing later ())
    (fits : ∀ rest, follow rest → middle (encoded later ++ rest)) :
    Reads follow (closedBy reading closing) (written ++ later) value := by
  intro rest line column allowed
  obtain ⟨firstLine, firstColumn, tried⟩ :=
    reads_outcome content (encoded later ++ rest) line column (fits rest allowed)
  obtain ⟨secondLine, secondColumn, closed⟩ :=
    reads_outcome closes rest firstLine firstColumn allowed
  refine ⟨secondLine, secondColumn, ?_⟩
  rw [encoded_append, List.append_assoc, closedBy, on_bind tried, on_bind closed]
  rfl

/-- A bounded reading gets more steps than the written bytes. -/
theorem reads_bounded {steps : Nat → Reading α}
    (reads : ∀ count, (encoded written).length < count → Reads follow (steps count) written value) :
    Reads follow (bounded steps) written value := by
  intro rest line column allowed
  have enough : (encoded written).length < (encoded written ++ rest).length + 1 := by
    rw [List.length_append]
    omega
  exact reads _ enough rest line column allowed

/-- Characters that may stand between two tokens. -/
def Gap (gap : List Char) : Prop :=
  ∀ character ∈ gap, Cursor.isGap character = true

theorem gap_nil : Gap [] := List.forall_mem_nil _

/-- A reading begins at the next token, whatever gap is before it. -/
def BeginsAtToken (reading : Reading α) : Prop :=
  ∀ {gap : List Char}, Gap gap → ∀ rest line column, ∃ nextLine nextColumn,
    reading.on ⟨encoded gap ++ rest, line, column⟩ = reading.on ⟨rest, nextLine, nextColumn⟩

private theorem skipGaps_gap {gap : List Char} (blank : Gap gap) (rest : List UInt8)
    (line column : Nat) : ∃ nextLine nextColumn,
      Cursor.skipGaps ⟨encoded gap ++ rest, line, column⟩ =
        Cursor.skipGaps ⟨rest, nextLine, nextColumn⟩ := by
  induction gap generalizing line column with
  | nil => exact ⟨line, column, rfl⟩
  | cons character gap ih =>
      have known := blank character List.mem_cons_self
      have later := ih fun other member => blank other (List.mem_cons_of_mem character member)
      simp only [Cursor.isGap, Bool.or_eq_true, decide_eq_true_eq] at known
      obtain ((rfl | rfl) | rfl) | rfl := known
      · exact later line (column + 1)
      · exact later (line + 1) 0
      · exact later line (column + 1)
      · exact later line (column + 1)

theorem beginsAtToken_peekToken (next : Option Char → Reading β) :
    BeginsAtToken (peekToken >>= next) := by
  intro gap blank rest line column
  obtain ⟨nextLine, nextColumn, skipped⟩ := skipGaps_gap blank rest line column
  have looked : ∀ cursor : Cursor, peekToken.on cursor =
      (.ok cursor.skipGaps.next?, cursor.skipGaps) := fun _ => rfl
  exact ⟨nextLine, nextColumn, by rw [on_bind (looked _), on_bind (looked _), skipped]⟩

theorem beginsAtToken_placed (begins : BeginsAtToken reading) : BeginsAtToken (placed reading) := by
  intro gap blank rest line column
  obtain ⟨nextLine, nextColumn, same⟩ := begins blank rest line column
  refine ⟨nextLine, nextColumn, ?_⟩
  rw [placed, on_bind (on_outcome _ _), on_bind (on_outcome _ _), same]

theorem reads_after_gap {gap : List Char} (begins : BeginsAtToken reading) (blank : Gap gap)
    (reads : Reads follow reading written value) :
    Reads follow reading (gap ++ written) value := by
  intro rest line column allowed
  obtain ⟨firstLine, firstColumn, same⟩ := begins blank (encoded written ++ rest) line column
  obtain ⟨nextLine, nextColumn, read⟩ := reads rest firstLine firstColumn allowed
  refine ⟨nextLine, nextColumn, ?_⟩
  rw [encoded_append, List.append_assoc, same, read]

theorem whole_eq_ok_of_gap {gap : List Char} (blank : Gap gap)
    (reads : Reads Anything reading written value) :
    whole reading (Text.bytes (String.ofList (written ++ gap))) = .ok value := by
  obtain ⟨line, column, read⟩ := reads (encoded gap) 1 0 trivial
  have begins : BeginsAtToken finish := beginsAtToken_peekToken _
  obtain ⟨lastLine, lastColumn, same⟩ := begins blank [] line column
  rw [List.append_nil] at same
  have finished : finish.on ⟨encoded gap, line, column⟩ = (.ok (), ⟨[], lastLine, lastColumn⟩) :=
    same
  have complete : (do let value ← reading; finish; return value : Reading α).on
      (Cursor.start (encoded written ++ encoded gap)) =
        (.ok value, ⟨[], lastLine, lastColumn⟩) := by
    rw [Cursor.start, on_bind read, on_bind finished, on_pure]
  rw [bytes_eq_encoded, encoded_append]
  exact congrArg Prod.fst complete

theorem whole_eq_ok (reads : Reads Anything reading written value) :
    whole reading (Text.bytes (String.ofList written)) = .ok value := by
  have whole := whole_eq_ok_of_gap gap_nil reads
  rwa [List.append_nil] at whole

end Reading

end Bearer.Json
