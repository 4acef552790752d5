import Bearer.Json.Variant
import Bearer.Proofs.Json.Text

/-!
# Objects and lists laid out

The items of an object or a list stand behind one another, with gaps around the commas: `Laid`. The
writer leaves no gaps (`spellsObject_printObject`), others may, and may write the names of members
in ways of their own. What stands between the items is read here, and whole lists of items that
begin alike: `reads_listValue`.
-/

namespace Bearer.Json

open Reading (Gap gap_nil)

/-- What introduces the first item of an object or a list, or a later one. -/
inductive Introduces : Bool → List Char → Prop
  /-- A gap before the first item. -/
  | first {gap : List Char} (blank : Gap gap) : Introduces true gap
  /-- A comma between gaps before a later item. -/
  | later {before after : List Char} (ended : Gap before) (begun : Gap after) :
      Introduces false (before ++ ',' :: after)

/-- Items behind one another, up to the closing bracket or brace. -/
inductive Laid {α : Type} (spells : α → List Char → Prop) : Bool → List α → List Char → Prop
  /-- After the last item there may be a gap. -/
  | nil {first : Bool} {gap : List Char} (blank : Gap gap) : Laid spells first [] gap
  /-- An item is introduced, and the others follow it. -/
  | cons {first : Bool} {item : α} {items : List α} {lead written later : List Char}
      (introduced : Introduces first lead) (spelled : spells item written)
      (rest : Laid spells false items later) :
      Laid spells first (item :: items) (lead ++ (written ++ later))

/-- A member is written: its name in some way, a colon, and what stands behind the colon. -/
def SpellsMember (member : String × List Char) (written : List Char) : Prop :=
  ∃ name gap, SpellsText member.1 name ∧ Gap gap ∧ written = name ++ (gap ++ ':' :: member.2)

/-- A text stands behind a colon: after a gap, and written in some way. -/
def SpellsValue (value : String) (written : List Char) : Prop :=
  ∃ gap text, Gap gap ∧ SpellsText value text ∧ written = gap ++ text

/-- Members are written as an object. -/
def SpellsObject (members : List (String × List Char)) (written : List Char) : Prop :=
  ∃ inside, Laid SpellsMember true members inside ∧ written = '\x7b' :: (inside ++ ['\x7d'])

/-- Items are written as a list. -/
def SpellsList {α : Type} (spells : α → List Char → Prop) (items : List α)
    (written : List Char) : Prop :=
  ∃ inside, Laid spells true items inside ∧ written = '[' :: (inside ++ [']'])

theorem spellsMember_printMember (name : String) (value : List Char) :
    SpellsMember (name, value) (printMember name value) :=
  ⟨_, [], spellsText_printText name, gap_nil, rfl⟩

private theorem laid_intersperse (name : String) (written : List Char)
    (members : List (String × List Char)) {first : Bool} {lead : List Char}
    (introduced : Introduces first lead) :
    Laid SpellsMember first ((name, written) :: members)
      (lead ++ [','].intercalate ((name, written) :: members |>.map fun (name, value) =>
        printMember name value)) := by
  induction members generalizing name written first lead with
  | nil =>
      have ended : Laid SpellsMember false [] [] := .nil gap_nil
      have laid := Laid.cons introduced (spellsMember_printMember name written) ended
      simpa [List.intercalate] using laid
  | cons member members ih =>
      obtain ⟨nextName, nextWritten⟩ := member
      have later := ih nextName nextWritten (Introduces.later gap_nil gap_nil)
      have laid := Laid.cons introduced (spellsMember_printMember name written) later
      simpa [List.intercalate, List.intersperse_cons_cons] using laid

/-- The writer leaves no gaps. -/
theorem spellsObject_printObject (members : List (String × List Char)) :
    SpellsObject members (printObject members) := by
  refine ⟨_, ?_, rfl⟩
  cases members with
  | nil => exact .nil gap_nil
  | cons member members =>
      exact laid_intersperse member.1 member.2 members (.first gap_nil)

namespace Reading

variable {α β : Type} {follow : List UInt8 → Prop} {character : Char} {first : Bool}
  {lead gap : List Char}

/-- A character follows. -/
def Ahead (character : Char) (rest : List UInt8) : Prop :=
  ∃ later, rest = encoded [character] ++ later

/-- A closing brace follows. -/
def Closing (rest : List UInt8) : Prop :=
  Ahead '\x7d' rest

/-- A value is at an end: a gap, a comma or a closing brace follows. -/
def Delimited (rest : List UInt8) : Prop :=
  ∃ character, (Cursor.isGap character = true ∨ character = ',' ∨ character = '\x7d') ∧
    Ahead character rest

private theorem isToken_quote : IsToken '"' := ⟨rfl, rfl, rfl⟩

private theorem isToken_comma : IsToken ',' := ⟨rfl, rfl, rfl⟩

private theorem isToken_colon : IsToken ':' := ⟨rfl, rfl, rfl⟩

private theorem isToken_closeBrace : IsToken '\x7d' := ⟨rfl, rfl, rfl⟩

private theorem isToken_openBracket : IsToken '[' := ⟨rfl, rfl, rfl⟩

private theorem isToken_closeBracket : IsToken ']' := ⟨rfl, rfl, rfl⟩

theorem reads_peekToken_ahead {next : Option Char → Reading β} {result : β}
    (token : IsToken character) (ahead : ∀ rest, follow rest → Ahead character rest)
    (second : Reads follow (next (some character)) [] result) :
    Reads follow (peekToken >>= next) [] result := by
  intro rest line column allowed
  obtain ⟨nextLine, nextColumn, read⟩ := second rest line column allowed
  obtain ⟨later, rfl⟩ := ahead rest allowed
  rw [encoded_cons, encoded_nil, List.append_nil, List.nil_append] at read ⊢
  refine ⟨nextLine, nextColumn, ?_⟩
  rw [on_bind (on_peekToken token later line column), read]

/-- A text is read from its opening quote on, before what depends on it. -/
theorem reads_quoted {next : String → Reading β} {result : β} {value : String}
    {written : List Char} (spelled : SpellsText value written)
    (second : Reads follow (next value) [] result) :
    Reads follow (do skip; next (← text)) written result := by
  obtain ⟨inside, spelled, rfl⟩ := spelled
  rw [← List.append_nil (inside ++ ['"'])]
  exact reads_skip_then isToken_quote (reads_then (reads_text_of_spelled spelled) second)

theorem reads_textValue_of_spells {value : String} {written : List Char} (expected : String)
    (spelled : SpellsText value written) : Reads Anything (textValue expected) written value := by
  obtain ⟨inside, spelled, rfl⟩ := spelled
  exact reads_placed (reads_peekToken isToken_quote (reads_skip_then isToken_quote
    (reads_text_of_spelled spelled)))

theorem reads_textValue_of_value {value : String} {written : List Char} (expected : String)
    (spelled : SpellsValue value written) : Reads Anything (textValue expected) written value := by
  obtain ⟨gap, text, blank, spelled, rfl⟩ := spelled
  exact reads_after_gap (beginsAtToken_placed (beginsAtToken_peekToken _)) blank
    (reads_textValue_of_spells expected spelled)

theorem reads_textValue (expected value : String) :
    Reads Anything (textValue expected) (printText value) value :=
  reads_textValue_of_spells expected (spellsText_printText value)

/-- A written text is no null, so it is read where there may be a null. -/
theorem reads_optional_textValue (expected value : String) :
    Reads Anything (optional (textValue expected)) (printText value) (some value) :=
  reads_peekToken isToken_quote (reads_return some (reads_textValue expected value))

theorem reads_variant {choices : List (String × α)} {name : String} {choice : α}
    (known : choices.lookup name = some choice) :
    Reads Anything (variant choices) (printText name) choice := by
  refine reads_peekToken isToken_quote (reads_placed
    (reads_quoted (spellsText_printText name) ?_))
  rw [known]
  exact reads_pure choice

theorem reads_colon (blank : Gap gap) : Reads Anything colon (gap ++ [':']) () :=
  reads_after_gap (beginsAtToken_peekToken _) blank
    (reads_peekToken isToken_colon (reads_skip isToken_colon))

theorem reads_endObject : Reads Anything endObject ['\x7d'] () :=
  reads_peekToken isToken_closeBrace (reads_skip isToken_closeBrace)

private theorem reads_quotedName {name : String} {written : List Char}
    (spelled : SpellsText name written) :
    Reads Anything (do skip; return some (← text) : Reading (Option String)) written
      (some name) :=
  reads_quoted spelled (reads_pure (some name))

theorem reads_nextName {name : String} {written : List Char} (introduced : Introduces first lead)
    (spelled : SpellsText name written) :
    Reads Anything (nextName first) (lead ++ written) (some name) := by
  have named := reads_quotedName spelled
  obtain ⟨inside, -, rfl⟩ := spelled
  cases introduced with
  | first blank =>
      exact reads_after_gap (beginsAtToken_peekToken _) blank (reads_peekToken isToken_quote named)
  | later ended begun =>
      rw [List.append_assoc]
      refine reads_after_gap (beginsAtToken_peekToken _) ended ?_
      refine reads_peekToken isToken_comma (reads_skip_then isToken_comma ?_)
      exact reads_after_gap (beginsAtToken_peekToken _) begun (reads_peekToken isToken_quote named)

theorem reads_nextName_none (first : Bool) (blank : Gap gap) :
    Reads Closing (nextName first) gap none := by
  rw [← List.append_nil gap]
  exact reads_after_gap (beginsAtToken_peekToken _) blank
    (reads_peekToken_ahead isToken_closeBrace (fun _ closing => closing) (reads_pure none))

theorem reads_nextElement (token : IsToken character) (inside : character ≠ ']')
    (introduced : Introduces first lead) :
    Reads (Ahead character) (nextElement first) lead true := by
  cases introduced with
  | first blank =>
      rw [← List.append_nil lead]
      refine reads_after_gap (beginsAtToken_peekToken _) blank
        (reads_peekToken_ahead token (fun _ ahead => ahead) ?_)
      split
      · contradiction
      · rename_i closing
        exact absurd (Option.some.inj closing) inside
      · exact reads_pure true
  | @later before after ended begun =>
      refine reads_after_gap (beginsAtToken_peekToken _) ended ?_
      refine reads_peekToken isToken_comma (reads_skip_then isToken_comma ?_)
      rw [← List.append_nil after]
      refine reads_after_gap (beginsAtToken_peekToken _) begun
        (reads_peekToken_ahead token (fun _ ahead => ahead) ?_)
      split
      · contradiction
      · rename_i closing
        exact absurd (Option.some.inj closing) inside
      · exact reads_pure true

theorem reads_nextElement_none (first : Bool) (blank : Gap gap) :
    Reads (Ahead ']') (nextElement first) gap false := by
  rw [← List.append_nil gap]
  exact reads_after_gap (beginsAtToken_peekToken _) blank
    (reads_peekToken_ahead isToken_closeBracket (fun _ closing => closing) (reads_pure false))

section Elements

variable {spells : α → List Char → Prop} {element : Reading α} {items : List α}
  {written : List Char}

theorem reads_elements (token : IsToken character) (inside : character ≠ ']')
    (reads : ∀ item written, spells item written → Reads Anything element written item)
    (begins : ∀ item written, spells item written → ∃ later, written = character :: later)
    (laid : Laid spells first items written) (read : List α) {steps : Nat}
    (enough : (encoded written).length < steps) :
    Reads (Ahead ']') (elements element steps first read) written (items.reverse ++ read) := by
  induction laid generalizing read steps with
  | @nil first gap blank =>
      obtain ⟨left, rfl⟩ : ∃ left, steps = left + 1 := ⟨steps - 1, by omega⟩
      rw [elements, ← List.append_nil gap]
      exact reads_bind (reads_nextElement_none first blank) (reads_pure read) fun _ closing =>
        closing
  | @cons first item items lead written later introduced spelled rest ih =>
      obtain ⟨tail, rfl⟩ := begins item written spelled
      have one : 1 ≤ (encoded (character :: tail)).length := by
        rw [encoded_cons, token.1]
        exact Nat.le_add_left 1 _
      simp only [encoded_append, List.length_append] at enough
      obtain ⟨left, rfl⟩ : ∃ left, steps = left + 1 := ⟨steps - 1, by omega⟩
      have room : (encoded later).length < left := by omega
      have others := ih (item :: read) room
      rw [List.reverse_cons, List.append_assoc]
      refine reads_bind (reads_nextElement token inside introduced)
        (reads_then (reads item _ spelled) others) fun rest _ => ?_
      exact ⟨_, by rw [List.cons_append, ← List.singleton_append, encoded_append,
        List.append_assoc]⟩

/-- A list of elements that begin alike is read, however it is laid out. -/
theorem reads_listValue (token : IsToken character) (inside : character ≠ ']')
    (reads : ∀ item written, spells item written → Reads Anything element written item)
    (begins : ∀ item written, spells item written → ∃ later, written = character :: later)
    (spelled : SpellsList spells items written) (expected : String) :
    Reads Anything (listValue element expected) written items := by
  obtain ⟨content, laid, rfl⟩ := spelled
  have taken : Reads (Ahead ']') (bounded (elements element · true [])) content
      (items.reverse ++ []) :=
    reads_bounded fun _ enough => reads_elements token inside reads begins laid [] enough
  have closed : Reads Anything endList [']'] () :=
    reads_peekToken isToken_closeBracket (reads_skip isToken_closeBracket)
  refine reads_placed (reads_peekToken isToken_openBracket (reads_skip_then isToken_openBracket ?_))
  have read := reads_return List.reverse (reads_closedBy taken closed fun rest _ => ⟨rest, rfl⟩)
  rwa [List.append_nil, List.reverse_reverse] at read

theorem beginsAtToken_listValue (element : Reading α) (expected : String) :
    BeginsAtToken (listValue element expected) :=
  beginsAtToken_placed (beginsAtToken_peekToken _)

end Elements

end Reading

end Bearer.Json
