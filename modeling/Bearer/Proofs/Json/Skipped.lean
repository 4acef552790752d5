import Bearer.Proofs.Json.Numeral

/-!
# Values read over

What is written here can be read over as well as read: a text is read over character by character,
as it is read, and an integer digit by digit. So an unknown member of an object is no obstacle:
`reads_skipValue_text` and `reads_skipValue_integer`.
-/

namespace Bearer.Json.Reading

private theorem on_skipTextBytes_bytes {bytes : List UInt8}
    (plain : ∀ byte ∈ bytes, IsPlain (Cursor.character byte)) (steps : Nat) (rest : List UInt8)
    (line column : Nat) :
    ∃ nextLine nextColumn,
      (skipTextBytes (bytes.length + steps)).on ⟨bytes ++ rest, line, column⟩ =
        (skipTextBytes steps).on ⟨rest, nextLine, nextColumn⟩ := by
  induction bytes generalizing line column with
  | nil => exact ⟨line, column, by simp⟩
  | cons byte bytes ih =>
      obtain ⟨noQuote, noBackslash, printable⟩ := plain byte List.mem_cons_self
      have left := Cursor.rest_advance ⟨byte :: (bytes ++ rest), line, column⟩
      rcases advanced : (⟨byte :: (bytes ++ rest), line, column⟩ : Cursor).advance with
        ⟨after, firstLine, firstColumn⟩
      rw [advanced] at left
      obtain rfl : after = bytes ++ rest := left
      obtain ⟨nextLine, nextColumn, later⟩ := ih
        (fun other member => plain other (List.mem_cons_of_mem byte member)) firstLine firstColumn
      refine ⟨nextLine, nextColumn, ?_⟩
      rw [List.length_cons, Nat.add_right_comm, List.cons_append, ← later, ← advanced,
        skipTextBytes]
      have ahead : peek.on ⟨byte :: (bytes ++ rest), line, column⟩ =
          (.ok (some (Cursor.character byte)), ⟨byte :: (bytes ++ rest), line, column⟩) := rfl
      rw [on_bind ahead]
      split
      · contradiction
      · rename_i quote
        exact absurd (Option.some.inj quote) noQuote
      · rename_i backslash
        exact absurd (Option.some.inj backslash) noBackslash
      · rename_i found
        cases found
        rw [if_neg (by omega)]
        rfl

private theorem reads_skipEscape_letter {letter character : Char}
    (known : escaped? letter = some character) : Reads Anything skipEscape [letter] () := by
  have token := isToken_of_escaped? known
  have short : letter ≠ 'u' := by
    rintro rfl
    cases known
  refine reads_peek token (reads_skip_then token ?_)
  rw [if_neg short, known]
  exact reads_pure ()

private theorem reads_skipEscape_unit {digits : List Char} {value : Nat}
    (named : unit? digits = some value) : Reads Anything skipEscape ('u' :: digits) () :=
  reads_peek isToken_u (reads_skip_then isToken_u
    (reads_return (fun _ => ()) (reads_unit named)))

private theorem on_skipTextBytes_escape {spelled : List Char}
    (escapes : Reads Anything skipEscape spelled ()) {steps room : Nat}
    (enough : (encoded ('\\' :: spelled)).length + room ≤ steps) (rest : List UInt8)
    (line column : Nat) :
    ∃ left nextLine nextColumn, room ≤ left ∧
      (skipTextBytes steps).on ⟨encoded ('\\' :: spelled) ++ rest, line, column⟩ =
        (skipTextBytes left).on ⟨rest, nextLine, nextColumn⟩ := by
  have backslash : (encoded ('\\' :: spelled)).length = 1 + (encoded spelled).length := by
    rw [encoded_cons, List.length_append]
    rfl
  obtain ⟨left, rfl⟩ : ∃ left, steps = left + 1 := ⟨steps - 1, by omega⟩
  obtain ⟨nextLine, nextColumn, escaped⟩ := escapes rest line (column + 1) trivial
  refine ⟨left, nextLine, nextColumn, by omega, ?_⟩
  exact on_bind escaped fun _ => skipTextBytes left

private theorem on_skipTextBytes_spelled {character : Char} {written : List Char}
    (spells : Spells character written) {steps room : Nat}
    (enough : (encoded written).length + room ≤ steps) (rest : List UInt8) (line column : Nat) :
    ∃ left nextLine nextColumn, room ≤ left ∧
      (skipTextBytes steps).on ⟨encoded written ++ rest, line, column⟩ =
        (skipTextBytes left).on ⟨rest, nextLine, nextColumn⟩ := by
  cases spells with
  | plain plain =>
      have bytes : encoded [character] = String.utf8EncodeChar character := by simp [encoded_cons]
      rw [bytes] at enough ⊢
      obtain ⟨nextLine, nextColumn, read⟩ := on_skipTextBytes_bytes
        (fun byte member => isPlain_of_mem plain member)
        (steps - (String.utf8EncodeChar character).length) rest line column
      refine ⟨steps - (String.utf8EncodeChar character).length, nextLine, nextColumn, by omega, ?_⟩
      rw [← read, Nat.add_sub_cancel' (by omega)]
  | letter known =>
      exact on_skipTextBytes_escape (reads_skipEscape_letter known) enough rest line column
  | unit named =>
      exact on_skipTextBytes_escape (reads_skipEscape_unit named) enough rest line column
  | @pair high low _ _ _ begun _ ended _ _ =>
      -- The two surrogates are read over one by one.
      have parted : '\\' :: 'u' :: (high ++ '\\' :: 'u' :: low) =
          '\\' :: 'u' :: high ++ '\\' :: 'u' :: low := rfl
      rw [parted, encoded_append] at enough ⊢
      rw [List.length_append, Nat.add_assoc] at enough
      obtain ⟨left, firstLine, firstColumn, enough, first⟩ := on_skipTextBytes_escape
        (reads_skipEscape_unit begun) enough (encoded ('\\' :: 'u' :: low) ++ rest) line column
      obtain ⟨left, nextLine, nextColumn, room, last⟩ := on_skipTextBytes_escape
        (reads_skipEscape_unit ended) enough rest firstLine firstColumn
      exact ⟨left, nextLine, nextColumn, room, by rw [List.append_assoc, first, last]⟩

private theorem reads_skipTextBytes {characters written : List Char}
    (spelled : Spelled characters written) {steps : Nat}
    (enough : (encoded (written ++ ['"'])).length ≤ steps) :
    Reads Anything (skipTextBytes steps) (written ++ ['"']) () := by
  intro rest line column _
  induction spelled generalizing steps line column with
  | nil =>
      have one : 1 ≤ steps := enough
      obtain ⟨left, rfl⟩ : ∃ left, steps = left + 1 := ⟨steps - 1, by omega⟩
      exact ⟨line, column + 1, rfl⟩
  | @cons character characters written later spells _ ih =>
      rw [List.append_assoc, encoded_append] at enough ⊢
      rw [List.length_append] at enough
      obtain ⟨left, firstLine, firstColumn, room, first⟩ := on_skipTextBytes_spelled spells
        enough (encoded (later ++ ['"']) ++ rest) line column
      obtain ⟨nextLine, nextColumn, last⟩ := ih room firstLine firstColumn
      exact ⟨nextLine, nextColumn, by rw [List.append_assoc, first, last]⟩

theorem reads_skipText {characters written : List Char} (spelled : Spelled characters written) :
    Reads Anything skipText (written ++ ['"']) () :=
  reads_bounded fun _ enough => reads_skipTextBytes spelled (Nat.le_of_lt enough)

private theorem reads_skipValue_of_within {follow : List UInt8 → Prop} {written : List Char}
    (reads : ∀ steps, Reads follow (skipValueWithin (steps + 1)) written ()) :
    Reads follow skipValue written () := by
  intro rest line column allowed
  exact reads _ rest line column allowed

/-- A written text is read over as a value. -/
theorem reads_skipValue_text (value : String) :
    Reads Anything skipValue (printText value) () := by
  refine reads_skipValue_of_within fun steps => ?_
  rw [skipValueWithin]
  refine reads_peekToken ⟨rfl, rfl, rfl⟩ ?_
  exact reads_then (reads_skip ⟨rfl, rfl, rfl⟩) (reads_skipText (spelled_flatMap value.toList))

/-- A written integer is read over as a value. -/
theorem reads_skipValue_integer (value : Int) :
    Reads NumberEnds skipValue (Decimal.ofInt value) () := by
  obtain ⟨first, digits, written, token, begins⟩ := ofInt_eq_cons value
  have read := reads_skipNumber value
  rw [written] at read ⊢
  refine reads_skipValue_of_within fun steps => ?_
  rw [skipValueWithin]
  refine reads_peekToken token ?_
  split
  · contradiction
  · rename_i letter
    exact absurd letter (ne_of_begins begins (by decide) rfl)
  · rename_i letter
    exact absurd letter (ne_of_begins begins (by decide) rfl)
  · rename_i letter
    exact absurd letter (ne_of_begins begins (by decide) rfl)
  · rename_i letter
    exact absurd letter (ne_of_begins begins (by decide) rfl)
  · rename_i letter
    exact absurd letter (ne_of_begins begins (by decide) rfl)
  · rename_i letter
    exact absurd letter (ne_of_begins begins (by decide) rfl)
  · rename_i found
    cases found
    rw [if_pos begins]
    exact read

end Bearer.Json.Reading
