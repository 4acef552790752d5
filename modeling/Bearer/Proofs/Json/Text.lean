import Bearer.Proofs.Json.Reads
import Mathlib.Data.List.Basic
import Mathlib.Tactic.IntervalCases

/-!
# Texts inside JSON read back

A character can be written inside a text in many ways: `Spells` has them all, and the writer chooses
one (`spells_printCharacter`). The reader takes a written text byte by byte. What one character
contributes, however it is written, is `on_textBytes_spelled`; from it `reads_textBytes` follows by
induction on the characters, and `reads_text` reads a whole text.
-/

namespace Bearer.Json

/-- Whether a character is written by its bytes alone. -/
def IsPlain (character : Char) : Prop :=
  character ≠ '"' ∧ character ≠ '\\' ∧ 0x20 ≤ character.toNat

private theorem le_or_right {bits mark : UInt8} (high : 0x80 ≤ mark.toNat) :
    0x80 ≤ (bits ||| mark).toNat := by
  rw [UInt8.toNat_or]
  exact Nat.le_trans high Nat.right_le_or

theorem le_toNat_of_mem_utf8EncodeChar {character : Char} (several : character.utf8Size ≠ 1)
    {byte : UInt8} (member : byte ∈ String.utf8EncodeChar character) : 0x80 ≤ byte.toNat := by
  rcases Char.utf8Size_eq character with one | two | three | four
  · exact absurd one several
  · rw [String.utf8EncodeChar_eq_cons_cons two] at member
    simp only [List.mem_cons, List.not_mem_nil, or_false] at member
    rcases member with rfl | rfl <;> exact le_or_right (by decide)
  · rw [String.utf8EncodeChar_eq_cons_cons_cons three] at member
    simp only [List.mem_cons, List.not_mem_nil, or_false] at member
    rcases member with rfl | rfl | rfl <;> exact le_or_right (by decide)
  · rw [String.utf8EncodeChar_eq_cons_cons_cons_cons four] at member
    simp only [List.mem_cons, List.not_mem_nil, or_false] at member
    rcases member with rfl | rfl | rfl | rfl <;> exact le_or_right (by decide)

theorem toNat_character (byte : UInt8) : (Cursor.character byte).toNat = byte.toNat := by
  have small : byte.toNat < 256 := byte.toNat_lt
  have valid : byte.toNat.isValidChar := .inl (by omega)
  rw [Cursor.character, Char.ofNat, dif_pos valid]
  rfl

theorem character_of_utf8Size {character : Char} (one : character.utf8Size = 1) :
    String.utf8EncodeChar character = [character.val.toUInt8] ∧
      Cursor.character character.val.toUInt8 = character := by
  refine ⟨String.utf8EncodeChar_eq_singleton one, ?_⟩
  have small : character.val.toNat ≤ 127 := Char.utf8Size_eq_one_iff.1 one
  apply Char.ext
  apply UInt32.toNat_inj.1
  have kept : character.val.toUInt8.toNat = character.val.toNat := by
    rw [UInt32.toNat_toUInt8]
    exact Nat.mod_eq_of_lt (by omega)
  exact (toNat_character _).trans kept

theorem isPlain_of_mem {character : Char} (plain : IsPlain character) {byte : UInt8}
    (member : byte ∈ String.utf8EncodeChar character) : IsPlain (Cursor.character byte) := by
  by_cases one : character.utf8Size = 1
  · obtain ⟨single, same⟩ := character_of_utf8Size one
    rw [single, List.mem_singleton] at member
    rwa [member, same]
  · have high := le_toNat_of_mem_utf8EncodeChar one member
    have code := toNat_character byte
    refine ⟨?_, ?_, by omega⟩
    · rintro quote
      rw [quote] at code
      exact absurd (code ▸ high) (by decide)
    · rintro backslash
      rw [backslash] at code
      exact absurd (code ▸ high) (by decide)

/-- The UTF-16 unit that four hexadecimal digits name. -/
def unit? (digits : List Char) : Option Nat :=
  if digits.length = 4 then
    (digits.mapM Hex.value?).map fun values =>
      values.foldl (fun value digit => value * 16 + digit) 0
  else none

/-- The ways to write a character inside a text. -/
inductive Spells : Char → List Char → Prop
  /-- As it is. -/
  | plain {character : Char} (plain : IsPlain character) : Spells character [character]
  /-- By an escape of one letter. -/
  | letter {letter character : Char} (known : escaped? letter = some character) :
      Spells character ['\\', letter]
  /-- By its number. -/
  | unit {digits : List Char} {character : Char} (named : unit? digits = some character.toNat) :
      Spells character ('\\' :: 'u' :: digits)
  /-- By the numbers of two surrogates. -/
  | pair {high low : List Char} {first second : Nat} {character : Char}
      (begun : unit? high = some first) (leads : isHighSurrogate first = true)
      (ended : unit? low = some second) (trails : isLowSurrogate second = true)
      (same : ofSurrogates first second = character.toNat) :
      Spells character ('\\' :: 'u' :: (high ++ '\\' :: 'u' :: low))

/-- The ways to write some characters inside a text. -/
inductive Spelled : List Char → List Char → Prop
  /-- No characters are written by none. -/
  | nil : Spelled [] []
  /-- Each character is written in a way of its own. -/
  | cons {character : Char} {characters written later : List Char}
      (first : Spells character written) (rest : Spelled characters later) :
      Spelled (character :: characters) (written ++ later)

/-- The ways to write a text between quotes. -/
def SpellsText (value : String) (written : List Char) : Prop :=
  ∃ inside, Spelled value.toList inside ∧ written = '"' :: (inside ++ ['"'])

private theorem unit?_pair {code : Nat} (control : code < 0x20) :
    unit? ('0' :: '0' :: Hex.pair code.toUInt8) = some code := by
  interval_cases code <;> rfl

/-- The writer chooses one of the ways. -/
theorem spells_printCharacter (character : Char) :
    Spells character (printCharacter character) := by
  unfold printCharacter
  split
  · exact .letter rfl
  · exact .letter rfl
  · exact .letter rfl
  · exact .letter rfl
  · exact .letter rfl
  · exact .letter rfl
  · exact .letter rfl
  · rename_i noQuote noBackslash _ _ _ _ _
    split
    · rename_i control
      exact .unit (unit?_pair control)
    · rename_i printable
      exact .plain ⟨noQuote, noBackslash, by omega⟩

theorem spelled_flatMap (characters : List Char) :
    Spelled characters (characters.flatMap printCharacter) := by
  induction characters with
  | nil => exact .nil
  | cons character characters ih => exact .cons (spells_printCharacter character) ih

theorem spellsText_printText (value : String) : SpellsText value (printText value) :=
  ⟨_, spelled_flatMap value.toList, rfl⟩

namespace Reading

variable {β : Type} {follow : List UInt8 → Prop} {result : β}

private theorem on_textBytes (steps : Nat) (read rest : List UInt8) (byte : UInt8)
    (line column : Nat) :
    ∃ nextLine nextColumn, (textBytes (steps + 1) read).on ⟨byte :: rest, line, column⟩ =
      (match Cursor.character byte with
        | '"' => pure read
        | '\\' => do textBytes steps ((← escape).reverse ++ read)
        | character =>
          if character.toNat < 0x20 then fail .controlCharacter
          else textBytes steps (byte :: read) : Reading (List UInt8)).on
            ⟨rest, nextLine, nextColumn⟩ := by
  by_cases broken : Cursor.character byte = '\n'
  · refine ⟨line + 1, 0, ?_⟩
    have advanced : (⟨byte :: rest, line, column⟩ : Cursor).advance = ⟨rest, line + 1, 0⟩ :=
      if_pos broken
    rw [← advanced]
    rfl
  · refine ⟨line, column + 1, ?_⟩
    have advanced : (⟨byte :: rest, line, column⟩ : Cursor).advance = ⟨rest, line, column + 1⟩ :=
      if_neg broken
    rw [← advanced]
    rfl

private theorem on_textBytes_byte {byte : UInt8} (plain : IsPlain (Cursor.character byte))
    (steps : Nat) (read rest : List UInt8) (line column : Nat) :
    ∃ nextLine nextColumn, (textBytes (steps + 1) read).on ⟨byte :: rest, line, column⟩ =
      (textBytes steps (byte :: read)).on ⟨rest, nextLine, nextColumn⟩ := by
  obtain ⟨noQuote, noBackslash, printable⟩ := plain
  obtain ⟨nextLine, nextColumn, stepped⟩ := on_textBytes steps read rest byte line column
  refine ⟨nextLine, nextColumn, stepped.trans ?_⟩
  split
  · contradiction
  · contradiction
  · rw [if_neg (by omega)]

private theorem on_textBytes_bytes {bytes : List UInt8}
    (plain : ∀ byte ∈ bytes, IsPlain (Cursor.character byte)) (steps : Nat)
    (read rest : List UInt8) (line column : Nat) :
    ∃ nextLine nextColumn,
      (textBytes (bytes.length + steps) read).on ⟨bytes ++ rest, line, column⟩ =
        (textBytes steps (bytes.reverse ++ read)).on ⟨rest, nextLine, nextColumn⟩ := by
  induction bytes generalizing read line column with
  | nil => exact ⟨line, column, by simp⟩
  | cons byte bytes ih =>
      obtain ⟨firstLine, firstColumn, first⟩ := on_textBytes_byte
        (plain byte List.mem_cons_self) (bytes.length + steps) read (bytes ++ rest) line column
      obtain ⟨nextLine, nextColumn, later⟩ :=
        ih (fun other member => plain other (List.mem_cons_of_mem byte member)) (byte :: read)
          firstLine firstColumn
      refine ⟨nextLine, nextColumn, ?_⟩
      rw [List.length_cons, Nat.add_right_comm, List.cons_append, first, later]
      simp

private theorem on_textBytes_escape {spelled : List Char} {bytes : List UInt8}
    (escapes : Reads Anything escape spelled bytes) (steps : Nat) (read rest : List UInt8)
    (line column : Nat) :
    ∃ nextLine nextColumn,
      (textBytes (steps + 1) read).on ⟨encoded ('\\' :: spelled) ++ rest, line, column⟩ =
        (textBytes steps (bytes.reverse ++ read)).on ⟨rest, nextLine, nextColumn⟩ := by
  obtain ⟨firstLine, firstColumn, first⟩ :=
    on_textBytes steps read (encoded spelled ++ rest) 0x5c line column
  obtain ⟨nextLine, nextColumn, escaped⟩ := escapes rest firstLine firstColumn trivial
  refine ⟨nextLine, nextColumn, first.trans ?_⟩
  exact on_bind escaped _

theorem isToken_of_between {character : Char} (above : 0x20 < character.toNat)
    (below : character.toNat < 0x80) : IsToken character := by
  have one : character.utf8Size = 1 := Char.utf8Size_eq_one_iff.2 (by
    rw [UInt32.le_iff_toNat_le]
    exact Nat.le_of_lt_succ below)
  obtain ⟨single, back⟩ := character_of_utf8Size one
  refine ⟨single, back, ?_⟩
  have apart : ∀ gap : Char, gap.toNat ≤ 0x20 → character ≠ gap := by
    rintro gap low rfl
    omega
  simp [Cursor.isGap, apart]

theorem isToken_of_escaped? {letter character : Char}
    (known : escaped? letter = some character) : IsToken letter := by
  unfold escaped? at known
  split at known
  iterate 8 exact ⟨rfl, rfl, rfl⟩
  cases known

private theorem isToken_of_value? {digit : Char} {value : Nat}
    (known : Hex.value? digit = some value) : IsToken digit := by
  have range : ∀ {first last : Char}, 0x20 < first.toNat → last.toNat < 0x80 →
      first ≤ digit ∧ digit ≤ last → IsToken digit := by
    rintro first last above below ⟨least, most⟩
    exact isToken_of_between (Nat.lt_of_lt_of_le above least) (Nat.lt_of_le_of_lt most below)
  unfold Hex.value? at known
  split at known
  · rename_i between
    exact range (by decide) (by decide) between
  · split at known
    · rename_i between
      exact range (by decide) (by decide) between
    · split at known
      · rename_i between
        exact range (by decide) (by decide) between
      · cases known

private theorem isToken_of_mapM {digits : List Char} {values : List Nat}
    (mapped : digits.mapM Hex.value? = some values) :
    ∀ digit ∈ digits, IsToken digit := by
  induction digits generalizing values with
  | nil => exact List.forall_mem_nil _
  | cons digit digits ih =>
      simp only [List.mapM_cons, Option.bind_eq_bind, Option.bind_eq_some_iff, Option.pure_def,
        Option.some.injEq] at mapped
      obtain ⟨value, first, later, rest, -⟩ := mapped
      exact List.forall_mem_cons.2 ⟨isToken_of_value? first, ih rest⟩

private theorem on_unit {first second third fourth : UInt8} {values : List Nat}
    (mapped : [first, second, third, fourth].mapM
      (fun byte => Hex.value? (Cursor.character byte)) = some values)
    (rest : List UInt8) (line column : Nat) : ∃ nextLine nextColumn,
      unit.on ⟨first :: second :: third :: fourth :: rest, line, column⟩ =
        (.ok (values.foldl (fun value digit => value * 16 + digit) 0),
          ⟨rest, nextLine, nextColumn⟩) := by
  have stored : ∀ before after : Cursor, (set after : Reading Unit).on before = (.ok (), after) :=
    fun _ _ => rfl
  rcases reached : (⟨first :: second :: third :: fourth :: rest, line, column⟩ :
    Cursor).advanceBy 4 with ⟨left, nextLine, nextColumn⟩
  obtain rfl : left = rest := by
    have left := congrArg Cursor.rest reached
    simpa [Cursor.advanceBy] using left.symm
  refine ⟨nextLine, nextColumn, ?_⟩
  have got : ∀ cursor : Cursor, (get : Reading Cursor).on cursor = (.ok cursor, cursor) :=
    fun _ => rfl
  rw [unit, on_bind (got _)]
  dsimp only
  rw [reached, on_bind (stored _ _), mapped]
  rfl

theorem reads_unit {digits : List Char} {value : Nat} (named : unit? digits = some value) :
    Reads Anything unit digits value := by
  rw [unit?] at named
  split at named
  · rename_i four
    obtain ⟨values, mapped, rfl⟩ := Option.map_eq_some_iff.1 named
    obtain ⟨first, second, third, fourth, rfl⟩ := List.length_eq_four.1 four
    have tokens := isToken_of_mapM mapped
    simp only [List.forall_mem_cons] at tokens
    obtain ⟨⟨firstByte, firstBack, -⟩, ⟨secondByte, secondBack, -⟩, ⟨thirdByte, thirdBack, -⟩,
      ⟨fourthByte, fourthBack, -⟩, -⟩ := tokens
    intro rest line column _
    simp only [encoded_cons, encoded_nil, firstByte, secondByte, thirdByte, fourthByte,
      List.cons_append, List.nil_append]
    refine on_unit ?_ rest line column
    simpa only [List.mapM_cons, List.mapM_nil, firstBack, secondBack, thirdBack, fourthBack]
      using mapped
  · cases named

private theorem isToken_backslash : IsToken '\\' := ⟨rfl, rfl, rfl⟩

theorem isToken_u : IsToken 'u' := ⟨rfl, rfl, rfl⟩

private theorem reads_expected_then {byte : Char} {next : Unit → Reading β} {later : List Char}
    (token : IsToken byte) (second : Reads follow (next ()) later result) :
    Reads follow (expected byte >>= next) (byte :: later) result := by
  have taken : Reads Anything (expected byte) [byte] () := by
    refine reads_peek token (reads_skip_then token ?_)
    rw [if_neg (not_not_intro rfl)]
    exact reads_pure ()
  exact reads_then taken second

private theorem codePointBytes_toNat (character : Char) :
    Text.codePointBytes character.toNat = String.utf8EncodeChar character := by
  have valid : character.toNat.isValidChar := character.valid
  rw [Text.codePointBytes, dif_pos valid]
  rfl

private theorem surrogate_apart {unit : Nat} (leads : isHighSurrogate unit = true) :
    isLowSurrogate unit = false := by
  simp only [isHighSurrogate, isLowSurrogate, Bool.and_eq_true, decide_eq_true_eq,
    Bool.and_eq_false_iff, decide_eq_false_iff_not] at leads ⊢
  omega

private theorem no_surrogate (character : Char) :
    isLowSurrogate character.toNat = false ∧ isHighSurrogate character.toNat = false := by
  have valid : character.toNat < 0xD800 ∨ 0xDFFF < character.toNat ∧ character.toNat < 0x110000 :=
    character.valid
  simp only [isHighSurrogate, isLowSurrogate, Bool.and_eq_false_iff, decide_eq_false_iff_not]
  omega

private theorem reads_codePoint_unit {digits : List Char} {character : Char}
    (named : unit? digits = some character.toNat) :
    Reads Anything codePoint digits character.toNat := by
  obtain ⟨notLow, notHigh⟩ := no_surrogate character
  rw [← List.append_nil digits]
  refine reads_then (reads_unit named) ?_
  rw [notLow, notHigh]
  exact reads_pure _

private theorem reads_codePoint_pair {high low : List Char} {first second : Nat}
    (begun : unit? high = some first) (leads : isHighSurrogate first = true)
    (ended : unit? low = some second) (trails : isLowSurrogate second = true) :
    Reads Anything codePoint (high ++ '\\' :: 'u' :: low) (ofSurrogates first second) := by
  refine reads_then (reads_unit begun) ?_
  rw [surrogate_apart leads, leads]
  refine reads_expected_then isToken_backslash (reads_expected_then isToken_u ?_)
  rw [← List.append_nil low]
  refine reads_then (reads_unit ended) ?_
  rw [trails]
  exact reads_pure _

private theorem reads_escape_letter {letter character : Char}
    (known : escaped? letter = some character) :
    Reads Anything escape [letter] (String.utf8EncodeChar character) := by
  have token := isToken_of_escaped? known
  refine reads_peek token (reads_skip_then token ?_)
  rw [known]
  exact reads_pure _

private theorem reads_escape_codePoint {written : List Char} {character : Char}
    (reads : Reads Anything codePoint written character.toNat) :
    Reads Anything escape ('u' :: written) (String.utf8EncodeChar character) := by
  rw [← codePointBytes_toNat]
  exact reads_peek isToken_u (reads_skip_then isToken_u
    (reads_return Text.codePointBytes reads))

private theorem escape_or_plain {character : Char} {written : List Char}
    (spells : Spells character written) :
    (∃ spelled, written = '\\' :: spelled ∧
      Reads Anything escape spelled (String.utf8EncodeChar character)) ∨
    (written = [character] ∧ IsPlain character) := by
  cases spells with
  | plain plain => exact .inr ⟨rfl, plain⟩
  | letter known => exact .inl ⟨_, rfl, reads_escape_letter known⟩
  | unit named => exact .inl ⟨_, rfl, reads_escape_codePoint (reads_codePoint_unit named)⟩
  | pair begun leads ended trails same =>
      refine .inl ⟨_, rfl, reads_escape_codePoint ?_⟩
      rw [← same]
      exact reads_codePoint_pair begun leads ended trails

/-! ## Texts -/

/-- What a character contributes to a written text is read as its bytes. -/
theorem on_textBytes_spelled {character : Char} {written : List Char}
    (spells : Spells character written) {steps room : Nat}
    (enough : (encoded written).length + room ≤ steps) (read rest : List UInt8)
    (line column : Nat) :
    ∃ left nextLine nextColumn, room ≤ left ∧
      (textBytes steps read).on ⟨encoded written ++ rest, line, column⟩ =
        (textBytes left ((String.utf8EncodeChar character).reverse ++ read)).on
          ⟨rest, nextLine, nextColumn⟩ := by
  rcases escape_or_plain spells with ⟨spelled, rfl, escapes⟩ | ⟨rfl, plain⟩
  · have backslash : (encoded ('\\' :: spelled)).length = 1 + (encoded spelled).length := by
      rw [encoded_cons, List.length_append]
      rfl
    obtain ⟨left, rfl⟩ : ∃ left, steps = left + 1 := ⟨steps - 1, by omega⟩
    obtain ⟨nextLine, nextColumn, read⟩ :=
      on_textBytes_escape escapes left read rest line column
    exact ⟨left, nextLine, nextColumn, by omega, read⟩
  · have bytes : encoded [character] = String.utf8EncodeChar character := by simp [encoded_cons]
    rw [bytes] at enough ⊢
    obtain ⟨nextLine, nextColumn, read⟩ := on_textBytes_bytes
      (fun byte member => isPlain_of_mem plain member)
      (steps - (String.utf8EncodeChar character).length) read rest line column
    refine ⟨steps - (String.utf8EncodeChar character).length, nextLine, nextColumn, by omega, ?_⟩
    rw [← read, Nat.add_sub_cancel' (by omega)]

/-- The characters of a text up to its closing quote are read as their bytes. -/
theorem reads_textBytes {characters written : List Char} (spelled : Spelled characters written)
    (read : List UInt8) {steps : Nat} (enough : (encoded (written ++ ['"'])).length ≤ steps) :
    Reads Anything (textBytes steps read) (written ++ ['"'])
      ((encoded characters).reverse ++ read) := by
  intro rest line column _
  induction spelled generalizing read steps line column with
  | nil =>
      have one : 1 ≤ steps := enough
      obtain ⟨left, rfl⟩ : ∃ left, steps = left + 1 := ⟨steps - 1, by omega⟩
      exact on_textBytes left read rest 0x22 line column
  | @cons character characters written later spells _ ih =>
      rw [List.append_assoc, encoded_append] at enough ⊢
      rw [List.length_append] at enough
      obtain ⟨left, firstLine, firstColumn, room, first⟩ := on_textBytes_spelled spells
        enough read (encoded (later ++ ['"']) ++ rest) line column
      obtain ⟨nextLine, nextColumn, last⟩ :=
        ih ((String.utf8EncodeChar character).reverse ++ read) room firstLine firstColumn
      refine ⟨nextLine, nextColumn, ?_⟩
      rw [List.append_assoc, first, last, encoded_cons, List.reverse_append, List.append_assoc]

theorem reads_text_of_spelled {value : String} {written : List Char}
    (spelled : Spelled value.toList written) : Reads Anything text (written ++ ['"']) value := by
  have collected : Reads Anything (bounded (textBytes · [])) (written ++ ['"'])
      ((encoded value.toList).reverse ++ []) :=
    reads_bounded fun count enough => reads_textBytes spelled [] (Nat.le_of_lt enough)
  have whole : Text.ofBytes? (encoded value.toList) = some value := by
    rw [← bytes_eq_encoded, String.ofList_toList, Text.ofBytes?_bytes]
  intro rest line column _
  obtain ⟨nextLine, nextColumn, read⟩ := collected rest line column trivial
  refine ⟨nextLine, nextColumn, ?_⟩
  rw [text, on_bind read]
  simp [whole]

/-- A written text is read back after its opening quote. -/
theorem reads_text (value : String) :
    Reads Anything text (value.toList.flatMap printCharacter ++ ['"']) value :=
  reads_text_of_spelled (spelled_flatMap value.toList)

end Reading

end Bearer.Json
