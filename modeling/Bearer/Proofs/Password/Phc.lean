import Bearer.Password.Phc
import Bearer.Proofs.Text.Base64
import Bearer.Proofs.Text.Decimal
import Bearer.Proofs.Token.Segments

/-!
# Password hashes are read as they are written

Between the marks `$`, `=` and `,` a written password hash has letters, figures and four other
characters, which no mark is among. So every level of the reader undoes the level of the writer:
parameters, their list, the salt and the hash, and the whole. A text is read as a hash exactly if
the hash is one that can be written and the text is what it is written as: `parse?_eq_some_iff`.
-/

namespace Bearer.Password.Phc

open Base64 (standardUnpadded)

/-- A text in which no mark stands. -/
def IsPlain (text : List Char) : Prop :=
  ∀ character ∈ text, isValueCharacter character = true

variable {text : List Char}

theorem IsPlain.not_mem (plain : IsPlain text) {mark : Char}
    (foul : isValueCharacter mark = false) : mark ∉ text :=
  fun member => Bool.false_ne_true (foul.symm.trans (plain mark member))

theorem isPlain_of_isValue (valued : isValue text = true) : IsPlain text :=
  List.all_eq_true.1 (Bool.and_eq_true_iff.1 valued).2

theorem isPlain_of_isName (named : isName text = true) : IsPlain text := by
  intro character member
  have known := List.all_eq_true.1 (Bool.and_eq_true_iff.1 named).2 character member
  simp only [isNameCharacter, Bool.or_eq_true, decide_eq_true_eq] at known
  have letter : character.isAlpha = (character.isUpper || character.isLower) := rfl
  simp only [isValueCharacter, Char.isAlphanum, letter, Bool.or_eq_true, decide_eq_true_eq]
  rcases known with (lower | digit) | dash
  · simp [lower]
  · simp [digit]
  · simp [dash]

theorem isPlain_encode (bytes : List UInt8) : IsPlain (Base64.encode standardUnpadded bytes) := by
  have known : ∀ value < 64, isValueCharacter (standardUnpadded.digit value) = true := by decide
  intro character member
  obtain ⟨value, inside, rfl⟩ := List.mem_map.1 member
  exact known value (Base64.lt_of_mem_sextets inside)

theorem isPlain_ofNat (value : Nat) : IsPlain (Decimal.ofNat value) := by
  intro character member
  have digit : character.isDigit = true := Decimal.isDigit_of_mem_ofNat member
  simp [isValueCharacter, Char.isAlphanum, digit]

theorem decimal?_eq_some_iff {value : Nat} :
    decimal? text = some value ↔ value < Number.bound32 ∧ text = Decimal.ofNat value := by
  constructor
  · intro read
    unfold decimal? at read
    split at read
    · cases read
    · rename_i leading
      obtain ⟨found, small⟩ := Option.filter_eq_some_iff.1 read
      unfold Decimal.natural? at found
      split at found
      · rename_i sound
        cases found
        refine ⟨of_decide_eq_true small, (Decimal.ofNat_ofDigitChars sound.1 ?_ ?_).symm⟩
        · exact List.all_eq_true.1 sound.2
        · exact fun long zero => leading ⟨long, zero⟩
      · cases found
  · rintro ⟨small, rfl⟩
    have leading : ¬((Decimal.ofNat value).length ≠ 1 ∧
        (Decimal.ofNat value).head? = some '0') := by
      obtain ⟨first, digits, written, alone⟩ := Decimal.ofNat_eq_cons value
      rw [written]
      rintro ⟨long, zero⟩
      obtain rfl : first = '0' := Option.some.inj zero
      exact long (by rw [alone rfl]; rfl)
    rw [decimal?, if_neg leading, Decimal.natural?_ofNat]
    exact Option.filter_some_pos (decide_eq_true small)

theorem isValue_ofNat {value : Nat} (small : value < Number.bound32) :
    isValue (Decimal.ofNat value) = true := by
  have short : (Decimal.ofNat value).length ≤ 10 :=
    (Nat.length_toDigits_le_iff (by decide) (by decide)).2 (Nat.lt_trans small (by decide))
  rw [isValue, Bool.and_eq_true, decide_eq_true_eq]
  exact ⟨Nat.le_trans short (by decide), List.all_eq_true.2 (isPlain_ofNat value)⟩

/-- A parameter that can be written. -/
def IsParameter (parameter : List Char × List Char) : Prop :=
  isName parameter.1 = true ∧ isValue parameter.2 = true

instance (parameter : List Char × List Char) : Decidable (IsParameter parameter) :=
  inferInstanceAs (Decidable (_ ∧ _))

theorem parameter?_eq_some_iff {parameter : List Char × List Char} :
    parameter? text = some parameter ↔
      IsParameter parameter ∧ text = printParameter parameter := by
  have joined : ∀ name value : List Char,
      ['='].intercalate [name, value] = printParameter (name, value) := by
    simp [List.intercalate, printParameter]
  constructor
  · intro read
    unfold parameter? at read
    split at read
    · rename_i name value parted
      split at read
      · rename_i sound
        cases read
        obtain ⟨same, -⟩ := (Token.Segments.splitOn_eq_iff (List.cons_ne_nil _ _)).1 parted
        exact ⟨Bool.and_eq_true_iff.1 sound, by rw [← same, joined]⟩
      · cases read
    · cases read
  · obtain ⟨name, value⟩ := parameter
    rintro ⟨⟨named, valued⟩, rfl⟩
    have parted : (printParameter (name, value)).splitOn '=' = [name, value] := by
      refine (Token.Segments.splitOn_eq_iff (List.cons_ne_nil _ _)).2 ⟨joined name value, ?_⟩
      refine List.forall_mem_cons.2 ⟨(isPlain_of_isName named).not_mem rfl, ?_⟩
      exact List.forall_mem_singleton.2 ((isPlain_of_isValue valued).not_mem rfl)
    rw [parameter?, parted]
    exact if_pos (Bool.and_eq_true_iff.2 ⟨named, valued⟩)

private theorem mapM_parameter?_eq_some_iff {texts : List (List Char)}
    {parameters : List (List Char × List Char)} :
    texts.mapM parameter? = some parameters ↔
      (∀ parameter ∈ parameters, IsParameter parameter) ∧
        texts = parameters.map printParameter := by
  induction texts generalizing parameters with
  | nil => cases parameters <;> simp
  | cons text texts ih =>
      simp only [List.mapM_cons, Option.bind_eq_bind, Option.bind_eq_some_iff, Option.pure_def,
        Option.some.injEq, parameter?_eq_some_iff, ih]
      constructor
      · rintro ⟨parameter, ⟨sound, rfl⟩, parameters, ⟨sounds, rfl⟩, rfl⟩
        exact ⟨List.forall_mem_cons.2 ⟨sound, sounds⟩, rfl⟩
      · rintro ⟨sounds, written⟩
        obtain ⟨parameter, parameters, rfl, same, rest⟩ := List.map_eq_cons_iff.1 written.symm
        obtain ⟨sound, sounds⟩ := List.forall_mem_cons.1 sounds
        exact ⟨parameter, ⟨sound, same.symm⟩, parameters, ⟨sounds, rest.symm⟩, rfl⟩

/-- The written parameters, separated by commas. -/
def printParameters (parameters : List (List Char × List Char)) : List Char :=
  [','].intercalate (parameters.map printParameter)

/-- Parameters that can be written together: not more than 127 bytes of them. -/
structure AreParameters (parameters : List (List Char × List Char)) : Prop where
  /-- Every parameter can be written. -/
  each : ∀ parameter ∈ parameters, IsParameter parameter
  /-- Their text is short. -/
  short : (String.ofList (printParameters parameters)).utf8ByteSize ≤ 127

theorem not_mem_printParameter {parameter : List Char × List Char}
    (sound : IsParameter parameter) {mark : Char} (foul : isValueCharacter mark = false)
    (other : mark ≠ '=') : mark ∉ printParameter parameter := by
  rw [printParameter, List.mem_append, List.mem_cons, not_or, not_or]
  exact ⟨(isPlain_of_isName sound.1).not_mem foul, other,
    (isPlain_of_isValue sound.2).not_mem foul⟩

theorem parameters?_eq_some_iff {field : List Char}
    {parameters : List (List Char × List Char)} :
    parameters? field = some parameters ↔
      parameters ≠ [] ∧ AreParameters parameters ∧ field = printParameters parameters := by
  rw [parameters?]
  split
  · rename_i long
    constructor
    · rintro ⟨⟩
    · rintro ⟨-, sound, rfl⟩
      exact absurd long (Nat.not_lt.2 sound.short)
  · rename_i short
    rw [mapM_parameter?_eq_some_iff]
    constructor
    · rintro ⟨each, parted⟩
      have filled : parameters ≠ [] := by
        rintro rfl
        exact List.splitOn_ne_nil ',' field parted
      have mapped : parameters.map printParameter ≠ [] := List.map_eq_nil_iff.not.2 filled
      obtain ⟨rfl, -⟩ := (Token.Segments.splitOn_eq_iff mapped).1 parted
      exact ⟨filled, ⟨each, Nat.not_lt.1 short⟩, rfl⟩
    · rintro ⟨filled, sound, rfl⟩
      have mapped : parameters.map printParameter ≠ [] := List.map_eq_nil_iff.not.2 filled
      refine ⟨sound.each, (Token.Segments.splitOn_eq_iff mapped).2 ⟨rfl, ?_⟩⟩
      rintro _ member
      obtain ⟨parameter, inside, rfl⟩ := List.mem_map.1 member
      exact not_mem_printParameter (sound.each parameter inside) rfl (by decide)

theorem equals_mem_printParameters {parameters : List (List Char × List Char)}
    (filled : parameters ≠ []) : '=' ∈ printParameters parameters := by
  obtain ⟨parameter, rest, rfl⟩ := List.exists_cons_of_ne_nil filled
  cases rest <;> simp [printParameters, printParameter, List.intercalate]

theorem dollar_not_mem_printParameters {parameters : List (List Char × List Char)}
    (each : ∀ parameter ∈ parameters, IsParameter parameter) :
    '$' ∉ printParameters parameters := by
  refine Token.Segments.not_mem_intercalate (by decide) fun _ member => ?_
  obtain ⟨parameter, inside, rfl⟩ := List.mem_map.1 member
  exact not_mem_printParameter (each parameter inside) rfl (by decide)

/-- A salt and a hash that can be written. -/
structure IsEnding (salt : Option (List Char)) (hash : Option (List UInt8)) : Prop where
  /-- The salt is a value of at least four characters. -/
  valued : ∀ written ∈ salt, 4 ≤ written.length ∧ isValue written = true
  /-- The hash has from ten to 64 bytes. -/
  sized : ∀ bytes ∈ hash, 10 ≤ bytes.length ∧ bytes.length ≤ 64
  /-- There is no hash without a salt. -/
  salted : salt = none → hash = none

/-- The fields of a salt and a hash. -/
def endingFields (salt : Option (List Char)) (hash : Option (List UInt8)) : List (List Char) :=
  salt.toList ++ (hash.map (Base64.encode standardUnpadded)).toList

theorem decode?_standardUnpadded_eq_some_iff {bytes : List UInt8} :
    Base64.decode? standardUnpadded text = some bytes ↔
      text = Base64.encode standardUnpadded bytes :=
  Base64.decode?_eq_some_iff (by decide) rfl

theorem ending?_eq_some_iff {fields : List (List Char)} {salt : Option (List Char)}
    {hash : Option (List UInt8)} :
    ending? fields = some (salt, hash) ↔
      IsEnding salt hash ∧ fields = endingFields salt hash := by
  constructor
  · intro read
    unfold ending? at read
    split at read
    · cases read
      exact ⟨⟨by simp, by simp, fun _ => rfl⟩, rfl⟩
    · rename_i written rest
      split at read
      · rename_i sound
        rw [Bool.and_eq_true, decide_eq_true_eq] at sound
        split at read
        · cases read
          exact ⟨⟨by simpa using sound, by simp, fun _ => rfl⟩, rfl⟩
        · obtain ⟨bytes, decoded, given⟩ := Option.bind_eq_some_iff.1 read
          obtain rfl := decode?_standardUnpadded_eq_some_iff.1 decoded
          split at given
          · rename_i sized
            cases given
            exact ⟨⟨by simpa using sound, by simpa using sized, nofun⟩, rfl⟩
          · cases given
        · cases read
      · cases read
  · rintro ⟨ending, rfl⟩
    cases salt with
    | none =>
        rw [ending.salted rfl]
        rfl
    | some written =>
        have sound : (decide (4 ≤ written.length) && isValue written) = true := by
          simpa using ending.valued written rfl
        cases hash with
        | none => exact if_pos sound
        | some bytes =>
            have decoded : Base64.decode? standardUnpadded
                (Base64.encode standardUnpadded bytes) = some bytes :=
              decode?_standardUnpadded_eq_some_iff.2 rfl
            simp only [endingFields, Option.toList_some, Option.map_some, List.cons_append,
              List.nil_append, ending?, sound, if_true, decoded]
            exact if_pos (ending.sized bytes rfl)

theorem isPlain_of_mem_endingFields {salt : Option (List Char)} {hash : Option (List UInt8)}
    (ending : IsEnding salt hash) {field : List Char} (member : field ∈ endingFields salt hash) :
    IsPlain field := by
  rw [endingFields, List.mem_append, Option.mem_toList, Option.mem_toList] at member
  rcases member with written | encoded
  · exact isPlain_of_isValue (ending.valued field written).2
  · obtain ⟨bytes, -, rfl⟩ := Option.map_eq_some_iff.1 encoded
    exact isPlain_encode bytes

/-- The field of the parameters, if there are any. -/
def parameterFields (parameters : List (List Char × List Char)) : List (List Char) :=
  if parameters = [] then [] else [printParameters parameters]

section AfterVersion

variable {algorithm : List Char} {version : Option Nat} {fields : List (List Char)}

private theorem afterVersion?_of_equals {field : List Char} (equals : '=' ∈ field) :
    afterVersion? algorithm version (field :: fields) =
      (parameters? field).bind fun parameters => (ending? fields).map fun ending =>
        ⟨algorithm, version, parameters, ending.1, ending.2⟩ := by
  rw [afterVersion?, if_pos (List.contains_iff_mem.2 equals)]
  cases found : parameters? field <;> cases ended : ending? fields <;> simp [ended]

private theorem afterVersion?_of_no_equals (unlisted : ∀ field ∈ fields.head?, '=' ∉ field) :
    afterVersion? algorithm version fields =
      (ending? fields).map fun ending => ⟨algorithm, version, [], ending.1, ending.2⟩ := by
  cases fields with
  | nil => rfl
  | cons field fields =>
      rw [afterVersion?, if_neg (List.contains_iff_mem.not.2 (unlisted field rfl))]
      cases ended : ending? (field :: fields) <;> simp [ended]

theorem afterVersion?_eq_some_iff {phc : Phc} :
    afterVersion? algorithm version fields = some phc ↔ ∃ parameters salt hash,
      phc = ⟨algorithm, version, parameters, salt, hash⟩ ∧ AreParameters parameters ∧
        IsEnding salt hash ∧ fields = parameterFields parameters ++ endingFields salt hash := by
  -- Of what follows the version only parameters have the sign in them, so the reader looks for it
  -- in the first field to learn whether there are any.
  by_cases listed : ∃ field ∈ fields.head?, '=' ∈ field
  · obtain ⟨field, first, equals⟩ := listed
    obtain ⟨rest, rfl⟩ := List.head?_eq_some_iff.1 first
    simp only [afterVersion?_of_equals equals, Option.bind_eq_some_iff, Option.map_eq_some_iff,
      Prod.exists, parameters?_eq_some_iff, ending?_eq_some_iff]
    constructor
    · rintro ⟨parameters, ⟨filled, sound, rfl⟩, salt, hash, ⟨ending, rfl⟩, rfl⟩
      refine ⟨parameters, salt, hash, rfl, sound, ending, ?_⟩
      rw [parameterFields, if_neg filled]
      rfl
    · rintro ⟨parameters, salt, hash, rfl, sound, ending, written⟩
      have filled : parameters ≠ [] := by
        rintro rfl
        have inside : field ∈ endingFields salt hash := by
          have same : field :: rest = endingFields salt hash := written
          rw [← same]
          exact List.mem_cons_self
        exact (isPlain_of_mem_endingFields ending inside).not_mem rfl equals
      rw [parameterFields, if_neg filled] at written
      obtain ⟨rfl, rfl⟩ := List.cons.inj written
      exact ⟨parameters, ⟨filled, sound, rfl⟩, salt, hash, ⟨ending, rfl⟩, rfl⟩
  · have unlisted : ∀ field ∈ fields.head?, '=' ∉ field := fun field first equals =>
      listed ⟨field, first, equals⟩
    simp only [afterVersion?_of_no_equals unlisted, Option.map_eq_some_iff, Prod.exists,
      ending?_eq_some_iff]
    constructor
    · rintro ⟨salt, hash, ⟨ending, rfl⟩, rfl⟩
      exact ⟨[], salt, hash, rfl, ⟨by simp, by decide⟩, ending, rfl⟩
    · rintro ⟨parameters, salt, hash, rfl, sound, ending, rfl⟩
      obtain rfl : parameters = [] := by
        by_contra filled
        rw [parameterFields, if_neg filled] at unlisted
        exact unlisted _ rfl (equals_mem_printParameters filled)
      exact ⟨salt, hash, ⟨ending, rfl⟩, rfl⟩

end AfterVersion

/-- The field of the version, if there is one. -/
def versionFields (version : Option Nat) : List (List Char) :=
  (version.map fun number => 'v' :: '=' :: Decimal.ofNat number).toList

theorem isVersion_iff {field : List Char} :
    isVersion field = true ↔ (∃ rest, field = 'v' :: '=' :: rest) ∧ ',' ∉ field := by
  rw [isVersion, Bool.and_eq_true, List.isPrefixOf_iff_prefix, Bool.not_eq_true',
    ← Bool.not_eq_true, List.contains_iff_mem]
  exact and_congr_left fun _ => ⟨fun ⟨rest, same⟩ => ⟨rest, same.symm⟩,
    fun ⟨rest, same⟩ => ⟨rest, same.symm⟩⟩

/-- Only a single parameter of the name `v` looks like a version. -/
theorem isVersion_printParameters_iff {parameters : List (List Char × List Char)}
    (each : ∀ parameter ∈ parameters, IsParameter parameter) :
    isVersion (printParameters parameters) = true ↔ ∃ value, parameters = [(['v'], value)] := by
  rw [isVersion_iff]
  constructor
  · rintro ⟨⟨rest, begins⟩, alone⟩
    -- A second parameter brings a comma, and a longer name would have the sign inside it.
    match parameters with
    | [] => cases begins
    | _ :: _ :: _ => exact absurd (by simp [printParameters, List.intercalate]) alone
    | [(name, value)] =>
        have unmarked : '=' ∉ name := (isPlain_of_isName (each _ List.mem_cons_self).1).not_mem rfl
        have written : name ++ '=' :: value = 'v' :: '=' :: rest := by
          simpa [printParameters, printParameter, List.intercalate] using begins
        match name with
        | [] => cases written
        | [_] =>
            cases written
            exact ⟨_, rfl⟩
        | _ :: _ :: _ =>
            cases written
            exact absurd (List.mem_cons_of_mem _ List.mem_cons_self) unmarked
  · rintro ⟨value, rfl⟩
    refine ⟨⟨value, by simp [printParameters, printParameter, List.intercalate]⟩, ?_⟩
    have unmarked : ',' ∉ printParameter (['v'], value) :=
      not_mem_printParameter (each _ List.mem_cons_self) rfl (by decide)
    simpa [printParameters, List.intercalate] using unmarked

/-! ## The whole -/

/-- A hash that can be written so that it is read back. -/
structure IsWritable (phc : Phc) : Prop where
  /-- The function has a name. -/
  named : isName phc.algorithm = true
  /-- The version is a number of 32 bits. -/
  numbered : ∀ number ∈ phc.version, number < Number.bound32
  /-- The parameters can be written. -/
  sound : AreParameters phc.parameters
  /-- The parameters are not taken for a version that is not there. -/
  apart : phc.version = none → ∀ value, phc.parameters ≠ [(['v'], value)]
  /-- The salt and the hash can be written. -/
  ending : IsEnding phc.salt phc.hash

theorem fields_eq (phc : Phc) :
    phc.fields = [] :: phc.algorithm :: (versionFields phc.version ++
      (parameterFields phc.parameters ++ endingFields phc.salt phc.hash)) := by
  simp [fields, versionFields, parameterFields, endingFields, printParameters]

theorem print_of_parts (algorithm salt : List Char) (number : Nat)
    (parameter : List Char × List Char) (parameters : List (List Char × List Char))
    (hash : List UInt8) :
    print ⟨algorithm, some number, parameter :: parameters, some salt, some hash⟩ =
      '$' :: algorithm ++ '$' :: 'v' :: '=' :: (Decimal.ofNat number ++ '$' ::
        (printParameters (parameter :: parameters) ++ '$' ::
          (salt ++ '$' :: Base64.encode standardUnpadded hash))) := by
  simp [print, fields_eq, versionFields, parameterFields, endingFields, List.intercalate]

/-- Fields of which the first one is not a version. -/
private def Unversioned (fields : List (List Char)) : Prop :=
  ∀ field ∈ fields.head?, ¬isVersion field = true

private theorem unversioned_iff {parameters : List (List Char × List Char)}
    {salt : Option (List Char)} {hash : Option (List UInt8)} (sound : AreParameters parameters)
    (ending : IsEnding salt hash) :
    Unversioned (parameterFields parameters ++ endingFields salt hash) ↔
      ∀ value, parameters ≠ [(['v'], value)] := by
  by_cases filled : parameters = []
  · subst filled
    refine iff_of_true (fun field first version => ?_) (by simp)
    obtain ⟨⟨rest, rfl⟩, -⟩ := isVersion_iff.1 version
    have plain := isPlain_of_mem_endingFields ending (List.mem_of_head? first)
    exact plain.not_mem rfl (List.mem_cons_of_mem _ List.mem_cons_self)
  · rw [parameterFields, if_neg filled, ← not_exists,
      ← isVersion_printParameters_iff sound.each]
    simp [Unversioned]

/-- No field of a hash that can be written has the mark that separates fields. -/
theorem dollar_not_mem_fields {phc : Phc} (writable : phc.IsWritable) :
    ∀ field ∈ phc.fields, '$' ∉ field := by
  intro field member
  rw [fields_eq, List.mem_cons, List.mem_cons, List.mem_append, List.mem_append] at member
  rcases member with rfl | rfl | version | parameters | ending
  · exact List.not_mem_nil
  · exact (isPlain_of_isName writable.named).not_mem rfl
  · obtain ⟨number, -, rfl⟩ := Option.map_eq_some_iff.1 (Option.mem_toList.1 version)
    have unmarked : '$' ∉ Decimal.ofNat number := (isPlain_ofNat number).not_mem rfl
    simpa using unmarked
  · rw [parameterFields] at parameters
    split at parameters
    · cases parameters
    · rw [List.mem_singleton.1 parameters]
      exact dollar_not_mem_printParameters writable.sound.each
  · exact (isPlain_of_mem_endingFields writable.ending ending).not_mem rfl

theorem splitOn_print {phc : Phc} (writable : phc.IsWritable) :
    phc.print.splitOn '$' = phc.fields :=
  (Token.Segments.splitOn_eq_iff (by rw [fields_eq]; exact List.cons_ne_nil _ _)).2
    ⟨rfl, dollar_not_mem_fields writable⟩

section Parse

variable {algorithm : List Char} {fields : List (List Char)} {phc : Phc}

private theorem parse?_of_version {field : List Char}
    (parted : text.splitOn '$' = [] :: algorithm :: field :: fields)
    (named : isName algorithm = true) (version : isVersion field = true) :
    parse? text = some phc ↔ ∃ number < Number.bound32,
      field = 'v' :: '=' :: Decimal.ofNat number ∧
        afterVersion? algorithm (some number) fields = some phc := by
  obtain ⟨⟨digits, rfl⟩, -⟩ := isVersion_iff.1 version
  have dropped : ('v' :: '=' :: digits).drop 2 = digits := rfl
  simp only [parse?, parted, named, version, if_true, dropped]
  constructor
  · intro read
    split at read
    · obtain ⟨number, found, rest⟩ := Option.bind_eq_some_iff.1 read
      obtain ⟨small, rfl⟩ := decimal?_eq_some_iff.1 found
      exact ⟨number, small, rfl, rest⟩
    · cases read
  · rintro ⟨number, small, same, read⟩
    obtain rfl : digits = Decimal.ofNat number := by simpa using same
    rw [if_pos (isValue_ofNat small), decimal?_eq_some_iff.2 ⟨small, rfl⟩]
    exact read

private theorem parse?_of_unversioned
    (parted : text.splitOn '$' = [] :: algorithm :: fields) (named : isName algorithm = true)
    (unversioned : Unversioned fields) :
    parse? text = afterVersion? algorithm none fields := by
  simp only [parse?, parted, named, if_true]
  cases fields with
  | nil => rfl
  | cons field fields => exact if_neg (unversioned field rfl)

theorem parse?_print (writable : phc.IsWritable) : parse? phc.print = some phc := by
  have parted := splitOn_print writable
  rw [fields_eq] at parted
  obtain ⟨algorithm, version, parameters, salt, hash⟩ := phc
  cases version with
  | none =>
      have unversioned : Unversioned (parameterFields parameters ++ endingFields salt hash) :=
        (unversioned_iff writable.sound writable.ending).2 (writable.apart rfl)
      rw [parse?_of_unversioned parted writable.named unversioned]
      exact afterVersion?_eq_some_iff.2
        ⟨parameters, salt, hash, rfl, writable.sound, writable.ending, rfl⟩
  | some number =>
      have digits : ',' ∉ Decimal.ofNat number := (isPlain_ofNat number).not_mem rfl
      have version : isVersion ('v' :: '=' :: Decimal.ofNat number) = true :=
        isVersion_iff.2 ⟨⟨_, rfl⟩, by simpa using digits⟩
      refine (parse?_of_version parted writable.named version).2
        ⟨number, writable.numbered number rfl, rfl, ?_⟩
      exact afterVersion?_eq_some_iff.2
        ⟨parameters, salt, hash, rfl, writable.sound, writable.ending, rfl⟩

/-- What is read can be written, and the text is what it is written as. -/
theorem print_of_parse? (read : parse? text = some phc) : phc.IsWritable ∧ text = phc.print := by
  obtain ⟨algorithm, fields, parted, named⟩ : ∃ algorithm fields,
      text.splitOn '$' = [] :: algorithm :: fields ∧ isName algorithm = true := by
    unfold parse? at read
    split at read
    · rename_i algorithm fields parted
      split at read
      · rename_i named
        exact ⟨algorithm, fields, parted, named⟩
      · cases read
    · cases read
  obtain ⟨joined, -⟩ := (Token.Segments.splitOn_eq_iff (List.cons_ne_nil _ _)).1 parted
  by_cases versioned : ∃ field ∈ fields.head?, isVersion field = true
  · obtain ⟨field, first, version⟩ := versioned
    obtain ⟨rest, rfl⟩ := List.head?_eq_some_iff.1 first
    obtain ⟨number, small, rfl, read⟩ := (parse?_of_version parted named version).1 read
    obtain ⟨parameters, salt, hash, rfl, sound, ending, rfl⟩ := afterVersion?_eq_some_iff.1 read
    refine ⟨⟨named, by simpa using small, sound, nofun, ending⟩, ?_⟩
    rw [print, fields_eq, ← joined]
    rfl
  · have unversioned : Unversioned fields := fun field first version =>
      versioned ⟨field, first, version⟩
    rw [parse?_of_unversioned parted named unversioned] at read
    obtain ⟨parameters, salt, hash, rfl, sound, ending, rfl⟩ := afterVersion?_eq_some_iff.1 read
    have apart := (unversioned_iff sound ending).1 unversioned
    refine ⟨⟨named, by simp, sound, fun _ => apart, ending⟩, ?_⟩
    rw [print, fields_eq, ← joined]
    rfl

/-- A text is read as a hash exactly if the hash can be written and the text is what it is written
as. -/
theorem parse?_eq_some_iff : parse? text = some phc ↔ phc.IsWritable ∧ text = phc.print := by
  refine ⟨print_of_parse?, ?_⟩
  rintro ⟨writable, rfl⟩
  exact parse?_print writable

end Parse

end Bearer.Password.Phc
