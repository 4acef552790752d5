import Bearer.Config.Environment
import Bearer.Proofs.Text.Canonical

/-!
# Keys are read from canonical texts only

A text is read as a key exactly if it is the canonical base64 of the key, unpadded and safe in a URL
or padded and standard. A text in both spellings means the same bytes in both, so it does not matter
which is tried first, and whatever looks like a mixture of them is refused: `keyBytes_exact`.
-/

namespace Bearer

open Base64 (Canonical standard urlSafe)

namespace Base64

variable {bytes : List UInt8} {text : List Char}

theorem decode?_urlSafe_iff : decode? urlSafe text = some bytes ↔ Canonical urlSafe bytes text :=
  decode?_urlSafe_eq_some_iff.trans (canonical_iff urlSafe_isOrdered).symm

theorem decode?_standard_iff : decode? standard text = some bytes ↔ Canonical standard bytes text :=
  decode?_standard_eq_some_iff.trans (canonical_iff standard_isOrdered).symm

theorem eq_of_decode?_both {others : List UInt8} (read : decode? urlSafe text = some bytes)
    (readOther : decode? standard text = some others) : bytes = others :=
  (eq_of_encode_standard_eq_encode_urlSafe ((decode?_standard_eq_some_iff.1 readOther).symm.trans
    (decode?_urlSafe_eq_some_iff.1 read))).symm

theorem parts_of_canonical_standard (canonical : Canonical standard bytes text) :
    ∃ digits signs, text = digits ++ List.replicate signs '=' ∧ signs ≤ 2 ∧
      text.length % 4 = 0 ∧ ∀ digit ∈ digits, digit ∉ ['=', '-', '_'] := by
  have known : ∀ value < 64, standard.digit value ∉ ['=', '-', '_'] := by decide
  obtain ⟨digits, signs, carried, rfl, few, filled⟩ := canonical
  obtain rfl := (carries_iff standard_isOrdered).1 carried
  refine ⟨_, signs, rfl, ?_, filled, fun digit member => ?_⟩
  · rw [List.length_append, List.length_replicate, List.length_map, length_sextets] at filled
    omega
  · obtain ⟨value, inside, rfl⟩ := List.mem_map.1 member
    exact known value (lt_of_mem_sextets inside)

theorem not_mem_of_canonical_urlSafe (canonical : Canonical urlSafe bytes text) {mark : Char}
    (padded : mark ∈ ['+', '/', '=']) : mark ∉ text := by
  rw [(canonical_iff urlSafe_isOrdered).1 canonical]
  intro member
  have known := mem_encode_urlSafe member
  simp only [List.mem_cons, List.not_mem_nil, or_false] at padded
  rcases padded with rfl | rfl | rfl <;> exact absurd known (by decide)

/-- What no canonical text shows, in either spelling. -/
inductive Foul (text : List Char) : Prop where
  /-- Characters of one spelling stand beside characters of the other. -/
  | mixed (mark sign : Char) : mark ∈ ['+', '/', '='] → sign ∈ ['-', '_'] → mark ∈ text →
      sign ∈ text → Foul text
  /-- A text of the padded spelling is not filled up. -/
  | unfilled (mark : Char) : mark ∈ ['+', '/', '='] → mark ∈ text → text.length % 4 ≠ 0 → Foul text
  /-- Something follows the padding. -/
  | displaced (before after : List Char) (digit : Char) : text = before ++ '=' :: after →
      digit ∈ after → digit ≠ '=' → Foul text
  /-- There is more padding than is ever missing. -/
  | overfilled : 2 < text.count '=' → Foul text

/-- A text of the URL spelling is not foul, since it has no padding and no character of the other
spelling. -/
theorem not_foul_of_canonical_urlSafe (canonical : Canonical urlSafe bytes text) : ¬ Foul text := by
  have absent : ∀ mark ∈ ['+', '/', '='], mark ∉ text := fun mark padded =>
    not_mem_of_canonical_urlSafe canonical padded
  rintro (⟨mark, sign, padded, -, member, -⟩ | ⟨mark, padded, member, -⟩ |
    ⟨before, after, digit, rfl, -, -⟩ | many)
  · exact absent mark padded member
  · exact absent mark padded member
  · exact absent '=' (by decide) (by simp)
  · exact absent '=' (by decide) (List.count_pos_iff.1 (by omega))

theorem not_foul_of_canonical_standard (canonical : Canonical standard bytes text) :
    ¬ Foul text := by
  obtain ⟨digits, signs, rfl, few, filled, known⟩ := parts_of_canonical_standard canonical
  have padding : ∀ sign ∈ List.replicate signs '=', sign = '=' := fun sign member =>
    (List.mem_replicate.1 member).2
  have unpadded : '=' ∉ digits := fun member => known '=' member (by decide)
  rintro (⟨mark, sign, -, safe, -, member⟩ | ⟨mark, -, -, unfilled⟩ |
    ⟨before, after, digit, split, member, different⟩ | many)
  · rcases List.mem_append.1 member with inside | behind
    · exact known sign inside (List.mem_cons_of_mem _ safe)
    · rw [padding sign behind] at safe
      exact absurd safe (by decide)
  · exact unfilled filled
  · -- The first sign stands behind all digits, so what follows it is padding.
    rcases List.append_eq_append_iff.1 split with ⟨front, -, rest⟩ | ⟨back, rfl, rest⟩
    · refine different (padding digit ?_)
      rw [rest]
      exact List.mem_append_right front (List.mem_cons_of_mem _ member)
    · cases back with
      | nil =>
          refine different (padding digit ?_)
          rw [← List.nil_append (List.replicate signs '='), ← rest]
          exact List.mem_cons_of_mem _ member
      | cons first back =>
          obtain ⟨rfl, -⟩ := List.cons.inj rest
          exact unpadded (List.mem_append_right before List.mem_cons_self)
  · rw [List.count_append, List.count_eq_zero.2 unpadded, List.count_replicate_self] at many
    omega

end Base64

namespace Config

/-- A text is the canonical one of a key, in either spelling. -/
def Means (text : String) (bytes : List UInt8) : Prop :=
  Canonical urlSafe bytes text.toList ∨ Canonical standard bytes text.toList

variable {text : String} {bytes others : List UInt8}

private theorem or_eq_some_iff {first second : Option (List UInt8)}
    (agree : ∀ {bytes others}, first = some bytes → second = some others → bytes = others) :
    first.or second = some bytes ↔ first = some bytes ∨ second = some bytes := by
  cases first with
  | none => simp
  | some found =>
      rw [Option.some_or]
      refine ⟨.inl, ?_⟩
      rintro (same | same)
      · exact same
      · rw [agree rfl same]

theorem keyBytes?_iff : keyBytes? text = some bytes ↔ Means text bytes := by
  rw [keyBytes?, or_eq_some_iff Base64.eq_of_decode?_both, Means, Base64.decode?_urlSafe_iff,
    Base64.decode?_standard_iff]

theorem Means.unique (means : Means text bytes) (meansOther : Means text others) :
    bytes = others :=
  Option.some.inj ((keyBytes?_iff.2 means).symm.trans (keyBytes?_iff.2 meansOther))

theorem keyBytes?_swapped :
    (Base64.decode? standard text.toList).or (Base64.decode? urlSafe text.toList) =
      keyBytes? text := by
  ext bytes
  rw [keyBytes?_iff, or_eq_some_iff fun read readOther => (Base64.eq_of_decode?_both readOther
    read).symm, Means, or_comm, Base64.decode?_urlSafe_iff, Base64.decode?_standard_iff]

theorem keyBytes_of_meaningless (name : String) (meaningless : ∀ bytes, ¬ Means text bytes) :
    keyBytes name text = .error (.undecodable name) := by
  cases read : keyBytes? text with
  | none => rw [keyBytes, read]
  | some bytes => exact absurd (keyBytes?_iff.1 read) (meaningless bytes)

theorem not_foul_of_means (means : Means text bytes) : ¬ Base64.Foul text.toList :=
  means.elim Base64.not_foul_of_canonical_urlSafe Base64.not_foul_of_canonical_standard

end Config

/-- A text is read as a key exactly if it is canonical in one of the two spellings, and then it has
that one reading, whichever spelling is tried first. Every other text is refused, above all one that
mixes the spellings, is not filled up or has stray padding. -/
theorem keyBytes_exact (text : String) :
    (∀ bytes, Config.keyBytes? text = some bytes ↔
      Canonical urlSafe bytes text.toList ∨ Canonical standard bytes text.toList) ∧
    (∀ bytes others, Config.Means text bytes → Config.Means text others → bytes = others) ∧
    (Base64.decode? standard text.toList).or (Base64.decode? urlSafe text.toList) =
      Config.keyBytes? text ∧
    (∀ name, (∀ bytes, ¬ Config.Means text bytes) →
      Config.keyBytes name text = .error (.undecodable name)) ∧
    (Base64.Foul text.toList →
      ∀ name, Config.keyBytes name text = .error (.undecodable name)) :=
  ⟨fun _ => Config.keyBytes?_iff, fun _ _ => Config.Means.unique, Config.keyBytes?_swapped,
    Config.keyBytes_of_meaningless,
    fun foul name => Config.keyBytes_of_meaningless name fun _ means =>
      Config.not_foul_of_means means foul⟩

/-- One byte is read in either spelling. It is refused if both spellings are mixed, if padding is
missing or stray, and if the last digit has bits to spare that are not zero. -/
theorem keyBytes_exact_small :
    Config.Means "_w" [255] ∧ Config.Means "/w==" [255] ∧
    (∀ text ∈ ["_+AA", "/w", "/w=", "/w==AA", "_x"],
      Config.keyBytes "K" text = .error (.undecodable "K")) := by
  refine ⟨((keyBytes_exact _).1 _).1 (by decide), ((keyBytes_exact _).1 _).1 (by decide), ?_⟩
  have mixed : Base64.Foul "_+AA".toList := .mixed '+' '_' (by decide) (by decide) (by decide)
    (by decide)
  have missing : Base64.Foul "/w".toList := .unfilled '/' (by decide) (by decide) (by decide)
  have short : Base64.Foul "/w=".toList := .unfilled '/' (by decide) (by decide) (by decide)
  have stray : Base64.Foul "/w==AA".toList := .displaced ['/', 'w', '='] ['A', 'A'] 'A'
    (by decide) (by decide) (by decide)
  have refused : Config.keyBytes? "_x" = none := by decide
  have unread : ∀ bytes, ¬ Config.Means "_x" bytes := fun bytes means => by
    cases refused.symm.trans (((keyBytes_exact "_x").1 bytes).2 means)
  simp only [List.forall_mem_cons]
  exact ⟨(keyBytes_exact _).2.2.2.2 mixed _, (keyBytes_exact _).2.2.2.2 missing _,
    (keyBytes_exact _).2.2.2.2 short _, (keyBytes_exact _).2.2.2.2 stray _,
    (keyBytes_exact _).2.2.2.1 _ unread, by simp⟩

end Bearer
