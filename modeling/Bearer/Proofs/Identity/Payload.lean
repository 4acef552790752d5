import Bearer.Identity.Payload
import Bearer.Proofs.Json.Record
import Bearer.Proofs.Json.Yields

/-!
# Payloads read back

A stored payload is the payload that was written: `decode_encode`. Any other text is read as a
payload exactly if it is legible, that is, the JSON of a role and of a subject that names somebody:
`legible_iff`.
-/

namespace Bearer

open Json Json.Reading

variable {follow : List UInt8 → Prop}

theorem Role.reads_reading (role : Role) :
    Reads Anything Role.reading (printText role.name) role :=
  reads_variant (Role.ofName?_name role)

namespace Payload

private theorem reads_subject (draft : Draft) (subject : String) :
    Reads follow (do return { draft with subject := some (← textValue "a string") } :
      Reading Draft) (printText subject) { draft with subject := some subject } := by
  have put := reads_return (fun subject => { draft with subject := some subject })
    (reads_textValue "a string" subject)
  exact reads_weaken put fun _ _ => trivial

private theorem reads_role (draft : Draft) (role : Role) :
    Reads follow (do return { draft with role := some (← Role.reading) } : Reading Draft)
      (printText role.name) { draft with role := some role } := by
  have put := reads_return (fun role => { draft with role := some role })
    (Role.reads_reading role)
  exact reads_weaken put fun _ _ => trivial

private theorem fills_record (payload : Payload) :
    Record.Fills record record.blank
      [("subject_id", printText payload.subject), ("role", printText payload.role.name)]
      ⟨some payload.subject, some payload.role⟩ :=
  .cons rfl rfl (reads_subject _ _) (.cons rfl rfl (reads_role _ _) (.nil _))

/-- The JSON text of a payload is read back as the payload. -/
theorem decode_encode (payload : Payload) :
    decode (Text.bytes (String.ofList payload.encode)) = .ok payload := by
  have parts : Reads Anything record.value payload.encode (payload.subject, payload.role) :=
    Record.reads_value (fills_record payload) rfl
  apply whole_eq_ok
  rw [← List.append_nil payload.encode]
  apply reads_then parts
  simp only [new?_subject]
  exact reads_pure payload

/-- A subject names somebody: something is left of it after trimming. -/
def Names (subject : String) : Prop :=
  Text.trimEnd (Text.trimStart subject.toList) ≠ []

theorem names_iff {subject : String} : Names subject ↔ Text.isBlankText subject = false := by
  have blank : Text.trimEnd (Text.trimStart subject.toList) = [] ↔
      Text.isBlankText subject = true := by
    rw [Text.trimEnd_eq_nil_iff, Text.isBlankText]
    constructor
    · intro trimmed
      rw [← List.takeWhile_append_dropWhile (p := Text.isBlank) (l := subject.toList),
        List.all_append, Bool.and_eq_true]
      exact ⟨List.all_takeWhile, trimmed⟩
    · intro all
      rw [(Text.trimStart_eq_nil_iff subject.toList).2 all]
      rfl
  rw [Names, Ne, blank, Bool.not_eq_true]

theorem names_subject (payload : Payload) : Names payload.subject :=
  names_iff.2 payload.identified

/-- A text is the JSON of a role and of a subject that names somebody. -/
def Legible (value subject : String) (role : Role) : Prop :=
  whole record.value (Text.bytes value) = .ok (subject, role) ∧ Names subject

private theorem decode_eq_ok_iff {text : List UInt8} {payload : Payload} :
    decode text = .ok payload ↔
      whole record.value text = .ok (payload.subject, payload.role) := by
  let check : String × Role → Except Fault Payload := fun found =>
    (new? found.1 found.2).elim (.error ⟨.refused refusal, none⟩) .ok
  refine (whole_checked_iff check ?_).trans ?_
  · rintro ⟨subject, role⟩ cursor
    dsimp only [check]
    cases new? subject role <;> rfl
  · constructor
    · rintro ⟨⟨subject, role⟩, read, passed⟩
      dsimp only [check] at passed
      cases made : new? subject role with
      | none =>
          rw [made] at passed
          cases passed
      | some found =>
          rw [made] at passed
          cases passed
          obtain ⟨rfl, rfl⟩ := new?_eq_some_iff.1 made
          exact read
    · intro read
      refine ⟨_, read, ?_⟩
      dsimp only [check]
      rw [new?_subject]
      rfl

/-- What is read as a payload is legible. -/
theorem legible_iff {value : String} {payload : Payload} :
    Legible value payload.subject payload.role ↔ decode (Text.bytes value) = .ok payload := by
  rw [decode_eq_ok_iff, Legible, and_iff_left (names_subject payload)]

theorem exists_of_legible {value subject : String} {role : Role}
    (legible : Legible value subject role) :
    ∃ payload, decode (Text.bytes value) = .ok payload ∧ payload.subject = subject ∧
      payload.role = role :=
  ⟨⟨subject, role, names_iff.1 legible.2⟩, decode_eq_ok_iff.2 legible.1, rfl, rfl⟩

theorem legible_encode (payload : Payload) :
    Legible (String.ofList payload.encode) payload.subject payload.role :=
  legible_iff.2 (decode_encode payload)

end Payload

end Bearer
