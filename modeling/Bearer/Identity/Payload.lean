import Bearer.Identity.Role
import Bearer.Json.Printer
import Bearer.Text.Blank

/-!
# Payloads

A payload says who is logged in: a subject and a role. A blank subject identifies nobody, so there
is no payload with one: `Payload.new?` is the only way in, for callers and for the JSON reader
alike.
-/

namespace Bearer

/-- An identified subject in a role. -/
structure Payload where
  /-- Who it is. -/
  subject : String
  /-- What the subject acts as. -/
  role : Role
  /-- The subject is not empty and not only white space. -/
  identified : Text.isBlankText subject = false
deriving DecidableEq

namespace Payload

/-- The payload of a subject, unless the subject is blank. -/
def new? (subject : String) (role : Role) : Option Payload :=
  if identified : Text.isBlankText subject = false then some ⟨subject, role, identified⟩ else none

/-- Why a subject is refused. -/
def refusal : String := "subject id must not be empty"

theorem new?_eq_some_iff {subject : String} {role : Role} {payload : Payload} :
    new? subject role = some payload ↔
      payload.subject = subject ∧ payload.role = role := by
  obtain ⟨found, foundRole, identified⟩ := payload
  unfold new?
  split
  · simp [eq_comm]
  · rename_i blank
    constructor
    · simp
    · rintro ⟨rfl, rfl⟩
      exact absurd identified blank

theorem new?_eq_none_iff {subject : String} {role : Role} :
    new? subject role = none ↔ Text.isBlankText subject = true := by
  unfold new?
  split <;> simp_all

@[simp]
theorem new?_subject (payload : Payload) :
    new? payload.subject payload.role = some payload :=
  new?_eq_some_iff.2 ⟨rfl, rfl⟩

/-- The JSON text of a payload. -/
def encode (payload : Payload) : List Char :=
  Json.printObject
    [("subject_id", Json.printText payload.subject), ("role", Json.printText payload.role.name)]

/-- The members of a payload that were read so far. -/
structure Draft where
  /-- The subject, once read. -/
  subject : Option String
  /-- The role, once read. -/
  role : Option Role

/-- The JSON form of a subject with a role, blank or not. -/
def record : Json.Record Draft (String × Role) where
  title := "struct RawPayload"
  blank := ⟨none, none⟩
  members :=
    [ { name := "subject_id"
        present := fun draft => draft.subject.isSome
        read := fun draft => do
          return { draft with subject := some (← Json.Reading.textValue "a string") } },
      { name := "role"
        present := fun draft => draft.role.isSome
        read := fun draft => do
          return { draft with role := some (← Role.reading) } } ]
  complete := fun draft => do
    let subject ← Json.Record.need "subject_id" draft.subject
    let role ← Json.Record.need "role" draft.role
    return (subject, role)

/-- Reads a payload from JSON. -/
def reading : Json.Reading Payload := do
  let (subject, role) ← record.value
  match new? subject role with
  | some payload => return payload
  | none => Json.Reading.refuse (.refused refusal)

/-- The payload that a JSON text holds. -/
def decode (text : List UInt8) : Except Json.Fault Payload :=
  Json.Reading.whole reading text

end Payload

end Bearer
