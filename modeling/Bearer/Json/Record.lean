import Bearer.Json.Skipped

/-!
# Records

A record is written as an object, or as the list of its members in their order. Members of an object
come in any order, each at most once; unknown ones are read over. What was read so far is a draft,
and a complete draft makes the record.
-/

namespace Bearer.Json

/-- A member of a record and how it enters the draft. -/
structure Member (δ : Type) where
  /-- The name of the member. -/
  name : String
  /-- Whether the draft has the member. -/
  present : δ → Bool
  /-- Reads the value of the member into the draft. -/
  read : δ → Reading δ

/-- The form of a record: its members, the draft without any, and what a draft makes. -/
structure Record (δ α : Type) where
  /-- What the record is called in a fault. -/
  title : String
  /-- The members in their order. -/
  members : List (Member δ)
  /-- The draft without members. -/
  blank : δ
  /-- The record, if the draft has what it needs. -/
  complete : δ → Except Problem α

namespace Reading

variable {α δ : Type}

/-- A value of another kind than the expected one. -/
def wrongKind (expected : String) : Reading α := do
  match ← peek with
  | some 'n' => do
    skip
    word ['u', 'l', 'l']
    refuse (.wrongType .null expected)
  | some 't' => do
    skip
    word ['r', 'u', 'e']
    refuse (.wrongType (.boolean true) expected)
  | some 'f' => do
    skip
    word ['a', 'l', 's', 'e']
    refuse (.wrongType (.boolean false) expected)
  | some '"' => do
    skip
    let found ← text
    refuse (.wrongType (.text found) expected)
  | some '[' => refuse (.wrongType .list expected)
  | some '{' => refuse (.wrongType .object expected)
  | some byte =>
    if byte = '-' ∨ byte.isDigit then do
      let found ← number
      refuse (.wrongType (.number found) expected)
    else failAhead .expectedValue
  | none => failAhead .expectedValue

/-- A text value. -/
def textValue (expected : String) : Reading String := placed do
  match ← peekToken with
  | none => failAhead .endOfValue
  | some '"' => do
    skip
    text
  | some _ => wrongKind expected

/-- An integer of 64 bits with a sign. -/
def integerValue (expected : String) : Reading Int := placed do
  match ← peekToken with
  | none => failAhead .endOfValue
  | some byte =>
    if byte = '-' ∨ byte.isDigit then do
      match ← number with
      | .natural value =>
        if value < Number.signedBound64 then return value
        else refuse (.wrongValue (.number (.natural value)) expected)
      | .negative size => return -size
      | .double value => refuse (.wrongType (.number (.double value)) expected)
    else wrongKind expected

/-- The null value. -/
def nullValue (expected : String) : Reading Unit := placed do
  match ← peekToken with
  | none => failAhead .endOfValue
  | some 'n' => do
    skip
    word ['u', 'l', 'l']
  | some _ => wrongKind expected

/-- A value or null. -/
def optional (reading : Reading α) : Reading (Option α) := do
  match ← peekToken with
  | some 'n' => do
    skip
    word ['u', 'l', 'l']
    return none
  | _ => some <$> reading

/-- The end of a list. -/
def endList : Reading Unit := do
  match ← peekToken with
  | none => failAhead .endOfList
  | some ']' => skip
  | some ',' => do
    skip
    if (← peekToken) = some ']' then failAhead .trailingComma else failAhead .trailingCharacters
  | some _ => failAhead .trailingCharacters

/-- The end of an object. -/
def endObject : Reading Unit := do
  match ← peekToken with
  | none => failAhead .endOfObject
  | some '}' => skip
  | some ',' => failAhead .trailingComma
  | some _ => failAhead .trailingCharacters

/-- Moves to the next element of a list; false at the bracket, which stays unread. -/
def nextElement (first : Bool) : Reading Bool := do
  match ← peekToken with
  | none => failAhead .endOfList
  | some ']' => return false
  | some byte =>
    if first then return true
    else if byte ≠ ',' then failAhead .expectedCommaOrBracket
    else do
      skip
      match ← peekToken with
      | none => failAhead .endOfValue
      | some ']' => failAhead .trailingComma
      | some _ => return true

/-- The name of the next member of an object; none at the brace, which stays unread. -/
def nextName (first : Bool) : Reading (Option String) := do
  match ← peekToken with
  | none => failAhead .endOfObject
  | some '}' => return none
  | some byte =>
    let begun ←
      if first then pure (some byte)
      else if byte ≠ ',' then failAhead .expectedCommaOrBrace
      else do
        skip
        peekToken
    match begun with
    | some '"' => do
      skip
      return some (← text)
    | some '}' => failAhead .trailingComma
    | some _ => failAhead .keyNotText
    | none => failAhead .endOfValue

/-- The elements of a list up to its bracket, in reverse. -/
def elements (element : Reading α) : Nat → Bool → List α → Reading (List α)
  | 0, _, _ => fail .endOfList
  | steps + 1, first, read => do
    if ← nextElement first then do
      let value ← element
      elements element steps false (value :: read)
    else return read

/-- A list whose elements are all of one kind. -/
def listValue (element : Reading α) (expected : String) : Reading (List α) := placed do
  match ← peekToken with
  | none => failAhead .endOfValue
  | some '[' => do
    skip
    let read ← closedBy (bounded (elements element · true [])) endList
    return read.reverse
  | some _ => wrongKind expected

end Reading

namespace Record

open Reading

variable {α δ : Type}

/-- The members in their order, as a list, from one of them on. -/
def readElements (record : Record δ α) : List (Member δ) → Nat → δ → Reading δ
  | [], _, draft => return draft
  | member :: members, index, draft => do
    if ← nextElement (index = 0) then do
      let draft ← member.read draft
      readElements record members (index + 1) draft
    else
      refuse (.wrongLength index
        (record.title ++ " with " ++ toString record.members.length ++ " elements"))

/-- The members by name, up to the brace. -/
def readMembers (record : Record δ α) : Nat → Bool → δ → Reading δ
  | 0, _, _ => fail .endOfObject
  | steps + 1, first, draft => do
    match ← nextName first with
    | none => return draft
    | some name =>
      match record.members.find? fun member => member.name = name with
      | none => do
        colon
        skipValue
        readMembers record steps false draft
      | some member =>
        if member.present draft then refuse (.duplicateMember name)
        else do
          colon
          let draft ← member.read draft
          readMembers record steps false draft

/-- What a draft makes, or why it makes nothing. -/
def completed (record : Record δ α) (draft : δ) : Reading α :=
  match record.complete draft with
  | .ok value => return value
  | .error problem => refuse problem

/-- Reads a record as an object or as a list. -/
def value (record : Record δ α) : Reading α := placed do
  match ← peekToken with
  | none => failAhead .endOfValue
  | some '[' => do
    skip
    closedBy (do record.completed (← record.readElements record.members 0 record.blank)) endList
  | some '{' => do
    skip
    closedBy (do record.completed (← bounded (record.readMembers · true record.blank))) endObject
  | some _ => wrongKind record.title

/-- A member that the draft must have. -/
def need (name : String) (found : Option α) : Except Problem α :=
  match found with
  | some value => .ok value
  | none => .error (.missingMember name)

end Record

end Bearer.Json
