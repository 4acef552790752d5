import Bearer.Json.Fault

/-!
# Reading with a place

A `Cursor` is the rest of the text with the place of its first byte. A `Reading` moves a cursor and
ends in a value or a fault. A fault does not undo the movement: a reader that goes on after a fault
goes on where the fault arose, and a fault without a place takes the place that was reached.
-/

namespace Bearer.Json

/-- The rest of a text and the place where it begins. -/
structure Cursor where
  /-- The bytes not yet read. -/
  rest : List UInt8
  /-- The current line, from one. -/
  line : Nat
  /-- The number of bytes read of the current line. -/
  column : Nat
deriving DecidableEq, Repr

namespace Cursor

/-- The beginning of a text. -/
def start (text : List UInt8) : Cursor :=
  ⟨text, 1, 0⟩

/-- The character whose code is a byte. -/
def character (byte : UInt8) : Char :=
  Char.ofNat byte.toNat

/-- The next byte as a character. -/
def next? (cursor : Cursor) : Option Char :=
  cursor.rest.head?.map character

/-- The cursor after one more byte. -/
def advance (cursor : Cursor) : Cursor :=
  match cursor.rest with
  | [] => cursor
  | byte :: rest =>
    if character byte = '\n' then ⟨rest, cursor.line + 1, 0⟩
    else ⟨rest, cursor.line, cursor.column + 1⟩

/-- Whether a byte may stand between two tokens. -/
def isGap (byte : Char) : Bool :=
  byte = ' ' || byte = '\n' || byte = '\t' || byte = '\r'

/-- The cursor at the next token of a text that begins at a place. -/
def atToken (line column : Nat) : List UInt8 → Cursor
  | [] => ⟨[], line, column⟩
  | byte :: rest =>
    if character byte = '\n' then atToken (line + 1) 0 rest
    else if isGap (character byte) then atToken line (column + 1) rest
    else ⟨byte :: rest, line, column⟩

/-- The cursor at the next token. -/
def skipGaps (cursor : Cursor) : Cursor :=
  atToken cursor.line cursor.column cursor.rest

/-- The cursor after so many bytes, or at the end of the text. -/
def advanceBy : Nat → Cursor → Cursor
  | 0, cursor => cursor
  | steps + 1, cursor => advanceBy steps cursor.advance

@[simp]
theorem rest_advance (cursor : Cursor) : cursor.advance.rest = cursor.rest.tail := by
  obtain ⟨rest, line, column⟩ := cursor
  cases rest with
  | nil => rfl
  | cons byte rest => simp only [advance]; split <;> rfl

end Cursor

/-- A step of reading: it moves the cursor and gives a value or a fault. -/
abbrev Reading (α : Type) : Type :=
  ExceptT Fault (StateM Cursor) α

namespace Reading

variable {α : Type}

/-- The next byte, which stays unread. -/
def peek : Reading (Option Char) := do
  return (← get).next?

/-- Reads one byte. -/
def skip : Reading Unit :=
  modify Cursor.advance

/-- Reads and gives the next byte. -/
def take : Reading (Option Char) := do
  let next ← peek
  skip
  return next

/-- The first byte of the next token, which stays unread. -/
def peekToken : Reading (Option Char) := do
  modify Cursor.skipGaps
  peek

/-- A fault at the place reached. -/
def fail (problem : Problem) : Reading α := do
  let cursor ← get
  throw ⟨problem, some (cursor.line, cursor.column)⟩

/-- A fault that counts the byte looked at as read. -/
def failAhead (problem : Problem) : Reading α := do
  let cursor := (← get).advance
  throw ⟨problem, some (cursor.line, cursor.column)⟩

/-- A fault of a value, which has no place of its own. -/
def refuse (problem : Problem) : Reading α :=
  throw ⟨problem, none⟩

/-- The outcome of a reading as a value. -/
def outcome (reading : Reading α) : Reading (Except Fault α) :=
  ExceptT.lift reading.run

/-- Gives a fault without a place the place reached. -/
def placed (reading : Reading α) : Reading α := do
  match ← outcome reading with
  | .ok value => return value
  | .error ⟨problem, none⟩ => fail problem
  | .error fault => throw fault

/-- A reading and what must close it. The closing is looked for after a fault too, and the fault
of the content counts first. -/
def closedBy (content : Reading α) (closing : Reading Unit) : Reading α := do
  let value ← outcome content
  let closed ← outcome closing
  match value, closed with
  | .ok value, .ok () => return value
  | .error fault, _ => throw fault
  | _, .error fault => throw fault

/-- A reading that needs a bound on its steps gets one that the rest of the text cannot exceed. -/
def bounded (reading : Nat → Reading α) : Reading α := do
  reading ((← get).rest.length + 1)

/-- Reads the given letters of a word. -/
def word : List Char → Reading Unit
  | [] => return ()
  | letter :: letters => do
    match ← take with
    | none => fail .endOfValue
    | some found => if found = letter then word letters else fail .expectedWord

/-- The end of the text, apart from gaps. -/
def finish : Reading Unit := do
  match ← peekToken with
  | some _ => failAhead .trailingCharacters
  | none => return ()

/-- Reads a whole text. -/
def whole (reading : Reading α) (text : List UInt8) : Except Fault α :=
  let complete : Reading α := do
    let value ← reading
    finish
    return value
  (complete.run.run (Cursor.start text)).1

end Reading

end Bearer.Json
