import Bearer.Config.Environment
import Bearer.Text.Blank
import Bearer.Text.Letter

/-!
# Settings files

A settings file adds variables to the environment: `NAME=value`, a line each. A value may be quoted,
may hold escapes and may refer to other variables, and an open quote carries it over to the next
line. Variables that are set already stay, and the file is read as far as it can be understood.
-/

namespace Bearer.DotEnv

/-- Where the division into lines stands. -/
inductive LineState where
  /-- Outside of quotes. -/
  | plain
  /-- Outside of quotes, after white space. -/
  | blank
  /-- Outside of quotes, after a backslash. -/
  | escape
  /-- Inside single quotes. -/
  | single
  /-- Inside single quotes, after a backslash. -/
  | singleEscape
  /-- Inside double quotes. -/
  | double
  /-- Inside double quotes, after a backslash. -/
  | doubleEscape
deriving DecidableEq, Repr

namespace LineState

/-- The state after a character that opens or continues something outside of quotes. -/
def opened (character : Char) : LineState :=
  if character = '\\' then escape
  else if character = '"' then double
  else if character = '\'' then single
  else plain

/-- The state after one more character; none where a comment begins. -/
def next (state : LineState) (character : Char) : Option LineState :=
  match state with
  | plain =>
    some (if Text.isBlank character ∧ character ≠ '\n' ∧ character ≠ '\r' then blank
      else opened character)
  | blank => if character = '#' then none else some (opened character)
  | escape => some plain
  | single =>
    some (if character = '\\' then singleEscape else if character = '\'' then plain else single)
  | singleEscape => some single
  | double =>
    some (if character = '\\' then doubleEscape else if character = '"' then plain else double)
  | doubleEscape => some double

end LineState

/-- Reads a line up to a comment. Gives what was read and the state behind it, or none where a
comment follows. -/
def scan : LineState → List Char → List Char × Option LineState
  | state, [] => ([], some state)
  | state, character :: rest =>
    match state.next character with
    | none => ([], none)
    | some state =>
      let (read, ending) := scan state rest
      (character :: read, ending)

/-- The lines of a text, each with its line feed. -/
def physicalLines : List Char → List (List Char)
  | [] => []
  | '\n' :: rest => ['\n'] :: physicalLines rest
  | character :: rest =>
    match physicalLines rest with
    | [] => [[character]]
    | line :: lines => (character :: line) :: lines

/-- A line without its line feed and a carriage return before it. -/
def withoutBreak (line : List Char) : List Char :=
  match line.reverse with
  | '\n' :: '\r' :: rest => rest.reverse
  | '\n' :: rest => rest.reverse
  | _ => line

/-- The entries of a file: lines joined while a quote is open, without comments. They end where the
last one is left open. -/
def entries : List Char → LineState → List (List Char) → List (List Char)
  | _, _, [] => []
  | pending, state, line :: lines =>
    if (Text.trimStart (pending ++ line)).head? = some '#' then [] :: entries [] .plain lines
    else
      let (read, ending) := scan state line
      match ending with
      | none => (pending ++ read) :: entries [] .plain lines
      | some .plain => withoutBreak (pending ++ read) :: entries [] .plain lines
      | some state => entries (pending ++ read) state lines

/-- Where the reading of a value stands. -/
inductive Mode where
  /-- Between or inside double quotes. -/
  | plain (quoted : Bool)
  /-- After a backslash. -/
  | escaped (quoted : Bool)
  /-- Inside single quotes. -/
  | literal
  /-- Inside the name of a variable, which may stand in braces. -/
  | naming (quoted braced : Bool) (name : List Char)
  /-- After the value. -/
  | ended

/-- What a name refers to: the rest of the entry `variable=value` that begins with the name and an
equals sign. A name that holds an equals sign itself reaches into the value. -/
def referent? (environment : Environment) (name : List Char) : Option (List UInt8) :=
  match environment.find? (String.ofList (name.takeWhile (· ≠ '='))), name.dropWhile (· ≠ '=') with
  | some value, [] => some value
  | some value, _ :: inside => (Text.bytes (String.ofList (inside ++ ['=']))).isPrefixOf? value
  | none, _ => none

/-- The text that stands for a name, which is given in reverse. A name that refers to nothing or to
no text stands for the empty one. -/
def substitute (environment : Environment) (name : List Char) : List Char :=
  (((referent? environment name.reverse).bind Text.ofBytes?).getD "").toList

/-- Reads one more character of a value outside of names, escapes and single quotes. -/
def readPlain (quoted : Bool) (output : List Char) (character : Char) :
    Option (Mode × List Char) :=
  if character = '$' then some (.naming quoted false [], output)
  else if character = '\\' then some (.escaped quoted, output)
  else if character = '"' then some (.plain !quoted, output)
  else if quoted then some (.plain true, character :: output)
  else if character = '\'' then some (.literal, output)
  else if character = ' ' ∨ character = '\t' then some (.ended, output)
  else some (.plain false, character :: output)

/-- Reads one more character of a value. What was read is kept in reverse. -/
def readCharacter (environment : Environment) (mode : Mode) (output : List Char)
    (character : Char) : Option (Mode × List Char) :=
  match mode with
  | .plain quoted => readPlain quoted output character
  | .escaped quoted =>
    if ['\\', '\'', '"', '$', ' '].contains character then some (.plain quoted, character :: output)
    else if character = 'n' then some (.plain quoted, '\n' :: output)
    else none
  | .literal =>
    if character = '\'' then some (.plain false, output) else some (.literal, character :: output)
  | .naming quoted true name =>
    if character = '\x7d' then
      some (.plain quoted, (substitute environment name).reverse ++ output)
    else some (.naming quoted true (character :: name), output)
  | .naming quoted false name =>
    if Text.isLetterOrDigit character then
      some (.naming quoted false (character :: name), output)
    else if character = '\x7b' ∧ name = [] then some (.naming quoted true [], output)
    else
      let output := (substitute environment name).reverse ++ output
      if character = '$' then some (.naming quoted false [], output)
      else some (.plain quoted, character :: output)
  | .ended => if character = ' ' ∨ character = '\t' then some (.ended, output) else none

/-- Reads a value. After its end only blanks and a comment may follow. -/
def readValue (environment : Environment) : Mode → List Char → List Char → Option (List Char)
  | .plain false, output, [] => some output.reverse
  | .escaped false, output, [] => some output.reverse
  | .naming false false name, output, [] =>
    some (output.reverse ++ substitute environment name)
  | .ended, output, [] => some output.reverse
  | _, _, [] => none
  | .ended, output, '#' :: _ => some output.reverse
  | mode, output, character :: rest => do
    let (mode, output) ← readCharacter environment mode output character
    readValue environment mode output rest

/-- Whether a character may begin a name. -/
def beginsName (character : Char) : Bool :=
  character.isAlpha || character = '_'

/-- Whether a character may stand in a name. -/
def inName (character : Char) : Bool :=
  character.isAlphanum || character = '_' || character = '.'

/-- A name and the rest of the line behind it and behind blanks. -/
def name? (line : List Char) : Option (List Char × List Char) :=
  if line.head?.any beginsName then
    some (line.takeWhile inName, Text.trimStart (line.dropWhile inName))
  else none

/-- The rest of the line behind an equals sign. -/
def afterEquals? : List Char → Option (List Char)
  | '=' :: rest => some rest
  | _ => none

/-- The name of an entry and what follows the equals sign. The word `export` may stand in front. -/
def assignment? (line : List Char) : Option (List Char × List Char) := do
  let (name, rest) ← name? line
  if name = "export".toList then
    match afterEquals? rest with
    | some value => return (name, value)
    | none =>
      let (name, rest) ← name? rest
      return (name, ← afterEquals? rest)
  else return (name, ← afterEquals? rest)

/-- What an entry says. -/
inductive Entry where
  /-- Nothing. -/
  | none
  /-- A variable has a value. -/
  | variable (name value : String)
  /-- Something that cannot be understood. -/
  | bad

/-- Reads an entry. -/
def readEntry (environment : Environment) (entry : List Char) : Entry :=
  let line := Text.trimStart (Text.trimEnd entry)
  if line = [] ∨ line.head? = some '#' then .none
  else
    match assignment? line with
    | Option.none => .bad
    | some (name, rest) =>
      let rest := Text.trimStart rest
      if rest = [] ∨ rest.head? = some '#' then .variable (String.ofList name) ""
      else
        match readValue environment (.plain false) [] rest with
        | Option.none => .bad
        | some value => .variable (String.ofList name) (String.ofList value)

/-- The environment after some entries, up to the first bad one. No variable can hold a NUL
character: where one is to be set, there is no environment. -/
def apply (environment : Environment) : List (List Char) → Option Environment
  | [] => some environment
  | entry :: rest =>
    match readEntry environment entry with
    | .none => apply environment rest
    | .bad => some environment
    | .variable name value =>
      if (environment.text? name).isSome then apply environment rest
      else if value.toList.contains '\x00' then none
      else apply (environment.set name value) rest

/-- The environment after a settings file. A byte order mark at its beginning does not count. -/
def load (environment : Environment) (file : String) : Option Environment :=
  let text := match file.toList with
    | '\ufeff' :: rest => rest
    | text => text
  apply environment (entries [] .plain (physicalLines text))

end Bearer.DotEnv
