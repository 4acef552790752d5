import Bearer.Text.Quoted
import Bearer.Number.Shortest

/-!
# What can be wrong with a JSON text

A `Fault` is a cause and, for most causes, the place where reading stopped. `Fault.message` is the
one place where the wording is chosen.
-/

namespace Bearer.Json

/-- A number as it is written: without sign and fraction, below zero without fraction, or any
other, rounded to double precision. The negative zero is of the last kind. -/
inductive Number where
  /-- A natural number below 2^64. -/
  | natural (value : Nat)
  /-- The negative of a number from 1 to 2^63. -/
  | negative (size : Nat)
  /-- A number with a fraction or an exponent, or too large for the other kinds. -/
  | double (value : Number.Double)
deriving DecidableEq, Repr

/-- What was found where something else was expected. -/
inductive Found where
  | null
  | boolean (value : Bool)
  | number (value : Number)
  | text (value : String)
  | list
  | object
deriving DecidableEq, Repr

/-- Why a text cannot be read. -/
inductive Problem where
  | endOfList
  | endOfObject
  | endOfText
  | endOfValue
  | expectedColon
  | expectedCommaOrBracket
  | expectedCommaOrBrace
  | expectedWord
  | expectedValue
  | invalidEscape
  | invalidNumber
  | numberOutOfRange
  | invalidCodePoint
  | controlCharacter
  | keyNotText
  | loneSurrogate
  | trailingComma
  | trailingCharacters
  | unfinishedSurrogatePair
  | tooDeep
  /-- A value of the wrong kind. -/
  | wrongType (found : Found) (expected : String)
  /-- A value of the right kind that is out of range. -/
  | wrongValue (found : Found) (expected : String)
  /-- A list with too few elements. -/
  | wrongLength (length : Nat) (expected : String)
  /-- An object without a member that it needs. -/
  | missingMember (name : String)
  /-- An object with a known member twice. -/
  | duplicateMember (name : String)
  /-- A name that is none of the alternatives. -/
  | unknownVariant (name : String) (alternatives : List String)
  /-- A value that is well formed but refused. -/
  | refused (reason : String)
deriving DecidableEq, Repr

/-- A problem and the line and column, counted in bytes, where it was noticed. -/
structure Fault where
  /-- What is wrong. -/
  problem : Problem
  /-- The line and the number of bytes read of it; none for a value that was read and refused. -/
  place : Option (Nat × Nat)
deriving DecidableEq, Repr

/-- A number inside a message. -/
def Number.shown : Number → String
  | .natural value => "integer \x60" ++ toString value ++ "\x60"
  | .negative size => "integer \x60-" ++ toString size ++ "\x60"
  | .double value => "floating point \x60" ++ value.text ++ "\x60"

/-- What was found, inside a message. -/
def Found.shown : Found → String
  | .null => "null"
  | .boolean value => "boolean \x60" ++ (if value then "true" else "false") ++ "\x60"
  | .number value => value.shown
  | .text value => "string " ++ Text.quoted value
  | .list => "sequence"
  | .object => "map"

/-- Alternatives inside a message. -/
def alternativesShown (names : List String) : String :=
  let marked := names.map fun name => "\x60" ++ name ++ "\x60"
  match marked with
  | [] => "nothing"
  | [only] => only
  | [first, second] => first ++ " or " ++ second
  | several => "one of " ++ ", ".intercalate several

/-- The wording of a problem. -/
def Problem.message : Problem → String
  | .endOfList => "EOF while parsing a list"
  | .endOfObject => "EOF while parsing an object"
  | .endOfText => "EOF while parsing a string"
  | .endOfValue => "EOF while parsing a value"
  | .expectedColon => "expected \x60:\x60"
  | .expectedCommaOrBracket => "expected \x60,\x60 or \x60]\x60"
  | .expectedCommaOrBrace => "expected \x60,\x60 or \x60\x7d\x60"
  | .expectedWord => "expected ident"
  | .expectedValue => "expected value"
  | .invalidEscape => "invalid escape"
  | .invalidNumber => "invalid number"
  | .numberOutOfRange => "number out of range"
  | .invalidCodePoint => "invalid unicode code point"
  | .controlCharacter => "control character (\\u0000-\\u001F) found while parsing a string"
  | .keyNotText => "key must be a string"
  | .loneSurrogate => "lone leading surrogate in hex escape"
  | .trailingComma => "trailing comma"
  | .trailingCharacters => "trailing characters"
  | .unfinishedSurrogatePair => "unexpected end of hex escape"
  | .tooDeep => "recursion limit exceeded"
  | .wrongType found expected => "invalid type: " ++ found.shown ++ ", expected " ++ expected
  | .wrongValue found expected => "invalid value: " ++ found.shown ++ ", expected " ++ expected
  | .wrongLength length expected =>
    "invalid length " ++ toString length ++ ", expected " ++ expected
  | .missingMember name => "missing field \x60" ++ name ++ "\x60"
  | .duplicateMember name => "duplicate field \x60" ++ name ++ "\x60"
  | .unknownVariant name alternatives =>
    "unknown variant \x60" ++ name ++ "\x60, expected " ++ alternativesShown alternatives
  | .refused reason => reason

/-- The wording of a fault: the problem, and the place if there is one. -/
def Fault.message (fault : Fault) : String :=
  match fault.place with
  | none => fault.problem.message
  | some (line, column) =>
    fault.problem.message ++ " at line " ++ toString line ++ " column " ++ toString column

end Bearer.Json
