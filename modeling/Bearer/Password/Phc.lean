import Bearer.Number.Width
import Bearer.Text.Base64
import Bearer.Text.Decimal

/-!
# Written password hashes

A password hash is kept as `$algorithm$v=19$m=8,t=1,p=1$salt$hash`: the algorithm, a version,
numbered or written parameters, the salt and the hash. Everything after the algorithm may be left
out. `Phc.print` writes this form and `Phc.parse?` reads it.
-/

namespace Bearer.Password

/-- The parts of a written password hash. -/
structure Phc where
  /-- The name of the function. -/
  algorithm : List Char
  /-- The revision of the function. -/
  version : Option Nat
  /-- The parameters by name, in order. -/
  parameters : List (List Char × List Char)
  /-- The salt as it is written. -/
  salt : Option (List Char)
  /-- The stretched password. -/
  hash : Option (List UInt8)
deriving DecidableEq, Repr

namespace Phc

/-- Whether a character may stand in a name. -/
def isNameCharacter (character : Char) : Bool :=
  character.isLower || character.isDigit || character = '-'

/-- Whether a character may stand in a value. -/
def isValueCharacter (character : Char) : Bool :=
  character.isAlphanum || character = '/' || character = '+' || character = '.' || character = '-'

/-- Whether a text is a name: from 1 to 32 characters. -/
def isName (text : List Char) : Bool :=
  text ≠ [] && text.length ≤ 32 && text.all isNameCharacter

/-- Whether a text is a value: up to 64 characters. -/
def isValue (text : List Char) : Bool :=
  text.length ≤ 64 && text.all isValueCharacter

/-- A decimal of 32 bits without a leading zero. -/
def decimal? (text : List Char) : Option Nat :=
  if text.length ≠ 1 ∧ text.head? = some '0' then none
  else (Decimal.natural? text).filter (· < Number.bound32)

/-- A parameter `name=value`. -/
def parameter? (text : List Char) : Option (List Char × List Char) :=
  match text.splitOn '=' with
  | [name, value] => if isName name && isValue value then some (name, value) else none
  | _ => none

/-- The parameters of a field, separated by commas. -/
def parameters? (field : List Char) : Option (List (List Char × List Char)) :=
  if 127 < (String.ofList field).utf8ByteSize then none
  else (field.splitOn ',').mapM parameter?

/-- The salt and the hash, in the last fields. -/
def ending? : List (List Char) → Option (Option (List Char) × Option (List UInt8))
  | [] => some (none, none)
  | salt :: rest =>
    if 4 ≤ salt.length && isValue salt then
      match rest with
      | [] => some (some salt, none)
      | [hash] => do
        let bytes ← Base64.decode? Base64.standardUnpadded hash
        if 10 ≤ bytes.length ∧ bytes.length ≤ 64 then some (some salt, some bytes) else none
      | _ => none
    else none

/-- The parameters, the salt and the hash. -/
def afterVersion? (algorithm : List Char) (version : Option Nat) (fields : List (List Char)) :
    Option Phc := do
  let (parameters, rest) ← match fields with
    | field :: rest =>
      if field.contains '=' then do pure (← parameters? field, rest) else some ([], fields)
    | [] => some ([], [])
  let (salt, hash) ← ending? rest
  return ⟨algorithm, version, parameters, salt, hash⟩

/-- Whether a field gives the version. -/
def isVersion (field : List Char) : Bool :=
  ['v', '='].isPrefixOf field && !field.contains ','

/-- Reads a written password hash. -/
def parse? (text : List Char) : Option Phc :=
  match text.splitOn '$' with
  | [] :: algorithm :: fields =>
    if isName algorithm then
      match fields with
      | field :: rest =>
        if isVersion field then
          if isValue (field.drop 2) then
            (decimal? (field.drop 2)).bind fun version => afterVersion? algorithm version rest
          else none
        else afterVersion? algorithm none fields
      | [] => afterVersion? algorithm none []
    else none
  | _ => none

/-- A written parameter. -/
def printParameter (parameter : List Char × List Char) : List Char :=
  parameter.1 ++ '=' :: parameter.2

/-- The fields of a written password hash. -/
def fields (phc : Phc) : List (List Char) :=
  let version := (phc.version.map fun number => 'v' :: '=' :: Decimal.ofNat number).toList
  let parameters :=
    if phc.parameters = [] then [] else [[','].intercalate (phc.parameters.map printParameter)]
  let hash := (phc.hash.map (Base64.encode Base64.standardUnpadded)).toList
  [] :: phc.algorithm :: version ++ parameters ++ phc.salt.toList ++ hash

/-- Writes a password hash. -/
def print (phc : Phc) : List Char :=
  ['$'].intercalate phc.fields

end Phc

end Bearer.Password
