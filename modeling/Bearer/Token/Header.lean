import Bearer.Json.Printer
import Bearer.Json.Variant
import Bearer.Token.KeyParameters

/-!
# Headers of access tokens

The header of a token says how it is signed and with which key. Tokens made here are signed in one
way; others are read so that they can be refused.
-/

namespace Bearer.Token

/-- How a token is signed. -/
inductive Algorithm where
  | hs256
  | hs384
  | hs512
  | es256
  | es384
  | rs256
  | rs384
  | rs512
  | ps256
  | ps384
  | ps512
  | edDSA
deriving DecidableEq, Repr

/-- The written names of the algorithms. -/
def Algorithm.choices : List (String × Algorithm) :=
  [ ("HS256", hs256), ("HS384", hs384), ("HS512", hs512), ("ES256", es256), ("ES384", es384),
    ("RS256", rs256), ("RS384", rs384), ("RS512", rs512), ("PS256", ps256), ("PS384", ps384),
    ("PS512", ps512), ("EdDSA", edDSA) ]

/-- What a header says that matters here. -/
structure Header where
  /-- How the token is signed. -/
  algorithm : Algorithm
  /-- The name of the key. -/
  keyName : Option String
deriving DecidableEq, Repr

namespace Header

/-- The JSON text of the header of a token made here. -/
def encode (keyName : String) : List Char :=
  Json.printObject
    [ ("typ", Json.printText "JWT"), ("alg", Json.printText "HS256"),
      ("kid", Json.printText keyName) ]

/-- The members of a header that were read so far. -/
structure Draft where
  /-- The names of the members. -/
  seen : List String
  /-- How the token is signed, once read. -/
  algorithm : Option Algorithm
  /-- The name of the key, once read and unless it is null. -/
  keyName : Option String

/-- A member whose value enters the draft in some way. -/
def member {α : Type} (name : String) (reading : Json.Reading α) (put : Draft → α → Draft) :
    Json.Member Draft where
  name := name
  present := fun draft => draft.seen.contains name
  read := fun draft => do
    let value ← reading
    return { put draft value with seen := name :: draft.seen }

/-- An optional text of no consequence. -/
def ignoredText (name : String) : Json.Member Draft :=
  member name (Json.Reading.optional (Json.Reading.textValue "a string")) fun draft _ => draft

/-- The JSON form of a header. -/
def record : Json.Record Draft Header where
  title := "a header"
  blank := ⟨[], none, none⟩
  members :=
    [ ignoredText "typ",
      member "alg" (Json.Reading.variant Algorithm.choices) fun draft algorithm =>
        { draft with algorithm := some algorithm },
      ignoredText "cty",
      ignoredText "jku",
      member "jwk" (Json.Reading.optional KeyParameters.reading) fun draft _ => draft,
      member "kid" (Json.Reading.optional (Json.Reading.textValue "a string")) fun draft keyName =>
        { draft with keyName },
      ignoredText "x5u",
      member "x5c" (Json.Reading.optional
        (Json.Reading.listValue (Json.Reading.textValue "a string") "a sequence"))
        fun draft _ => draft,
      ignoredText "x5t",
      ignoredText "x5t#S256" ]
  complete := fun draft => do
    let algorithm ← Json.Record.need "alg" draft.algorithm
    return { algorithm, keyName := draft.keyName }

/-- The header that a JSON text holds. -/
def decode (text : List UInt8) : Except Json.Fault Header :=
  Json.Reading.whole record.value text

end Header

end Bearer.Token
