import Bearer.Json.Value

/-!
# Key parameters inside a header

A header may carry a public key. It is not used, but its form is checked: some members are common to
all keys, and the others must be those of one of four families of keys.
-/

namespace Bearer.Token.KeyParameters

open Json (Value)

/-- Whether a value is a text. -/
def isText : Value → Bool
  | .text _ => true
  | _ => false

/-- Whether a value is missing on purpose. -/
def isNull : Value → Bool
  | .null => true
  | _ => false

/-- Whether a value is a list of texts. -/
def isTexts : Value → Bool
  | .list elements => elements.all isText
  | _ => false

/-- Whether a value is missing on purpose or has no members. -/
def isEmpty : Value → Bool
  | .object members => members.isEmpty
  | value => isNull value

/-- Whether a value is one of some names, as a text or as the name of a lone member without
content. -/
def isChoice (names : List String) (isUnit : Value → Bool) : Value → Bool
  | .text name => names.contains name
  | .object [(name, content)] => names.contains name && isUnit content
  | _ => false

/-- The names of the algorithms that a key may be meant for. -/
def algorithms : List String :=
  [ "HS256", "HS384", "HS512", "ES256", "ES384", "RS256", "RS384", "RS512", "PS256", "PS384",
    "PS512", "EdDSA", "RSA1_5", "RSA-OAEP", "RSA-OAEP-256" ]

/-- The members that keys of all families may have. -/
def common : List (String × (Value → Bool)) :=
  [ ("use", isText), ("key_ops", isTexts), ("alg", isChoice algorithms isEmpty), ("kid", isText),
    ("x5u", isText), ("x5c", isTexts), ("x5t", isText), ("x5t#S256", isText) ]

/-- The members of a key that are written under a name. -/
def under (members : List (String × Value)) (name : String) : List Value :=
  (members.filter fun member => member.1 = name).map Prod.snd

/-- Whether a member is absent, null or good. -/
def isOptional (members : List (String × Value)) (rule : String × (Value → Bool)) : Bool :=
  match under members rule.1 with
  | [] => true
  | [value] => isNull value || rule.2 value
  | _ => false

/-- Whether a member is there once and good. -/
def isRequired (members : List (String × Value)) (rule : String × (Value → Bool)) : Bool :=
  match under members rule.1 with
  | [value] => rule.2 value
  | _ => false

/-- One of the named curves. -/
def isCurve : Value → Bool :=
  isChoice ["P-256", "P-384", "P-521", "Ed25519"] isNull

/-- The name of a family. -/
def isFamily (family : String) : Value → Bool :=
  isChoice [family] isNull

/-- The members that the keys of each family must have. -/
def families : List (List (String × (Value → Bool))) :=
  [ [("kty", isFamily "EC"), ("crv", isCurve), ("x", isText), ("y", isText)],
    [("kty", isFamily "RSA"), ("n", isText), ("e", isText)],
    [("kty", isFamily "oct"), ("k", isText)],
    [("kty", isFamily "OKP"), ("crv", isCurve), ("x", isText)] ]

/-- Whether the members make a key of one of the families. -/
def accepts (members : List (String × Value)) : Bool :=
  let others := members.filter fun member => (common.lookup member.1).isNone
  common.all (isOptional members) && families.any fun family => family.all (isRequired others)

/-- How deep a key may be nested. -/
def depth : Nat := 126

/-- Reads a key and checks its form. -/
def reading : Json.Reading Unit := do
  match ← Json.Reading.peekToken with
  | some '{' =>
    Json.Reading.skip
    let members ← Json.Reading.closedBy
      (Json.Reading.bounded (Json.Reading.pairs (Json.Reading.anyValue depth) · true []))
      Json.Reading.endObject
    if accepts members.reverse then return ()
    else Json.Reading.refuse (.refused "unknown key family")
  | some _ => Json.Reading.wrongKind "a key"
  | none => Json.Reading.failAhead .endOfValue

end Bearer.Token.KeyParameters
