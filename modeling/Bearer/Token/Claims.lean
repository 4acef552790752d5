import Bearer.Identity.Role
import Bearer.Json.Printer

/-!
# Claims of an access token

The body of an access token: whom it speaks of, who made it for whom, and when it ends. Times are
whole seconds since the epoch.
-/

namespace Bearer.Token

/-- What an access token asserts. -/
structure Claims where
  /-- The subject. -/
  subject : String
  /-- What the subject acts as. -/
  role : Role
  /-- Who made the token. -/
  issuer : String
  /-- Whom the token is meant for. -/
  audience : String
  /-- The last second at which the token counts. -/
  expiry : Int
  /-- The second at which the token was made. -/
  issuedAt : Int
  /-- A name of the token itself. -/
  identifier : String
deriving DecidableEq

namespace Claims

/-- The JSON text of the claims. -/
def encode (claims : Claims) : List Char :=
  Json.printObject
    [ ("sub", Json.printText claims.subject),
      ("role", Json.printText claims.role.name),
      ("iss", Json.printText claims.issuer),
      ("aud", Json.printText claims.audience),
      ("exp", Decimal.ofInt claims.expiry),
      ("iat", Decimal.ofInt claims.issuedAt),
      ("jti", Json.printText claims.identifier) ]

/-- The claims that were read so far. -/
structure Draft where
  /-- The subject, once read. -/
  subject : Option String
  /-- The role, once read. -/
  role : Option Role
  /-- The issuer, once read. -/
  issuer : Option String
  /-- The audience, once read. -/
  audience : Option String
  /-- The expiry, once read. -/
  expiry : Option Int
  /-- The time of issue, once read. -/
  issuedAt : Option Int
  /-- The name of the token, once read. -/
  identifier : Option String

/-- A member that is a text. -/
def textMember (name : String) (get : Draft → Option String) (put : Draft → String → Draft) :
    Json.Member Draft where
  name := name
  present := fun draft => (get draft).isSome
  read := fun draft => do return put draft (← Json.Reading.textValue "a string")

/-- A member that is an integer of 64 bits. -/
def integerMember (name : String) (get : Draft → Option Int) (put : Draft → Int → Draft) :
    Json.Member Draft where
  name := name
  present := fun draft => (get draft).isSome
  read := fun draft => do return put draft (← Json.Reading.integerValue "i64")

/-- The JSON form of the claims. -/
def record : Json.Record Draft Claims where
  title := "struct AccessClaims"
  blank := ⟨none, none, none, none, none, none, none⟩
  members :=
    [ textMember "sub" (·.subject) fun draft value => { draft with subject := some value },
      { name := "role"
        present := fun draft => draft.role.isSome
        read := fun draft => do return { draft with role := some (← Role.reading) } },
      textMember "iss" (·.issuer) fun draft value => { draft with issuer := some value },
      textMember "aud" (·.audience) fun draft value => { draft with audience := some value },
      integerMember "exp" (·.expiry) fun draft value => { draft with expiry := some value },
      integerMember "iat" (·.issuedAt) fun draft value => { draft with issuedAt := some value },
      textMember "jti" (·.identifier) fun draft value =>
        { draft with identifier := some value } ]
  complete := fun draft => do
    let subject ← Json.Record.need "sub" draft.subject
    let role ← Json.Record.need "role" draft.role
    let issuer ← Json.Record.need "iss" draft.issuer
    let audience ← Json.Record.need "aud" draft.audience
    let expiry ← Json.Record.need "exp" draft.expiry
    let issuedAt ← Json.Record.need "iat" draft.issuedAt
    let identifier ← Json.Record.need "jti" draft.identifier
    return { subject, role, issuer, audience, expiry, issuedAt, identifier }

/-- The claims that a JSON text holds. -/
def decode (text : List UInt8) : Except Json.Fault Claims :=
  Json.Reading.whole record.value text

end Claims

end Bearer.Token
