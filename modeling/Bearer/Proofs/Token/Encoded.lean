import Bearer.Proofs.Identity.Payload
import Bearer.Proofs.Json.Skipped
import Bearer.Time.Instant
import Bearer.Token.Claims
import Bearer.Token.Header
import Bearer.Token.Registered

/-!
# Headers and claims read back

The header and the claims of a token are read back from their JSON texts, whatever the texts in them
are: `Header.decode_encode` and `Claims.decode_encode`. The claims hold registered claims, too:
their other members are read over (`Registered.accepts_encode`).
-/

namespace Bearer.Token

open Json Json.Reading

variable {α : Type}

private theorem reads_delimited {reading : Reading α} {written : List Char} {value : α}
    (reads : Reads Anything reading written value) : Reads Delimited reading written value :=
  reads_weaken reads fun _ _ => trivial

private theorem reads_ended {reading : Reading α} {written : List Char} {value : α}
    (reads : Reads NumberEnds reading written value) : Reads Delimited reading written value :=
  reads_weaken reads fun _ => numberEnds_of_delimited

namespace Header

private theorem reads_member {name : String} {reading : Reading α} {put : Draft → α → Draft}
    {written : List Char} {value : α} (reads : Reads Anything reading written value)
    (draft : Draft) :
    Reads Delimited ((member name reading put).read draft) written
      { put draft value with seen := name :: draft.seen } := by
  have taken := reads_return (fun value => { put draft value with seen := name :: draft.seen })
    (reads_delimited reads)
  exact taken

private theorem fills_record (keyName : String) :
    Record.Fills record record.blank
      [("typ", printText "JWT"), ("alg", printText "HS256"), ("kid", printText keyName)]
      ⟨["kid", "alg", "typ"], some .hs256, some keyName⟩ :=
  .cons rfl rfl (reads_member (reads_optional_textValue _ _) _) <|
    .cons rfl rfl (reads_member (reads_variant rfl) _) <|
      .cons rfl rfl (reads_member (reads_optional_textValue _ _) _) (.nil _)

/-- The header of a token made here names the algorithm and the key. -/
theorem decode_encode (keyName : String) :
    decode (Text.bytes (String.ofList (encode keyName))) = .ok ⟨.hs256, some keyName⟩ :=
  whole_eq_ok (Record.reads_value (fills_record keyName) rfl)

end Header

namespace Claims

private theorem reads_textMember {name : String} {get : Draft → Option String}
    {put : Draft → String → Draft} (draft : Draft) (value : String) :
    Reads Delimited ((textMember name get put).read draft) (printText value) (put draft value) :=
  reads_return (put draft) (reads_delimited (reads_textValue "a string" value))

private theorem reads_integerMember {name : String} {get : Draft → Option Int}
    {put : Draft → Int → Draft} (draft : Draft) {value : Int} (fits : Number.Fits value) :
    Reads Delimited ((integerMember name get put).read draft) (Decimal.ofInt value)
      (put draft value) :=
  reads_return (put draft) (reads_ended (reads_integerValue "i64" fits))

private theorem reads_role (draft : Draft) (role : Role) :
    Reads Delimited (do return { draft with role := some (← Role.reading) } : Reading Draft)
      (printText role.name) { draft with role := some role } := by
  have put := reads_return (fun role => { draft with role := some role })
    (reads_delimited (Role.reads_reading role))
  exact put

private theorem fills_record {claims : Claims} (expiry : Number.Fits claims.expiry)
    (issuedAt : Number.Fits claims.issuedAt) :
    Record.Fills record record.blank
      [ ("sub", printText claims.subject), ("role", printText claims.role.name),
        ("iss", printText claims.issuer), ("aud", printText claims.audience),
        ("exp", Decimal.ofInt claims.expiry), ("iat", Decimal.ofInt claims.issuedAt),
        ("jti", printText claims.identifier) ]
      ⟨some claims.subject, some claims.role, some claims.issuer, some claims.audience,
        some claims.expiry, some claims.issuedAt, some claims.identifier⟩ :=
  .cons rfl rfl (reads_textMember _ _) <|
    .cons rfl rfl (reads_role _ _) <|
      .cons rfl rfl (reads_textMember _ _) <|
        .cons rfl rfl (reads_textMember _ _) <|
          .cons rfl rfl (reads_integerMember _ expiry) <|
            .cons rfl rfl (reads_integerMember _ issuedAt) <|
              .cons rfl rfl (reads_textMember _ _) (.nil _)

/-- The JSON text of claims is read back as the claims, if their times are integers of 64 bits. -/
theorem decode_encode {claims : Claims} (expiry : Number.Fits claims.expiry)
    (issuedAt : Number.Fits claims.issuedAt) :
    decode (Text.bytes (String.ofList claims.encode)) = .ok claims :=
  whole_eq_ok (Record.reads_value (fills_record expiry issuedAt) rfl)

end Claims

namespace Registered

private theorem reads_member {follow : List UInt8 → Prop} {name : String} {written : List Char}
    (reads : Reads follow passOver written ()) (seen : List String) :
    Reads follow ((member name).read seen) written (name :: seen) :=
  reads_return (fun _ => name :: seen) (reads_return (fun _ => ()) (reads_outcome reads))

private theorem reads_passOver_text (value : String) :
    Reads Anything passOver (printText value) () := by
  refine reads_peekToken ⟨rfl, rfl, rfl⟩ ?_
  exact reads_then (reads_skip ⟨rfl, rfl, rfl⟩) (reads_return (fun _ => ()) (reads_text value))

private theorem reads_passOver_integer {value : Int} (fits : Number.Fits value) :
    Reads NumberEnds passOver (Decimal.ofInt value) () := by
  obtain ⟨first, digits, written, token, begins⟩ := ofInt_eq_cons value
  have read := reads_number fits
  rw [written] at read ⊢
  refine reads_peekToken token ?_
  split
  · rename_i letter
    exact absurd letter (ne_of_begins begins (by decide) rfl)
  · rename_i letter
    exact absurd letter (ne_of_begins begins (by decide) rfl)
  · rename_i letter
    exact absurd letter (ne_of_begins begins (by decide) rfl)
  · rename_i letter
    exact absurd letter (ne_of_begins begins (by decide) rfl)
  · rename_i letter
    exact absurd letter (ne_of_begins begins (by decide) rfl)
  · rename_i letter
    exact absurd letter (ne_of_begins begins (by decide) rfl)
  · rename_i found
    cases found
    rw [if_pos begins]
    exact reads_return (fun _ => ()) read
  · contradiction

private theorem fills_record {claims : Claims} (expiry : Number.Fits claims.expiry) :
    Record.Fills record record.blank
      [ ("sub", printText claims.subject), ("role", printText claims.role.name),
        ("iss", printText claims.issuer), ("aud", printText claims.audience),
        ("exp", Decimal.ofInt claims.expiry), ("iat", Decimal.ofInt claims.issuedAt),
        ("jti", printText claims.identifier) ]
      ["exp", "aud", "iss", "sub"] :=
  .cons rfl rfl (reads_member (reads_delimited (reads_passOver_text _)) _) <|
    .unknown rfl (reads_delimited (reads_skipValue_text _)) <|
      .cons rfl rfl (reads_member (reads_delimited (reads_passOver_text _)) _) <|
        .cons rfl rfl (reads_member (reads_delimited (reads_passOver_text _)) _) <|
          .cons rfl rfl (reads_member (reads_ended (reads_passOver_integer expiry)) _) <|
            .unknown rfl (reads_ended (reads_skipValue_integer _)) <|
              .unknown rfl (reads_delimited (reads_skipValue_text _)) (.nil _)

/-- The JSON text of claims holds registered claims. -/
theorem accepts_encode {claims : Claims} (expiry : Number.Fits claims.expiry) :
    accepts (Text.bytes (String.ofList claims.encode)) = true := by
  have read : whole record.value (Text.bytes (String.ofList claims.encode)) = .ok () :=
    whole_eq_ok (Record.reads_value (fills_record expiry) rfl)
  rw [accepts, read]
  rfl

end Registered

end Bearer.Token
