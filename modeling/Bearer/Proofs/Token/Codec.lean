import Bearer.Proofs.Json.Yields
import Bearer.Proofs.Token.Encoded
import Bearer.Redis.Sessions

/-!
# Nothing is lost in JSON

What the session store keeps and what a token carries are JSON texts. A payload is read back from
its text whatever its subject is made of. Claims are read back exactly if their times are integers
of 64 bits, and claims that were read from any text have such times (`Claims.timesFit_of_decode`).
`codecs_lossless` has both.
-/

namespace Bearer

open Json Json.Reading

namespace Token.Claims

/-- The times are integers of 64 bits. -/
def TimesFit (claims : Claims) : Prop :=
  Number.Fits claims.expiry ∧ Number.Fits claims.issuedAt

/-- The times that were read so far are integers of 64 bits. -/
private def Draft.TimesFit (draft : Draft) : Prop :=
  (∀ expiry, draft.expiry = some expiry → Number.Fits expiry) ∧
    ∀ issuedAt, draft.issuedAt = some issuedAt → Number.Fits issuedAt

private theorem yields_textMember {name : String} {get : Draft → Option String}
    {put : Draft → String → Draft} {draft : Draft} (fits : draft.TimesFit)
    (expiry : ∀ value, (put draft value).expiry = draft.expiry)
    (issuedAt : ∀ value, (put draft value).issuedAt = draft.issuedAt) :
    Yields Draft.TimesFit ((textMember name get put).read draft) := by
  refine yields_then fun value => yields_pure ?_
  rw [Draft.TimesFit, expiry, issuedAt]
  exact fits

private theorem yields_member {member : Member Draft} (listed : member ∈ record.members)
    {draft : Draft} (fits : draft.TimesFit) : Yields Draft.TimesFit (member.read draft) := by
  simp only [record, List.mem_cons, List.not_mem_nil, or_false] at listed
  rcases listed with rfl | rfl | rfl | rfl | rfl | rfl | rfl
  · exact yields_textMember fits (fun _ => rfl) fun _ => rfl
  · exact yields_then fun role => yields_pure fits
  · exact yields_textMember fits (fun _ => rfl) fun _ => rfl
  · exact yields_textMember fits (fun _ => rfl) fun _ => rfl
  · refine yields_bind (yields_integerValue "i64") fun value inside => yields_pure ⟨?_, fits.2⟩
    rintro expiry ⟨⟩
    exact inside
  · refine yields_bind (yields_integerValue "i64") fun value inside => yields_pure ⟨fits.1, ?_⟩
    rintro issuedAt ⟨⟩
    exact inside
  · exact yields_textMember fits (fun _ => rfl) fun _ => rfl

private theorem timesFit_of_complete {draft : Draft} {claims : Claims} (fits : draft.TimesFit)
    (made : record.complete draft = .ok claims) : claims.TimesFit := by
  obtain ⟨subject, -, made⟩ := Record.exists_of_need made
  obtain ⟨role, -, made⟩ := Record.exists_of_need made
  obtain ⟨issuer, -, made⟩ := Record.exists_of_need made
  obtain ⟨audience, -, made⟩ := Record.exists_of_need made
  obtain ⟨expiry, expiryRead, made⟩ := Record.exists_of_need made
  obtain ⟨issuedAt, issuedAtRead, made⟩ := Record.exists_of_need made
  obtain ⟨identifier, -, made⟩ := Record.exists_of_need made
  cases made
  exact ⟨fits.1 expiry expiryRead, fits.2 issuedAt issuedAtRead⟩

theorem timesFit_of_decode {text : List UInt8} {claims : Claims}
    (read : decode text = .ok claims) : claims.TimesFit := by
  have yields : Yields TimesFit record.value :=
    Record.yields_value ⟨by rintro _ ⟨⟩, by rintro _ ⟨⟩⟩
      (fun _ listed _ fits => yields_member listed fits) fun _ _ => timesFit_of_complete
  exact of_whole_eq_ok yields read

/-- Claims are read back from their text exactly if their times are integers of 64 bits. -/
theorem decode_encode_iff {claims : Claims} :
    decode (Text.bytes (String.ofList claims.encode)) = .ok claims ↔ claims.TimesFit :=
  ⟨timesFit_of_decode, fun fits => decode_encode fits.1 fits.2⟩

end Token.Claims

open Token (Claims)

/-- A payload is read back from its text, as is any that the session store wrote. So are claims
whose times are integers of 64 bits, and no others; claims that were read from any text are of that
kind. -/
theorem codecs_lossless :
    (∀ payload : Payload,
      Payload.decode (Text.bytes (String.ofList payload.encode)) = .ok payload ∧
        Redis.payloadIn (some (String.ofList payload.encode)) = .ok (some payload)) ∧
    (∀ claims : Claims, Claims.decode (Text.bytes (String.ofList claims.encode)) = .ok claims ↔
      Number.Fits claims.expiry ∧ Number.Fits claims.issuedAt) ∧
    ∀ (text : List UInt8) (claims : Claims), Claims.decode text = .ok claims →
      Claims.decode (Text.bytes (String.ofList claims.encode)) = .ok claims := by
  refine ⟨fun payload => ?_, fun claims => Claims.decode_encode_iff, fun text claims read => ?_⟩
  · have read := payload.decode_encode
    refine ⟨read, ?_⟩
    rw [Redis.payloadIn, read]
  · exact Claims.decode_encode_iff.2 (Claims.timesFit_of_decode read)

/-- A subject with a quote, a backslash, control characters and a character of four bytes. -/
def Payload.escaped : Payload :=
  ⟨"\"\\\n\u0000\u001f\u007f𝄞", .musician, by decide⟩

/-- Claims that end at the last second of 64 bits and were made at the first one. -/
def Token.Claims.extreme : Claims :=
  ⟨Payload.escaped.subject, .musician, "", "\t", 9223372036854775807, -9223372036854775808,
    "\\u0000"⟩

/-- These are read back; with an end one second later the claims are not. -/
theorem codecs_lossless_extreme :
    Payload.decode (Text.bytes (String.ofList Payload.escaped.encode)) = .ok .escaped ∧
      Claims.decode (Text.bytes (String.ofList Claims.extreme.encode)) = .ok .extreme ∧
        ¬ Claims.decode (Text.bytes (String.ofList
          { Claims.extreme with expiry := 9223372036854775808 }.encode)) =
            .ok { Claims.extreme with expiry := 9223372036854775808 } :=
  ⟨(codecs_lossless.1 _).1, (codecs_lossless.2.1 _).2 ⟨by decide, by decide⟩,
    fun read => absurd ((codecs_lossless.2.1 _).1 read).1 (by decide)⟩

end Bearer
