import Bearer.Proofs.Token.Encoded
import Bearer.Proofs.Token.Genuine

/-!
# Sealed tokens

Three segments are sealed if the last one is the tag of the other two under the secret that the
first one asks for. `isSealed_iff` says so without reference to how a token is checked, and
`verify_of_segmented` and `verify_of_not_segmented` say how far a check gets without a look at the
claims. A token made here is sealed, if the names of the secrets differ (`isSealed_sealed`).
-/

namespace Bearer.Token

variable {signer : Signer} {head body signature : List Char} {token : String}

theorem checking?_of_lastUnder {ring : KeyRing} {name : Option String} {secret : List UInt8}
    (last : LastUnder ring.keys (name.getD ring.active) secret) :
    ring.checking? name = some secret := by
  obtain ⟨earlier, later, split, others⟩ := last
  refine List.lookup_eq_some_iff.2 ⟨later.reverse, earlier.reverse, by simp [split], ?_⟩
  intro other member
  have different := others other (List.mem_reverse.1 member)
  simpa using different.symm

/-- Where the names differ, every secret is the last one under its name. -/
theorem lastUnder_of_mem {keys : List NamedKey} {name : String} {secret : List UInt8}
    (distinct : (keys.map Prod.fst).Nodup) (listed : (name, secret) ∈ keys) :
    LastUnder keys name secret := by
  obtain ⟨earlier, later, rfl⟩ := List.append_of_mem listed
  rw [List.map_append, List.map_cons, List.nodup_middle, List.nodup_cons,
    ← List.map_append] at distinct
  refine ⟨earlier, later, rfl, ?_⟩
  intro other member same
  exact distinct.1 (List.mem_map.2 ⟨other, List.mem_append_right earlier member, same⟩)

theorem KeyRing.active_mem (ring : KeyRing) : (ring.active, ring.signing) ∈ ring.keys := by
  obtain ⟨earlier, later, split, -⟩ := List.lookup_eq_some_iff.1 ring.found
  rw [split]
  exact List.mem_append_right earlier List.mem_cons_self

namespace Signer

/-- The segments are tagged under the secret that their header asks for. -/
structure Seals (signer : Signer) (head body signature : List Char) (text : List UInt8)
    (header : Header) (secret : List UInt8) : Prop where
  /-- The first segment is the base64 text of a header. -/
  written : head = Base64.encode Base64.urlSafe text
  /-- The header is read from its JSON text. -/
  read : Header.decode text = .ok header
  /-- The header names the one algorithm that is used. -/
  algorithm : header.algorithm = .hs256
  /-- The header names a secret of the ring, or leaves it at the active one. -/
  asked : LastUnder signer.ring.keys (header.keyName.getD signer.ring.active) secret
  /-- The last segment is the base64 text of the tag of the first two under that secret. -/
  signed : signature = Base64.encode Base64.urlSafe
    (Digest.Hmac.tag secret (Text.bytes (String.ofList (head ++ '.' :: body))))

theorem secretFor?_eq_some_iff {secret : List UInt8} :
    signer.secretFor? head = some secret ↔
      ∃ text header, head = Base64.encode Base64.urlSafe text ∧ Header.decode text = .ok header ∧
        header.algorithm = .hs256 ∧ signer.ring.checking? header.keyName = some secret := by
  refine ⟨secretFor?_eq_some, ?_⟩
  rintro ⟨text, header, written, read, algorithm, checking⟩
  rw [secretFor?, Base64.decode?_urlSafe_eq_some_iff.2 written, Option.bind_eq_bind,
    Option.bind_some, read]
  exact (if_pos algorithm).trans checking

/-- Segments are sealed exactly if some header and some secret seal them. -/
theorem isSealed_iff : signer.isSealed head body signature = true ↔
    ∃ text header secret, signer.Seals head body signature text header secret := by
  constructor
  · intro fits
    obtain ⟨secret, asked, signed⟩ := isSealed_eq_true fits
    obtain ⟨text, header, written, read, algorithm, checking⟩ := secretFor?_eq_some asked
    exact ⟨text, header, secret, written, read, algorithm, lastUnder_of_checking? checking, signed⟩
  · rintro ⟨text, header, secret, written, read, algorithm, last, signed⟩
    have asked : signer.secretFor? head = some secret :=
      secretFor?_eq_some_iff.2 ⟨text, header, written, read, algorithm, checking?_of_lastUnder last⟩
    rw [isSealed, asked]
    exact decide_eq_true signed.symm

theorem verify_of_segmented (segmented : Segmented token head body signature) (now : Instant) :
    signer.verify now token =
      if signer.isSealed head body signature then
        match claimsOf? body with
        | some claims => signer.admitted now claims
        | none => .error .malformed
      else .error .invalidSignature := by
  obtain ⟨split, headFilled, bodyFilled, signatureFilled⟩ := segmented_iff.1 segmented
  rw [verify, split]
  exact if_neg (not_or.2 ⟨headFilled, not_or.2 ⟨bodyFilled, signatureFilled⟩⟩)

theorem verify_of_not_segmented
    (other : ∀ head body signature, ¬ Segmented token head body signature) (now : Instant) :
    signer.verify now token = .error .malformed := by
  unfold verify
  split
  · rename_i head body signature split
    split
    · rfl
    · rename_i filled
      rw [not_or, not_or] at filled
      exact absurd (segmented_iff.2 ⟨split, filled⟩) (other head body signature)
  · rfl

theorem decode?_textSegment (characters : List Char) :
    Base64.decode? Base64.urlSafe (textSegment characters) =
      some (Text.bytes (String.ofList characters)) :=
  Base64.decode?_urlSafe_eq_some_iff.2 rfl

private theorem textSegment_ne_nil (members : List (String × List Char)) :
    textSegment (Json.printObject members) ≠ [] := by
  apply Base64.encode_urlSafe_ne_nil
  rw [Json.bytes_eq_encoded]
  exact List.cons_ne_nil _ _

private theorem tag_ne_nil (secret : List UInt8) (head body : List Char) :
    tag secret head body ≠ [] := by
  apply Base64.encode_urlSafe_ne_nil
  rw [← List.length_pos_iff, Digest.Hmac.length_tag]
  decide

theorem segmented_sealed (signer : Signer) (claims : Claims) :
    Segmented (signer.sealed claims) (textSegment (Header.encode signer.ring.active))
      (textSegment claims.encode)
      (tag signer.ring.signing (textSegment (Header.encode signer.ring.active))
        (textSegment claims.encode)) where
  joined := by
    rw [sealed, String.toList_ofList]
    simp [List.intercalate]
  undotted := ⟨Base64.dot_not_mem_encode _, Base64.dot_not_mem_encode _,
    Base64.dot_not_mem_encode _⟩
  filled := ⟨textSegment_ne_nil _, textSegment_ne_nil _, tag_ne_nil _ _ _⟩

/-- What is tagged under the header of tokens made here is sealed. -/
theorem isSealed_sealed (distinct : (signer.ring.keys.map Prod.fst).Nodup) (body : List Char) :
    signer.isSealed (textSegment (Header.encode signer.ring.active)) body
      (tag signer.ring.signing (textSegment (Header.encode signer.ring.active)) body) = true :=
  isSealed_iff.2 ⟨_, _, _, rfl, Header.decode_encode _, rfl,
    lastUnder_of_mem distinct signer.ring.active_mem, rfl⟩

end Signer

end Bearer.Token
