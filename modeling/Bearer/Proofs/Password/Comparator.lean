import Bearer.Password.Comparator
import Bearer.Proofs.Password.Phc

/-!
# Hashing and checking agree

What a new password is hashed to is read back as it was made, whatever the salt and the result are,
so the comparator runs the function with what is in the text and not with what is usual:
`compare_agrees`. A text that lacks a salt or a result, or is no written hash at all, belongs to no
password. The stretching function is never opened: only the size of its result is used.
-/

namespace Bearer.Digest.Argon2

theorem length_hash {parameters : Parameters} (small : parameters.size ≤ 64)
    (password : List UInt8) : (hash parameters password).length = parameters.size := by
  rw [hash, stretched, if_pos small]
  exact Blake2b.length_digest _ _ small

end Bearer.Digest.Argon2

namespace Bearer.Password

open Digest
open Base64 (standardUnpadded)

theorem toList_hash (salt : List UInt8) (password : String) :
    (hash salt password).toList = "$argon2id$v=19$m=15000,t=2,p=1$".toList ++
      (Base64.encode standardUnpadded salt ++ '$' :: Base64.encode standardUnpadded
        (Argon2.hash (parameters salt) (Text.bytes password))) := by
  have front : '$' :: "argon2id".toList ++ '$' :: 'v' :: '=' :: (Decimal.ofNat 19 ++ '$' ::
      (Phc.printParameters [(['m'], Decimal.ofNat 15000), (['t'], Decimal.ofNat 2),
        (['p'], Decimal.ofNat 1)] ++ ['$'])) = "$argon2id$v=19$m=15000,t=2,p=1$".toList := by
    decide
  unfold hash phc
  rw [String.toList_ofList, Phc.print_of_parts, ← front]
  simp only [List.cons_append, List.append_assoc, List.nil_append]

variable {salt : List UInt8}

private theorem isEnding_new (sized : salt.length = 16) {bytes : List UInt8}
    (long : bytes.length = 32) :
    Phc.IsEnding (some (Base64.encode standardUnpadded salt)) (some bytes) := by
  have count : (Base64.encode standardUnpadded salt).length = 22 := by
    have groups := Base64.length_sextets salt
    rw [sized] at groups
    exact (List.length_map _).trans groups
  have valued : Phc.isValue (Base64.encode standardUnpadded salt) = true := by
    rw [Phc.isValue, count]
    exact List.all_eq_true.2 (Phc.isPlain_encode salt)
  refine ⟨?_, ?_, fun absent => absurd absent (Option.some_ne_none _)⟩
  · rintro _ ⟨⟩
    exact ⟨by rw [count]; decide, valued⟩
  · rintro _ ⟨⟩
    rw [long]
    decide

private theorem areParameters_new :
    Phc.AreParameters [(['m'], Decimal.ofNat 15000), (['t'], Decimal.ofNat 2),
      (['p'], Decimal.ofNat 1)] :=
  ⟨by decide, by decide⟩

private theorem length_new (salt bytes : List UInt8) :
    (Argon2.hash (parameters salt) bytes).length = 32 :=
  Argon2.length_hash (by decide : 32 ≤ 64) bytes

theorem isWritable_phc (sized : salt.length = 16) (password : String) :
    (phc salt password).IsWritable where
  named := (by decide : Phc.isName "argon2id".toList = true)
  numbered := by
    rintro _ ⟨⟩
    decide
  sound := areParameters_new
  apart := nofun
  ending := isEnding_new sized (length_new salt _)

theorem demand?_phc (sized : salt.length = 16) (password : String) :
    (phc salt password).demand? =
      some (parameters salt, Argon2.hash (parameters salt) (Text.bytes password)) := by
  have kind : kinds.lookup "argon2id".toList = some .hybrid := by decide
  have read : ∀ number < Number.bound32, Phc.decimal? (Decimal.ofNat number) = some number :=
    fun _ small => Phc.decimal?_eq_some_iff.2 ⟨small, rfl⟩
  have settings : [(['m'], Decimal.ofNat 15000), (['t'], Decimal.ofNat 2),
      (['p'], Decimal.ofNat 1)].foldlM Settings.set? Settings.usual =
        some ⟨15000, 2, 1, []⟩ := by
    simp [Settings.set?, Settings.usual, read 15000 (by decide), read 2 (by decide),
      read 1 (by decide)]
  have usable : Settings.usable ⟨15000, 2, 1, []⟩ = true := by decide
  have decoded : Base64.decode? standardUnpadded (Base64.encode standardUnpadded salt) =
      some salt := Phc.decode?_standardUnpadded_eq_some_iff.2 rfl
  have long := length_new salt (Text.bytes password)
  unfold Phc.demand? phc
  simp only [kind, version?, settings, decoded, usable, sized, long, Option.bind_eq_bind,
    Option.bind_some, Option.pure_def]
  exact if_pos rfl

variable {stored password : String}

theorem compare_of_demand {parameters : Argon2.Parameters} {expected : List UInt8}
    (demand : (Phc.parse? stored.toList).bind Phc.demand? = some (parameters, expected)) :
    compare stored password = true ↔
      isAccepted password = true ∧ Argon2.hash parameters (Text.bytes password) = expected := by
  unfold compare
  rw [demand]
  simp only [Bool.and_eq_true, decide_eq_true_eq]

/-- A password belongs to a text exactly if the text is a written hash and the password is stretched
to the result in it, with all the rest that is in it. -/
theorem compare_eq_true_iff :
    compare stored password = true ↔
      ∃ (phc : Phc) (parameters : Argon2.Parameters) (expected : List UInt8),
        phc.IsWritable ∧ stored.toList = phc.print ∧
          phc.demand? = some (parameters, expected) ∧ isAccepted password = true ∧
            Argon2.hash parameters (Text.bytes password) = expected := by
  constructor
  · intro belongs
    cases demanded : (Phc.parse? stored.toList).bind Phc.demand? with
    | none =>
        unfold compare at belongs
        rw [demanded] at belongs
        cases belongs
    | some demand =>
        obtain ⟨phc, read, asked⟩ := Option.bind_eq_some_iff.1 demanded
        obtain ⟨writable, written⟩ := Phc.parse?_eq_some_iff.1 read
        exact ⟨phc, demand.1, demand.2, writable, written, asked,
          (compare_of_demand demanded).1 belongs⟩
  · rintro ⟨phc, parameters, expected, writable, written, asked, belongs⟩
    refine (compare_of_demand ?_).2 belongs
    rw [Phc.parse?_eq_some_iff.2 ⟨writable, written⟩]
    exact asked

/-- A text that is a written hash with a salt and a result. -/
def IsComplete (stored : String) : Prop :=
  ∃ phc : Phc, phc.IsWritable ∧ stored.toList = phc.print ∧ phc.salt ≠ none ∧ phc.hash ≠ none

theorem isComplete_iff :
    IsComplete stored ↔
      ∃ phc ∈ Phc.parse? stored.toList, phc.salt ≠ none ∧ phc.hash ≠ none := by
  simp only [IsComplete, Option.mem_def, Phc.parse?_eq_some_iff, and_assoc]

instance (stored : String) : Decidable (IsComplete stored) :=
  decidable_of_iff _ isComplete_iff.symm

example : IsComplete dummyHash := by decide

theorem Phc.parts_of_demand? {phc : Phc} {demand : Argon2.Parameters × List UInt8}
    (demanded : phc.demand? = some demand) : phc.salt ≠ none ∧ phc.hash ≠ none := by
  constructor <;> intro absent <;> simp [demand?, absent] at demanded

theorem isComplete_of_compare (belongs : compare stored password = true) : IsComplete stored := by
  obtain ⟨phc, parameters, expected, writable, written, demand, -⟩ := compare_eq_true_iff.1 belongs
  exact ⟨phc, writable, written, Phc.parts_of_demand? demand⟩

/-- A new hash names its parameters, is read back as it was made, asks for what the password was
stretched with, and has the passwords that are stretched to the same result under its salt; the one
that it was made for is among them. A text that is no hash with a salt and a result has none. -/
theorem compare_agrees (sized : salt.length = 16) (accepted : isAccepted password = true) :
    (hash salt password).toList = "$argon2id$v=19$m=15000,t=2,p=1$".toList ++
        (Base64.encode standardUnpadded salt ++ '$' :: Base64.encode standardUnpadded
          (Argon2.hash (parameters salt) (Text.bytes password))) ∧
      Phc.parse? (hash salt password).toList = some (phc salt password) ∧
      (phc salt password).demand? =
        some (parameters salt, Argon2.hash (parameters salt) (Text.bytes password)) ∧
      (∀ other, compare (hash salt password) other = true ↔ isAccepted other = true ∧
        Argon2.hash (parameters salt) (Text.bytes other) =
          Argon2.hash (parameters salt) (Text.bytes password)) ∧
      compare (hash salt password) password = true ∧
      ∀ stored, ¬IsComplete stored → ∀ other, compare stored other = false := by
  have written : (hash salt password).toList = (phc salt password).print := String.toList_ofList
  have read : Phc.parse? (hash salt password).toList = some (phc salt password) :=
    Phc.parse?_eq_some_iff.2 ⟨isWritable_phc sized password, written⟩
  have demand := demand?_phc sized password
  have demanded : (Phc.parse? (hash salt password).toList).bind Phc.demand? =
      some (parameters salt, Argon2.hash (parameters salt) (Text.bytes password)) := by
    rw [read]
    exact demand
  refine ⟨toList_hash salt password, read, demand, fun other => compare_of_demand demanded,
    (compare_of_demand demanded).2 ⟨accepted, rfl⟩, ?_⟩
  intro stored incomplete other
  exact Bool.eq_false_iff.2 fun found => incomplete (isComplete_of_compare found)

theorem compare_agrees_small :
    isAccepted "secret" = true ∧ (List.replicate 16 (0 : UInt8)).length = 16 ∧
      compare (hash (List.replicate 16 0) "secret") "secret" = true ∧
      (¬IsComplete "not-a-phc-string" ∧ compare "not-a-phc-string" "secret" = false) ∧
      ¬IsComplete "$argon2id$v=19$m=8,t=1,p=1$c2FsdHNhbHQ" ∧
        compare "$argon2id$v=19$m=8,t=1,p=1$c2FsdHNhbHQ" "secret" = false := by
  have accepted : isAccepted "secret" = true := by decide
  have sized : (List.replicate 16 (0 : UInt8)).length = 16 := rfl
  have garbage : ¬IsComplete "not-a-phc-string" := by decide
  have unfinished : ¬IsComplete "$argon2id$v=19$m=8,t=1,p=1$c2FsdHNhbHQ" := by decide
  obtain ⟨-, -, -, -, belongs, refused⟩ := compare_agrees sized accepted
  exact ⟨accepted, sized, belongs, ⟨garbage, refused _ garbage _⟩, unfinished,
    refused _ unfinished _⟩

end Bearer.Password
