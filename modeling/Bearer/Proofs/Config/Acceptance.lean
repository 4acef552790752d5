import Bearer.Proofs.Config.Validity
import Bearer.Proofs.Token.Rotation

/-!
# What an accepted configuration is good for

The check, the choice of the secret that signs and the choice of the secret that checks each look at
the list of secrets in their own way: by the set of the names before, from the front, and from the
back. Where the check passes they agree, so that a signer accepts what it signs: `accepts_usable`.
-/

namespace Bearer

open Token (NamedKey Signer)

variable {issuer audience activeKey : String} {accessSeconds refreshSeconds : Int}
  {hashKey : List UInt8} {keys : List NamedKey} {config : Config}

/-- The signer of an accepted configuration checks each name with the secret that is listed under
it, and tokens without a name with the secret that signs. -/
theorem Config.exists_signer
    (accepted : Config.new issuer audience accessSeconds refreshSeconds hashKey keys activeKey =
      .ok config) :
    ∃ signer, Signer.ofConfig config = .ok signer ∧
      (activeKey, signer.ring.signing) ∈ keys ∧
      signer.ring.checking? none = some signer.ring.signing ∧
      ∀ name secret, signer.ring.checking? (some name) = some secret ↔ (name, secret) ∈ keys := by
  obtain ⟨-, rfl⟩ := Config.new_eq_ok accepted
  have again : Config.Accepted ⟨issuer, audience, accessSeconds, refreshSeconds, hashKey, keys,
      activeKey, Config.usualHost, none⟩ := ⟨_, accepted⟩
  obtain ⟨signer, setUp⟩ := Signer.exists_ofConfig again
  obtain ⟨⟨listed, active⟩, -⟩ := Signer.ofConfig_eq_ok setUp
  have distinct : (signer.ring.keys.map Prod.fst).Nodup := by
    rw [listed]
    exact (Config.usable_of_new accepted).sound.distinct
  have signs : (activeKey, signer.ring.signing) ∈ signer.ring.keys := by
    have member := signer.ring.active_mem
    rwa [active] at member
  have unnamed : signer.ring.checking? none = signer.ring.checking? (some activeKey) := by
    rw [Token.KeyRing.checking?, Token.KeyRing.checking?, active]
    rfl
  dsimp only at listed
  refine ⟨signer, setUp, listed ▸ signs, ?_, fun name secret => ?_⟩
  · rw [unnamed, Signer.checking?_of_mem distinct signs]
  · rw [Signer.checking?_eq_some_iff distinct, listed]

/-- Values make a configuration exactly if they are usable, and it holds those values. Then there is
a signer, and it checks the active name and tokens without a name with the secret that signs, and
each listed name with its own secret. Any other values are refused for the first rule that they
break. -/
theorem accepts_usable (issuer audience activeKey : String) (accessSeconds refreshSeconds : Int)
    (hashKey : List UInt8) (keys : List NamedKey) :
    ((∃ config, Config.new issuer audience accessSeconds refreshSeconds hashKey keys activeKey =
        .ok config) ↔
      Config.Usable accessSeconds refreshSeconds keys activeKey) ∧
    (∀ config, Config.new issuer audience accessSeconds refreshSeconds hashKey keys activeKey =
        .ok config →
      config = ⟨issuer, audience, accessSeconds, refreshSeconds, hashKey, keys, activeKey,
        Config.usualHost, none⟩ ∧
      ∃ signer, Signer.ofConfig config = .ok signer ∧
        signer.ring.checking? (some activeKey) = some signer.ring.signing ∧
        signer.ring.checking? none = some signer.ring.signing ∧
        ∀ name secret,
          signer.ring.checking? (some name) = some secret ↔ (name, secret) ∈ keys) ∧
    ∀ fault, Config.new issuer audience accessSeconds refreshSeconds hashKey keys activeKey =
        .error fault ↔
      Config.FirstFault accessSeconds refreshSeconds keys activeKey fault := by
  refine ⟨Config.exists_new_iff, fun config accepted => ⟨(Config.new_eq_ok accepted).2, ?_⟩,
    fun fault => Config.new_eq_error_iff⟩
  obtain ⟨signer, setUp, signs, unnamed, named⟩ := Config.exists_signer accepted
  exact ⟨signer, setUp, (named _ _).2 signs, unnamed, named⟩

/-- The small configuration is accepted, and its signer checks with the secret that signs. Of two
secrets of one name, the second one short, the name is the fault that is told, even if nothing has
the active name; a short secret in front of them is told first. -/
theorem accepts_usable_small :
    (∃ signer, Signer.ofConfig .small = .ok signer ∧
      signer.ring.checking? none = some signer.ring.signing ∧
      signer.ring.checking? (some "k1") = some (List.replicate 32 3)) ∧
    Config.new "issuer" "audience" 60 600 [] [("k1", List.replicate 32 3), ("k1", [])] "k2" =
      .error (.invalid "duplicate kid in keys JSON") ∧
    Config.FirstFault 60 600 [("k3", []), ("k1", List.replicate 32 3), ("k1", [])] "k2"
      (.wrongLength "HS256 secret must be at least 32 bytes") := by
  refine ⟨?accepted, ?twin, ?short⟩
  case accepted =>
    obtain ⟨-, signer, setUp, -, unnamed, named⟩ :=
      (accepts_usable _ _ _ _ _ _ _).2.1 _ Config.new_small
    exact ⟨signer, setUp, unnamed, (named _ _).2 (by decide)⟩
  case twin =>
    refine ((accepts_usable _ _ _ _ _ _ _).2.2 _).2 (.key [("k1", List.replicate 32 3)] _ [] _
      (by decide) (by decide) rfl ⟨by decide, by decide⟩ (.twin (by decide)))
  case short =>
    exact ((accepts_usable "issuer" "audience" "k2" 60 600 [] _).2.2 _).1 rfl

end Bearer
