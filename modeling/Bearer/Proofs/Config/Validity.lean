import Bearer.Config.Basic
import Mathlib.Data.List.Induction
import Mathlib.Data.List.Nodup

/-!
# Which configurations are accepted

The values of a configuration are checked in a fixed order, and the secrets one after another
against the names before them (`keyFault?_append` is what the check knows after some secrets).
Exactly the usable values are accepted (`exists_new_iff`), and any others are refused for the first
rule that they break (`new_eq_error_iff`).
-/

namespace Bearer.Config

open Token (NamedKey)

/-- Secrets are sound if their names differ and none of them is short. -/
structure SoundKeys (keys : List NamedKey) : Prop where
  /-- No name occurs twice. -/
  distinct : (keys.map Prod.fst).Nodup
  /-- Every secret has 32 bytes at least. -/
  long : ∀ key ∈ keys, 32 ≤ key.2.length

/-- What is wrong with a secret that follows others: its name was there before or, failing that, it
is short. -/
inductive Offends (earlier : List NamedKey) (key : NamedKey) : ConfigError → Prop where
  /-- An earlier secret has its name. -/
  | twin : key.1 ∈ earlier.map Prod.fst →
      Offends earlier key (.invalid "duplicate kid in keys JSON")
  /-- Its name is new, and it has less than 32 bytes. -/
  | short : key.1 ∉ earlier.map Prod.fst → key.2.length < 32 →
      Offends earlier key (.wrongLength "HS256 secret must be at least 32 bytes")

variable {keys earlier later : List NamedKey} {key : NamedKey} {fault : ConfigError}

private theorem keyFault?_append {seen : List String} (sound : SoundKeys earlier)
    (fresh : ∀ key ∈ earlier, key.1 ∉ seen) :
    keyFault? seen (earlier ++ later) =
      keyFault? ((earlier.map Prod.fst).reverse ++ seen) later := by
  induction earlier generalizing seen with
  | nil => rfl
  | cons key earlier ih =>
      obtain ⟨name, secret⟩ := key
      obtain ⟨distinct, long⟩ := sound
      obtain ⟨absent, distinct⟩ := List.nodup_cons.1 distinct
      obtain ⟨enough, long⟩ := List.forall_mem_cons.1 long
      obtain ⟨new, fresh⟩ := List.forall_mem_cons.1 fresh
      have unseen : seen.contains name = false := by simpa using new
      have longEnough : ¬ secret.length < leastSecret := Nat.not_lt.2 enough
      have freshLater : ∀ key ∈ earlier, key.1 ∉ name :: seen := by
        intro key member known
        rcases List.mem_cons.1 known with rfl | known
        · exact absent (List.mem_map.2 ⟨key, member, rfl⟩)
        · exact fresh key member known
      rw [List.cons_append, keyFault?, unseen, if_neg Bool.false_ne_true, if_neg longEnough,
        ih ⟨distinct, long⟩ freshLater, List.map_cons, List.reverse_cons, List.append_assoc]
      rfl

theorem keyFault?_of_sound (sound : SoundKeys keys) : keyFault? [] keys = none := by
  have checked : keyFault? [] (keys ++ []) = _ :=
    keyFault?_append sound fun _ _ => List.not_mem_nil
  rwa [List.append_nil] at checked

theorem keyFault?_of_offends (sound : SoundKeys earlier) (offends : Offends earlier key fault) :
    keyFault? [] (earlier ++ key :: later) = some fault := by
  obtain ⟨name, secret⟩ := key
  rw [keyFault?_append sound fun _ _ => List.not_mem_nil, List.append_nil, keyFault?]
  cases offends with
  | twin known =>
      have seen : (earlier.map Prod.fst).reverse.contains name = true := by simpa using known
      rw [if_pos seen]
  | short new few =>
      have unseen : (earlier.map Prod.fst).reverse.contains name = false := by simpa using new
      rw [unseen, if_neg Bool.false_ne_true, if_pos (show secret.length < leastSecret from few)]

theorem sound_or_offends (keys : List NamedKey) :
    SoundKeys keys ∨ ∃ earlier key later fault, keys = earlier ++ key :: later ∧
      SoundKeys earlier ∧ Offends earlier key fault := by
  induction keys using List.reverseRecOn with
  | nil => exact .inl ⟨List.nodup_nil, fun _ member => absurd member List.not_mem_nil⟩
  | append_singleton keys key ih =>
      rcases ih with sound | ⟨earlier, first, later, fault, rfl, sound, offends⟩
      · by_cases known : key.1 ∈ keys.map Prod.fst
        · exact .inr ⟨keys, key, [], _, rfl, sound, .twin known⟩
        · by_cases enough : 32 ≤ key.2.length
          · left
            refine ⟨?_, List.forall_mem_append.2 ⟨sound.long, by simpa using enough⟩⟩
            rw [List.map_append]
            exact List.Nodup.append sound.distinct (List.nodup_singleton _)
              (List.disjoint_singleton.2 known)
          · exact .inr ⟨keys, key, [], _, rfl, sound, .short known (Nat.not_le.1 enough)⟩
      · exact .inr ⟨earlier, first, later ++ [key], fault, by simp, sound, offends⟩

/-- The values of a configuration that can be used. -/
structure Usable (accessSeconds refreshSeconds : Int) (keys : List NamedKey) (activeKey : String) :
    Prop where
  /-- Access tokens count for a while. -/
  positive : 0 < accessSeconds
  /-- Sessions are kept for longer. -/
  longer : accessSeconds < refreshSeconds
  /-- There is a secret. -/
  some : keys ≠ []
  /-- The secrets are sound. -/
  sound : SoundKeys keys
  /-- One of them has the active name. -/
  listed : activeKey ∈ keys.map Prod.fst

/-- The first rule that values break, in the order of the rules. -/
inductive FirstFault (accessSeconds refreshSeconds : Int) (keys : List NamedKey)
    (activeKey : String) : ConfigError → Prop where
  /-- Access tokens would not count for a while. -/
  | accessSeconds : accessSeconds ≤ 0 →
      FirstFault accessSeconds refreshSeconds keys activeKey (.invalid "ACCESS_TTL_SECONDS")
  /-- Sessions would not be kept for longer. -/
  | refreshSeconds : 0 < accessSeconds → refreshSeconds ≤ accessSeconds →
      FirstFault accessSeconds refreshSeconds keys activeKey
        (.invalid "REFRESH_TTL_SECONDS must exceed ACCESS_TTL_SECONDS")
  /-- There is no secret. -/
  | noKeys : 0 < accessSeconds → accessSeconds < refreshSeconds → keys = [] →
      FirstFault accessSeconds refreshSeconds keys activeKey (.invalid "empty JWT keys")
  /-- A secret offends, and the secrets before it are sound. -/
  | key (earlier : List NamedKey) (key : NamedKey) (later : List NamedKey) (fault : ConfigError) :
      0 < accessSeconds → accessSeconds < refreshSeconds → keys = earlier ++ key :: later →
        SoundKeys earlier → Offends earlier key fault →
          FirstFault accessSeconds refreshSeconds keys activeKey fault
  /-- No secret has the active name. -/
  | activeKey : 0 < accessSeconds → accessSeconds < refreshSeconds → keys ≠ [] → SoundKeys keys →
      activeKey ∉ keys.map Prod.fst →
        FirstFault accessSeconds refreshSeconds keys activeKey
          (.invalid "JWT_ACTIVE_KID not found in JWT_HS256_KEYS_JSON")

variable {accessSeconds refreshSeconds : Int} {activeKey : String}

private theorem any_iff :
    (keys.any fun key => key.1 = activeKey) = true ↔ activeKey ∈ keys.map Prod.fst := by
  simp

theorem fault?_of_usable (usable : Usable accessSeconds refreshSeconds keys activeKey) :
    fault? accessSeconds refreshSeconds keys activeKey = none := by
  rw [fault?, if_neg (Int.not_le.2 usable.positive), if_neg (Int.not_le.2 usable.longer),
    if_neg usable.some, keyFault?_of_sound usable.sound]
  exact if_pos (any_iff.2 usable.listed)

theorem fault?_of_firstFault
    (first : FirstFault accessSeconds refreshSeconds keys activeKey fault) :
    fault? accessSeconds refreshSeconds keys activeKey = some fault := by
  rw [fault?]
  cases first with
  | accessSeconds short => rw [if_pos short]
  | refreshSeconds positive shorter => rw [if_neg (Int.not_le.2 positive), if_pos shorter]
  | noKeys positive longer none =>
      rw [if_neg (Int.not_le.2 positive), if_neg (Int.not_le.2 longer), if_pos none]
  | key earlier key later fault positive longer split sound offends =>
      have some : keys ≠ [] := by
        rw [split]
        exact List.append_ne_nil_of_right_ne_nil _ (List.cons_ne_nil _ _)
      rw [if_neg (Int.not_le.2 positive), if_neg (Int.not_le.2 longer), if_neg some, split,
        keyFault?_of_offends sound offends]
  | activeKey positive longer some sound unlisted =>
      rw [if_neg (Int.not_le.2 positive), if_neg (Int.not_le.2 longer), if_neg some,
        keyFault?_of_sound sound]
      exact if_neg fun listed => unlisted (any_iff.1 listed)

theorem usable_or_firstFault (accessSeconds refreshSeconds : Int) (keys : List NamedKey)
    (activeKey : String) :
    Usable accessSeconds refreshSeconds keys activeKey ∨
      ∃ fault, FirstFault accessSeconds refreshSeconds keys activeKey fault := by
  rcases Int.lt_or_le 0 accessSeconds with positive | short
  · rcases Int.lt_or_le accessSeconds refreshSeconds with longer | shorter
    · by_cases empty : keys = []
      · exact .inr ⟨_, .noKeys positive longer empty⟩
      · rcases sound_or_offends keys with
          sound | ⟨earlier, key, later, fault, split, sound, offends⟩
        · by_cases listed : activeKey ∈ keys.map Prod.fst
          · exact .inl ⟨positive, longer, empty, sound, listed⟩
          · exact .inr ⟨_, .activeKey positive longer empty sound listed⟩
        · exact .inr ⟨_, .key earlier key later fault positive longer split sound offends⟩
    · exact .inr ⟨_, .refreshSeconds positive shorter⟩
  · exact .inr ⟨_, .accessSeconds short⟩

theorem fault?_eq_none_iff : fault? accessSeconds refreshSeconds keys activeKey = none ↔
    Usable accessSeconds refreshSeconds keys activeKey := by
  refine ⟨fun faultless => ?_, fault?_of_usable⟩
  rcases usable_or_firstFault accessSeconds refreshSeconds keys activeKey with usable | ⟨_, first⟩
  · exact usable
  · cases faultless.symm.trans (fault?_of_firstFault first)

theorem fault?_eq_some_iff : fault? accessSeconds refreshSeconds keys activeKey = some fault ↔
    FirstFault accessSeconds refreshSeconds keys activeKey fault := by
  refine ⟨fun faulty => ?_, fault?_of_firstFault⟩
  rcases usable_or_firstFault accessSeconds refreshSeconds keys activeKey with usable | ⟨_, first⟩
  · cases faulty.symm.trans (fault?_of_usable usable)
  · cases faulty.symm.trans (fault?_of_firstFault first)
    exact first

variable {issuer audience : String} {hashKey : List UInt8} {config : Config}

theorem usable_of_new
    (accepted : new issuer audience accessSeconds refreshSeconds hashKey keys activeKey =
      .ok config) : Usable accessSeconds refreshSeconds keys activeKey :=
  fault?_eq_none_iff.1 (new_eq_ok accepted).1

theorem lifetimes_of_new
    (accepted : new issuer audience accessSeconds refreshSeconds hashKey keys activeKey =
      .ok config) :
    0 < config.accessSeconds ∧ config.accessSeconds < config.refreshSeconds := by
  have usable := usable_of_new accepted
  obtain ⟨-, rfl⟩ := new_eq_ok accepted
  exact ⟨usable.positive, usable.longer⟩

theorem nodup_of_new
    (accepted : new issuer audience accessSeconds refreshSeconds hashKey keys activeKey =
      .ok config) : (config.keys.map Prod.fst).Nodup := by
  have usable := usable_of_new accepted
  obtain ⟨-, rfl⟩ := new_eq_ok accepted
  exact usable.sound.distinct

theorem exists_ring
    (accepted : new issuer audience accessSeconds refreshSeconds hashKey keys activeKey =
      .ok config) : ∃ ring, Token.KeyRing.new config.keys config.activeKey = .ok ring := by
  have usable := usable_of_new accepted
  obtain ⟨-, rfl⟩ := new_eq_ok accepted
  obtain ⟨key, member, rfl⟩ := List.mem_map.1 usable.listed
  have found : (keys.lookup key.1).isSome :=
    List.lookup_isSome_iff.2 ⟨key, member, beq_self_eq_true key.1⟩
  unfold Token.KeyRing.new
  split
  · exact ⟨_, rfl⟩
  · rename_i missing
    rw [missing] at found
    cases found

/-- Exactly the usable values make a configuration. -/
theorem exists_new_iff :
    (∃ config, new issuer audience accessSeconds refreshSeconds hashKey keys activeKey =
      .ok config) ↔ Usable accessSeconds refreshSeconds keys activeKey := by
  refine ⟨fun ⟨_, accepted⟩ => usable_of_new accepted, fun usable => ?_⟩
  rw [new, fault?_of_usable usable]
  exact ⟨_, rfl⟩

/-- Values are refused for the first rule that they break. -/
theorem new_eq_error_iff :
    new issuer audience accessSeconds refreshSeconds hashKey keys activeKey = .error fault ↔
      FirstFault accessSeconds refreshSeconds keys activeKey fault := by
  rw [← fault?_eq_some_iff, new]
  cases fault? accessSeconds refreshSeconds keys activeKey <;> simp

end Bearer.Config
