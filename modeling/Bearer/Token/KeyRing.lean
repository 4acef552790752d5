import Bearer.Config.Error

/-!
# Key rings

A ring holds named secrets. One of them is active: it signs, and it checks tokens that name no key.
Where a name occurs twice, the first secret signs and the last one checks.
-/

namespace Bearer.Token

/-- A secret and its name. -/
abbrev NamedKey := String × List UInt8

/-- Named secrets, one of them active. -/
structure KeyRing where
  /-- The secrets in order. -/
  keys : List NamedKey
  /-- The name of the active secret. -/
  active : String
  /-- The secret that signs. -/
  signing : List UInt8
  /-- The active name belongs to a secret of the ring. -/
  found : keys.lookup active = some signing

namespace KeyRing

/-- The ring of some secrets, if the active name is among theirs. -/
def new (keys : List NamedKey) (active : String) : Except ConfigError KeyRing :=
  match found : keys.lookup active with
  | some signing => .ok ⟨keys, active, signing, found⟩
  | none => .error (.invalid "active kid not found in JWT keys")

/-- The secret that checks tokens that name a key, or none. -/
def checking? (ring : KeyRing) (name : Option String) : Option (List UInt8) :=
  ring.keys.reverse.lookup (name.getD ring.active)

theorem new_eq_ok {keys : List NamedKey} {active : String} {ring : KeyRing}
    (made : new keys active = .ok ring) : ring.keys = keys ∧ ring.active = active := by
  unfold new at made
  split at made
  · cases made
    exact ⟨rfl, rfl⟩
  · cases made

end KeyRing

end Bearer.Token
