import Bearer.Config.Error
import Bearer.Text.Decimal
import Bearer.Text.Quoted
import Bearer.Token.KeyRing

/-!
# Configurations

A configuration is accepted as a whole or refused for the first rule that it breaks: the lifetimes,
then the secrets in their order, then the active name. `new_eq_ok` says what an accepted
configuration holds.
-/

namespace Bearer

open Token (NamedKey)

/-- What a service is set up with. -/
structure Config where
  /-- Who makes the tokens. -/
  issuer : String
  /-- Whom the tokens are meant for. -/
  audience : String
  /-- The lifetime of access tokens in seconds. -/
  accessSeconds : Int
  /-- The lifetime of refresh tokens in seconds. -/
  refreshSeconds : Int
  /-- The key under which refresh tokens are digested. -/
  hashKey : List UInt8
  /-- The named secrets. -/
  keys : List NamedKey
  /-- The name of the secret that signs. -/
  activeKey : String
  /-- Where the session store is. -/
  storeHost : String
  /-- How long an operation may take, in milliseconds. -/
  timeout : Option Nat
deriving DecidableEq, Repr

namespace Config

/-- Where the session store is if nothing else is said. -/
def usualHost : String := "127.0.0.1:6379"

/-- The least number of bytes in a secret. -/
def leastSecret : Nat := 32

/-- The first rule that a list of secrets breaks, after secrets with the given names. -/
def keyFault? : List String → List NamedKey → Option ConfigError
  | _, [] => none
  | seen, (name, secret) :: rest =>
    if seen.contains name then some (.invalid "duplicate kid in keys JSON")
    else if secret.length < leastSecret then
      some (.wrongLength "HS256 secret must be at least 32 bytes")
    else keyFault? (name :: seen) rest

/-- The first rule that some values break. -/
def fault? (accessSeconds refreshSeconds : Int) (keys : List NamedKey) (activeKey : String) :
    Option ConfigError :=
  if accessSeconds ≤ 0 then some (.invalid "ACCESS_TTL_SECONDS")
  else if refreshSeconds ≤ accessSeconds then
    some (.invalid "REFRESH_TTL_SECONDS must exceed ACCESS_TTL_SECONDS")
  else if keys = [] then some (.invalid "empty JWT keys")
  else
    match keyFault? [] keys with
    | some fault => some fault
    | none =>
      if keys.any fun key => key.1 = activeKey then none
      else some (.invalid "JWT_ACTIVE_KID not found in JWT_HS256_KEYS_JSON")

/-- The configuration of some values, with the usual host and no time-out. -/
def new (issuer audience : String) (accessSeconds refreshSeconds : Int) (hashKey : List UInt8)
    (keys : List NamedKey) (activeKey : String) : Except ConfigError Config :=
  match fault? accessSeconds refreshSeconds keys activeKey with
  | some fault => .error fault
  | none =>
    .ok { issuer, audience, accessSeconds, refreshSeconds, hashKey, keys, activeKey
          storeHost := usualHost, timeout := none }

/-- The same configuration with another host. -/
def withHost (config : Config) (host : String) : Config :=
  { config with storeHost := host }

/-- The same configuration with another time-out, or none. -/
def withTimeout (config : Config) (milliseconds : Option Nat) : Config :=
  { config with timeout := milliseconds }

/-- An accepted configuration holds the given values, and they break no rule. -/
theorem new_eq_ok {issuer audience activeKey : String} {accessSeconds refreshSeconds : Int}
    {hashKey : List UInt8} {keys : List NamedKey} {config : Config}
    (accepted : new issuer audience accessSeconds refreshSeconds hashKey keys activeKey =
      .ok config) :
    fault? accessSeconds refreshSeconds keys activeKey = none ∧
      config = ⟨issuer, audience, accessSeconds, refreshSeconds, hashKey, keys, activeKey,
        usualHost, none⟩ := by
  unfold new at accepted
  split at accepted
  · cases accepted
  · rename_i faultless
    cases accepted
    exact ⟨faultless, rfl⟩

/-- A configuration for the eyes of an operator: the secrets are left out. -/
def shown (config : Config) : String :=
  let timeout := match config.timeout with
    | none => "None"
    | some milliseconds => "Some(" ++ toString milliseconds ++ ")"
  let fields :=
    [ ("issuer", Text.quoted config.issuer), ("audience", Text.quoted config.audience),
      ("access_ttl_seconds", toString config.accessSeconds),
      ("refresh_ttl_seconds", toString config.refreshSeconds),
      ("active_kid", Text.quoted config.activeKey), ("redis_host", Text.quoted config.storeHost),
      ("store_timeout_ms", timeout) ]
  "Config \x7b " ++ ", ".intercalate (fields.map fun (name, value) => name ++ ": " ++ value) ++
    ", .. \x7d"

end Config

end Bearer
