import Bearer.Proofs.Config.KeyText
import Bearer.Proofs.Json.Record
import Bearer.Proofs.Service.Outlives

/-!
# Configurations from the environment

A configuration is loaded from the variables that hold it, whatever way they are written in: each
key in either spelling of base64, the list of secrets with any gaps, with the members in either
order and with any escapes in the texts. What is loaded is that configuration and no other
(`Config.ofEnvironment_of_describes`). So a service that is set up from it recognizes what was made
by one that was set up from the values themselves: `environment_lossless`.
-/

namespace Bearer

open Json (SpellsList SpellsObject SpellsValue)
open Json.Reading (Gap)
open Session (Memory)
open Token (NamedKey)

variable {environment : Environment} {config : Config} {keys : List NamedKey}

namespace Environment

variable {name value : String}

theorem require_of_text? (held : environment.text? name = some value) :
    environment.require name = .ok value := by
  rw [require, held]

theorem integer_of_text? {number : Int} (least : Decimal.least64 ≤ number)
    (greatest : number ≤ Decimal.greatest64)
    (held : environment.text? name = some (String.ofList (Decimal.ofInt number))) :
    environment.integer name = .ok number := by
  rw [integer, require_of_text? held]
  dsimp only [bind, Except.bind]
  rw [String.toList_ofList, Decimal.integer64?_ofInt least greatest]
  rfl

end Environment

namespace Config

/-- The ways to write a key. -/
def SpellsKey (bytes : List UInt8) (text : String) : Prop :=
  text.toList = Base64.encode Base64.urlSafe bytes ∨
    text.toList = Base64.encode Base64.standard bytes

theorem keyBytes?_of_spells {bytes : List UInt8} {text : String} (spelled : SpellsKey bytes text) :
    keyBytes? text = some bytes :=
  keyBytes?_iff.2 (spelled.imp (Base64.canonical_iff Base64.urlSafe_isOrdered).2
    (Base64.canonical_iff Base64.standard_isOrdered).2)

theorem keyBytes_of_spells {bytes : List UInt8} {text : String} (name : String)
    (spelled : SpellsKey bytes text) : keyBytes name text = .ok bytes := by
  rw [keyBytes, keyBytes?_of_spells spelled]

/-- The ways to write a name and a written secret as an object. -/
def SpellsEntry (entry : String × String) (written : List Char) : Prop :=
  ∃ name secret, SpellsValue entry.1 name ∧ SpellsValue entry.2 secret ∧
    (SpellsObject [("kid", name), ("secret_b64", secret)] written ∨
      SpellsObject [("secret_b64", secret), ("kid", name)] written)

/-- The ways to write a list of named secrets. -/
def SpellsKeys (keys : List NamedKey) (text : String) : Prop :=
  ∃ entries,
    List.Forall₂ (fun key entry => key.1 = entry.1 ∧ SpellsKey key.2 entry.2) keys entries ∧
      ∃ before written after, Gap before ∧ SpellsList SpellsEntry entries written ∧ Gap after ∧
        text.toList = before ++ (written ++ after)

section Entries

open Json.Reading
open Json.Record (Fills)

private theorem reads_put {value : String} {written : List Char}
    (put : WrittenKey → String → WrittenKey) (draft : WrittenKey)
    (spelled : SpellsValue value written) :
    Reads Delimited (do return put draft (← textValue "a string")) written (put draft value) := by
  have read := reads_return (put draft) (reads_textValue_of_value "a string" spelled)
  exact reads_weaken read fun _ _ => trivial

private theorem reads_entry {entry : String × String} {written : List Char}
    (spelled : SpellsEntry entry written) : Reads Anything keyRecord.value written entry := by
  obtain ⟨name, secret, named, kept, laid⟩ := spelled
  have readName := fun draft : WrittenKey =>
    reads_put (fun draft name => { draft with name := some name }) draft named
  have readSecret := fun draft : WrittenKey =>
    reads_put (fun draft secret => { draft with secret := some secret }) draft kept
  rcases laid with inOrder | turned
  · have fills : Fills keyRecord keyRecord.blank [("kid", name), ("secret_b64", secret)]
        ⟨some entry.1, some entry.2⟩ :=
      .cons rfl rfl (readName _) (.cons rfl rfl (readSecret _) (.nil _))
    exact Json.Record.reads_value_of_spells fills rfl inOrder
  · have fills : Fills keyRecord keyRecord.blank [("secret_b64", secret), ("kid", name)]
        ⟨some entry.1, some entry.2⟩ :=
      .cons rfl rfl (readSecret _) (.cons rfl rfl (readName _) (.nil _))
    exact Json.Record.reads_value_of_spells fills rfl turned

private theorem entry_begins {entry : String × String} {written : List Char}
    (spelled : SpellsEntry entry written) : ∃ later, written = '\x7b' :: later := by
  obtain ⟨name, secret, -, -, ⟨inside, -, rfl⟩ | ⟨inside, -, rfl⟩⟩ := spelled
  · exact ⟨_, rfl⟩
  · exact ⟨_, rfl⟩

private theorem writtenKeys_of_spells {entries : List (String × String)} {text : String}
    {before written after : List Char} (lead : Gap before)
    (spelled : SpellsList SpellsEntry entries written) (trail : Gap after)
    (whole : text.toList = before ++ (written ++ after)) : writtenKeys text = .ok entries := by
  have reads := reads_listValue ⟨rfl, rfl, rfl⟩ (by decide) (fun _ _ => reads_entry)
    (fun _ _ => entry_begins) spelled "a sequence"
  have read := whole_eq_ok_of_gap trail
    (reads_after_gap (beginsAtToken_listValue keyRecord.value "a sequence") lead reads)
  rwa [List.append_assoc, ← whole, String.ofList_toList] at read

end Entries

private theorem mapM_keyBytes {entries : List (String × String)} (name : String)
    (alike : List.Forall₂ (fun key entry => key.1 = entry.1 ∧ SpellsKey key.2 entry.2) keys
      entries) :
    (entries.mapM fun entry => do return (entry.1, ← keyBytes name entry.2)) =
      (.ok keys : Except ConfigError (List NamedKey)) := by
  induction alike with
  | nil => rfl
  | @cons key entry keys entries written _ ih =>
      obtain ⟨same, spelled⟩ := written
      rw [List.mapM_cons, keyBytes_of_spells name spelled, ih, ← same]
      rfl

/-- The list of secrets is loaded in its order. -/
theorem namedKeys_of_spells {name text : String} (held : environment.text? name = some text)
    (spelled : SpellsKeys keys text) : namedKeys environment name = .ok keys := by
  obtain ⟨entries, alike, before, written, after, lead, listed, trail, whole⟩ := spelled
  rw [namedKeys, Environment.require_of_text? held]
  dsimp only [bind, Except.bind]
  rw [writtenKeys_of_spells lead listed trail whole]
  exact mapM_keyBytes name alike

/-- The variables hold a configuration. A time-out is held exactly if there is one. -/
structure Describes (environment : Environment) (config : Config) : Prop where
  /-- Who makes the tokens. -/
  issuer : environment.text? "JWT_ISSUER" = some config.issuer
  /-- Whom the tokens are meant for. -/
  audience : environment.text? "JWT_AUDIENCE" = some config.audience
  /-- The lifetime of access tokens, in decimal. -/
  accessSeconds : environment.text? "ACCESS_TTL_SECONDS" =
    some (String.ofList (Decimal.ofInt config.accessSeconds))
  /-- The lifetime of refresh tokens, in decimal. -/
  refreshSeconds : environment.text? "REFRESH_TTL_SECONDS" =
    some (String.ofList (Decimal.ofInt config.refreshSeconds))
  /-- The key for digests. -/
  hashKey : ∃ text, environment.text? "SESSION_HASH_KEY_B64" = some text ∧
    SpellsKey config.hashKey text
  /-- The named secrets. -/
  keys : ∃ text, environment.text? "JWT_HS256_KEYS_JSON" = some text ∧ SpellsKeys config.keys text
  /-- The name of the secret that signs. -/
  activeKey : environment.text? "JWT_ACTIVE_KID" = some config.activeKey
  /-- Where the session store is. -/
  storeHost : environment.text? "REDIS_HOST" = some config.storeHost
  /-- The time-out, in decimal. -/
  timeout : environment.text? "STORE_TIMEOUT_MS" =
    config.timeout.map fun milliseconds => String.ofList (Decimal.ofNat milliseconds)

private theorem timeoutIn_of_text? {timeout : Option Nat}
    (short : ∀ milliseconds ∈ timeout, milliseconds < Number.bound64)
    (held : environment.text? "STORE_TIMEOUT_MS" =
      timeout.map fun milliseconds => String.ofList (Decimal.ofNat milliseconds)) :
    timeoutIn environment = .ok timeout := by
  rw [timeoutIn, held]
  cases timeout with
  | none => rfl
  | some milliseconds =>
      rw [Option.map_some]
      dsimp only
      rw [String.toList_ofList, Decimal.below?_ofNat (short milliseconds rfl)]

private theorem hashKeyIn_of_spells {bytes : List UInt8} {text : String}
    (held : environment.text? "SESSION_HASH_KEY_B64" = some text) (spelled : SpellsKey bytes text)
    (complete : bytes.length = 32) : hashKeyIn environment = .ok bytes := by
  rw [hashKeyIn, Environment.require_of_text? held]
  dsimp only [bind, Except.bind]
  rw [keyBytes_of_spells _ spelled]
  dsimp only
  rw [if_pos complete]
  rfl

variable {issuer audience activeKey host : String} {accessSeconds refreshSeconds : Int}
  {hashKey : List UInt8} {timeout : Option Nat} {base : Config}

/-- What is loaded is the configuration that the variables hold. -/
theorem ofEnvironment_of_describes
    (accepted : new issuer audience accessSeconds refreshSeconds hashKey keys activeKey = .ok base)
    (complete : hashKey.length = 32) (fits : refreshSeconds ≤ Decimal.greatest64)
    (short : ∀ milliseconds ∈ timeout, milliseconds < Number.bound64)
    (described : Describes environment ((base.withHost host).withTimeout timeout)) :
    ofEnvironment environment = .ok ((base.withHost host).withTimeout timeout) := by
  obtain ⟨positive, longer⟩ := lifetimes_of_new accepted
  obtain ⟨-, rfl⟩ := new_eq_ok accepted
  obtain ⟨issued, meant, access, refresh, ⟨hashText, hashHeld, hashSpelled⟩,
    ⟨keyText, keysHeld, keysSpelled⟩, active, hosted, timed⟩ := described
  have least : ∀ {value : Int}, 0 < value → Decimal.least64 ≤ value := fun positive =>
    Int.le_trans (by decide) (Int.le_of_lt positive)
  dsimp only [withHost, withTimeout] at *
  rw [ofEnvironment, Environment.require_of_text? issued, Environment.require_of_text? meant,
    Environment.integer_of_text? (least positive) (Int.le_trans (Int.le_of_lt longer) fits) access,
    Environment.integer_of_text? (least (Int.lt_trans positive longer)) fits refresh,
    hashKeyIn_of_spells hashHeld hashSpelled complete, Environment.require_of_text? active,
    namedKeys_of_spells keysHeld keysSpelled, timeoutIn_of_text? short timed]
  dsimp only [bind, Except.bind]
  rw [accepted, hosted]
  rfl

end Config

/-- A service recognizes what another one makes: it accepts the access token of each pair up to the
end that the pair names, and it renews the session of the pair from the refresh token. -/
def TokenService.Recognizes (service maker : TokenService) : Prop :=
  ∀ (conducts : Conducts) (context : Context) (world : World Memory), .epoch ≤ world.clock.now →
    ∀ (demand : Demand) (pair : TokenPair),
      (demand.run maker conducts context world).ending = .finished (.pair pair) →
        ∃ payload,
          (∀ moment, service.signer.verify moment pair.access =
            if moment ≤ pair.accessExpiry then .ok payload else .error .expired) ∧
          ∀ later, world.clock.now ≤ later → later < pair.refreshExpiry →
            service.Renewable pair.refresh (demand.run maker conducts context world).state.store
              later

variable {issuer audience activeKey host : String} {accessSeconds refreshSeconds : Int}
  {hashKey : List UInt8} {timeout : Option Nat} {base : Config}

theorem TokenService.recognizes_self {service : TokenService}
    (accepted : Config.new issuer audience accessSeconds refreshSeconds hashKey keys activeKey =
      .ok base)
    (setUp : TokenService.ofConfig base = .ok service) : service.Recognizes service := by
  intro conducts context world since demand pair answered
  obtain ⟨payload, opened⟩ := Demand.opened_of_answered answered
  obtain ⟨-, verified⟩ := opened.verify_access setUp (Config.nodup_of_new accepted)
    (Config.lifetimes_of_new accepted).1 since
  have good := goodUntil_of_runs (Lasting.ofConfig accepted setUp) opened
    (Relation.ReflTransGen.refl : Pool.RunsOnward (.start world.clock.now _ []) _)
  exact ⟨payload, verified, good.renewable (fun _ member => by cases member)⟩

/-- The variables that hold an accepted configuration, written in any of the ways that are read, are
loaded as that configuration. So a service that is set up from them is the one of the values
themselves, and recognizes what that one makes. -/
theorem environment_lossless
    (accepted : Config.new issuer audience accessSeconds refreshSeconds hashKey keys activeKey =
      .ok base)
    (complete : hashKey.length = 32) (fits : refreshSeconds ≤ Decimal.greatest64)
    (short : ∀ milliseconds ∈ timeout, milliseconds < Number.bound64)
    (described : Config.Describes environment ((base.withHost host).withTimeout timeout)) :
    Config.ofEnvironment environment = .ok ((base.withHost host).withTimeout timeout) ∧
      ∀ {loaded : Config}, Config.ofEnvironment environment = .ok loaded →
        TokenService.ofConfig loaded = TokenService.ofConfig base ∧
          ∀ {service reloaded : TokenService}, TokenService.ofConfig base = .ok service →
            TokenService.ofConfig loaded = .ok reloaded → reloaded.Recognizes service := by
  have loads := Config.ofEnvironment_of_describes accepted complete fits short described
  refine ⟨loads, fun {loaded} again => ?_⟩
  cases loads.symm.trans again
  have alike : TokenService.ofConfig ((base.withHost host).withTimeout timeout) =
      TokenService.ofConfig base := rfl
  refine ⟨alike, fun {service reloaded} setUp setUpAgain => ?_⟩
  cases setUp.symm.trans (alike.symm.trans setUpAgain)
  exact TokenService.recognizes_self accepted setUp

/-- A list of one secret with gaps and an escape, whose members are turned around. -/
def Environment.smallKeys : String :=
  "[ \x7b\"secret_b64\":\"AwMDAwMDAwMDAwMDAwMDAwMDAwMDAwMDAwMDAwMDAwM\", " ++
    "\"kid\":\"\\u006B1\"\x7d ]"

/-- Variables that hold the small configuration, with a host and a time-out. The key for digests is
padded, the secret is not. -/
def Environment.small : Environment :=
  List.foldl (fun environment entry => environment.set entry.1 entry.2) Table.empty
    [ ("JWT_ISSUER", "issuer"), ("JWT_AUDIENCE", "audience"), ("ACCESS_TTL_SECONDS", "60"),
      ("REFRESH_TTL_SECONDS", "600"),
      ("SESSION_HASH_KEY_B64", "BwcHBwcHBwcHBwcHBwcHBwcHBwcHBwcHBwcHBwcHBwc="),
      ("JWT_HS256_KEYS_JSON", smallKeys), ("JWT_ACTIVE_KID", "k1"), ("REDIS_HOST", "store:6379"),
      ("STORE_TIMEOUT_MS", "250") ]

private theorem gap_blank : Gap [' '] :=
  List.forall_mem_singleton.2 rfl

private theorem spellsKeys_small : Config.SpellsKeys Config.small.keys Environment.smallKeys := by
  have escaped : Json.Spells 'k' ('\\' :: 'u' :: ['0', '0', '6', 'B']) := .unit rfl
  have plain : Json.Spells '1' ['1'] := .plain ⟨by decide, by decide, by decide⟩
  have spelled : Json.Spelled "k1".toList ['\\', 'u', '0', '0', '6', 'B', '1'] := by
    rw [(by decide : "k1".toList = ['k', '1'])]
    exact .cons escaped (.cons plain .nil)
  have name : SpellsValue "k1" _ :=
    ⟨[], _, Json.Reading.gap_nil, ⟨_, spelled, rfl⟩, rfl⟩
  have printed : ∀ value, SpellsValue value (Json.printText value) := fun value =>
    ⟨[], _, Json.Reading.gap_nil, Json.spellsText_printText value, rfl⟩
  have member := Json.spellsMember_printMember
  have entry : Config.SpellsEntry ("k1", "AwMDAwMDAwMDAwMDAwMDAwMDAwMDAwMDAwMDAwMDAwM") _ :=
    ⟨_, _, name, printed _, .inr ⟨_, .cons (.first Json.Reading.gap_nil) (member _ _)
      (.cons (.later Json.Reading.gap_nil gap_blank) (member _ _) (.nil Json.Reading.gap_nil)),
      rfl⟩⟩
  refine ⟨[_], .cons ⟨rfl, .inl ?_⟩ .nil, [], _, [], Json.Reading.gap_nil,
    ⟨_, .cons (.first gap_blank) entry (.nil gap_blank), rfl⟩, Json.Reading.gap_nil, ?_⟩
  · decide +kernel
  · decide +kernel

private theorem describes_small : Config.Describes .small
    ((Config.small.withHost "store:6379").withTimeout (some 250)) where
  issuer := by decide +kernel
  audience := by decide +kernel
  accessSeconds := by decide +kernel
  refreshSeconds := by decide +kernel
  hashKey := ⟨"BwcHBwcHBwcHBwcHBwcHBwcHBwcHBwcHBwcHBwcHBwc=", by decide +kernel,
    .inr (by decide +kernel)⟩
  keys := ⟨Environment.smallKeys, by decide +kernel, spellsKeys_small⟩
  activeKey := by decide +kernel
  storeHost := by decide +kernel
  timeout := by decide +kernel

/-- The small configuration is loaded with its host and its time-out, and its service recognizes
what it makes. -/
theorem environment_lossless_small :
    Config.ofEnvironment .small =
        .ok ((Config.small.withHost "store:6379").withTimeout (some 250)) ∧
      TokenService.small.Recognizes .small := by
  obtain ⟨loads, recognizes⟩ := environment_lossless Config.new_small (by decide) (by decide)
    (by decide) describes_small
  exact ⟨loads, (recognizes loads).2 TokenService.ofConfig_small rfl⟩

end Bearer
