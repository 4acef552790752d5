import Bearer.Proofs.Operation.Fate
import Bearer.Proofs.Operation.Twins
import Bearer.Proofs.Service.Minting
import Bearer.Proofs.Service.Serving
import Bearer.Proofs.Text.Base64

/-!
# What becomes of secrets

Whatever the service asks of the session store, it names sessions by the digests of their tokens
only, so that no token is ever a key: `Demand.asksOnly_keyed`. And what it logs and answers depends
on a password or a token only through what its collaborators reply: two passwords which the password
check does not tell apart are logged and answered alike, and so are two tokens for which the store
replies the same. `keeps_secrets` says all this of a service.
-/

namespace Bearer

open Operation (Befalls Leads Twins)
open Session (Rows)
open TokenService (refreshToken)

variable {σ τ α β : Type} [Session.Store σ] [Session.Store τ]

/-- The key that a request passes to the session store. -/
def Request.key? : Request → Option String
  | .set key _ _ => some key
  | .take key => some key
  | .delete key => some key
  | .find .. => none
  | .compare .. => none

namespace Operation

/-- Whatever is replied, an operation makes requests of one kind only. -/
def AsksOnly (kind : Request → Prop) : Operation α → Prop
  | finish _ => True
  | overflow => True
  | clock next => ∀ now, (next now).AsksOnly kind
  | note _ next => next.AsksOnly kind
  | ask request next => kind request ∧ ∀ reply, (next reply).AsksOnly kind

variable {kind : Request → Prop} {operation rest : Operation α}

theorem AsksOnly.bind {next : α → Operation β} (asks : operation.AsksOnly kind)
    (following : ∀ value, (next value).AsksOnly kind) : (operation.bind next).AsksOnly kind := by
  induction operation with
  | finish value => exact following value
  | overflow => trivial
  | clock next ih => exact fun now => ih now (asks now)
  | note event next ih => exact ih asks
  | ask request next ih => exact ⟨asks.1, fun reply => ih reply (asks.2 reply)⟩

theorem AsksOnly.mapped {f : α → β} (asks : operation.AsksOnly kind) :
    (operation.mapped f).AsksOnly kind :=
  asks.bind fun _ => trivial

theorem AsksOnly.leads {exchanges : List Exchange} (asks : operation.AsksOnly kind)
    (leads : Leads operation exchanges rest) :
    (∀ exchange ∈ exchanges, kind exchange.request) ∧ rest.AsksOnly kind := by
  induction leads with
  | stay => exact ⟨nofun, asks⟩
  | clock now _ ih => exact ih (asks now)
  | note _ ih => exact ih asks
  | ask reply _ ih =>
      obtain ⟨later, left⟩ := ih (asks.2 reply)
      exact ⟨List.forall_mem_cons.2 ⟨asks.1, later⟩, left⟩

theorem AsksOnly.befalls {now : Instant} {store after : σ} {made : List Call} {fate : Fate α}
    (asks : operation.AsksOnly kind) (befalls : Befalls now operation store made fate after) :
    ∀ call ∈ made, kind call.request := by
  induction befalls with
  | finish => exact nofun
  | overflow => exact nofun
  | clock _ ih => exact ih (asks _)
  | note _ ih => exact ih asks
  | refused _ _ ih => exact List.forall_mem_cons.2 ⟨asks.1, ih (asks.2 _)⟩
  | served _ _ _ ih => exact List.forall_mem_cons.2 ⟨asks.1, ih (asks.2 _)⟩
  | broken => exact List.forall_mem_cons.2 ⟨asks.1, nofun⟩
  | unserved => exact List.forall_mem_cons.2 ⟨asks.1, nofun⟩
  | lost => exact List.forall_mem_cons.2 ⟨asks.1, nofun⟩

end Operation

namespace TokenService

/-- A request names sessions by the digests of their tokens. -/
def Keyed (service : TokenService) (request : Request) : Prop :=
  ∀ key, request.key? = some key → ∃ token, key = service.key token

variable (service : TokenService) (draw : Draw) (payload : Payload) (token name password : String)

private theorem keyed_of_key? {request : Request}
    (names : request.key? = some (service.key token)) : service.Keyed request :=
  fun _ named => ⟨token, Option.some.inj (named.symm.trans names)⟩

theorem asksOnly_mint : (service.mint draw payload).AsksOnly service.Keyed := by
  rw [mint_eq]
  intro now
  dsimp only
  cases service.pair? draw payload now with
  | none => trivial
  | some pair =>
      refine ⟨service.keyed_of_key? _ rfl, fun reply => ?_⟩
      cases reply <;> trivial

theorem asksOnly_issue : (service.issue draw payload).AsksOnly service.Keyed := by
  refine (service.asksOnly_mint draw payload).bind fun result => ?_
  cases result <;> trivial

theorem asksOnly_refresh : (service.refresh draw token).AsksOnly service.Keyed := by
  refine ⟨service.keyed_of_key? token rfl, fun reply => ?_⟩
  rcases reply with failure | _ | payload
  · trivial
  · trivial
  · exact service.asksOnly_mint draw payload

theorem asksOnly_revoke : (service.revoke token).AsksOnly service.Keyed := by
  refine ⟨service.keyed_of_key? token rfl, fun reply => ?_⟩
  cases reply <;> trivial

theorem asksOnly_checkAccount (account : Account) :
    (service.checkAccount draw name password account).AsksOnly service.Keyed := by
  refine ⟨nofun, fun right => ?_⟩
  cases right with
  | false => trivial
  | true =>
      dsimp only
      cases Payload.new? account.subject account.role with
      | none => trivial
      | some payload =>
          refine (service.asksOnly_issue draw payload).bind fun result => ?_
          cases result <;> trivial

theorem asksOnly_logIn : (service.logIn draw name password).AsksOnly service.Keyed := by
  refine ⟨nofun, fun reply => ?_⟩
  rcases reply with outage | _ | account
  · trivial
  · refine ⟨nofun, fun reply => ?_⟩
    rcases reply with outage | _ | account
    · trivial
    · exact ⟨nofun, fun _ => trivial⟩
    · exact service.asksOnly_checkAccount draw name password account
  · exact service.asksOnly_checkAccount draw name password account

theorem asksOnly_identify (token? : Option String) :
    (service.identify token?).AsksOnly fun _ => False := by
  cases token? with
  | none => trivial
  | some token =>
      have checks : (service.verifyAccess token).AsksOnly fun _ => False := by
        intro now
        dsimp only
        split <;> trivial
      refine checks.bind fun result => ?_
      cases result <;> trivial

end TokenService

/-- Every demand names sessions by the digests of their tokens. -/
theorem Demand.asksOnly_keyed (service : TokenService) (demand : Demand) :
    (demand.operation service).AsksOnly service.Keyed := by
  rcases demand with (⟨draw, payload⟩ | ⟨draw, token⟩ | token) | ⟨draw, name, password⟩
  · exact (service.asksOnly_issue draw payload).mapped
  · exact (service.asksOnly_refresh draw token).mapped
  · exact (service.asksOnly_revoke token).mapped
  · exact (service.asksOnly_logIn draw name password).mapped

/-- A key belongs to a token, is written in digits, and is no token that is drawn. -/
structure TokenService.Digests (service : TokenService) (key : String) : Prop where
  /-- The key belongs to a token. -/
  token : ∃ token, key = Session.key service.hashKey token
  /-- The key is `session:` and sixty-four lowercase hexadecimal digits. -/
  digits : ∃ digits : List Char, key.toList = "session:".toList ++ digits ∧ digits.length = 64 ∧
    ∀ digit ∈ digits, digit ∈ "0123456789abcdef".toList
  /-- The key is not what a token is that is drawn. -/
  undrawn : ∀ bytes, key ≠ refreshToken bytes

theorem TokenService.digests_key (service : TokenService) (token : String) :
    service.Digests (service.key token) := by
  obtain ⟨digits, shape, length, listed⟩ :=
    Session.exists_digits_of_isKey (Session.isKey_key service.hashKey token)
  refine ⟨⟨token, rfl⟩, ⟨digits, shape, length, listed⟩, fun bytes same => ?_⟩
  -- A key has a colon, and no token that is drawn has one.
  have colon : ':' ∈ (service.key token).toList := by
    rw [key, shape]
    exact List.mem_append_left _ (by decide)
  rw [same, refreshToken, String.toList_ofList] at colon
  exact absurd (Base64.mem_encode_urlSafe colon) (by decide)

theorem TokenService.Keyed.digests {service : TokenService} {request : Request} {key : String}
    (keyed : service.Keyed request) (named : request.key? = some key) : service.Digests key := by
  obtain ⟨token, rfl⟩ := keyed key named
  exact service.digests_key token

/-- What is known of the session store, wherever some demands came that are met side by side. -/
structure Pool.Digested [Rows σ] (service : TokenService) (origin : σ) (pool : Pool σ) : Prop where
  /-- A request that was made named a session by its digest. -/
  made : ∀ happening ∈ pool.history, ∀ key, happening.heard.request.key? = some key →
    service.Digests key
  /-- So does a request that is to be made next. -/
  pending : ∀ (task : Nat) (request : Request) (next : request.Reply → Operation Answer),
    pool.phases[task]? = some (.running (.ask request next)) → ∀ key, request.key? = some key →
      service.Digests key
  /-- A row that was not there at first is under the digest of its token. -/
  rows : ∀ key row, Rows.row? pool.store key = some row →
    Rows.row? origin key = some row ∨ service.Digests key

/-- Wherever demands come that are met side by side, the store knows sessions by digests only. -/
theorem Pool.digested_of_runs [Rows σ] {service : TokenService} {now : Instant} {origin : σ}
    {demands : List Demand} {pool : Pool σ}
    (runs : (serving service now origin demands).Runs pool) : pool.Digested service origin := by
  have served : Served service demands pool := tracked_of_runs runs
  have made : ∀ happening ∈ pool.history, service.Keyed happening.heard.request := by
    intro happening member
    obtain ⟨demand, demanded⟩ := demand_of_mem served member
    obtain ⟨rest, leads⟩ := leads_of_demand served demanded
    refine ((demand.asksOnly_keyed service).leads leads).1 happening.heard ?_
    exact mem_trace.2 ⟨happening, member, rfl, rfl⟩
  refine ⟨fun happening member key => (made happening member).digests, ?_, ?_⟩
  · intro task request next found key named
    have known : task < demands.length := by
      rw [← List.length_map (Demand.operation service), ← served.length]
      exact (List.getElem?_eq_some_iff.1 found).1
    obtain ⟨phase, reached, after⟩ := served.phases task _ (by
      rw [List.getElem?_map, List.getElem?_eq_getElem known, Option.map_some])
    cases reached.symm.trans found
    cases after with
    | running leads =>
        exact ((demands[task].asksOnly_keyed service).leads leads).2.1.digests named
  · intro key row held
    rcases (balanced_of_runs runs).row key row held with
      first | ⟨payload, -, happening, member, written⟩
    · exact .inl first
    · obtain ⟨lifetime, asked⟩ :=
        Happening.request_of_written? (served.real happening member).2 written
      exact .inr ((made happening member).digests (by rw [asked]; rfl))

/-- Whatever a call inside a context asks of the store names sessions by their digests. -/
theorem Demand.calls_digested (service : TokenService) (conducts : Conducts) (context : Context)
    (world : World σ) (demand : Demand) :
    ∃ made, (demand.run service conducts context world).state.calls = world.calls ++ made ∧
      ∀ call ∈ made, ∀ key, call.request.key? = some key → service.Digests key := by
  rcases run_befalls service conducts context world demand with
    withdrawn | ⟨made, fate, befalls, calls, -⟩
  · rw [withdrawn]
    exact ⟨[], (List.append_nil _).symm, nofun⟩
  · refine ⟨made, calls, fun call member key => ?_⟩
    exact ((demand.asksOnly_keyed service).befalls befalls call member).digests

/-! ## What is told of secrets -/

/-- Requests that differ at most in the session that is to be removed. -/
inductive Request.Renames (key other : String) : Request → Request → Prop where
  /-- The requests are the same. -/
  | same (request : Request) : Renames key other request request
  /-- One session is taken in the place of the other one. -/
  | take : Renames key other (.take key) (.take other)
  /-- One session is deleted in the place of the other one. -/
  | delete : Renames key other (.delete key) (.delete other)

namespace TokenService

variable (service : TokenService) (draw : Draw) (token other name password : String)

theorem twins_logIn : Twins (Request.Swaps password other) (service.logIn draw name password)
    (service.logIn draw name other) := by
  have check : ∀ account, Twins (Request.Swaps password other)
      (service.checkAccount draw name password account)
      (service.checkAccount draw name other account) := by
    refine fun account => .ask (.compare account.passwordHash) fun right answer heard => ?_
    cases heard
    cases right with
    | false => exact .refl .same _
    | true => exact .refl .same _
  refine .ask (.same _) fun reply answer heard => ?_
  cases heard
  rcases reply with outage | _ | account
  · exact .refl .same _
  · refine .ask (.same _) fun reply answer heard => ?_
    cases heard
    rcases reply with outage | _ | account
    · exact .refl .same _
    · exact .ask (.compare _) fun _ _ _ => .refl .same _
    · exact check account
  · exact check account

theorem twins_refresh : Twins (Request.Renames (service.key token) (service.key other))
    (service.refresh draw token) (service.refresh draw other) := by
  refine .ask .take fun reply answer heard => ?_
  obtain rfl : reply = answer := Hearing.taken.inj heard
  rcases reply with failure | _ | payload
  · exact .refl .same _
  · exact .refl .same _
  · exact .refl .same _

theorem twins_revoke : Twins (Request.Renames (service.key token) (service.key other))
    (service.revoke token) (service.revoke other) := by
  refine .ask .delete fun reply answer heard => ?_
  obtain rfl : reply = answer := Hearing.deleted.inj heard
  cases reply with
  | ok existed => exact .refl .same _
  | error failure => exact .refl .same _

end TokenService

/-- Two calls are answered alike and log the same. -/
structure ToldAlike (world : World σ) (other : World τ) (outcome : Outcome (World σ) Answer)
    (second : Outcome (World τ) Answer) : Prop where
  /-- The endings are the same. -/
  ending : outcome.ending = second.ending
  /-- The same is logged. -/
  log : ∃ noted, outcome.state.log = world.log ++ noted ∧ second.state.log = other.log ++ noted

theorem Demand.toldAlike_of_twins {differs : Request → Request → Prop} {service : TokenService}
    {demand second : Demand}
    (twins : Twins differs (demand.operation service) (second.operation service))
    {conducts others : Conducts} {world : World σ} {other : World τ}
    (clock : world.clock = other.clock)
    (heard : ((demand.operation service).heard conducts world).map Exchange.hearing =
      ((second.operation service).heard others other).map Exchange.hearing) :
    ToldAlike world other (demand.run service conducts .unlimited world)
      (second.run service others .unlimited other) := by
  obtain ⟨ending, state⟩ := demand.run_performed service conducts world
  obtain ⟨secondEnding, secondState⟩ := second.run_performed service others other
  obtain ⟨same, noted, log, secondLog⟩ := twins.performed_eq clock heard
  refine ⟨by rw [ending, secondEnding, same], noted, ?_, ?_⟩
  · rw [state, log]
  · rw [secondState, secondLog]

/-- What a service does with secrets. -/
structure TokenService.KeepsSecrets (service : TokenService) : Prop where
  /-- Wherever demands come that are met side by side, the store knows sessions by digests only. -/
  store : ∀ {σ : Type} [Session.Store σ] [Rows σ] (now : Instant) (origin : σ)
    (demands : List Demand) (pool : Pool σ),
      (Pool.serving service now origin demands).Runs pool → pool.Digested service origin
  /-- So it does in a call inside a context. -/
  calls : ∀ {σ : Type} [Session.Store σ] (conducts : Conducts) (context : Context)
    (world : World σ) (demand : Demand),
      ∃ made, (demand.run service conducts context world).state.calls = world.calls ++ made ∧
        ∀ call ∈ made, ∀ key, call.request.key? = some key → service.Digests key
  /-- To check an access token nothing is asked. -/
  checks : ∀ token?, (service.identify token?).AsksOnly fun _ => False
  /-- A token that is drawn has forty-three letters, figures, `-` and `_`. -/
  tokens : ∀ bytes : List UInt8, bytes.length = 32 → (refreshToken bytes).length = 43 ∧
    ∀ character ∈ (refreshToken bytes).toList, character ∈
      "ABCDEFGHIJKLMNOPQRSTUVWXYZabcdefghijklmnopqrstuvwxyz0123456789-_".toList
  /-- Two passwords that the password check does not tell apart are told alike. -/
  passwords : ∀ {σ : Type} [Session.Store σ] (conducts : Conducts) (world : World σ) (draw : Draw)
    (name password other : String),
      conducts.Confuse password other world.calls.length
        (((Demand.logIn draw name password).operation service).heard conducts world) →
      ToldAlike world world
        ((Demand.logIn draw name password).run service conducts .unlimited world)
        ((Demand.logIn draw name other).run service conducts .unlimited world)
  /-- Two tokens for which the store replies the same are told alike when they are exchanged. -/
  refreshes : ∀ {σ τ : Type} [Session.Store σ] [Session.Store τ] (conducts others : Conducts)
    (world : World σ) (second : World τ) (draw : Draw) (token other : String),
      world.clock = second.clock →
      (((Demand.errand (.refresh draw token)).operation service).heard conducts world).map
          Exchange.hearing =
        (((Demand.errand (.refresh draw other)).operation service).heard others second).map
          Exchange.hearing →
      ToldAlike world second
        ((Demand.errand (.refresh draw token)).run service conducts .unlimited world)
        ((Demand.errand (.refresh draw other)).run service others .unlimited second)
  /-- So they are when their sessions are closed. -/
  revocations : ∀ {σ τ : Type} [Session.Store σ] [Session.Store τ] (conducts others : Conducts)
    (world : World σ) (second : World τ) (token other : String),
      world.clock = second.clock →
      (((Demand.errand (.revoke token)).operation service).heard conducts world).map
          Exchange.hearing =
        (((Demand.errand (.revoke other)).operation service).heard others second).map
          Exchange.hearing →
      ToldAlike world second
        ((Demand.errand (.revoke token)).run service conducts .unlimited world)
        ((Demand.errand (.revoke other)).run service others .unlimited second)

/-- Secrets reach neither the keys of the store nor the log. -/
theorem keeps_secrets (service : TokenService) : service.KeepsSecrets where
  store := fun _ _ _ _ runs => Pool.digested_of_runs runs
  calls := Demand.calls_digested service
  checks := service.asksOnly_identify
  tokens := by
    intro bytes length
    rw [refreshToken, String.length_ofList, String.toList_ofList, Base64.length_encode_urlSafe,
      length]
    exact ⟨by decide, fun _ => Base64.mem_encode_urlSafe⟩
  passwords := by
    intro σ _ conducts world draw name password other confuse
    have twins := (service.twins_logIn draw other name password).mapped Answer.ofLogIn
    exact Demand.toldAlike_of_twins twins rfl (twins.heard_eq ⟨rfl, rfl⟩ confuse)
  refreshes := by
    intro σ τ _ _ conducts others world second draw token other clock heard
    have twins := (service.twins_refresh draw token other).mapped Answer.ofPair
    exact Demand.toldAlike_of_twins twins clock heard
  revocations := by
    intro σ τ _ _ conducts others world second token other clock heard
    have twins := (service.twins_revoke token other).mapped Answer.ofUnit
    exact Demand.toldAlike_of_twins twins clock heard

private theorem hearing_vacant (service : TokenService) (draw : Draw) (token : String) :
    (((Demand.errand (.refresh draw token)).operation service).heard
      (fun _ => .prompt fun _ _ => false) World.vacant).map Exchange.hearing =
        [.taken (.ok none)] :=
  congrArg (List.map Exchange.hearing) (Operation.heard_ask (World.asked_of_reply rfl rfl))

/-- Two unknown tokens are told alike, and so are two wrong passwords. -/
theorem keeps_secrets_vacant :
    ToldAlike World.vacant World.vacant
        ((Demand.errand (.refresh (TokenService.sameBytes 2) "one")).run .small
          (fun _ => .prompt fun _ _ => false) .unlimited .vacant)
        ((Demand.errand (.refresh (TokenService.sameBytes 2) "other")).run .small
          (fun _ => .prompt fun _ _ => false) .unlimited .vacant) ∧
      ToldAlike World.vacant World.vacant
        ((Demand.logIn (TokenService.sameBytes 2) "ann" "one").run .small
          (fun _ => .prompt fun _ _ => false) .unlimited .vacant)
        ((Demand.logIn (TokenService.sameBytes 2) "ann" "other").run .small
          (fun _ => .prompt fun _ _ => false) .unlimited .vacant) := by
  constructor
  · refine (keeps_secrets .small).refreshes _ _ _ _ _ _ _ rfl ?_
    rw [hearing_vacant, hearing_vacant]
  · refine (keeps_secrets .small).passwords _ _ _ _ _ _ fun index hash right found => ?_
    -- Nobody has the name, so that the hash of nobody is the only one that is asked about.
    have heard : ((Demand.logIn (TokenService.sameBytes 2) "ann" "one").operation .small).heard
        (fun _ => .prompt fun _ _ => false) World.vacant =
          [⟨.find .users "ann", .ok none⟩, ⟨.find .musicians "ann", .ok none⟩,
            ⟨.compare Password.dummyHash "one", false⟩] := rfl
    rw [heard] at found
    rcases index with _ | _ | _ | index <;> cases found
    rfl

end Bearer
