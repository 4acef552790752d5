import Bearer.Proofs.Service.Demand

/-!
# What a demand writes, takes and signs

Whatever is demanded, the exchanges write at most once, under the key of the draw
(`Demand.leads_writesOnce`). Who takes a row and writes one hands the payload on
(`Demand.taking_eq`), and who returns a pair signed the access token for the payload that was
written (`Demand.signed`). A login writes the payload of the account that it found
(`TokenService.leads_logIn_identified`).
-/

namespace Bearer

open Operation (Leads leads_finish leads_lastNote leads_ask leads_mapped leads_mapped_finish)

/-- Whether a write was asked for. -/
def Exchange.isWrite (exchange : Exchange) : Bool :=
  match exchange.request with
  | .set .. => true
  | _ => false

private theorem mem_of_write {exchange writing : Exchange} {exchanges : List Exchange}
    {key : String} {payload : Payload} {lifetime : Span} (other : exchange.isWrite = false)
    (member : writing ∈ exchange :: exchanges)
    (written : writing.request = .set key payload lifetime) : writing ∈ exchanges := by
  rcases List.mem_cons.1 member with rfl | later
  · rw [Exchange.isWrite, written] at other
    cases other
  · exact later

/-- The random bytes that a demand would draw. -/
def Demand.draw? : Demand → Option Draw
  | .errand (.issue draw _) => some draw
  | .errand (.refresh draw _) => some draw
  | .errand (.revoke _) => none
  | .logIn draw _ _ => some draw

/-- At most one of some exchanges is a write, under the key of the drawn token. -/
structure WritesOnce (service : TokenService) (draw? : Option Draw) (exchanges : List Exchange) :
    Prop where
  /-- There is at most one write. -/
  once : exchanges.countP Exchange.isWrite ≤ 1
  /-- It is under the key of the drawn token. -/
  key : ∀ exchange ∈ exchanges, ∀ key payload lifetime,
    exchange.request = .set key payload lifetime →
      ∃ draw, draw? = some draw ∧ key = service.key (TokenService.refreshToken draw.refresh)

namespace WritesOnce

open TokenService

variable {service : TokenService} {draw : Draw} {draw? : Option Draw} {exchange : Exchange}
  {exchanges : List Exchange} {payload : Payload}

private theorem nil : WritesOnce service draw? [] := by
  refine ⟨Nat.zero_le _, ?_⟩
  intro exchange member
  cases member

private theorem cons (writes : WritesOnce service draw? exchanges)
    (other : exchange.isWrite = false) : WritesOnce service draw? (exchange :: exchanges) := by
  constructor
  · rw [List.countP_cons, other]
    exact writes.once
  · intro asked member key payload lifetime written
    exact writes.key asked (mem_of_write other member written) key payload lifetime written

private theorem minting (minting : Minting service draw payload exchanges) :
    WritesOnce service (some draw) exchanges := by
  constructor
  · cases minting with
    | begun => exact Nat.zero_le _
    | written reply => exact Nat.le_refl _
  · intro exchange member key payload lifetime written
    obtain ⟨reply, rfl⟩ := minting.eq_writing member
    obtain ⟨rfl, -, -⟩ := Request.set.inj written
    exact ⟨draw, rfl, rfl⟩

private theorem refreshing {token : String}
    (refreshing : Refreshing service draw token exchanges) :
    WritesOnce service (some draw) exchanges := by
  cases refreshing with
  | begun => exact nil
  | refused reply => exact nil.cons rfl
  | taken mints => exact (minting mints).cons rfl

private theorem loggingIn (loggingIn : LoggingIn service draw exchanges) :
    WritesOnce service (some draw) exchanges := by
  induction loggingIn with
  | @elsewhere exchange exchanges other later ih =>
      apply ih.cons
      obtain ⟨request, reply⟩ := exchange
      cases request with
      | set key payload lifetime => cases other
      | _ => rfl
  | opening mints => exact minting mints
  | silent => exact nil

end WritesOnce

/-- Whatever is demanded, the store is asked to write at most once. -/
theorem Demand.leads_writesOnce {service : TokenService} {demand : Demand}
    {exchanges : List Exchange} {rest : Operation Answer}
    (leads : Leads (demand.operation service) exchanges rest) :
    WritesOnce service demand.draw? exchanges := by
  cases demand with
  | logIn draw name password =>
      obtain ⟨middle, begun⟩ := leads_mapped leads
      exact .loggingIn (TokenService.leads_logIn begun)
  | errand errand =>
      cases errand with
      | issue draw payload =>
          obtain ⟨middle, begun⟩ := leads_mapped leads
          exact .minting (TokenService.leads_issue begun)
      | refresh draw token =>
          obtain ⟨middle, begun⟩ := leads_mapped leads
          exact .refreshing (TokenService.leads_refresh begun)
      | revoke token =>
          obtain ⟨middle, begun⟩ := leads_mapped leads
          rcases TokenService.leads_revoke begun with rfl | ⟨reply, rfl⟩
          · exact .nil
          · exact WritesOnce.nil.cons rfl

namespace TokenService

variable {service : TokenService} {draw : Draw} {payload given : Payload} {token old new : String}
  {exchanges : List Exchange} {taking writing : Exchange} {lifetime : Span}

end TokenService

/-- Who writes is to open a session, or took the row of another one. -/
theorem Demand.isWrite_cases {service : TokenService} {demand : Demand} {exchanges : List Exchange}
    {rest : Operation Answer} {writing : Exchange}
    (leads : Leads (demand.operation service) exchanges rest) (member : writing ∈ exchanges)
    (writes : writing.isWrite = true) :
    (∃ draw payload, demand = .errand (.issue draw payload)) ∨
      (∃ draw name password, demand = .logIn draw name password) ∨
      ∃ old payload, ⟨.take old, .ok (some payload)⟩ ∈ exchanges := by
  cases demand with
  | logIn draw name password => exact .inr (.inl ⟨draw, name, password, rfl⟩)
  | errand errand =>
      cases errand with
      | issue draw payload => exact .inl ⟨draw, payload, rfl⟩
      | refresh draw token =>
          obtain ⟨middle, begun⟩ := leads_mapped leads
          cases TokenService.leads_refresh begun with
          | begun => cases member
          | refused reply =>
              rw [List.mem_singleton.1 member] at writes
              cases writes
          | taken minting => exact .inr (.inr ⟨_, _, List.mem_cons_self⟩)
      | revoke token =>
          obtain ⟨middle, begun⟩ := leads_mapped leads
          rcases TokenService.leads_revoke begun with rfl | ⟨reply, rfl⟩
          · cases member
          · rw [List.mem_singleton.1 member] at writes
            cases writes

/-! ## What a returned pair is signed for -/

/-- An access token is signed for the payload that was written along with it. -/
def Signed (service : TokenService) (pair : TokenPair) (exchanges : List Exchange) : Prop :=
  ∃ now expiry draw payload, pair.access = service.signer.issue payload now expiry draw.identifier ∧
    ⟨service.writing draw payload, .ok ()⟩ ∈ exchanges

namespace Signed

open TokenService (Minted Refreshed LoggedIn)

variable {service : TokenService} {draw : Draw} {payload : Payload} {token : String}
  {exchange : Exchange} {exchanges : List Exchange} {pair : TokenPair}
  {result : Except TokenError TokenPair}

private theorem cons (signed : Signed service pair exchanges) :
    Signed service pair (exchange :: exchanges) := by
  obtain ⟨now, expiry, draw, payload, access, written⟩ := signed
  exact ⟨now, expiry, draw, payload, access, List.mem_cons_of_mem _ written⟩

private theorem of_minted (minted : Minted service draw payload exchanges result)
    (made : result = .ok pair) : Signed service pair exchanges := by
  cases minted with
  | @made now pair tokens =>
      cases made
      obtain ⟨-, expiry, access⟩ := TokenService.pair?_eq_some tokens
      exact ⟨now, expiry, draw, payload, access, List.mem_singleton_self _⟩
  | failed failure => cases made

private theorem of_refreshed (refreshed : Refreshed service draw token exchanges result)
    (made : result = .ok pair) : Signed service pair exchanges := by
  cases refreshed with
  | taken minted => exact (of_minted minted made).cons
  | unknown => cases made
  | failed failure => cases made

private theorem of_loggedIn {result : Except LoginError TokenPair}
    (loggedIn : LoggedIn service draw exchanges result) (made : result = .ok pair) :
    Signed service pair exchanges := by
  induction loggedIn with
  | elsewhere other later ih => exact (ih made).cons
  | opened minted =>
      cases made
      exact of_minted minted rfl
  | failed minted => cases made
  | refused error => cases made

end Signed

/-- Whoever is answered with a pair had a session written for the payload of the access token. -/
theorem Demand.signed {service : TokenService} {demand : Demand} {exchanges : List Exchange}
    {pair : TokenPair}
    (leads : Leads (demand.operation service) exchanges (.finish (.pair pair))) :
    Signed service pair exchanges := by
  cases demand with
  | logIn draw name password =>
      obtain ⟨result, ended, same⟩ := leads_mapped_finish leads
      cases result with
      | ok made =>
          cases same
          exact .of_loggedIn (TokenService.leads_logIn_finish ended) rfl
      | error error => cases same
  | errand errand =>
      cases errand with
      | issue draw payload =>
          obtain ⟨result, ended, same⟩ := leads_mapped_finish leads
          cases result with
          | ok made =>
              cases same
              exact .of_minted (TokenService.leads_issue_finish ended) rfl
          | error error => cases same
      | refresh draw token =>
          obtain ⟨result, ended, same⟩ := leads_mapped_finish leads
          cases result with
          | ok made =>
              cases same
              exact .of_refreshed (TokenService.leads_refresh_finish ended) rfl
          | error error => cases same
      | revoke token =>
          obtain ⟨result, ended, same⟩ := leads_mapped_finish leads
          cases result with
          | ok closed => cases same
          | error error => cases same

/-- The account that was found. -/
def Exchange.account? : Exchange → Option Account
  | ⟨.find .., .ok found⟩ => found
  | _ => none

/-- Nobody is found, and what is written is the payload of an account. -/
structure OnlyFor (account : Account) (exchanges : List Exchange) : Prop where
  /-- Nobody is found. -/
  nobody : ∀ exchange ∈ exchanges, exchange.account? = none
  /-- The payload of the account is written. -/
  payload : ∀ exchange ∈ exchanges, ∀ key payload lifetime,
    exchange.request = .set key payload lifetime →
      Payload.new? account.subject account.role = some payload

namespace OnlyFor

open TokenService

variable {service : TokenService} {draw : Draw} {account : Account} {exchange : Exchange}
  {exchanges : List Exchange} {payload : Payload}

private theorem nil : OnlyFor account [] := by
  constructor
  · intro exchange member
    cases member
  · intro exchange member
    cases member

private theorem cons (onlyFor : OnlyFor account exchanges) (nobody : exchange.account? = none)
    (other : exchange.isWrite = false) : OnlyFor account (exchange :: exchanges) := by
  constructor
  · intro asked member
    rcases List.mem_cons.1 member with rfl | later
    · exact nobody
    · exact onlyFor.nobody asked later
  · intro asked member key payload lifetime written
    exact onlyFor.payload asked (mem_of_write other member written) key payload lifetime written

private theorem minting (minting : Minting service draw payload exchanges)
    (identified : Payload.new? account.subject account.role = some payload) :
    OnlyFor account exchanges := by
  constructor
  · intro exchange member
    obtain ⟨reply, rfl⟩ := minting.eq_writing member
    rfl
  · intro exchange member key given lifetime written
    obtain ⟨reply, rfl⟩ := minting.eq_writing member
    obtain ⟨-, rfl, -⟩ := Request.set.inj written
    exact identified

end OnlyFor

namespace TokenService

variable {service : TokenService} {draw : Draw} {name password : String} {account : Account}
  {exchanges : List Exchange} {last : Operation (Except LoginError TokenPair)}

private theorem leads_checkAccount_onlyFor
    (leads : Leads (service.checkAccount draw name password account) exchanges last) :
    OnlyFor account exchanges := by
  rcases leads_ask leads with ⟨rfl, -⟩ | ⟨reply, later, rfl, remaining⟩
  · exact .nil
  · refine .cons ?_ rfl rfl
    cases reply with
    | false =>
        obtain rfl := leads_lastNote remaining
        exact .nil
    | true =>
        cases identified : Payload.new? account.subject account.role with
        | none =>
            rw [identified] at remaining
            obtain ⟨rfl, -⟩ := leads_finish remaining
            exact .nil
        | some payload =>
            rw [identified] at remaining
            exact .minting (leads_letIn_minting remaining) identified

/-- What is written in some exchanges is the payload of whoever was found in them. -/
structure Identified (exchanges : List Exchange) : Prop where
  /-- Nothing is written unless somebody was found. -/
  found : ∀ writing ∈ exchanges, writing.isWrite = true →
    ∃ finding ∈ exchanges, ∃ account, finding.account? = some account
  /-- What is written is the payload of the account. -/
  payload : ∀ finding ∈ exchanges, ∀ account, finding.account? = some account →
    ∀ writing ∈ exchanges, ∀ key payload lifetime, writing.request = .set key payload lifetime →
      Payload.new? account.subject account.role = some payload

private theorem identified_nil : Identified [] := by
  constructor
  · intro writing member
    cases member
  · intro finding member
    cases member

private theorem identified_of_found {exchange : Exchange} (found : exchange.account? = some account)
    (other : exchange.isWrite = false) (onlyFor : OnlyFor account exchanges) :
    Identified (exchange :: exchanges) := by
  constructor
  · intro writing member writes
    exact ⟨exchange, List.mem_cons_self, account, found⟩
  · intro finding findingMember somebody finds writing member key payload lifetime written
    have same : somebody = account := by
      rcases List.mem_cons.1 findingMember with rfl | later
      · exact Option.some.inj (finds.symm.trans found)
      · cases (onlyFor.nobody finding later).symm.trans finds
    rw [same]
    exact onlyFor.payload writing (mem_of_write other member written) key payload lifetime written

private theorem identified_of_missed {exchange : Exchange} (missed : exchange.account? = none)
    (other : exchange.isWrite = false) (identified : Identified exchanges) :
    Identified (exchange :: exchanges) := by
  constructor
  · intro writing member writes
    rcases List.mem_cons.1 member with rfl | later
    · cases other.symm.trans writes
    · obtain ⟨finding, findingMember, finds⟩ := identified.found writing later writes
      exact ⟨finding, List.mem_cons_of_mem _ findingMember, finds⟩
  · intro finding findingMember somebody finds writing member key payload lifetime written
    rcases List.mem_cons.1 findingMember with rfl | findsLater
    · cases missed.symm.trans finds
    · exact identified.payload finding findsLater somebody finds writing
        (mem_of_write other member written) key payload lifetime written

private theorem leads_rejectUnknown_identified
    (leads : Leads (rejectUnknown name password) exchanges last) : Identified exchanges := by
  rcases leads_ask leads with ⟨rfl, -⟩ | ⟨reply, later, rfl, remaining⟩
  · exact identified_nil
  · obtain rfl := leads_lastNote remaining
    exact identified_of_missed rfl rfl identified_nil

/-- A login writes nothing but the payload of the account that it found. -/
theorem leads_logIn_identified (leads : Leads (service.logIn draw name password) exchanges last) :
    Identified exchanges := by
  rcases leads_ask leads with ⟨rfl, -⟩ | ⟨reply, later, rfl, remaining⟩
  · exact identified_nil
  · rcases reply with outage | _ | somebody
    · obtain ⟨rfl, -⟩ := leads_finish remaining
      exact identified_of_missed rfl rfl identified_nil
    · apply identified_of_missed rfl rfl
      rcases leads_ask remaining with ⟨rfl, -⟩ | ⟨answer, rest, rfl, onward⟩
      · exact identified_nil
      · rcases answer with outage | _ | somebody
        · obtain ⟨rfl, -⟩ := leads_finish onward
          exact identified_of_missed rfl rfl identified_nil
        · exact identified_of_missed rfl rfl (leads_rejectUnknown_identified onward)
        · exact identified_of_found rfl rfl (leads_checkAccount_onlyFor onward)
    · exact identified_of_found rfl rfl (leads_checkAccount_onlyFor remaining)

end TokenService

end Bearer
