import Bearer.Proofs.Service.Serving

/-!
# Where identities come from

Others may write to the server under a pool and put any text under any key. Whatever an operation
then passes to the store, and whatever the access token of a pair says, names somebody: it comes
from the payload of a caller, from an account that was found, or from a legible value of the server.
`Source` lists the origins, and `whole_of_runs` says that there are no others.
-/

namespace Bearer.Pool

open Payload (Legible Names)
open Redis (Link)
open Session (Rows)

/-- The pool in which somebody else put a text under a key of the server. -/
def overwritten (pool : Pool Link) (key value : String) : Pool Link :=
  { pool with store := { pool.store with server := pool.store.server.insert key value } }

/-- What may happen next in a pool over a server that others write to. -/
inductive TamperedStep : Pool Link → Pool Link → Prop where
  /-- Something happens in the pool. -/
  | step {pool next : Pool Link} (step : Step pool next) : TamperedStep pool next
  /-- Somebody else writes to the server. -/
  | overwrite (pool : Pool Link) (key value : String) :
      TamperedStep pool (pool.overwritten key value)

/-- A pool is reached from another one over a server that others write to. -/
def TamperedRuns : Pool Link → Pool Link → Prop :=
  Relation.ReflTransGen TamperedStep

/-- Where the subject and the role of a session come from. -/
inductive Source (service : TokenService) (demands : List Demand) (pool : Pool Link) (task : Nat) :
    String → Role → Prop where
  /-- The caller has a payload with them. -/
  | caller {draw : Draw} {payload : Payload}
      (demanded : demands[task]? = some (.errand (.issue draw payload))) :
      Source service demands pool task payload.subject payload.role
  /-- They are read from what the server had under the key of the presented token. -/
  | stored {draw : Draw} {token value subject : String} {role : Role} {happening : Happening Link}
      (demanded : demands[task]? = some (.errand (.refresh draw token)))
      (member : happening ∈ pool.history) (own : happening.task = task)
      (asked : happening.heard.request = .take (service.key token))
      (held : happening.store.server.find? (service.key token) = some value)
      (legible : Legible value subject role) : Source service demands pool task subject role
  /-- The account that was found has them. -/
  | account {draw : Draw} {name password : String} {finding : Exchange} {account : Account}
      (demanded : demands[task]? = some (.logIn draw name password))
      (heard : finding ∈ pool.trace task) (found : finding.account? = some account) :
      Source service demands pool task account.subject account.role

/-- What operations hand on names somebody and comes from somewhere. -/
structure Whole (service : TokenService) (demands : List Demand) (pool : Pool Link) : Prop where
  /-- What is passed to the store names somebody, and its text is legible. -/
  written : ∀ happening ∈ pool.history, ∀ key payload lifetime,
    happening.heard.request = .set key payload lifetime →
      Names payload.subject ∧ Legible (String.ofList payload.encode) payload.subject payload.role ∧
        Source service demands pool happening.task payload.subject payload.role
  /-- What the access token of a pair says names somebody. -/
  returned : ∀ task pair, pool.phases[task]? = some (.returned (.pair pair)) →
    ∃ claims, pair.access = service.signer.sealed claims ∧ Names claims.subject ∧
      Source service demands pool task claims.subject claims.role

variable {service : TokenService} {demands : List Demand} {pool next : Pool Link} {task : Nat}
  {happening writing : Happening Link} {key : String} {payload : Payload} {lifetime : Span}

private theorem served_tampered (served : Served service demands pool)
    (step : TamperedStep pool next) : Served service demands next := by
  cases step with
  | step step => exact tracked_step served step
  | overwrite key value => exact ⟨served.length, served.phases, served.real⟩

theorem served_of_tampered {now : Instant} {link : Link}
    (runs : TamperedRuns (serving service now link demands) pool) :
    Served service demands pool := by
  induction runs with
  | refl => exact tracked_start
  | tail _ step ih => exact served_tampered ih step

private theorem legible_of_take (real : happening.Real)
    (heard : happening.heard = ⟨.take key, .ok (some payload)⟩) :
    ∃ value, happening.store.server.find? key = some value ∧
      Legible value payload.subject payload.role := by
  have row : Rows.row? happening.store key = some (some payload) :=
    Rows.row_of_take (Happening.take_of_heard real heard)
  obtain ⟨value, held, decoded⟩ := Option.map_eq_some_iff.1 row
  refine ⟨value, held, Payload.legible_iff.2 ?_⟩
  cases read : Payload.decode (Text.bytes value) with
  | error fault =>
      rw [read] at decoded
      cases decoded
  | ok found =>
      rw [read] at decoded
      cases decoded
      rfl

private theorem exists_taking {draw : Draw} {token : String}
    (refreshing : TokenService.Refreshing service draw token (pool.trace task))
    (heard : writing.heard ∈ pool.trace task)
    (asked : writing.heard.request = .set key payload lifetime) :
    ∃ taking ∈ pool.history, taking.task = task ∧
      taking.heard = ⟨.take (service.key token), .ok (some payload)⟩ := by
  generalize traced : pool.trace task = exchanges at refreshing heard
  cases refreshing with
  | begun => cases heard
  | refused reply =>
      rw [List.mem_singleton.1 heard] at asked
      cases asked
  | @taken taken later minting =>
      have same : taken = payload := by
        rcases List.mem_cons.1 heard with first | rest
        · rw [first] at asked
          cases asked
        · obtain ⟨reply, wrote⟩ := minting.eq_writing rest
          rw [wrote] at asked
          exact (Request.set.inj asked).2.1
      subst same
      exact mem_trace.1 (traced ▸ List.mem_cons_self)

/-- Whatever is to be written comes from somewhere. -/
theorem source_of_write (served : Served service demands pool)
    (member : writing ∈ pool.history)
    (asked : writing.heard.request = .set key payload lifetime) :
    Source service demands pool writing.task payload.subject payload.role := by
  obtain ⟨demand, demanded⟩ := demand_of_mem served member
  obtain ⟨rest, leads⟩ := leads_of_demand served demanded
  have heard : writing.heard ∈ pool.trace writing.task := mem_trace.2 ⟨writing, member, rfl, rfl⟩
  cases demand with
  | logIn draw name password =>
      obtain ⟨middle, begun⟩ := Operation.leads_mapped leads
      have identified := TokenService.leads_logIn_identified begun
      obtain ⟨finding, findingHeard, account, found⟩ := identified.found writing.heard heard
        (by rw [Exchange.isWrite, asked])
      have its := identified.payload finding findingHeard account found writing.heard heard key
        payload lifetime asked
      obtain ⟨subject, role⟩ := Payload.new?_eq_some_iff.1 its
      rw [subject, role]
      exact .account demanded findingHeard found
  | errand errand =>
      cases errand with
      | issue draw given =>
          obtain ⟨middle, begun⟩ := Operation.leads_mapped leads
          obtain ⟨reply, same⟩ := (TokenService.leads_issue begun).eq_writing heard
          rw [same] at asked
          obtain ⟨-, rfl, -⟩ := Request.set.inj asked
          exact .caller demanded
      | refresh draw token =>
          obtain ⟨middle, begun⟩ := Operation.leads_mapped leads
          obtain ⟨taking, takingMember, own, told⟩ :=
            exists_taking (TokenService.leads_refresh begun) heard asked
          obtain ⟨value, held, legible⟩ :=
            legible_of_take (served.real taking takingMember).2 told
          have toTake : taking.heard.request = .take (service.key token) := by rw [told]
          exact .stored demanded takingMember own toTake held legible
      | revoke token =>
          obtain ⟨middle, begun⟩ := Operation.leads_mapped leads
          rcases TokenService.leads_revoke begun with silent | ⟨reply, only⟩
          · rw [silent] at heard
            cases heard
          · rw [only] at heard
            rw [List.mem_singleton.1 heard] at asked
            cases asked

/-- Whatever others write to the server, every identity that is handed on is whole. -/
theorem whole_of_runs {now : Instant} {link : Link}
    (runs : TamperedRuns (serving service now link demands) pool) : Whole service demands pool := by
  have served := served_of_tampered runs
  constructor
  · intro happening member key payload lifetime asked
    exact ⟨payload.names_subject, payload.legible_encode, source_of_write served member asked⟩
  · intro task pair returned
    have begun := (List.getElem?_eq_some_iff.1 returned).1
    rw [served.length, List.length_map] at begun
    obtain ⟨now, expiry, draw, payload, access, heard⟩ :=
      Demand.signed (leads_of_returned served (List.getElem?_eq_getElem begun) returned)
    obtain ⟨writing, member, rfl, told⟩ := mem_trace.1 heard
    have asked : writing.heard.request = service.writing draw payload := by rw [told]
    exact ⟨_, access, payload.names_subject, source_of_write served member asked⟩

end Bearer.Pool
