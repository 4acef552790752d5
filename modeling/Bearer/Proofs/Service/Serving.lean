import Bearer.Proofs.Service.Ledger
import Bearer.Proofs.Service.Pool

/-!
# Demands that are met side by side

The operations of a pool may be those of some demands. Then each of them writes at most once, under
the key of its own draw, and `writes_le_one` follows for draws that are apart. What stands behind a
pair that a refresh returned is `refreshed_of_returned`.
-/

namespace Bearer.Pool

open Session (Rows)
open TokenService (refreshToken Refreshed)

variable {σ : Type} [Session.Store σ]

/-- The pool in which demands are to be met. -/
def serving (service : TokenService) (now : Instant) (store : σ) (demands : List Demand) : Pool σ :=
  start now store (demands.map (Demand.operation service))

/-- Whether an operation is to exchange a token. -/
def Presents (demands : List Demand) (token : String) (task : Nat) : Prop :=
  ∃ draw, demands[task]? = some (.errand (.refresh draw token))

/-- Whether an operation would write under a key. -/
def Draws (service : TokenService) (demands : List Demand) (task : Nat) (key : String) : Prop :=
  ∃ demand draw, demands[task]? = some demand ∧ demand.draw? = some draw ∧
    key = service.key (refreshToken draw.refresh)

/-- Whether the drawn tokens have different keys. -/
def DrawsApart (service : TokenService) (demands : List Demand) : Prop :=
  ∀ left right key, Draws service demands left key → Draws service demands right key → left = right

variable {service : TokenService} {demands : List Demand} {pool : Pool σ} {task : Nat}
  {happening other : Happening σ} {key : String} {payload : Payload}

/-- How far the pool of some demands came. -/
abbrev Served (service : TokenService) (demands : List Demand) (pool : Pool σ) : Prop :=
  Tracked (demands.map (Demand.operation service)) pool

private theorem operation_of_demand {demand : Demand} (demanded : demands[task]? = some demand) :
    (demands.map (Demand.operation service))[task]? = some (demand.operation service) := by
  rw [List.getElem?_map, demanded, Option.map_some]

theorem leads_of_demand (served : Served service demands pool) {demand : Demand}
    (demanded : demands[task]? = some demand) :
    ∃ rest, (demand.operation service).Leads (pool.trace task) rest := by
  obtain ⟨phase, -, reached⟩ := served.phases task _ (operation_of_demand demanded)
  exact reached.leads

/-- What was heard before an answer leads from the demand to the answer. -/
theorem leads_of_returned (served : Served service demands pool) {demand : Demand} {answer : Answer}
    (demanded : demands[task]? = some demand)
    (returned : pool.phases[task]? = some (.returned answer)) :
    (demand.operation service).Leads (pool.trace task) (.finish answer) := by
  obtain ⟨phase, found, reached⟩ := served.phases task _ (operation_of_demand demanded)
  cases found.symm.trans returned
  cases reached with
  | returned leads => exact leads

theorem demand_of_mem (served : Served service demands pool) (member : happening ∈ pool.history) :
    ∃ demand, demands[happening.task]? = some demand := by
  have within := (served.real happening member).1
  rw [List.length_map] at within
  exact ⟨_, List.getElem?_eq_getElem within⟩

private theorem writesOnce_of_mem (served : Served service demands pool)
    (member : happening ∈ pool.history) :
    ∃ demand, demands[happening.task]? = some demand ∧
      WritesOnce service demand.draw? (pool.trace happening.task) := by
  obtain ⟨demand, demanded⟩ := demand_of_mem served member
  obtain ⟨rest, leads⟩ := leads_of_demand served demanded
  exact ⟨demand, demanded, demand.leads_writesOnce leads⟩

theorem draws_of_request {lifetime : Span} (served : Served service demands pool)
    (member : happening ∈ pool.history)
    (asked : happening.heard.request = .set key payload lifetime) :
    Draws service demands happening.task key := by
  obtain ⟨demand, demanded, writesOnce⟩ := writesOnce_of_mem served member
  obtain ⟨draw, drawn, same⟩ := writesOnce.key happening.heard
    (mem_trace.2 ⟨happening, member, rfl, rfl⟩) key payload lifetime asked
  exact ⟨demand, draw, demanded, drawn, same⟩

theorem eq_of_isWrite (served : Served service demands pool) (member : happening ∈ pool.history)
    (otherMember : other ∈ pool.history) (together : other.task = happening.task)
    (writes : happening.heard.isWrite = true) (otherWrites : other.heard.isWrite = true) :
    happening = other := by
  obtain ⟨demand, -, writesOnce⟩ := writesOnce_of_mem served member
  have once := writesOnce.once
  rw [trace, List.countP_map] at once
  exact eq_of_countP_le_one once (List.mem_filter.2 ⟨member, decide_eq_true rfl⟩) writes
    (List.mem_filter.2 ⟨otherMember, decide_eq_true together⟩) otherWrites

theorem isWrite_of_writes (served : Served service demands pool)
    (member : happening ∈ pool.history) (writes : happening.writes key = true) :
    happening.heard.isWrite = true := by
  obtain ⟨payload, written⟩ := Happening.writes_eq_true_iff.1 writes
  obtain ⟨lifetime, asked⟩ :=
    Happening.request_of_written? (served.real happening member).2 written
  rw [Exchange.isWrite, asked]

/-- What stands behind the answer to a refresh. -/
theorem refreshed_of_returned {draw : Draw} {token : String} {answer : Answer}
    (served : Served service demands pool)
    (demanded : demands[task]? = some (.errand (.refresh draw token)))
    (returned : pool.phases[task]? = some (.returned answer)) :
    ∃ result, answer = .ofPair result ∧ Refreshed service draw token (pool.trace task) result := by
  obtain ⟨result, leads, same⟩ :=
    Operation.leads_mapped_finish (leads_of_returned served demanded returned)
  exact ⟨result, same, TokenService.leads_refresh_finish leads⟩

theorem draws_pair {first second : Demand} {firstDraw secondDraw : Draw}
    (firstDraws : first.draw? = some firstDraw) (secondDraws : second.draw? = some secondDraw)
    (draws : Draws service [first, second] task key) :
    task = 0 ∧ key = service.key (refreshToken firstDraw.refresh) ∨
      task = 1 ∧ key = service.key (refreshToken secondDraw.refresh) := by
  obtain ⟨demand, draw, demanded, drawn, rfl⟩ := draws
  rcases task with _ | _ | task
  · cases demanded
    cases firstDraws.symm.trans drawn
    exact .inl ⟨rfl, rfl⟩
  · cases demanded
    cases secondDraws.symm.trans drawn
    exact .inr ⟨rfl, rfl⟩
  · cases demanded

theorem drawsApart_pair {first second : Demand} {firstDraw secondDraw : Draw}
    (firstDraws : first.draw? = some firstDraw) (secondDraws : second.draw? = some secondDraw)
    (different : service.key (refreshToken firstDraw.refresh) ≠
      service.key (refreshToken secondDraw.refresh)) : DrawsApart service [first, second] := by
  intro left right key leftDraws rightDraws
  rcases draws_pair firstDraws secondDraws leftDraws with ⟨rfl, rfl⟩ | ⟨rfl, rfl⟩ <;>
    rcases draws_pair firstDraws secondDraws rightDraws with ⟨rfl, same⟩ | ⟨rfl, same⟩
  · rfl
  · exact absurd same different
  · exact absurd same.symm different
  · rfl

end Bearer.Pool
