import Bearer.Proofs.Service.InMemory
import Bearer.Proofs.Service.Serving

/-!
# A refresh token is good for one pair

Any number of operations may present the same refresh token at once. Where the key of the token had
a row or was written once in all, the store gives its row away once, so that one operation at most
returns a pair. If the session was live when the token was first presented and nothing went wrong,
one operation returns a pair and the others find no session. Both is `refresh_single_use`.
-/

namespace Bearer.Pool

open Session (Rows)
open TokenService (refreshToken Refreshed Minted sameBytes smallKey smallKey_ne)

variable {σ : Type} [Session.Store σ]

/-- Whether an operation returned a pair. -/
def Paired (pool : Pool σ) (task : Nat) : Prop :=
  ∃ pair, pool.phases[task]? = some (.returned (.pair pair))

/-- The session of a token was live when the token was first presented, whoever presented it came
to an end, and no request to the store failed but for a key in use. -/
structure Undisturbed (service : TokenService) (demands : List Demand) (token : String)
    (pool : Pool σ) : Prop where
  /-- The token is presented. -/
  presented : ∃ task, Presents demands token task
  /-- Whoever presents it returns. -/
  returned : ∀ task, Presents demands token task →
    ∃ answer, pool.phases[task]? = some (.returned answer)
  /-- The session is live when the token is first presented to the store. -/
  live : ∀ earlier first later, pool.history = earlier ++ first :: later →
    Presents demands token first.task →
      (∀ other ∈ earlier, ¬ Presents demands token other.task) →
        ∃ payload, (Session.Store.get first.store first.now (service.key token)).1 =
          .ok (some payload)
  /-- The store does what it is asked for, unless a key is in use. -/
  willing : ∀ happening ∈ pool.history, TokenService.asksElsewhere happening.heard.request = false →
    Refusal happening.heard.request happening.heard.reply →
      ∃ key, happening.collided? = some key

variable {service : TokenService} {demands : List Demand} {origin : σ} {now : Instant}
  {pool : Pool σ} {token key : String} {task left right : Nat} {happening : Happening σ}

private theorem takes_of_heard (served : Served service demands pool) {payload : Payload}
    (heard : ⟨.take key, .ok (some payload)⟩ ∈ pool.trace task) :
    ∃ happening ∈ pool.history, happening.task = task ∧ happening.takes key = true := by
  obtain ⟨happening, member, own, same⟩ := mem_trace.1 heard
  have given : happening.heard.taken? = some (key, payload) := by
    rw [same]
    rfl
  exact ⟨happening, member, own, Happening.takes_eq_true_iff.2
    ⟨payload, Happening.taken?_of_heard (served.real happening member).2 given⟩⟩

private theorem takes_of_paired (served : Served service demands pool)
    (presents : Presents demands token task) (paired : pool.Paired task) :
    ∃ happening ∈ pool.history, happening.task = task ∧
      happening.takes (service.key token) = true := by
  obtain ⟨draw, demanded⟩ := presents
  obtain ⟨pair, returned⟩ := paired
  obtain ⟨result, same, refreshed⟩ := refreshed_of_returned served demanded returned
  generalize traced : pool.trace task = exchanges at refreshed
  cases refreshed with
  | @taken payload exchanges result minted =>
      have heard : ⟨.take (service.key token), .ok (some payload)⟩ ∈ pool.trace task := by
        rw [traced]
        exact List.mem_cons_self
      exact takes_of_heard served heard
  | unknown => cases same
  | failed failure => cases same

private theorem exists_presented (served : Served service demands pool)
    (undisturbed : Undisturbed service demands token pool) :
    ∃ happening ∈ pool.history, Presents demands token happening.task := by
  obtain ⟨task, draw, demanded⟩ := undisturbed.presented
  obtain ⟨answer, returned⟩ := undisturbed.returned task ⟨draw, demanded⟩
  obtain ⟨result, -, refreshed⟩ := refreshed_of_returned served demanded returned
  have asked : ∃ exchange, exchange ∈ pool.trace task := by
    generalize pool.trace task = exchanges at refreshed
    cases refreshed with
    | taken minted => exact ⟨_, List.mem_cons_self⟩
    | unknown => exact ⟨_, List.mem_cons_self⟩
    | failed failure => exact ⟨_, List.mem_cons_self⟩
  obtain ⟨exchange, heard⟩ := asked
  obtain ⟨happening, member, rfl, -⟩ := mem_trace.1 heard
  exact ⟨happening, member, draw, demanded⟩

private theorem exists_first {α : Type} (holds : α → Prop) {list : List α}
    (some : ∃ member ∈ list, holds member) :
    ∃ earlier first later, list = earlier ++ first :: later ∧ holds first ∧
      ∀ other ∈ earlier, ¬ holds other := by
  classical
  obtain ⟨member, listed, held⟩ := some
  cases found : list.find? fun member => holds member with
  | none => exact absurd (decide_eq_true held) (List.find?_eq_none.1 found member listed)
  | some first =>
      obtain ⟨holding, earlier, later, same, before⟩ := List.find?_eq_some_iff_append.1 found
      refine ⟨earlier, first, later, same, of_decide_eq_true holding, fun other member held => ?_⟩
      simpa [held] using before other member

omit [Session.Store σ] in
private theorem trace_of_first {earlier later : List (Happening σ)} {first : Happening σ}
    (split : pool.history = earlier ++ first :: later)
    (before : ∀ other ∈ earlier, other.task ≠ first.task) :
    ∃ rest, pool.trace first.task = first.heard :: rest := by
  have none : earlier.filter (fun happening => happening.task = first.task) = [] := by
    apply List.filter_eq_nil_iff.2
    intro other member together
    exact before other member (of_decide_eq_true together)
  have kept : (first :: later).filter (fun happening => happening.task = first.task) =
      first :: later.filter (fun happening => happening.task = first.task) :=
    List.filter_cons_of_pos (decide_eq_true rfl)
  rw [trace, split, List.filter_append, none, kept]
  exact ⟨_, rfl⟩

section

variable [Rows σ]

/-- The drawn tokens have different keys, and none of them had a row from the beginning. -/
structure Fresh (service : TokenService) (demands : List Demand) (origin : σ) : Prop where
  /-- The keys are different. -/
  apart : DrawsApart service demands
  /-- They had no row. -/
  unused : ∀ task key, Draws service demands task key → Rows.row? origin key = none

variable (served : Served service demands pool) (balanced : Balanced origin pool)

include served balanced

private theorem collided?_eq_none (fresh : Fresh service demands origin)
    (member : happening ∈ pool.history) : happening.collided? = none := by
  by_contra used
  obtain ⟨key, collided⟩ := Option.ne_none_iff_exists'.1 used
  obtain ⟨⟨payload, lifetime, asked⟩, unwritten⟩ :=
    Happening.request_of_collided? (served.real happening member).2 collided
  have drawn := draws_of_request served member asked
  rcases balanced.collided happening member key collided with
    ⟨row, held⟩ | ⟨earlier, earlierMember, writes⟩
  · cases held.symm.trans (fresh.unused _ key drawn)
  · obtain ⟨given, written⟩ := Happening.writes_eq_true_iff.1 writes
    obtain ⟨lifetime, earlierAsked⟩ :=
      Happening.request_of_written? (served.real earlier earlierMember).2 written
    have together := fresh.apart _ _ key (draws_of_request served earlierMember earlierAsked) drawn
    have same := eq_of_isWrite served member earlierMember together
      (by rw [Exchange.isWrite, asked]) (by rw [Exchange.isWrite, earlierAsked])
    rw [same, written] at unwritten
    cases unwritten

private theorem accepted_of_heard {exchange : Exchange} (fresh : Fresh service demands origin)
    (undisturbed : Undisturbed service demands token pool) (heard : exchange ∈ pool.trace task)
    (own : TokenService.asksElsewhere exchange.request = false) :
    ¬ Refusal exchange.request exchange.reply := by
  intro refused
  obtain ⟨happening, member, -, rfl⟩ := mem_trace.1 heard
  obtain ⟨key, collided⟩ := undisturbed.willing happening member own refused
  cases (collided?_eq_none served balanced fresh member).symm.trans collided

private theorem ok_of_minted (task : Nat) {draw : Draw} {payload : Payload}
    {exchanges : List Exchange} {result : Except TokenError TokenPair}
    (fresh : Fresh service demands origin) (undisturbed : Undisturbed service demands token pool)
    (minted : Minted service draw payload exchanges result)
    (heard : ∀ exchange ∈ exchanges, exchange ∈ pool.trace task) : ∃ pair, result = .ok pair := by
  cases minted with
  | @made now pair tokens => exact ⟨pair, rfl⟩
  | failed failure =>
      have written := heard _ (List.mem_singleton_self _)
      exact absurd ⟨failure, rfl⟩ (accepted_of_heard served balanced fresh undisturbed written rfl)

private theorem paired_of_first {earlier later : List (Happening σ)} {first : Happening σ}
    (fresh : Fresh service demands origin) (undisturbed : Undisturbed service demands token pool)
    (split : pool.history = earlier ++ first :: later)
    (presents : Presents demands token first.task)
    (before : ∀ other ∈ earlier, ¬ Presents demands token other.task) :
    first.takes (service.key token) = true ∧ pool.Paired first.task := by
  obtain ⟨payload, got⟩ := undisturbed.live earlier first later split presents before
  have took := Rows.take_of_get got
  obtain ⟨answer, returned⟩ := undisturbed.returned first.task presents
  obtain ⟨draw, demanded⟩ := presents
  have member : first ∈ pool.history := by
    rw [split]
    exact List.mem_append_right _ List.mem_cons_self
  have real := (served.real first member).2
  obtain ⟨rest, traced⟩ := trace_of_first split fun other member together =>
    before other member (together ▸ ⟨draw, demanded⟩)
  obtain ⟨result, rfl, refreshed⟩ := refreshed_of_returned served demanded returned
  rw [traced] at refreshed
  generalize heard : first.heard = exchange at refreshed traced
  cases refreshed with
  | @taken given exchanges result minted =>
      obtain ⟨pair, rfl⟩ := ok_of_minted served balanced first.task fresh undisturbed
        minted fun exchange later => by
          rw [traced]
          exact List.mem_cons_of_mem _ later
      have told : first.heard.taken? = some (service.key token, given) := by
        rw [heard]
        rfl
      exact ⟨Happening.takes_eq_true_iff.2 ⟨given, Happening.taken?_of_heard real told⟩,
        pair, returned⟩
  | unknown => cases (Happening.take_of_heard real heard).symm.trans took
  | failed failure =>
      have refused : ⟨.take (service.key token), .error failure⟩ ∈ pool.trace first.task := by
        rw [traced]
        exact List.mem_cons_self
      exact absurd ⟨failure, rfl⟩ (accepted_of_heard served balanced fresh undisturbed refused rfl)

private theorem paired_unique
    (once : rowCount origin (service.key token) +
      pool.history.countP (Happening.writes (service.key token)) ≤ 1)
    (member : happening ∈ pool.history) (takes : happening.takes (service.key token) = true)
    (presents : Presents demands token task) (paired : pool.Paired task) :
    happening.task = task := by
  obtain ⟨second, secondMember, rfl, secondTakes⟩ := takes_of_paired served presents paired
  rw [balanced.eq_of_takes once member takes secondMember secondTakes]

private theorem missed_of_unpaired (fresh : Fresh service demands origin)
    (undisturbed : Undisturbed service demands token pool) (presents : Presents demands token task)
    (unpaired : ¬ pool.Paired task) :
    pool.phases[task]? = some (.returned (.failed .sessionNotFound)) := by
  obtain ⟨answer, returned⟩ := undisturbed.returned task presents
  obtain ⟨draw, demanded⟩ := presents
  obtain ⟨result, rfl, refreshed⟩ := refreshed_of_returned served demanded returned
  generalize traced : pool.trace task = exchanges at refreshed
  cases refreshed with
  | @taken given exchanges result minted =>
      obtain ⟨pair, rfl⟩ := ok_of_minted served balanced task fresh undisturbed minted
        fun exchange later => by
          rw [traced]
          exact List.mem_cons_of_mem _ later
      exact absurd ⟨pair, returned⟩ unpaired
  | unknown => exact returned
  | failed failure =>
      have refused : ⟨.take (service.key token), .error failure⟩ ∈ pool.trace task := by
        rw [traced]
        exact List.mem_cons_self
      exact absurd ⟨failure, rfl⟩ (accepted_of_heard served balanced fresh undisturbed refused rfl)

end

/-- A token whose key had a row or was written once in all is good for one pair at most; and for
exactly one, if its session was live and nothing disturbed the operations that presented it. -/
theorem refresh_single_use [Rows σ] (runs : Runs (serving service now origin demands) pool)
    (once : rowCount origin (service.key token) +
      pool.history.countP (Happening.writes (service.key token)) ≤ 1) :
    (∀ left right, Presents demands token left → Presents demands token right →
      pool.Paired left → pool.Paired right → left = right) ∧
    (Fresh service demands origin → Undisturbed service demands token pool →
      ∃ winner, Presents demands token winner ∧ pool.Paired winner ∧
        ∀ other, Presents demands token other → other ≠ winner →
          pool.phases[other]? = some (.returned (.failed .sessionNotFound))) := by
  have served : Served service demands pool := tracked_of_runs runs
  have balanced : Balanced origin pool := balanced_of_runs runs
  constructor
  · intro left right leftPresents rightPresents leftPaired rightPaired
    obtain ⟨first, member, rfl, takes⟩ := takes_of_paired served leftPresents leftPaired
    exact paired_unique served balanced once member takes rightPresents rightPaired
  · intro fresh undisturbed
    obtain ⟨happening, member, presents⟩ := exists_presented served undisturbed
    obtain ⟨earlier, first, later, split, firstPresents, before⟩ :=
      exists_first (fun happening => Presents demands token happening.task)
        ⟨happening, member, presents⟩
    obtain ⟨takes, paired⟩ :=
      paired_of_first served balanced fresh undisturbed split firstPresents before
    have firstMember : first ∈ pool.history := by
      rw [split]
      exact List.mem_append_right _ List.mem_cons_self
    refine ⟨first.task, firstPresents, paired, fun other otherPresents different => ?_⟩
    apply missed_of_unpaired served balanced fresh undisturbed otherPresents
    intro otherPaired
    exact different
      (paired_unique served balanced once firstMember takes otherPresents otherPaired).symm

/-- What two callers with the same token ask, the first of whom gets the row. -/
def raceHistory (service : TokenService) (token : String) (payload : Payload) (pair : TokenPair)
    (now : Instant) (store taken left : σ) : List (Happening σ) :=
  [.done 0 now store ⟨.take (service.key token), .ok (some payload)⟩,
    .done 1 now taken ⟨.take (service.key token), .ok none⟩,
    .done 0 now left ⟨.set (service.key pair.refresh) payload service.refreshLifetime, .ok ()⟩]

private theorem runs_race [Rows σ] {first second : Draw} {payload : Payload} {pair : TokenPair}
    {store taken left full : σ} (made : service.pair? first payload now = some pair)
    (takes : (Request.take (service.key token)).served .deserted now store =
      (some (.ok (some payload)), taken))
    (misses : (Request.take (service.key token)).served .deserted now taken =
      (some (.ok none), left))
    (sets : (Request.set (service.key pair.refresh) payload service.refreshLifetime).served
      .deserted now left = (some (.ok ()), full)) :
    Runs (serving service now store
        [.errand (.refresh first token), .errand (.refresh second token)])
      ⟨now, full, [.returned (.pair pair), .returned (.failed .sessionNotFound)],
        raceHistory service token payload pair now store taken left⟩ := by
  obtain ⟨next, begun, -, goesOn⟩ := Demand.operation_refresh service first token
  obtain ⟨other, otherBegun, ends, -⟩ := Demand.operation_refresh service second token
  obtain ⟨minting, mints, written, writes, closes⟩ := TokenService.mapped_mint made
  have clocked : Phase.Moves now (.clock minting) (.running (.ask
      (.set (service.key pair.refresh) payload service.refreshLifetime) written)) :=
    writes ▸ .clock minting
  simp only [serving, start, List.map_cons, List.map_nil, begun, otherBegun]
  refine .head (.ask 0 rfl (.served .deserted takes)) ?_
  refine .head (.ask 1 rfl (.served .deserted misses)) ?_
  rw [goesOn, mints, ends]
  refine .head (.move 0 rfl clocked) ?_
  refine .head (.ask 0 rfl (.served .deserted sets)) ?_
  rw [closes]
  refine .head (.move 0 rfl (.finish _)) ?_
  refine .head (.move 1 rfl (.note _ _)) ?_
  exact .head (.move 1 rfl (.finish _)) .refl

omit [Session.Store σ] in
private theorem countP_race {payload : Payload} {pair : TokenPair} {store taken left : σ}
    (different : service.key pair.refresh ≠ key) :
    (raceHistory service token payload pair now store taken left).countP
      (Happening.writes key) = 0 := by
  apply List.countP_eq_zero.2
  intro happening member writes
  obtain ⟨given, written⟩ := Happening.writes_eq_true_iff.1 writes
  simp only [raceHistory, List.mem_cons, List.not_mem_nil, or_false] at member
  rcases member with rfl | rfl | rfl
  · cases written
  · cases written
  · obtain ⟨same, -⟩ := Prod.mk.inj (Option.some.inj written)
    exact different same

private theorem undisturbed_race {first second : Draw} {payload : Payload} {pair : TokenPair}
    {store taken left full : σ}
    (live : (Session.Store.get store now (service.key token)).1 = .ok (some payload)) :
    Undisturbed service [.errand (.refresh first token), .errand (.refresh second token)] token
      ⟨now, full, [.returned (.pair pair), .returned (.failed .sessionNotFound)],
        raceHistory service token payload pair now store taken left⟩ := by
  refine ⟨⟨0, first, rfl⟩, ?_, ?_, ?_⟩
  · rintro (_ | _ | task) ⟨draw, demanded⟩
    · exact ⟨_, rfl⟩
    · exact ⟨_, rfl⟩
    · cases demanded
  · intro earlier happening later split presents before
    cases earlier with
    | nil =>
        obtain ⟨rfl, -⟩ := List.cons.inj split
        exact ⟨payload, live⟩
    | cons other earlier =>
        obtain ⟨rfl, -⟩ := List.cons.inj split
        exact absurd ⟨first, rfl⟩ (before _ List.mem_cons_self)
  · intro happening member own refused
    simp only [raceHistory, List.mem_cons, List.not_mem_nil, or_false] at member
    rcases member with rfl | rfl | rfl <;>
    · obtain ⟨failure, failed⟩ := refused
      cases failed

/-- A store with the session of one token. -/
def raced : Session.Memory :=
  ⟨Table.empty.insert (smallKey 1) ⟨.small, ⟨1, by decide, by decide⟩⟩⟩

/-- Two callers who present that token. -/
def racers : List Demand :=
  [.errand (.refresh (sameBytes 2) (refreshToken (sameBytes 1).refresh)),
    .errand (.refresh (sameBytes 3) (refreshToken (sameBytes 1).refresh))]

private theorem live?_raced : raced.live? .epoch (smallKey 1) =
    some ⟨.small, ⟨1, by decide, by decide⟩⟩ := by
  rw [Session.Memory.live?, raced, Table.find?_insert, if_pos rfl]
  rfl

private theorem find?_raced {key : String} (other : key ≠ smallKey 1) :
    raced.table.find? key = none := by
  rw [raced, Table.find?_insert, if_neg other, Table.find?_empty]

private theorem fresh_racers : Fresh .small racers raced := by
  refine ⟨drawsApart_pair rfl rfl ?_, ?_⟩
  · exact smallKey_ne 2 3 (by decide) (by decide) (by decide)
  · intro task key draws
    have different : key ≠ smallKey 1 := by
      rcases draws_pair rfl rfl draws with ⟨-, rfl⟩ | ⟨-, rfl⟩
      · exact smallKey_ne 2 1 (by decide) (by decide) (by decide)
      · exact smallKey_ne 3 1 (by decide) (by decide) (by decide)
    change Session.Memory.row? raced key = none
    rw [Session.Memory.row?, find?_raced different, Option.map_none]

/-- Of two callers who present the same token one gets a pair, and the other finds no session. -/
theorem refresh_single_use_racers :
    ∃ pool, Runs (serving .small .epoch raced racers) pool ∧
      ∃ winner, Presents racers (refreshToken (sameBytes 1).refresh) winner ∧
        pool.Paired winner ∧ ∀ other, Presents racers (refreshToken (sameBytes 1).refresh) other →
          other ≠ winner → pool.phases[other]? = some (.returned (.failed .sessionNotFound)) := by
  have lasting := TokenService.Lasting.ofConfig Config.new_small TokenService.ofConfig_small
  have ends : Instant.epoch.plus? TokenService.small.refreshLifetime =
      some ⟨600000000000, by decide, by decide⟩ := rfl
  obtain ⟨pair, made⟩ :=
    TokenService.pair?_isSome lasting (sameBytes 2) .small ends
  have drawn : TokenService.small.key pair.refresh = smallKey 2 :=
    congrArg _ (TokenService.pair?_eq_some made).1
  have other : smallKey 2 ≠ smallKey 1 := smallKey_ne 2 1 (by decide) (by decide) (by decide)
  have free : (raced.take .epoch (smallKey 1)).2.live? .epoch (smallKey 1) = none := by
    rw [Session.Memory.live?_take, if_pos rfl]
  have unused : ((raced.take .epoch (smallKey 1)).2.take .epoch (smallKey 1)).2.live? .epoch
      (TokenService.small.key pair.refresh) = none := by
    rw [drawn, Session.Memory.live?_take, if_neg other, Session.Memory.live?_take,
      if_neg other, Session.Memory.live?, find?_raced other]
    rfl
  have runs : Runs (serving .small .epoch raced racers) _ :=
    runs_race made (Request.served_take_live live?_raced) (Request.served_take_unknown free)
      (Request.served_set unused ends)
  let token := refreshToken (sameBytes 1).refresh
  have got : (Session.Store.get raced .epoch (TokenService.small.key token)).1 =
      .ok (some .small) :=
    congrArg (fun entry => Except.ok (Option.map Session.Entry.payload entry)) live?_raced
  have once : rowCount raced (TokenService.small.key token) +
      (raceHistory .small token .small pair .epoch raced
        (raced.take .epoch (smallKey 1)).2
        ((raced.take .epoch (smallKey 1)).2.take .epoch (smallKey 1)).2).countP
          (Happening.writes (TokenService.small.key token)) ≤ 1 := by
    have different : TokenService.small.key pair.refresh ≠ TokenService.small.key token := by
      rw [drawn]
      exact other
    rw [countP_race different, rowCount]
    split <;> omega
  have single := refresh_single_use runs once
  exact ⟨_, runs, single.2 fresh_racers (undisturbed_race got)⟩

end Bearer.Pool
