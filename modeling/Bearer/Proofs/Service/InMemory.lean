import Bearer.Proofs.Operation.Carried
import Bearer.Proofs.Service.Demand
import Bearer.Proofs.Service.Lifetimes
import Bearer.Session.Memory

/-!
# Errands over sessions in memory

What each errand comes to when it is carried out at an instant over sessions in memory:
`carried_issue`, `carried_refresh_unknown`, `carried_refresh_live` and `carried_revoke`. A refresh
misses no live session, whatever else becomes of it: `carried_refresh_ne`.
-/

namespace Bearer

open Session (Memory Entry)
open Operation (carried_ask carried_ask_none carried_bind carried_mapped)

variable {service : TokenService} {surroundings : Surroundings} {now expiry : Instant}
  {store : Memory} {draw : Draw} {payload : Payload} {token : String} {pair : TokenPair}

namespace Request

theorem served_set {key : String} {lifetime : Span} (free : store.live? now key = none)
    (ends : now.plus? lifetime = some expiry) :
    (Request.set key payload lifetime).served surroundings now store =
      (some (.ok ()), (store.set now key payload lifetime).2) := by
  change store.set now key payload lifetime = _
  rw [Memory.set_of_free free ends]

theorem served_take_live {key : String} {entry : Entry}
    (live : store.live? now key = some entry) :
    (Request.take key).served surroundings now store =
      (some (.ok (some entry.payload)), (store.take now key).2) := by
  change (some (Except.ok ((store.live? now key).map _)), _) = _
  rw [live]
  rfl

theorem served_take_unknown {key : String} (unknown : store.live? now key = none) :
    (Request.take key).served surroundings now store =
      (some (.ok none), (store.take now key).2) := by
  change (some (Except.ok ((store.live? now key).map _)), _) = _
  rw [unknown]
  rfl

end Request

namespace TokenService

private theorem carried_mint (made : service.pair? draw payload now = some pair)
    (free : store.live? now (service.key pair.refresh) = none)
    (ends : now.plus? service.refreshLifetime = some expiry) :
    (service.mint draw payload).carried surroundings now store = (some (.ok pair),
      (store.set now (service.key pair.refresh) payload service.refreshLifetime).2) := by
  rw [mint, Operation.carried_clock, made]
  exact carried_ask (Request.served_set free ends)

private theorem carried_mint_ne (payload : Payload) (store : Memory) :
    ((service.mint draw payload).carried surroundings now store).1 ≠
      some (.error .sessionNotFound) := by
  rw [mint, Operation.carried_clock]
  cases service.pair? draw payload now with
  | none =>
      intro ended
      cases ended
  | some pair =>
      cases served : Request.served surroundings now store
          (.set (service.key pair.refresh) payload service.refreshLifetime) with
      | mk reply after =>
          rcases reply with _ | failure | written
          · rw [carried_ask_none served]
            intro ended
            cases ended
          · rw [carried_ask served]
            intro ended
            cases failure <;> cases ended
          · rw [carried_ask served]
            intro ended
            cases ended

end TokenService

namespace Errand

/-- A session is opened under a free key. -/
theorem carried_issue (lasting : service.Lasting)
    (free : store.live? now (service.key (TokenService.refreshToken draw.refresh)) = none)
    (ends : now.plus? service.refreshLifetime = some expiry) :
    ∃ pair, pair.refresh = TokenService.refreshToken draw.refresh ∧
      ((issue draw payload).operation service).carried surroundings now store = (some (.pair pair),
        (store.set now (service.key (TokenService.refreshToken draw.refresh)) payload
          service.refreshLifetime).2) := by
  obtain ⟨pair, made⟩ := TokenService.pair?_isSome lasting draw payload ends
  have drawn := (TokenService.pair?_eq_some made).1
  refine ⟨pair, drawn, ?_⟩
  rw [← drawn] at free ⊢
  rw [operation, carried_mapped, TokenService.issue, carried_bind,
    TokenService.carried_mint made free ends]
  rfl

/-- A refresh of an unknown token finds no session, and removes nothing that can be seen. -/
theorem carried_refresh_unknown (unknown : store.live? now (service.key token) = none) :
    ((refresh draw token).operation service).carried surroundings now store =
      (some (.failed .sessionNotFound), (store.take now (service.key token)).2) := by
  rw [operation, carried_mapped, TokenService.refresh,
    carried_ask (Request.served_take_unknown unknown)]
  rfl

/-- A refresh of the token of a live session opens the next session for the same payload. -/
theorem carried_refresh_live {entry : Entry} (lasting : service.Lasting)
    (live : store.live? now (service.key token) = some entry)
    (free : (store.take now (service.key token)).2.live? now
      (service.key (TokenService.refreshToken draw.refresh)) = none)
    (ends : now.plus? service.refreshLifetime = some expiry) :
    ∃ pair, pair.refresh = TokenService.refreshToken draw.refresh ∧
      ((refresh draw token).operation service).carried surroundings now store = (some (.pair pair),
        ((store.take now (service.key token)).2.set now
          (service.key (TokenService.refreshToken draw.refresh)) entry.payload
          service.refreshLifetime).2) := by
  obtain ⟨pair, made⟩ := TokenService.pair?_isSome lasting draw entry.payload ends
  have drawn := (TokenService.pair?_eq_some made).1
  refine ⟨pair, drawn, ?_⟩
  rw [← drawn] at free ⊢
  rw [operation, carried_mapped, TokenService.refresh,
    carried_ask (Request.served_take_live live)]
  dsimp only
  rw [TokenService.carried_mint made free ends]
  rfl

theorem carried_refresh_ne {entry : Entry}
    (live : store.live? now (service.key token) = some entry) :
    (((refresh draw token).operation service).carried surroundings now store).1 ≠
      some (.failed .sessionNotFound) := by
  rw [operation, carried_mapped, TokenService.refresh,
    carried_ask (Request.served_take_live live)]
  intro missed
  obtain ⟨result, ended, same⟩ := Option.map_eq_some_iff.1 missed
  cases result with
  | ok pair => cases same
  | error error =>
      cases same
      exact TokenService.carried_mint_ne _ _ ended

/-- A session is closed, whether it was open or not. -/
theorem carried_revoke : ((revoke token).operation service).carried surroundings now store =
    (some .closed, (store.delete now (service.key token)).2) := rfl

end Errand

end Bearer
