import Bearer.Proofs.Service.InMemory
import Bearer.Proofs.Session.Shown
import Mathlib.Data.List.Nodup
import Mathlib.Logic.Relation

/-!
# The life of a refresh token

A course is a run of errands, one after the other, over sessions in memory, with the clock moving
forward between them. What was answered on the way says which refresh tokens are active: those that
were returned, not exchanged and not revoked since, and not yet at their end. `lifeCycle_refines` is
the central theorem: the store shows exactly the active tokens, so that a refresh succeeds exactly
for them. The invariant `Follows` is kept by each step of a course.
-/

namespace Bearer

open Relation (ReflTransGen)
open Session (Memory)

/-- An errand that was run, with the instant and the answer. -/
structure Deed where
  /-- What the clock showed. -/
  now : Instant
  /-- What was wanted. -/
  errand : Errand
  /-- What was answered; nothing where a lifetime led beyond the calendar. -/
  answer : Option Answer

namespace Deed

/-- A deed returned a token as the refresh token of a pair. -/
def Opens (deed : Deed) (token : String) : Prop :=
  ∃ pair, deed.answer = some (.pair pair) ∧ pair.refresh = token

/-- A deed exchanged a token for a pair, or revoked it. -/
def Ends (deed : Deed) (token : String) : Prop :=
  deed.errand = .revoke token ∨
    ∃ draw pair, deed.errand = .refresh draw token ∧ deed.answer = some (.pair pair)

/-- The refresh token that was drawn for a deed. Nothing is drawn where no session was found. -/
def drawn? (deed : Deed) : Option String :=
  match deed.errand, deed.answer with
  | .issue draw _, _ => some (TokenService.refreshToken draw.refresh)
  | .refresh _ _, some (.failed .sessionNotFound) => none
  | .refresh draw _, _ => some (TokenService.refreshToken draw.refresh)
  | .revoke _, _ => none

/-- The refresh token that was presented in a deed. -/
def presented? (deed : Deed) : Option String :=
  match deed.errand with
  | .issue _ _ => none
  | .refresh _ token => some token
  | .revoke token => some token

/-- The strings that a deed used as refresh tokens. -/
def tokens (deed : Deed) : List String :=
  deed.presented?.toList ++ deed.drawn?.toList

end Deed

/-- A token was returned, has not been exchanged or revoked since, and its lifetime is not over. -/
def Active (lifetime : Span) (deeds : List Deed) (now : Instant) (token : String) : Prop :=
  ∃ later deed earlier, deeds = later ++ deed :: earlier ∧ deed.Opens token ∧
    (∀ other ∈ later, ¬ other.Ends token) ∧
    now.nanoseconds < deed.now.nanoseconds + lifetime.nanoseconds

/-- What is assumed of the deeds of a course. -/
structure Regular (service : TokenService) (deeds : List Deed) : Prop where
  /-- The drawn refresh tokens are distinct. -/
  distinct : (deeds.filterMap Deed.drawn?).Nodup
  /-- The strings used as refresh tokens have keys of their own. -/
  apart : ∀ left ∈ deeds.flatMap Deed.tokens, ∀ right ∈ deeds.flatMap Deed.tokens,
    service.key left = service.key right → left = right
  /-- The lifetimes that are added lead to instants within the calendar. -/
  calendar : ∀ deed ∈ deeds, deed.drawn?.isSome →
    ∃ expiry, deed.now.plus? service.refreshLifetime = some expiry

/-- The sessions at an instant with the deeds that led to them. -/
structure Course where
  /-- What the clock shows. -/
  now : Instant
  /-- The sessions. -/
  store : Memory
  /-- The deeds, the latest first. -/
  deeds : List Deed

namespace Course

/-- The beginning, without sessions. -/
def begin (now : Instant) : Course :=
  ⟨now, .empty, []⟩

/-- The answer to an errand that is run next. -/
def answer? (service : TokenService) (surroundings : Surroundings) (course : Course)
    (errand : Errand) : Option Answer :=
  ((errand.operation service).carried surroundings course.now course.store).1

/-- The course with one more errand run. -/
def after (service : TokenService) (surroundings : Surroundings) (course : Course)
    (errand : Errand) : Course where
  now := course.now
  store := ((errand.operation service).carried surroundings course.now course.store).2
  deeds := ⟨course.now, errand, course.answer? service surroundings errand⟩ :: course.deeds

/-- One step of a course. -/
inductive Next (service : TokenService) (surroundings : Surroundings) :
    Course → Course → Prop where
  /-- An errand is run. -/
  | errand (course : Course) (errand : Errand) :
      Next service surroundings course (course.after service surroundings errand)
  /-- The clock moves, but not back. -/
  | clock (course : Course) (now : Instant) (order : course.now ≤ now) :
      Next service surroundings course { course with now }

end Course

variable {service : TokenService} {surroundings : Surroundings} {lifetime : Span}
  {deed : Deed} {deeds : List Deed} {now : Instant} {token : String} {course : Course}

/-- After one more deed, a token is active if the deed returned it, or if it was active before and
the deed did not end it. -/
theorem active_cons : Active lifetime (deed :: deeds) now token ↔
    (deed.Opens token ∧ now.nanoseconds < deed.now.nanoseconds + lifetime.nanoseconds) ∨
      (¬ deed.Ends token ∧ Active lifetime deeds now token) := by
  constructor
  · rintro ⟨later, opening, earlier, split, opens, kept, before⟩
    cases later with
    | nil =>
        cases split
        exact .inl ⟨opens, before⟩
    | cons latest later =>
        cases split
        have keptLater : ∀ other ∈ later, ¬ other.Ends token :=
          fun other member => kept other (List.mem_cons_of_mem _ member)
        exact .inr
          ⟨kept _ List.mem_cons_self, later, opening, earlier, rfl, opens, keptLater, before⟩
  · rintro (⟨opens, before⟩ | ⟨kept, later, opening, earlier, rfl, opens, keptLater, before⟩)
    · exact ⟨[], deed, deeds, rfl, opens, by simp, before⟩
    · refine ⟨deed :: later, opening, earlier, rfl, opens, ?_, before⟩
      intro other member
      rcases List.mem_cons.1 member with rfl | member
      · exact kept
      · exact keptLater other member

theorem Active.before {later : Instant} (active : Active lifetime deeds later token)
    (order : now ≤ later) : Active lifetime deeds now token := by
  obtain ⟨after, opening, earlier, split, opens, kept, before⟩ := active
  exact ⟨after, opening, earlier, split, opens, kept, Int.lt_of_le_of_lt order before⟩

/-- The deeds returned what was drawn for them. -/
def Drawn (deeds : List Deed) : Prop :=
  ∀ deed ∈ deeds, ∀ token, deed.Opens token → deed.drawn? = some token

theorem mem_drawn_of_active (drawn : Drawn deeds) (active : Active lifetime deeds now token) :
    token ∈ deeds.filterMap Deed.drawn? := by
  obtain ⟨later, opening, earlier, rfl, opens, -⟩ := active
  exact List.mem_filterMap.2 ⟨opening, by simp, drawn opening (by simp) token opens⟩

theorem mem_tokens_of_drawn (drawn : token ∈ deeds.filterMap Deed.drawn?) :
    token ∈ deeds.flatMap Deed.tokens := by
  obtain ⟨deed, member, some⟩ := List.mem_filterMap.1 drawn
  exact List.mem_flatMap.2 ⟨deed, member, List.mem_append_right _ (by simp [some])⟩

private theorem mem_tokens_of_presented (presented : deed.presented? = some token) :
    token ∈ deed.tokens :=
  List.mem_append_left _ (by simp [presented])

private theorem mem_tokens_of_drawn? (drawn : deed.drawn? = some token) : token ∈ deed.tokens :=
  List.mem_append_right _ (by simp [drawn])

theorem Regular.earlier (regular : Regular service (deed :: deeds)) : Regular service deeds where
  distinct := by
    refine List.Nodup.sublist ?_ regular.distinct
    exact List.Sublist.filterMap _ (List.sublist_cons_self _ _)
  apart := fun left leftUsed right rightUsed =>
    regular.apart left (by simp [leftUsed]) right (by simp [rightUsed])
  calendar := fun other member => regular.calendar other (List.mem_cons_of_mem _ member)

/-! ## The invariant -/

/-- The store shows the active tokens. -/
structure Follows (service : TokenService) (course : Course) : Prop where
  /-- The live sessions are those of the active tokens, now and later. -/
  shows : course.store.Shows service.key course.now
    (Active service.refreshLifetime course.deeds)
  /-- Only drawn tokens were returned. -/
  drawn : Drawn course.deeds

theorem Follows.clock (follows : Follows service course) (order : course.now ≤ now) :
    Follows service { course with now } :=
  ⟨follows.shows.afterwards order, follows.drawn⟩

theorem Follows.apart (follows : Follows service course)
    (regular : Regular service (deed :: course.deeds)) (used : token ∈ deed.tokens)
    (later : Instant) (other : String)
    (active : Active service.refreshLifetime course.deeds later other)
    (same : service.key other = service.key token) : other = token := by
  have drawn := mem_tokens_of_drawn (mem_drawn_of_active follows.drawn active)
  exact regular.apart other (by simp [drawn]) token (by simp [used]) same

theorem Follows.fresh (follows : Follows service course)
    (regular : Regular service (deed :: course.deeds)) (drawn : deed.drawn? = some token)
    (later : Instant) (other : String)
    (active : Active service.refreshLifetime course.deeds later other) :
    service.key other ≠ service.key token := by
  intro same
  have before := mem_drawn_of_active follows.drawn active
  rw [follows.apart regular (mem_tokens_of_drawn? drawn) later other active same] at before
  have distinct := regular.distinct
  rw [List.filterMap_cons, drawn] at distinct
  exact (List.nodup_cons.1 distinct).1 before

theorem Follows.live_iff (follows : Follows service course)
    (regular : Regular service (deed :: course.deeds)) (used : token ∈ deed.tokens) :
    (course.store.live? course.now (service.key token)).isSome ↔
      Active service.refreshLifetime course.deeds course.now token :=
  Memory.live?_isSome_iff follows.shows (Int.le_refl _) (follows.apart regular used course.now)

private theorem Follows.after (follows : Follows service course) {errand : Errand} {answer : Answer}
    {store : Memory} (carried : (errand.operation service).carried surroundings course.now
      course.store = (some answer, store))
    (shows : store.Shows service.key course.now (Active service.refreshLifetime
      (⟨course.now, errand, some answer⟩ :: course.deeds)))
    (returned : ∀ pair, answer = .pair pair →
      (⟨course.now, errand, some answer⟩ : Deed).drawn? = some pair.refresh) :
    Follows service (course.after service surroundings errand) := by
  rw [Course.after, Course.answer?, carried]
  refine ⟨shows, ?_⟩
  rintro deed member token ⟨pair, answered, rfl⟩
  rcases List.mem_cons.1 member with rfl | member
  · cases answered
    exact returned pair rfl
  · exact follows.drawn deed member _ ⟨pair, answered, rfl⟩

variable {draw : Draw} {payload : Payload}

private theorem before_iff {expiry : Instant} (ends : now.plus? lifetime = some expiry)
    (later : Instant) :
    later < expiry ↔ later.nanoseconds < now.nanoseconds + lifetime.nanoseconds := by
  rw [Instant.lt_def, Instant.plus?_eq_some_iff.1 ends]

theorem Follows.opened (follows : Follows service course) (lasting : service.Lasting)
    (regular : Regular service (course.after service surroundings (.issue draw payload)).deeds) :
    ∃ pair store, pair.refresh = TokenService.refreshToken draw.refresh ∧
      ((Errand.issue draw payload).operation service).carried surroundings course.now
        course.store = (some (.pair pair), store) ∧
      store.Shows service.key course.now (Active service.refreshLifetime
        (⟨course.now, .issue draw payload, some (.pair pair)⟩ :: course.deeds)) := by
  obtain ⟨expiry, ends⟩ := regular.calendar _ List.mem_cons_self rfl
  have fresh : ∀ later other, Active service.refreshLifetime course.deeds later other →
      service.key other ≠ service.key (TokenService.refreshToken draw.refresh) :=
    follows.fresh regular rfl
  have free := Memory.live?_eq_none follows.shows (Int.le_refl _) (fresh course.now)
  obtain ⟨pair, drawn, carried⟩ := Errand.carried_issue lasting free ends
  refine ⟨pair, _, drawn, carried, ?_⟩
  apply (Memory.shows_set follows.shows fresh ends).congr
  intro later _ other
  have before := before_iff ends later
  simp [active_cons, Deed.Opens, Deed.Ends, drawn, before, eq_comm]

theorem Follows.issue (follows : Follows service course) (lasting : service.Lasting)
    (regular : Regular service (course.after service surroundings (.issue draw payload)).deeds) :
    Follows service (course.after service surroundings (.issue draw payload)) := by
  obtain ⟨pair, store, drawn, carried, shows⟩ := follows.opened lasting regular
  apply follows.after carried shows
  intro other same
  cases same
  rw [drawn]
  rfl

theorem Follows.missed (follows : Follows service course)
    (regular : Regular service (course.after service surroundings (.refresh draw token)).deeds)
    (inactive : ¬ Active service.refreshLifetime course.deeds course.now token) :
    ((Errand.refresh draw token).operation service).carried surroundings course.now course.store =
      (some (.failed .sessionNotFound), (course.store.take course.now (service.key token)).2) := by
  rw [← follows.live_iff regular (mem_tokens_of_presented rfl), Option.not_isSome_iff_eq_none]
    at inactive
  exact Errand.carried_refresh_unknown inactive

theorem Follows.live?_missed (follows : Follows service course)
    (regular : Regular service (course.after service surroundings (.refresh draw token)).deeds)
    (inactive : ¬ Active service.refreshLifetime course.deeds course.now token) (name : String) :
    (course.store.take course.now (service.key token)).2.live? course.now name =
      course.store.live? course.now name := by
  rw [← follows.live_iff regular (mem_tokens_of_presented rfl), Option.not_isSome_iff_eq_none]
    at inactive
  rw [Memory.live?_take]
  split
  · rename_i same
    rw [same, inactive]
  · rfl

theorem Follows.exchanged (follows : Follows service course) (lasting : service.Lasting)
    (regular : Regular service (course.after service surroundings (.refresh draw token)).deeds)
    (active : Active service.refreshLifetime course.deeds course.now token) :
    ∃ pair store, pair.refresh = TokenService.refreshToken draw.refresh ∧
      ((Errand.refresh draw token).operation service).carried surroundings course.now
        course.store = (some (.pair pair), store) ∧
      store.Shows service.key course.now (Active service.refreshLifetime
        (⟨course.now, .refresh draw token, some (.pair pair)⟩ :: course.deeds)) := by
  have live := (follows.live_iff regular (mem_tokens_of_presented rfl)).2 active
  obtain ⟨entry, live⟩ := Option.isSome_iff_exists.1 live
  have found : course.answer? service surroundings (.refresh draw token) ≠
      some (.failed .sessionNotFound) := Errand.carried_refresh_ne live
  have drawn : (⟨course.now, .refresh draw token, course.answer? service surroundings
      (.refresh draw token)⟩ : Deed).drawn? = some (TokenService.refreshToken draw.refresh) := by
    unfold Deed.drawn?
    split <;> simp_all
  obtain ⟨expiry, ends⟩ := regular.calendar _ List.mem_cons_self (Option.isSome_of_eq_some drawn)
  have fresh := follows.fresh regular drawn
  have shown := Memory.shows_take follows.shows
    (follows.apart regular (mem_tokens_of_presented rfl))
  have freshLeft : ∀ later other, other ≠ token ∧
      Active service.refreshLifetime course.deeds later other →
      service.key other ≠ service.key (TokenService.refreshToken draw.refresh) :=
    fun later other living => fresh later other living.2
  have free := Memory.live?_eq_none shown (Int.le_refl _) (freshLeft course.now)
  obtain ⟨pair, returned, carried⟩ := Errand.carried_refresh_live lasting live free ends
  refine ⟨pair, _, returned, carried, ?_⟩
  apply (Memory.shows_set shown freshLeft ends).congr
  intro later _ other
  have before := before_iff ends later
  simp [active_cons, Deed.Opens, Deed.Ends, returned, before, eq_comm]

theorem Follows.refresh (follows : Follows service course) (lasting : service.Lasting)
    (regular : Regular service (course.after service surroundings (.refresh draw token)).deeds) :
    Follows service (course.after service surroundings (.refresh draw token)) := by
  by_cases active : Active service.refreshLifetime course.deeds course.now token
  · obtain ⟨pair, store, drawn, carried, shows⟩ := follows.exchanged lasting regular active
    apply follows.after carried shows
    intro other same
    cases same
    rw [drawn]
    rfl
  · refine follows.after (follows.missed regular active) ?_ fun _ same => by cases same
    have shown := Memory.shows_take follows.shows
      (follows.apart regular (mem_tokens_of_presented rfl))
    apply shown.congr
    intro later order other
    have gone : Active service.refreshLifetime course.deeds later other → other ≠ token := by
      rintro living rfl
      exact active (living.before order)
    have kept : ¬ (⟨course.now, .refresh draw token, some (.failed .sessionNotFound)⟩ :
        Deed).Ends other := by simp [Deed.Ends]
    have unopened : ¬ (⟨course.now, .refresh draw token, some (.failed .sessionNotFound)⟩ :
        Deed).Opens other := by simp [Deed.Opens]
    rw [active_cons]
    tauto

theorem Follows.revoke (follows : Follows service course)
    (regular : Regular service (course.after service surroundings (.revoke token)).deeds) :
    Follows service (course.after service surroundings (.revoke token)) := by
  refine follows.after Errand.carried_revoke ?_ fun _ same => by cases same
  have shown := Memory.shows_take follows.shows
    (follows.apart regular (mem_tokens_of_presented rfl))
  apply shown.congr
  intro later _ other
  simp [active_cons, Deed.Opens, Deed.Ends, eq_comm]

theorem Follows.count (follows : Follows service course)
    (regular : Regular service course.deeds) :
    ∃ active : Finset String,
      (∀ token, token ∈ active ↔
        Active service.refreshLifetime course.deeds course.now token) ∧
      course.store.count course.now = active.card := by
  classical
  let drawn := course.deeds.filterMap Deed.drawn?
  let active := drawn.toFinset.filter
    (Active service.refreshLifetime course.deeds course.now)
  have complete : ∀ token, token ∈ active ↔
      Active service.refreshLifetime course.deeds course.now token := by
    intro token
    rw [Finset.mem_filter, List.mem_toFinset]
    exact ⟨And.right, fun living => ⟨mem_drawn_of_active follows.drawn living, living⟩⟩
  have used : ∀ token ∈ active, token ∈ course.deeds.flatMap Deed.tokens := by
    intro token member
    exact mem_tokens_of_drawn (mem_drawn_of_active follows.drawn ((complete token).1 member))
  refine ⟨active, complete, Memory.count_eq_card follows.shows complete ?_⟩
  intro left leftActive right rightActive same
  exact regular.apart left (used left leftActive) right (used right rightActive) same

/-! ## Whole courses -/

variable {later : Course}

theorem Follows.next (follows : Follows service course) (lasting : service.Lasting)
    (step : Course.Next service surroundings course later) (regular : Regular service later.deeds) :
    Follows service later := by
  cases step with
  | errand errand =>
      cases errand with
      | issue draw payload => exact follows.issue lasting regular
      | refresh draw token => exact follows.refresh lasting regular
      | revoke token => exact follows.revoke regular
  | clock now order => exact follows.clock order

private theorem Regular.before (step : Course.Next service surroundings course later)
    (regular : Regular service later.deeds) : Regular service course.deeds := by
  cases step with
  | errand errand => exact regular.earlier
  | clock now order => exact regular

/-- The invariant holds after each course. -/
theorem follows_of_run (lasting : service.Lasting)
    (run : ReflTransGen (Course.Next service surroundings) (.begin now) course)
    (regular : Regular service course.deeds) : Follows service course := by
  induction run with
  | refl =>
      refine ⟨Memory.shows_empty ?_, by simp [Drawn, Course.begin]⟩
      rintro later token ⟨after, opening, earlier, split, -⟩
      simp [Course.begin] at split
  | tail _ step ih => exact (ih (regular.before step)).next lasting step regular

/-- A service over sessions in memory refines the life cycle of refresh tokens. -/
theorem lifeCycle_refines {issuer audience activeKey : String} {accessSeconds refreshSeconds : Int}
    {hashKey : List UInt8} {keys : List Token.NamedKey} {config : Config}
    (accepted : Config.new issuer audience accessSeconds refreshSeconds hashKey keys activeKey =
      .ok config)
    (setUp : TokenService.ofConfig config = .ok service)
    (run : ReflTransGen (Course.Next service surroundings) (.begin now) course)
    (regular : Regular service course.deeds) :
    (∀ draw payload,
      Regular service (course.after service surroundings (.issue draw payload)).deeds →
        ∃ pair, course.answer? service surroundings (.issue draw payload) = some (.pair pair)) ∧
    (∀ draw token,
      Regular service (course.after service surroundings (.refresh draw token)).deeds →
        ((∃ pair, course.answer? service surroundings (.refresh draw token) =
            some (.pair pair)) ↔
          Active service.refreshLifetime course.deeds course.now token) ∧
        (¬ Active service.refreshLifetime course.deeds course.now token →
          course.answer? service surroundings (.refresh draw token) =
              some (.failed .sessionNotFound) ∧
            ∀ name, (course.after service surroundings (.refresh draw token)).store.live?
              course.now name = course.store.live? course.now name)) ∧
    (∀ token, course.answer? service surroundings (.revoke token) = some .closed) ∧
    ∃ active : Finset String,
      (∀ token, token ∈ active ↔
        Active service.refreshLifetime course.deeds course.now token) ∧
      course.store.count course.now = active.card := by
  have lasting := TokenService.Lasting.ofConfig accepted setUp
  have follows := follows_of_run lasting run regular
  refine ⟨?_, ?_, fun token => rfl, follows.count regular⟩
  · intro draw payload regular
    obtain ⟨pair, store, -, carried, -⟩ := follows.opened lasting regular
    exact ⟨pair, by rw [Course.answer?, carried]⟩
  · intro draw token regular
    by_cases active : Active service.refreshLifetime course.deeds course.now token
    · obtain ⟨pair, store, -, carried, -⟩ := follows.exchanged lasting regular active
      rw [Course.answer?, carried]
      exact ⟨⟨fun _ => active, fun _ => ⟨pair, rfl⟩⟩, fun inactive => absurd active inactive⟩
    · have carried := follows.missed regular active
      have unchanged := follows.live?_missed regular active
      rw [Course.answer?, Course.after, carried]
      refine ⟨⟨?_, fun living => absurd living active⟩, fun _ => ⟨rfl, unchanged⟩⟩
      rintro ⟨pair, answered⟩
      cases answered

/-- A course in which the small service opened a session. -/
def Course.small : Course :=
  (begin .epoch).after .small .deserted
    (.issue (TokenService.sameBytes 1) .small)

/-- The refresh token of that session. -/
def smallToken : String :=
  TokenService.refreshToken (TokenService.sameBytes 1).refresh

private theorem active_small :
    Active TokenService.small.refreshLifetime Course.small.deeds .epoch smallToken := by
  have lasting := TokenService.Lasting.ofConfig Config.new_small TokenService.ofConfig_small
  have ends : Instant.epoch.plus? TokenService.small.refreshLifetime =
      some ⟨600000000000, by decide, by decide⟩ := rfl
  have free : Memory.empty.live? .epoch (TokenService.small.key smallToken) = none := rfl
  obtain ⟨pair, drawn, answered⟩ : ∃ pair : TokenPair, pair.refresh = smallToken ∧
      (Course.begin .epoch).answer? .small .deserted
        (.issue (TokenService.sameBytes 1) .small) =
          some (.pair pair) := by
    obtain ⟨pair, drawn, carried⟩ := Errand.carried_issue lasting free ends
    exact ⟨pair, drawn, congrArg Prod.fst carried⟩
  exact ⟨[], _, [], rfl, ⟨pair, answered, drawn⟩, by simp, by decide⟩

private theorem regular_small (opened renewed : Option Answer) (payload : Payload) :
    Regular .small [⟨.epoch, .refresh (TokenService.sameBytes 2) smallToken, renewed⟩,
      ⟨.epoch, .issue (TokenService.sameBytes 1) payload, opened⟩] := by
  let next := TokenService.refreshToken (TokenService.sameBytes 2).refresh
  have different : TokenService.small.key smallToken ≠ TokenService.small.key next :=
    TokenService.smallKey_ne 1 2 (by decide) (by decide) (by decide)
  have other : next ≠ smallToken := fun same => different (by rw [same])
  let renewal : Deed := ⟨.epoch, .refresh (TokenService.sameBytes 2) smallToken, renewed⟩
  let opening : Deed := ⟨.epoch, .issue (TokenService.sameBytes 1) payload, opened⟩
  have first : opening.drawn? = some smallToken := rfl
  have second : renewal.drawn? = none ∨ renewal.drawn? = some next := by
    simp only [Deed.drawn?, renewal]
    split <;> simp_all [next]
  have presented : opening.presented? = none ∧ renewal.presented? = some smallToken := ⟨rfl, rfl⟩
  have tokens : ∀ token ∈ [renewal, opening].flatMap Deed.tokens,
      token = smallToken ∨ token = next := by
    rcases second with second | second <;> simp [Deed.tokens, first, second, presented]
  refine ⟨?_, ?_, ?_⟩
  · change ([renewal, opening].filterMap Deed.drawn?).Nodup
    rcases second with second | second <;> simp [first, second, other]
  · intro left leftUsed right rightUsed same
    rcases tokens left leftUsed with rfl | rfl <;> rcases tokens right rightUsed with rfl | rfl
    · rfl
    · exact absurd same different
    · exact absurd same.symm different
    · rfl
  · intro deed member _
    rcases List.mem_pair.1 member with rfl | rfl <;> exact ⟨_, rfl⟩

/-- The token of the session can be refreshed. -/
theorem lifeCycle_of_small : ∃ pair, Course.small.answer? .small .deserted
    (.refresh (TokenService.sameBytes 2) smallToken) = some (.pair pair) := by
  have regular : Regular .small Course.small.deeds := (regular_small _ none _).earlier
  have refines := lifeCycle_refines Config.new_small TokenService.ofConfig_small
    (.single (.errand _ _)) regular
  exact (refines.2.1 _ _ (regular_small _ _ _)).1.2 active_small

end Bearer
