import Bearer.Proofs.Service.Minting
import Bearer.Proofs.Session.Rows

/-!
# Who is let in

A login looks a name up among the users, and among the musicians if the users do not know it. The
password is then checked exactly once, against the hash that was found or against the hash of
nobody. `logsIn` says who gets a pair and whom the pair speaks of; whoever is refused gets the same
answer after the same check, and the session store is not asked at all.
-/

namespace Bearer

namespace Directory

/-- The directory to which some accounts were added, one after the other. -/
def filled (added : List (String × Account)) : Directory :=
  added.foldl (fun directory row => (directory.add row.1 row.2).2) Table.empty

private theorem find?_foldl (added : List (String × Account)) (directory : Directory)
    (name : String) :
    (added.foldl (fun directory row => (directory.add row.1 row.2).2) directory).find? name =
      (directory.find? name).or (added.lookup name) := by
  induction added generalizing directory with
  | nil => simp
  | cons row added ih =>
      obtain ⟨other, account⟩ := row
      rw [List.foldl_cons, ih, find?_add, List.lookup_cons]
      by_cases same : name = other
      · subst same
        cases directory.find? name <;> simp
      · have different : (name == other) = false := by simpa using same
        simp [same, different]

theorem find?_filled (added : List (String × Account)) (name : String) :
    (filled added).find? name = added.lookup name := by
  rw [filled, find?_foldl, Table.find?_empty, Option.none_or]

end Directory

/-- A name and a password that are tried where some accounts were added, in order. -/
structure Attempt where
  /-- The accounts that were added to the users. -/
  users : List (String × Account)
  /-- The accounts that were added to the musicians. -/
  musicians : List (String × Account)
  /-- The name. -/
  name : String
  /-- The password. -/
  password : String

namespace Attempt

variable {σ : Type}

/-- The world with these directories. -/
def among (attempt : Attempt) (world : World σ) : World σ :=
  { world with users := .filled attempt.users, musicians := .filled attempt.musicians }

/-- The first account under the name among the users, or else among the musicians. -/
def account? (attempt : Attempt) : Option Account :=
  (attempt.users.lookup attempt.name).or (attempt.musicians.lookup attempt.name)

/-- Why a directory could not be asked that had to be. -/
def outage? (attempt : Attempt) (conduct : Conduct) : Option Directory.Outage :=
  match conduct.usersOutage, attempt.users.lookup attempt.name with
  | some outage, _ => some outage
  | none, some _ => none
  | none, none => conduct.musiciansOutage

/-- The hash that the password is checked against. -/
def hash (attempt : Attempt) : String :=
  attempt.account?.elim Password.dummyHash (·.passwordHash)

/-- The payload that the password opens a session for. -/
def payload? (attempt : Attempt) (comparator : Password.Comparator) : Option Payload :=
  attempt.account?.bind fun account =>
    if comparator account.passwordHash attempt.password then
      Payload.new? account.subject account.role
    else none

/-- The look-ups of a login. -/
def lookUps (attempt : Attempt) (conduct : Conduct) : List Call :=
  match conduct.usersOutage, attempt.users.lookup attempt.name with
  | some _, _ => [⟨.find .users attempt.name, false⟩]
  | none, some _ => [⟨.find .users attempt.name, true⟩]
  | none, none =>
    [ ⟨.find .users attempt.name, true⟩,
      ⟨.find .musicians attempt.name, conduct.musiciansOutage.isNone⟩ ]

/-- The password check of a login. -/
def check (attempt : Attempt) : Call :=
  ⟨.compare attempt.hash attempt.password, true⟩

end Attempt

variable {σ : Type} [Session.Store σ] {service : TokenService} {conduct : Conduct} {draw : Draw}
  {attempt : Attempt} {name password : String} {payload : Payload}

/-- Some calls were made that left the store alone. -/
structure World.Queried (world after : World σ) (made : List Call) : Prop where
  /-- The calls are recorded. -/
  calls : after.calls = world.calls ++ made
  /-- The store is as it was. -/
  store : after.store = world.store
  /-- The clock stands. -/
  clock : after.clock = world.clock

namespace World

variable {world after : World σ} {made : List Call}

omit [Session.Store σ] in
private theorem Queried.called (queried : world.Queried after made) (request : Request)
    (done : Bool) :
    world.Queried (after.called request done after.store) (made ++ [⟨request, done⟩]) :=
  ⟨by rw [World.called, queried.calls, List.append_assoc], queried.store, queried.clock⟩

omit [Session.Store σ] in
private theorem Queried.noted (queried : world.Queried after made) (event : Event) :
    world.Queried (after.noted event) made :=
  ⟨queried.calls, queried.store, queried.clock⟩

end World

namespace TokenService

/-- How a login goes on after its look-ups. -/
inductive Course (service : TokenService) (conduct : Conduct) (draw : Draw) (attempt : Attempt)
    (world : World σ) : Option (Except LoginError TokenPair) × World σ → Prop where
  /-- A directory could not be asked. -/
  | unreachable {outage : Directory.Outage} {after : World σ}
      (down : attempt.outage? conduct = some outage)
      (queried : world.Queried after (attempt.lookUps conduct)) :
      Course service conduct draw attempt world
        (some (.error (.directoryUnavailable outage.message)), after)
  /-- Nobody is let in. -/
  | refused {after : World σ} (reached : attempt.outage? conduct = none)
      (wrong : attempt.payload? conduct.comparator = none)
      (queried : world.Queried after (attempt.lookUps conduct ++ [attempt.check])) :
      Course service conduct draw attempt world (some (.error .invalidCredentials), after)
  /-- Somebody is let in. -/
  | entered {payload : Payload} {checked : World σ} (reached : attempt.outage? conduct = none)
      (right : attempt.payload? conduct.comparator = some payload)
      (queried : world.Queried checked (attempt.lookUps conduct ++ [attempt.check])) :
      Course service conduct draw attempt world
        ((service.letIn draw attempt.name payload).performed (fun _ => conduct) checked)

private theorem course_checkAccount {world found : World σ} {account : Account}
    (reached : attempt.outage? conduct = none) (known : attempt.account? = some account)
    (queried : world.Queried found (attempt.lookUps conduct)) :
    Course service conduct draw attempt world
      ((service.checkAccount draw attempt.name attempt.password account).performed
        (fun _ => conduct) found) := by
  have check : attempt.check = ⟨.compare account.passwordHash attempt.password, true⟩ := by
    rw [Attempt.check, Attempt.hash, known]
    rfl
  have checked := queried.called (.compare account.passwordHash attempt.password) true
  rw [← check] at checked
  rw [checkAccount, Operation.performed_ask rfl]
  cases right : conduct.comparator account.passwordHash attempt.password with
  | false =>
      have wrong : attempt.payload? conduct.comparator = none := by
        rw [Attempt.payload?, known, Option.bind_some, right]
        rfl
      exact .refused reached wrong (checked.noted _)
  | true =>
      have opened : attempt.payload? conduct.comparator =
          Payload.new? account.subject account.role := by
        rw [Attempt.payload?, known, Option.bind_some, right]
        rfl
      dsimp only
      cases identified : Payload.new? account.subject account.role with
      | none => exact .refused reached (opened.trans identified) checked
      | some payload => exact .entered reached (opened.trans identified) checked

private theorem course_rejectUnknown {world found : World σ}
    (reached : attempt.outage? conduct = none) (unknown : attempt.account? = none)
    (queried : world.Queried found (attempt.lookUps conduct)) :
    Course service conduct draw attempt world
      ((rejectUnknown attempt.name attempt.password).performed (fun _ => conduct) found) := by
  have check : attempt.check = ⟨.compare Password.dummyHash attempt.password, true⟩ := by
    rw [Attempt.check, Attempt.hash, unknown]
    rfl
  have checked := queried.called (.compare Password.dummyHash attempt.password) true
  rw [← check] at checked
  have wrong : attempt.payload? conduct.comparator = none := by
    rw [Attempt.payload?, unknown, Option.bind_none]
  rw [rejectUnknown, Operation.performed_ask rfl]
  exact .refused reached wrong (checked.noted _)

private theorem course_musicians {world asked : World σ}
    {next : Except Directory.Outage (Option Account) → Operation (Except LoginError TokenPair)}
    (down : ∀ outage, next (.error outage) = unreachable outage)
    (unknown : next (.ok none) = rejectUnknown attempt.name attempt.password)
    (known : ∀ account, next (.ok (some account)) =
      service.checkAccount draw attempt.name attempt.password account)
    (usersUp : conduct.usersOutage = none) (noUser : attempt.users.lookup attempt.name = none)
    (directory : asked.musicians = .filled attempt.musicians)
    (queried : world.Queried asked [⟨.find .users attempt.name, true⟩]) :
    Course service conduct draw attempt world
      ((Operation.ask (.find .musicians attempt.name) next).performed (fun _ => conduct)
        asked) := by
  have account : attempt.account? = attempt.musicians.lookup attempt.name := by
    rw [Attempt.account?, noUser, Option.none_or]
  cases musiciansDown : conduct.musiciansOutage with
  | some outage =>
      have lookUps : attempt.lookUps conduct =
          [⟨.find .users attempt.name, true⟩, ⟨.find .musicians attempt.name, false⟩] := by
        rw [Attempt.lookUps, usersUp, noUser, musiciansDown]
        rfl
      have unreached : attempt.outage? conduct = some outage := by
        rw [Attempt.outage?, usersUp, noUser, musiciansDown]
      have refusal : conduct.refusal? (.find .musicians attempt.name) = some (.error outage) :=
        congrArg (Option.map Except.error) musiciansDown
      rw [Operation.performed_ask (World.asked_of_refusal refusal), down]
      exact .unreachable unreached (lookUps ▸ queried.called _ false)
  | none =>
      have lookUps : attempt.lookUps conduct =
          [⟨.find .users attempt.name, true⟩, ⟨.find .musicians attempt.name, true⟩] := by
        rw [Attempt.lookUps, usersUp, noUser, musiciansDown]
        rfl
      have reached : attempt.outage? conduct = none := by
        rw [Attempt.outage?, usersUp, noUser, musiciansDown]
      have willing : conduct.refusal? (.find .musicians attempt.name) = none :=
        congrArg (Option.map Except.error) musiciansDown
      have reply : conduct.reply? asked (.find .musicians attempt.name) =
          some (.ok attempt.account?) := by
        rw [account, ← Directory.find?_filled, ← directory]
        rfl
      have left := queried.called (.find .musicians attempt.name) true
      rw [List.singleton_append, ← lookUps] at left
      rw [Operation.performed_ask (World.asked_of_reply willing reply)]
      cases found : attempt.account? with
      | none =>
          rw [unknown]
          exact course_rejectUnknown reached found left
      | some account =>
          rw [known]
          exact course_checkAccount reached found left

/-- Every login goes on in one of these ways. -/
theorem course_logIn (service : TokenService) (conduct : Conduct) (draw : Draw)
    (attempt : Attempt) (world : World σ) :
    Course service conduct draw attempt world
      ((service.logIn draw attempt.name attempt.password).performed (fun _ => conduct)
        (attempt.among world)) := by
  have begun : world.Queried (attempt.among world) [] := ⟨(List.append_nil _).symm, rfl, rfl⟩
  cases usersDown : conduct.usersOutage with
  | some outage =>
      have lookUps : attempt.lookUps conduct = [⟨.find .users attempt.name, false⟩] := by
        rw [Attempt.lookUps, usersDown]
      have down : attempt.outage? conduct = some outage := by
        rw [Attempt.outage?, usersDown]
      have refusal : conduct.refusal? (.find .users attempt.name) = some (.error outage) :=
        congrArg (Option.map Except.error) usersDown
      rw [logIn, Operation.performed_ask (World.asked_of_refusal refusal)]
      exact .unreachable down (lookUps ▸ begun.called _ false)
  | none =>
      have willing : conduct.refusal? (.find .users attempt.name) = none :=
        congrArg (Option.map Except.error) usersDown
      have reply : conduct.reply? (attempt.among world) (.find .users attempt.name) =
          some (.ok (attempt.users.lookup attempt.name)) := by
        rw [← Directory.find?_filled]
        rfl
      rw [logIn, Operation.performed_ask (World.asked_of_reply willing reply)]
      have left := begun.called (.find .users attempt.name) true
      cases user : attempt.users.lookup attempt.name with
      | none =>
          exact course_musicians (fun _ => rfl) rfl (fun _ => rfl) usersDown user rfl left
      | some account =>
          have lookUps : attempt.lookUps conduct = [⟨.find .users attempt.name, true⟩] := by
            rw [Attempt.lookUps, usersDown, user]
          have reached : attempt.outage? conduct = none := by
            rw [Attempt.outage?, usersDown, user]
          have known : attempt.account? = some account := by
            rw [Attempt.account?, user, Option.some_or]
          exact course_checkAccount reached known (lookUps ▸ left)

theorem mints_letIn (service : TokenService) (conduct : Conduct) (draw : Draw) (name : String)
    (payload : Payload) (world : World σ) :
    Mints service conduct draw payload world
      ((service.letIn draw name payload).performed (fun _ => conduct) world) := by
  have minted := mints_mint service (fun _ => conduct) draw payload world
  have issued : Mints service conduct draw payload world
      ((service.issue draw payload).performed (fun _ => conduct) world) :=
    minted.bind (fun pair => ⟨_, rfl⟩) fun error => ⟨_, rfl⟩
  exact issued.bind (fun pair => ⟨_, rfl⟩) fun error => ⟨_, rfl⟩

end TokenService

/-! ## Logging in -/

namespace Attempt

theorem payload?_eq_some_iff {comparator : Password.Comparator} :
    attempt.payload? comparator = some payload ↔ ∃ account, attempt.account? = some account ∧
      comparator account.passwordHash attempt.password = true ∧
        payload.subject = account.subject ∧ payload.role = account.role := by
  rw [payload?, Option.bind_eq_some_iff]
  refine exists_congr fun account => and_congr_right fun _ => ?_
  rw [← Payload.new?_eq_some_iff]
  by_cases right : comparator account.passwordHash attempt.password = true
  · simp [right]
  · simp [right]

theorem payload?_eq_none_iff {comparator : Password.Comparator} :
    attempt.payload? comparator = none ↔ attempt.account? = none ∨
      ∃ account, attempt.account? = some account ∧
        (comparator account.passwordHash attempt.password = false ∨
          Text.isBlankText account.subject = true) := by
  rw [payload?]
  cases attempt.account? with
  | none => simp
  | some account =>
      cases right : comparator account.passwordHash attempt.password with
      | false => simp [right]
      | true => simp [right, Payload.new?_eq_none_iff]

/-- The needed directories can be asked: the musicians only where no user has the name. -/
theorem outage?_eq_none_iff : attempt.outage? conduct = none ↔ conduct.usersOutage = none ∧
    (attempt.users.lookup attempt.name = none → conduct.musiciansOutage = none) := by
  unfold outage?
  cases conduct.usersOutage <;> cases attempt.users.lookup attempt.name <;> simp

end Attempt

/-- Whether a request is a password check. -/
def Request.isCheck : Request → Bool
  | .compare .. => true
  | _ => false

open TokenService (asksElsewhere)

/-- What a login comes to that made some calls. -/
structure LogsIn [Session.Rows σ] (service : TokenService) (conduct : Conduct) (draw : Draw)
    (attempt : Attempt) (world : World σ) (made : List Call) (outcome : Outcome (World σ) Answer) :
    Prop where
  /-- The calls are recorded. -/
  calls : outcome.state.calls = world.calls ++ made
  /-- A pair is answered exactly if the needed directories can be asked, the password belongs to the
  account, the subject is not blank, and the session is written for the subject in its role. -/
  pair_iff (pair : TokenPair) : outcome.ending = .finished (.pair pair) ↔
    attempt.outage? conduct = none ∧ ∃ account payload, attempt.account? = some account ∧
      conduct.comparator account.passwordHash attempt.password = true ∧
      Text.isBlankText account.subject = false ∧
      (payload.subject = account.subject ∧ payload.role = account.role) ∧
      service.pair? draw payload world.clock.now = some pair ∧ conduct.setFailure = none ∧
      (Session.Store.set world.store world.clock.now (service.key pair.refresh) payload
        service.refreshLifetime).1 = some (.ok ())
  /-- The tokens and the one session that is added speak of the subject of the account in its
  role. -/
  opened (pair : TokenPair) : outcome.ending = .finished (.pair pair) →
    ∃ account, attempt.account? = some account ∧
      (∃ claims, pair.access = service.signer.sealed claims ∧ claims.subject = account.subject ∧
        claims.role = account.role) ∧
      (∃ payload, (payload.subject = account.subject ∧ payload.role = account.role) ∧
        made.filter (!asksElsewhere ·.request) =
          [⟨.set (service.key pair.refresh) payload service.refreshLifetime, true⟩] ∧
        Session.Rows.row? outcome.state.store (service.key pair.refresh) = some (some payload)) ∧
      ∀ other row, other ≠ service.key pair.refresh →
        Session.Rows.row? outcome.state.store other = some row →
          Session.Rows.row? world.store other = some row
  /-- Whoever is not known, has another password or a blank subject is refused in the same way, and
  the store is not asked. -/
  refused : attempt.outage? conduct = none →
    (attempt.account? = none ∨ ∃ account, attempt.account? = some account ∧
      (conduct.comparator account.passwordHash attempt.password = false ∨
        Text.isBlankText account.subject = true)) →
    outcome.ending = .finished (.rejected .invalidCredentials) ∧
      outcome.state.store = world.store ∧ ∀ call ∈ made, asksElsewhere call.request = true
  /-- Where the needed directories can be asked, the password is checked once. -/
  checked : attempt.outage? conduct = none →
    made.filter (·.request.isCheck) = [⟨.compare attempt.hash attempt.password, true⟩]
  /-- The musicians are asked exactly if the users can be asked and do not know the name. -/
  consulted : (∃ call ∈ made, call.request = .find .musicians attempt.name) ↔
    conduct.usersOutage = none ∧ attempt.users.lookup attempt.name = none
  /-- Where a needed directory cannot be asked, that is all there is to it. -/
  unreachable (outage : Directory.Outage) : attempt.outage? conduct = some outage →
    outcome.ending = .finished (.rejected (.directoryUnavailable outage.message)) ∧
      outcome.state.store = world.store ∧ ∀ call ∈ made, ∃ place, call.request =
        .find place attempt.name

omit [Session.Store σ] in
private theorem ne_pair {outcome : Outcome (World σ) Answer} {error : LoginError}
    (ending : outcome.ending = .finished (.rejected error))
    (pair : TokenPair) : outcome.ending ≠ .finished (.pair pair) := by
  rw [ending]
  nofun

section

variable [Session.Rows σ] {world : World σ} {made later : List Call} {call : Call}
  {outcome : Outcome (World σ) Answer}

private theorem find_of_mem_lookUps (member : call ∈ attempt.lookUps conduct) :
    ∃ place, call.request = .find place attempt.name := by
  unfold Attempt.lookUps at member
  split at member
  · rw [List.mem_singleton.1 member]
    exact ⟨_, rfl⟩
  · rw [List.mem_singleton.1 member]
    exact ⟨_, rfl⟩
  · rcases List.mem_pair.1 member with rfl | rfl
    · exact ⟨_, rfl⟩
    · exact ⟨_, rfl⟩

private theorem consulted_iff (others : ∀ call ∈ later, ∀ place, call.request ≠
    .find place attempt.name) :
    (∃ call ∈ attempt.lookUps conduct ++ later, call.request = .find .musicians attempt.name) ↔
      conduct.usersOutage = none ∧ attempt.users.lookup attempt.name = none := by
  have only : (∃ call ∈ attempt.lookUps conduct ++ later,
      call.request = .find .musicians attempt.name) ↔
        ∃ call ∈ attempt.lookUps conduct, call.request = .find .musicians attempt.name := by
    refine ⟨fun ⟨call, member, asked⟩ => ?_, fun ⟨call, member, asked⟩ =>
      ⟨call, List.mem_append_left later member, asked⟩⟩
    rcases List.mem_append.1 member with found | other
    · exact ⟨call, found, asked⟩
    · exact absurd asked (others call other .musicians)
  rw [only, Attempt.lookUps]
  cases conduct.usersOutage with
  | some outage => simp
  | none => cases attempt.users.lookup attempt.name <;> simp

private theorem filter_lookUps (kind : Request → Bool)
    (other : ∀ place, kind (.find place attempt.name) = false) :
    (attempt.lookUps conduct).filter (fun call => kind call.request) = [] := by
  refine List.filter_eq_nil_iff.2 fun call member => ?_
  obtain ⟨place, asked⟩ := find_of_mem_lookUps member
  rw [asked, other]
  exact Bool.false_ne_true

private theorem logsIn_unreachable {outage : Directory.Outage}
    (down : attempt.outage? conduct = some outage)
    (ending : outcome.ending = .finished (.rejected (.directoryUnavailable outage.message)))
    (queried : world.Queried outcome.state (attempt.lookUps conduct)) :
    LogsIn service conduct draw attempt world (attempt.lookUps conduct) outcome where
  calls := queried.calls
  pair_iff pair := by
    refine iff_of_false (ne_pair ending pair) fun opens => ?_
    cases down.symm.trans opens.1
  opened pair opens := absurd opens (ne_pair ending pair)
  refused reached := by cases down.symm.trans reached
  checked reached := by cases down.symm.trans reached
  consulted := by
    rw [← List.append_nil (attempt.lookUps conduct)]
    exact consulted_iff fun _ member => by cases member
  unreachable other same := by
    cases down.symm.trans same
    exact ⟨ending, queried.store, fun call member => find_of_mem_lookUps member⟩

private theorem logsIn_refused (reached : attempt.outage? conduct = none)
    (wrong : attempt.payload? conduct.comparator = none)
    (ending : outcome.ending = .finished (.rejected .invalidCredentials))
    (queried : world.Queried outcome.state (attempt.lookUps conduct ++ [attempt.check])) :
    LogsIn service conduct draw attempt world (attempt.lookUps conduct ++ [attempt.check])
      outcome where
  calls := queried.calls
  pair_iff pair := by
    refine iff_of_false (ne_pair ending pair) fun opens => ?_
    obtain ⟨-, account, payload, known, right, -, speaks, -⟩ := opens
    cases wrong.symm.trans (Attempt.payload?_eq_some_iff.2 ⟨account, known, right, speaks⟩)
  opened pair opens := absurd opens (ne_pair ending pair)
  refused _ _ := by
    refine ⟨ending, queried.store, fun call member => ?_⟩
    rcases List.mem_append.1 member with found | last
    · obtain ⟨place, asked⟩ := find_of_mem_lookUps found
      rw [asked]
      rfl
    · rw [List.mem_singleton.1 last]
      rfl
  checked _ := by
    rw [List.filter_append, filter_lookUps Request.isCheck fun _ => rfl]
    rfl
  consulted := consulted_iff fun call member place => by
    rw [List.mem_singleton.1 member]
    exact nofun
  unreachable other same := by cases reached.symm.trans same

private theorem logsIn_entered {checked : World σ}
    {result : Option (Except LoginError TokenPair) × World σ}
    (reached : attempt.outage? conduct = none)
    (right : attempt.payload? conduct.comparator = some payload)
    (queried : world.Queried checked (attempt.lookUps conduct ++ [attempt.check]))
    (mints : service.Mints conduct draw payload checked result)
    (ending : outcome.ending = .ofOption (result.1.map .ofLogIn))
    (state : outcome.state = result.2) :
    ∃ made, LogsIn service conduct draw attempt world made outcome := by
  obtain ⟨later, calls, only⟩ := mints.calls
  have answered : ∀ pair, outcome.ending = .finished (.pair pair) ↔ result.1 = some (.ok pair) := by
    intro pair
    rw [ending]
    exact Ending.ofOption_eq_pair_iff (fun _ => rfl) fun _ _ same => by cases same
  have made : result.2.calls =
      world.calls ++ (attempt.lookUps conduct ++ attempt.check :: later) := by
    rw [calls, queried.calls, List.append_assoc, List.append_assoc, List.singleton_append]
  refine ⟨_, ⟨state ▸ made, fun pair => ?_, fun pair opens => ?_, fun _ wrong => ?_, fun _ => ?_,
    consulted_iff fun call member place => ?_, fun other same => ?_⟩⟩
  · rw [answered, mints.pair_iff, queried.clock, queried.store]
    constructor
    · rintro ⟨tokens, up, accepted⟩
      obtain ⟨account, known, fits, speaks⟩ := Attempt.payload?_eq_some_iff.1 right
      exact ⟨reached, account, payload, known, fits, speaks.1 ▸ payload.identified, speaks, tokens,
        up, accepted⟩
    · rintro ⟨-, account, found, known, fits, -, speaks, tokens, up, accepted⟩
      have same := Attempt.payload?_eq_some_iff.2 ⟨account, known, fits, speaks⟩
      cases same.symm.trans right
      exact ⟨tokens, up, accepted⟩
  · rw [answered] at opens
    obtain ⟨tokens, -, accepted⟩ := (mints.pair_iff pair).1 opens
    obtain ⟨wrote, left⟩ := mints.written pair opens
    obtain rfl := List.append_cancel_left (calls.symm.trans wrote)
    obtain ⟨account, known, -, speaks⟩ := Attempt.payload?_eq_some_iff.1 right
    obtain ⟨drawn, expiry, access⟩ := TokenService.pair?_eq_some tokens
    have set : Session.Store.set checked.store checked.clock.now (service.key pair.refresh) payload
        service.refreshLifetime = (some (.ok ()), outcome.state.store) := by
      rw [state, left, ← accepted]
    rw [queried.store, queried.clock] at set
    refine ⟨account, known, ⟨_, access, speaks⟩, ⟨payload, speaks, ?_, Session.Rows.row_set set⟩,
      fun other row different held => Session.Rows.row_set_other set different held⟩
    rw [List.filter_append, filter_lookUps (!asksElsewhere ·) fun _ => rfl, drawn]
    rfl
  · cases right.symm.trans (Attempt.payload?_eq_none_iff.2 wrong)
  · have unchecked : later.filter (·.request.isCheck) = [] := by
      refine List.filter_eq_nil_iff.2 fun call member => ?_
      rw [only call member]
      exact Bool.false_ne_true
    rw [List.filter_append, filter_lookUps Request.isCheck fun _ => rfl, List.nil_append,
      List.filter_cons_of_pos rfl, unchecked]
    rfl
  · rcases List.mem_cons.1 member with rfl | last
    · exact nofun
    · rw [only call last]
      exact nofun
  · cases reached.symm.trans same

end

/-- Whatever was added to the directories, however the collaborators behave and whatever the store
holds, a login without limits lets in whoever the password belongs to, and nobody else. -/
theorem logsIn [Session.Rows σ] (service : TokenService) (conduct : Conduct) (draw : Draw)
    (attempt : Attempt) (world : World σ) :
    ∃ made, LogsIn service conduct draw attempt world made
      ((Demand.logIn draw attempt.name attempt.password).run service (fun _ => conduct) .unlimited
        (attempt.among world)) := by
  have ended := Demand.run_performed service (fun _ => conduct) (attempt.among world)
    (.logIn draw attempt.name attempt.password)
  rw [Demand.operation, Operation.performed_mapped] at ended
  obtain ⟨ending, state⟩ := ended
  have course := TokenService.course_logIn service conduct draw attempt world
  generalize (service.logIn draw attempt.name attempt.password).performed (fun _ => conduct)
    (attempt.among world) = result at ending state course
  cases course with
  | unreachable down queried => exact ⟨_, logsIn_unreachable down ending (state ▸ queried)⟩
  | refused reached wrong queried =>
      exact ⟨_, logsIn_refused reached wrong ending (state ▸ queried)⟩
  | entered reached right queried =>
      exact logsIn_entered reached right queried (TokenService.mints_letIn _ _ _ _ _ _) ending state

/-- The password of a musician whom the users do not know. -/
def Attempt.small : Attempt where
  users := [("ada", ⟨"1", "open", .user⟩), ("ada", ⟨"2", "sesame", .user⟩)]
  musicians := [("ada", ⟨"3", "sesame", .musician⟩), ("bob", ⟨"4", "sesame", .musician⟩)]
  name := "bob"
  password := "sesame"

/-- The musician is let in by the password. Where every password is right, a name that nobody has is
refused all the same. -/
theorem logsIn_small :
    (∃ pair, ((Demand.logIn (TokenService.sameBytes 1) "bob" "sesame").run .small
      (fun _ => .prompt (· == ·)) .unlimited (Attempt.small.among .vacant)).ending =
        .finished (.pair pair)) ∧
    ((Demand.logIn (TokenService.sameBytes 1) "eve" "sesame").run .small
      (fun _ => .prompt fun _ _ => true) .unlimited
        ({ Attempt.small with name := "eve" }.among .vacant)).ending =
          .finished (.rejected .invalidCredentials) := by
  constructor
  · obtain ⟨made, loggedIn⟩ := logsIn .small (.prompt (· == ·)) (TokenService.sameBytes 1)
      Attempt.small World.vacant
    have ends : World.vacant.clock.now.plus? TokenService.small.refreshLifetime =
        some ⟨600000000000, by decide, by decide⟩ := rfl
    have lasting := TokenService.Lasting.ofConfig Config.new_small TokenService.ofConfig_small
    obtain ⟨pair, tokens⟩ := TokenService.pair?_isSome lasting (TokenService.sameBytes 1)
      ⟨"4", .musician, by decide⟩ ends
    exact ⟨pair, (loggedIn.pair_iff pair).2 ⟨rfl, ⟨"4", "sesame", .musician⟩, _, rfl, rfl, rfl,
      ⟨rfl, rfl⟩, tokens, rfl, rfl⟩⟩
  · obtain ⟨made, loggedIn⟩ := logsIn .small (.prompt fun _ _ => true) (TokenService.sameBytes 1)
      { Attempt.small with name := "eve" } World.vacant
    exact (loggedIn.refused rfl (.inl rfl)).1

end Bearer
