-- The revocation of sessions. The calls on accounts are asynchronous programs: the creation
-- of a session and the search for one take a user over an `await`, and any other call can run
-- in between. A call that revoked sessions leaves none for a search that starts after it,
-- not even a session whose creation had begun.
import ScreenGoblin.SessionSteps
import ScreenGoblin.Async

open async js collections scripts scripts.Script screengoblin.schedule

namespace screengoblin.server

/-! ## The calls -/

/-- What a call has done. `n` is the place of the call. -/
inductive AccountEvent where
  | began (n : Nat) (user : SessionUser)
  | created (n : Nat) (session : UserSessionRecord)
  | looked (n : Nat) (lookup : SessionLookup)
  | answered (n : Nat) (lookup : SessionLookup)
  | revoked (scope : RevocationScope)
  deriving DecidableEq

/-- The store, and what the calls have done to it, the newest first. An event stands with the
number of events before it. -/
structure Accounts where
  store : AuditedStore
  log : List (Nat × AccountEvent)

def Accounts.note (a : Accounts) (store : AuditedStore) : Option AccountEvent → Accounts
  | some event => { store := store, log := (a.log.length, event) :: a.log }
  | none => { store := store, log := a.log }

inductive AccountCall where
  | createUserSession (organizationId : String) (input : UserSessionCreateInput)
      (audit : UserMutationAuditContext)
  | findActiveUserSession (userId organizationId tokenHash : String)
  | revokeUserSession (userId organizationId tokenHash : String)
      (audit : UserMutationAuditContext)
  | rotateBootstrapPassword (userId organizationId : String)
      (input : BootstrapPasswordRotationInput) (audit : UserMutationAuditContext)
  | identity (call : IdentityCall)

inductive AccountReply where
  | created (session : UserSessionRecord)
  | found (user : Option (SessionUser × UserSessionPurpose))
  | done
  deriving DecidableEq

abbrev AccountProg (α : Type) : Type := Prog Accounts Unit α

/-- A synchronous part of a call, and the event that it is. -/
def part {α : Type} (m : Operation α) (event : α → Option AccountEvent) :
    AccountProg (Except Halt α) :=
  .step fun a _ =>
    match m a.store with
    | (.ok x, store) => (.ok (.ok x), a.note store (event x))
    | (.error e, store) => (.ok (.error e), a.note store none)

/-- The part after an `await`, unless the part before it stopped. -/
def next {α β : Type} (r : Except Halt α) (rest : α → AccountProg (Except Halt β)) :
    AccountProg (Except Halt β) :=
  match r with
  | .ok x => rest x
  | .error e => return .error e

/-- The program of a call. -/
def accountProgram (R : Runtime) (n : Nat) :
    AccountCall → AccountProg (Except Halt AccountReply)
  | .createUserSession organizationId input audit => do
    let r ← part (captureUser R audit.actorUserId organizationId) fun captured =>
      captured.2.map (.began n)
    next r fun captured => do
      let r ← part (createUserSession R organizationId input audit captured)
        fun session => some (.created n session)
      return r.map .created
  | .findActiveUserSession userId organizationId tokenHash => do
    let r ← part (lookUpSession R userId organizationId tokenHash) fun found =>
      found.map (.looked n)
    next r fun found => part (pure (.found (activeUserSession R found))) fun _ =>
      (found.filter (·.isActive R)).map (.answered n)
  | .revokeUserSession userId organizationId tokenHash audit => do
    let r ← part (captureUser R userId organizationId) fun _ => none
    next r fun captured => do
      let r ← part (revokeUserSession R userId organizationId tokenHash audit captured)
        fun session => some (.revoked (.session session.id))
      return r.map fun _ => .done
  | .rotateBootstrapPassword userId organizationId input audit => do
    let r ← part (rotateBootstrapPasswordAndAudit R userId organizationId input audit)
      fun _ => some (.revoked (.user userId))
    return r.map fun _ => .done
  | .identity call => do
    let r ← part (call.perform R) fun _ => some (.revoked call.scope)
    return r.map fun _ => .done

/-- Any calls on accounts, in any order, with their parts between each other's. -/
def accountSystem (R : Runtime) :
    System AccountCall Accounts Unit (Except Halt AccountReply) where
  entry n call := accountProgram R n call
  env _ _ := true

/-- A store before any session was made. -/
def Accounts.start (s : AuditedStore) : Accounts :=
  { store := { s with userSessions := [] }, log := [] }

/-! ## What a part of a call does -/

/-- The change that a part of the call `n` makes. -/
inductive AccountMove (R : Runtime) (n : Nat) (a : Accounts) : Accounts → Prop where
  | quiet (store) (same : SameAccounts a.store store) : AccountMove R n a (a.note store none)
  | aged (store) (userId) (rotated : BootstrapRotated userId a.store store) :
    AccountMove R n a (a.note store none)
  | began (store user) (same : SameAccounts a.store store)
    (here : findSessionUser a.store.toMemoryStore user.id user.organizationId = some user) :
    AccountMove R n a (a.note store (some (.began n user)))
  | created (store session user) (same : store.users = a.store.users)
    (begun : ∃ t, (t, .began n user) ∈ a.log) (made : MadeFor user session)
    (unrevoked : session.revokedAt = none) (fresh : session.id = R.freshId a.store.idsDrawn)
    (drawn : a.store.idsDrawn < store.idsDrawn) (kept : UserSessionRecord → Bool)
    (sessions : store.userSessions = a.store.userSessions.filter kept ++ [session]) :
    AccountMove R n a (a.note store (some (.created n session)))
  | looked (store lookup) (same : SameAccounts a.store store) (finds : Finds a.store lookup) :
    AccountMove R n a (a.note store (some (.looked n lookup)))
  | answered (store lookup) (same : SameAccounts a.store store)
    (looked : ∃ t, (t, .looked n lookup) ∈ a.log) (active : lookup.isActive R = true) :
    AccountMove R n a (a.note store (some (.answered n lookup)))
  | loggedOut (store session) (same : store.users = a.store.users)
    (drawn : a.store.idsDrawn ≤ store.idsDrawn) (live : UserSessionRecord → Bool)
    (timestamp : Int) (found : a.store.userSessions.find? live = some session)
    (sessions : store.userSessions = updateFirst live
      (fun session => { session with revokedAt := some timestamp }) a.store.userSessions) :
    AccountMove R n a (a.note store (some (.revoked (.session session.id))))
  | revoked (store scope) (ages : Ages scope.coversUser a.store.users store.users)
    (revokes : Revokes a.store.userSessions store.userSessions)
    (drawn : a.store.idsDrawn ≤ store.idsDrawn) (ofUser : ∀ id, scope ≠ .session id) :
    AccountMove R n a (a.note store (some (.revoked scope)))

theorem Accounts.note_log (a : Accounts) (store : AuditedStore) (event : Option AccountEvent)
    {entry : Nat × AccountEvent} (logged : entry ∈ a.log) : entry ∈ (a.note store event).log := by
  cases event with
  | none => exact logged
  | some e => exact List.mem_cons_of_mem _ logged

theorem AccountMove.log {R : Runtime} {n : Nat} {a a' : Accounts} (move : AccountMove R n a a')
    {entry : Nat × AccountEvent} (logged : entry ∈ a.log) : entry ∈ a'.log := by
  cases move <;> exact a.note_log _ _ logged

/-- A user who is found was answered with, from a session in the log. -/
def Answers (n : Nat) (r : Except Halt AccountReply) (a : Accounts) : Prop :=
  ∀ user purpose, r = .ok (.found (some (user, purpose))) → ∃ lookup : SessionLookup,
    lookup.user = user ∧ lookup.session.purpose = purpose ∧
      ∃ t, (t, .answered n lookup) ∈ a.log

/-- What the proof of a run asks of each call: its moves, and what it answers. -/
def accountDiscipline (R : Runtime) : Discipline (accountSystem R) where
  inv _ _ := True
  guar n a a' := AccountMove R n a a'
  ok n _ r a := Answers n r a
  err _ _ _ _ := True
  inv_call _ := trivial
  inv_step _ _ _ := trivial

section
variable {R : Runtime} {n : Nat} {α : Type}

theorem logged_stable {event : AccountEvent} :
    Stable ((accountDiscipline R).rules n) fun a => ∃ t, (t, event) ∈ a.log := by
  intro a a' moved logged
  obtain ⟨m, k, _, _, _, move⟩ := moved
  obtain ⟨t, logged⟩ := logged
  exact ⟨t, move.log logged⟩

/-- A part of a call keeps the guarantee, if its script moves as it should. -/
theorem part_does {P : Accounts → Prop} {Q : Except Halt α → Accounts → Prop}
    {E : String → Accounts → Prop} {m : Operation α} {event : α → Option AccountEvent}
    (stable : Stable ((accountDiscipline R).rules n) P)
    (gives : ∀ a, P a → Gives
      (fun x store => AccountMove R n a (a.note store (event x)) ∧
        Q (.ok x) (a.note store (event x)))
      (fun e store => AccountMove R n a (a.note store none) ∧ Q (.error e) (a.note store none))
      m a.store) : Triple ((accountDiscipline R).rules n) P (part m event) Q E := by
  refine Triple.step stable fun a _ hp _ _ => ?_
  have ends := gives a hp
  rcases ran : m a.store with ⟨r, store⟩
  cases r with
  | ok x => exact ends.ok ran
  | error e => exact ends.error ran

end

/-- What holds of the result of a part once it returned. -/
def OnOk {α : Type} (Q : α → Accounts → Prop) (r : Except Halt α) (a : Accounts) : Prop :=
  ∀ x, r = .ok x → Q x a

theorem answers_stable {R : Runtime} {n : Nat} (r : Except Halt AccountReply) :
    Stable ((accountDiscipline R).rules n) (Answers n r) := by
  intro a a' moved answers user purpose same
  obtain ⟨lookup, own, sameUse, answered⟩ := answers user purpose same
  exact ⟨lookup, own, sameUse, logged_stable a a' moved answered⟩

theorem next_does {R : Runtime} {n : Nat} {α : Type} {Q : α → Accounts → Prop}
    {r : Except Halt α} {rest : α → AccountProg (Except Halt AccountReply)}
    (does : ∀ x, Triple ((accountDiscipline R).rules n) (Q x) (rest x) (Answers n)
      fun _ _ => True) :
    Triple ((accountDiscipline R).rules n) (OnOk Q r) (next r rest) (Answers n)
      fun _ _ => True := by
  intro a h
  cases r with
  | ok x => exact does x a (h x rfl)
  | error e => rintro user purpose ⟨⟩

/-- The last part of a call that answers with no user. -/
theorem last_part_does {R : Runtime} {n : Nat} {α : Type} {P : Accounts → Prop}
    {m : Operation α} {event : α → Option AccountEvent} {reply : α → AccountReply}
    (noUser : ∀ x user, reply x ≠ .found user)
    (stable : Stable ((accountDiscipline R).rules n) P)
    (gives : ∀ a, P a → Gives (fun x store => AccountMove R n a (a.note store (event x)))
      (fun _ store => AccountMove R n a (a.note store none)) m a.store) :
    Triple ((accountDiscipline R).rules n) P
      (do let r ← part m event; return r.map reply) (Answers n) fun _ _ => True := by
  refine Triple.bind (Q := fun _ _ => True) (part_does stable fun a hp => ?_) fun r => ?_
  · exact (gives a hp).imp (fun x store move => ⟨move, trivial⟩) fun e store move => ⟨move, trivial⟩
  · refine Triple.pure fun a _ user purpose same => ?_
    cases r with
    | ok x => exact absurd (Except.ok.inj same) (noUser x _)
    | error e => cases same

theorem stable_true {R : Runtime} {n : Nat} :
    Stable ((accountDiscipline R).rules n) fun _ => True := Stable.const True

/-- What `createUserSessionAndAudit` knows of the user over its `await`. -/
def Captured (n : Nat) (organizationId : String) (captured : Int × Option SessionUser)
    (a : Accounts) : Prop :=
  ∀ user, captured.2 = some user → user.organizationId = organizationId ∧
    ∃ t, (t, .began n user) ∈ a.log

theorem captured_stable {R : Runtime} {n : Nat} {organizationId : String}
    {captured : Int × Option SessionUser} :
    Stable ((accountDiscipline R).rules n) (Captured n organizationId captured) := by
  intro a a' moved known user here
  obtain ⟨own, begun⟩ := known user here
  exact ⟨own, logged_stable a a' moved begun⟩

theorem findSessionUser_own {s : MemoryStore} {userId organizationId : String}
    {user : SessionUser} (found : findSessionUser s userId organizationId = some user) :
    user.id = userId ∧ user.organizationId = organizationId := by
  have own := List.find?_some found
  unfold isSessionUser at own
  simp only [Bool.and_eq_true, beq_iff_eq] at own
  exact own.1

theorem createUserSession_does (R : Runtime) (n : Nat) (organizationId : String)
    (input : UserSessionCreateInput) (audit : UserMutationAuditContext) :
    Triple ((accountDiscipline R).rules n) (fun _ => True)
      (accountProgram R n (.createUserSession organizationId input audit)) (Answers n)
      fun _ _ => True := by
  refine Triple.bind (Q := OnOk (Captured n organizationId)) (part_does stable_true fun a _ => ?_)
    fun r => next_does fun captured => last_part_does (by simp) captured_stable fun a known => ?_
  · refine (captureUser_gives R audit.actorUserId organizationId a.store).imp ?_
      fun _ _ never => never.elim
    intro captured store h
    obtain ⟨same, here⟩ := h
    cases found : captured.2 with
    | none =>
      refine ⟨.quiet store same, ?_⟩
      rintro _ ⟨⟩ user here'
      rw [found] at here'
      cases here'
    | some user =>
      rw [found] at here
      obtain ⟨own, organization⟩ := findSessionUser_own here.symm
      refine ⟨.began store user same ?_, ?_⟩
      · rw [own, organization]
        exact here.symm
      · rintro _ ⟨⟩ user' here'
        rw [found] at here'
        cases here'
        exact ⟨organization, _, List.mem_cons_self⟩
  · refine (createUserSession_gives R organizationId input audit captured a.store
      fun user here => (known user here).1).imp ?_ fun _ store same => .quiet store same
    intro session store h
    obtain ⟨users, ⟨user, here, made⟩, unrevoked, fresh, drawn, kept, sessions⟩ := h
    exact .created store session user users (known user here).2 made unrevoked fresh drawn kept
      sessions

theorem findActiveUserSession_does (R : Runtime) (n : Nat)
    (userId organizationId tokenHash : String) :
    Triple ((accountDiscipline R).rules n) (fun _ => True)
      (accountProgram R n (.findActiveUserSession userId organizationId tokenHash))
      (Answers n) fun _ _ => True := by
  refine Triple.bind (Q := OnOk fun found a =>
      ∀ lookup, found = some lookup → ∃ t, (t, .looked n lookup) ∈ a.log)
    (part_does stable_true fun a _ => ?_) fun r => next_does fun found => ?_
  · refine (lookUpSession_gives R userId organizationId tokenHash a.store).imp ?_
      fun _ _ never => never.elim
    intro found store h
    obtain ⟨same, finds⟩ := h
    cases found with
    | none =>
      refine ⟨.quiet store same, ?_⟩
      rintro _ ⟨⟩ lookup ⟨⟩
    | some lookup =>
      refine ⟨.looked store lookup same (finds lookup rfl), ?_⟩
      rintro _ ⟨⟩ lookup' ⟨⟩
      exact ⟨_, List.mem_cons_self⟩
  · refine part_does ?_ fun a known => gives_pure.mpr ?_
    · intro a a' moved known lookup here
      exact logged_stable a a' moved (known lookup here)
    · have same : SameAccounts a.store a.store := ⟨rfl, rfl, le_refl _⟩
      cases answer : found.filter (·.isActive R) with
      | none =>
        refine ⟨.quiet a.store same, fun user purpose replied => ?_⟩
        unfold activeUserSession at replied
        rw [answer] at replied
        cases replied
      | some lookup =>
        obtain ⟨here, active⟩ := Option.filter_eq_some_iff.mp answer
        refine ⟨.answered a.store lookup same (known lookup here) active,
          fun user purpose replied => ?_⟩
        unfold activeUserSession at replied
        rw [answer] at replied
        cases replied
        exact ⟨lookup, rfl, rfl, _, List.mem_cons_self⟩

theorem revokeUserSession_does (R : Runtime) (n : Nat) (userId organizationId tokenHash : String)
    (audit : UserMutationAuditContext) :
    Triple ((accountDiscipline R).rules n) (fun _ => True)
      (accountProgram R n (.revokeUserSession userId organizationId tokenHash audit))
      (Answers n) fun _ _ => True := by
  refine Triple.bind (Q := OnOk fun _ _ => True) (part_does stable_true fun a _ => ?_)
    fun r => next_does fun captured => last_part_does (by simp) stable_true fun a _ => ?_
  · refine (captureUser_gives R userId organizationId a.store).imp ?_
      fun _ _ never => never.elim
    intro captured store h
    exact ⟨.quiet store h.1, fun _ _ => trivial⟩
  · refine (revokeUserSession_gives R userId organizationId tokenHash audit captured a.store).imp ?_
      fun _ store same => .quiet store same
    intro session store h
    obtain ⟨users, drawn, live, timestamp, found, sessions⟩ := h
    exact .loggedOut store session users drawn live timestamp found sessions

theorem rotateBootstrapPassword_does (R : Runtime) (n : Nat) (userId organizationId : String)
    (input : BootstrapPasswordRotationInput) (audit : UserMutationAuditContext) :
    Triple ((accountDiscipline R).rules n) (fun _ => True)
      (accountProgram R n (.rotateBootstrapPassword userId organizationId input audit))
      (Answers n) fun _ _ => True := by
  refine last_part_does (by simp) stable_true fun a _ => ?_
  refine (rotateBootstrapPassword_gives R userId organizationId input audit a.store).imp ?_ ?_
  · intro _ store rotated
    exact .revoked store (.user userId) rotated.ages rotated.revokes rotated.drawn
      fun _ => by simp
  · rintro _ store (same | rotated)
    · exact .quiet store same
    · exact .aged store userId rotated

theorem identity_does (R : Runtime) (n : Nat) (call : IdentityCall) :
    Triple ((accountDiscipline R).rules n) (fun _ => True) (accountProgram R n (.identity call))
      (Answers n) fun _ _ => True := by
  refine last_part_does (by simp) stable_true fun a _ => ?_
  refine (identity_steps R call a.store).imp ?_ fun _ store same => .quiet store same
  rintro _ store ⟨change, revokes, drawn⟩
  refine .revoked store call.scope change.ages revokes drawn ?_
  cases call <;> simp [IdentityCall.scope]

theorem account_sound (R : Runtime) : (accountDiscipline R).Sound where
  ok_stable _ _ r := answers_stable r
  err_stable _ _ _ := Stable.const True
  entry n call a _ := by
    cases call with
    | createUserSession organizationId input audit =>
      exact createUserSession_does R n organizationId input audit a trivial
    | findActiveUserSession userId organizationId tokenHash =>
      exact findActiveUserSession_does R n userId organizationId tokenHash a trivial
    | revokeUserSession userId organizationId tokenHash audit =>
      exact revokeUserSession_does R n userId organizationId tokenHash audit a trivial
    | rotateBootstrapPassword userId organizationId input audit =>
      exact rotateBootstrapPassword_does R n userId organizationId input audit a trivial
    | identity call => exact identity_does R n call a trivial

/-! ## What every part keeps -/

/-- The making of the session began after the event number `t`. -/
def BegunAfter (log : List (Nat × AccountEvent)) (t : Nat) (session : UserSessionRecord) : Prop :=
  ∃ m user start finish, t < start ∧ (start, .began m user) ∈ log ∧
    (finish, .created m session) ∈ log

/-- The user that a search finds now. -/
def Accounts.user (a : Accounts) (userId organizationId : String) : Option SessionUser :=
  findSessionUser a.store.toMemoryStore userId organizationId

structure AccountsOk (R : Runtime) (a : Accounts) : Prop where
  numbered : ∀ entry ∈ a.log, entry.1 < a.log.length
  drawn : ∀ session ∈ a.store.userSessions,
    Drawn R.toPlatform a.store.toMemoryStore session.id
  ids : KeysUnique UserSessionRecord.id a.store.userSessions
  /-- A session was made for a user whom its creation found. -/
  made : ∀ session ∈ a.store.userSessions, ∃ t m user, (t, .began m user) ∈ a.log ∧
    MadeFor user session ∧ (session.revokedAt = none → ∃ t', (t', .created m session) ∈ a.log)
  /-- A user whom a creation found has since been passed by every revocation. -/
  begun : ∀ t m user, (t, .began m user) ∈ a.log →
    ∀ x, a.user user.id user.organizationId = some x → Older user x ∧
      ∀ t' scope, (t', .revoked scope) ∈ a.log → t ≤ t' →
        scope.coversUser user.id user.organizationId → Behind user x
  loggedOut : ∀ t id, (t, .revoked (.session id)) ∈ a.log →
    Drawn R.toPlatform a.store.toMemoryStore id ∧
      ∀ session ∈ a.store.userSessions, session.id = id → session.revokedAt ≠ none
  looked : ∀ t n lookup, (t, .looked n lookup) ∈ a.log → lookup.isActive R = true →
    (∀ t' scope, (t', .revoked scope) ∈ a.log → t' < t → scope.covers lookup.session →
      BegunAfter a.log t' lookup.session ∧ ∀ id, scope ≠ .session id) ∧
    (lookup.session.purpose = .full →
      ∀ x, a.user lookup.session.userId lookup.session.organizationId = some x →
        x.bootstrapPasswordExpiresAt = none)
  answered : ∀ t n lookup, (t, .answered n lookup) ∈ a.log → lookup.isActive R = true ∧
    ∃ t', (t', .looked n lookup) ∈ a.log

theorem accountsOk_start (R : Runtime) (s : AuditedStore) : AccountsOk R (Accounts.start s) := by
  constructor <;> simp [Accounts.start, KeysUnique]

/-- Sessions at most are revoked, or go. -/
def Wanes (sessions sessions' : List UserSessionRecord) : Prop :=
  ∀ session' ∈ sessions', ∃ session ∈ sessions,
    session' = session ∨ ∃ timestamp, session' = { session with revokedAt := some timestamp }

theorem Revokes.wanes {sessions sessions' : List UserSessionRecord}
    (revokes : Revokes sessions sessions') : Wanes sessions sessions' := by
  obtain ⟨own, timestamp, rfl⟩ := revokes
  intro session' member
  obtain ⟨session, before, rfl⟩ := mem_changeWhere.mp member
  refine ⟨session, before, ?_⟩
  split
  · exact .inr ⟨timestamp, rfl⟩
  · exact .inl rfl

theorem Revokes.ids {sessions sessions' : List UserSessionRecord}
    (revokes : Revokes sessions sessions') (ids : KeysUnique UserSessionRecord.id sessions) :
    KeysUnique UserSessionRecord.id sessions' := by
  obtain ⟨own, timestamp, rfl⟩ := revokes
  exact ids.changeWhere _ fun _ => rfl

theorem wanes_refl (sessions : List UserSessionRecord) : Wanes sessions sessions :=
  fun session member => ⟨session, member, .inl rfl⟩

section
variable {R : Runtime} {a : Accounts} {store : AuditedStore}

/-- Users grow older and sessions wane, and nothing is noted. -/
theorem AccountsOk.aged (ok : AccountsOk R a) {covers : String → String → Prop}
    (ages : Ages covers a.store.users store.users)
    (wanes : Wanes a.store.userSessions store.userSessions)
    (ids : KeysUnique UserSessionRecord.id store.userSessions)
    (drawn : a.store.idsDrawn ≤ store.idsDrawn) : AccountsOk R (a.note store none) where
  numbered := ok.numbered
  drawn session' member := by
    obtain ⟨session, before, rfl | ⟨timestamp, rfl⟩⟩ := wanes session' member
    · exact (ok.drawn session' before).mono drawn
    · exact (ok.drawn session before).mono drawn
  ids := ids
  made session' member := by
    obtain ⟨session, before, rfl | ⟨timestamp, rfl⟩⟩ := wanes session' member
    · exact ok.made session' before
    · obtain ⟨t, m, user, begun, made, created⟩ := ok.made session before
      exact ⟨t, m, user, begun, ⟨made.own, made.organization, made.authentication,
        made.authorization, made.bootstrap⟩, fun unrevoked => by cases unrevoked⟩
  begun t m user begun y found := by
    obtain ⟨x, before, older, _⟩ := ages user.id user.organizationId y found
    obtain ⟨olderBefore, behind⟩ := ok.begun t m user begun x before
    exact ⟨olderBefore.trans older, fun t' scope revoked later covered =>
      (behind t' scope revoked later covered).older older⟩
  loggedOut t id revoked := by
    obtain ⟨drawnBefore, gone⟩ := ok.loggedOut t id revoked
    refine ⟨drawnBefore.mono drawn, ?_⟩
    intro session' member same
    obtain ⟨session, before, rfl | ⟨timestamp, rfl⟩⟩ := wanes session' member
    · exact gone session' before same
    · simp
  looked t n lookup looked active := by
    obtain ⟨after, full⟩ := ok.looked t n lookup looked active
    refine ⟨after, fun purpose y found => ?_⟩
    obtain ⟨x, before, older, _⟩ := ages _ _ y found
    exact older.bootstrap (full purpose x before)
  answered := ok.answered

/-- An event is added to the log, when the store already is as the event leaves it. -/
theorem AccountsOk.add (ok : AccountsOk R a) (event : AccountEvent)
    (begun : ∀ m user, event = .began m user →
      a.user user.id user.organizationId = some user)
    (revoked : ∀ scope, event = .revoked scope →
      (∀ t m user, (t, .began m user) ∈ a.log → ∀ x,
        a.user user.id user.organizationId = some x →
          scope.coversUser user.id user.organizationId → Behind user x) ∧
      ∀ id, scope = .session id → Drawn R.toPlatform a.store.toMemoryStore id ∧
        ∀ session ∈ a.store.userSessions, session.id = id → session.revokedAt ≠ none)
    (looked : ∀ n lookup, event = .looked n lookup → Finds a.store lookup)
    (answered : ∀ n lookup, event = .answered n lookup → lookup.isActive R = true ∧
      ∃ t, (t, .looked n lookup) ∈ a.log) : AccountsOk R (a.note a.store (some event)) where
  numbered entry logged := by
    rcases List.mem_cons.mp logged with rfl | before
    · exact Nat.lt_succ_self _
    · exact Nat.lt_succ_of_lt (ok.numbered entry before)
  drawn := ok.drawn
  ids := ok.ids
  made session member := by
    obtain ⟨t, m, user, begun, made, created⟩ := ok.made session member
    refine ⟨t, m, user, List.mem_cons_of_mem _ begun, made, fun unrevoked => ?_⟩
    obtain ⟨t', logged⟩ := created unrevoked
    exact ⟨t', List.mem_cons_of_mem _ logged⟩
  begun t m user logged x found := by
    rcases List.mem_cons.mp logged with same | before
    · obtain ⟨rfl, rfl⟩ := Prod.mk.inj same
      have here := begun m user rfl
      obtain rfl : user = x := Option.some.inj (here.symm.trans found)
      refine ⟨Older.refl user, fun t' scope logged' later _ => ?_⟩
      rcases List.mem_cons.mp logged' with same | before
      · cases same
      · have := ok.numbered _ before
        simp only at this
        omega
    · obtain ⟨older, behind⟩ := ok.begun t m user before x found
      refine ⟨older, fun t' scope logged' later covered => ?_⟩
      rcases List.mem_cons.mp logged' with same | before'
      · obtain ⟨_, rfl⟩ := Prod.mk.inj same
        exact (revoked scope rfl).1 t m user before x found covered
      · exact behind t' scope before' later covered
  loggedOut t id logged := by
    rcases List.mem_cons.mp logged with same | before
    · obtain ⟨_, rfl⟩ := Prod.mk.inj same
      exact (revoked _ rfl).2 id rfl
    · exact ok.loggedOut t id before
  looked t n lookup logged active := by
    rcases List.mem_cons.mp logged with same | before
    · obtain ⟨rfl, rfl⟩ := Prod.mk.inj same
      obtain ⟨listed, unrevoked, found⟩ := looked n lookup rfl
      obtain ⟨start, m, user, begun, made, created⟩ := ok.made _ listed
      obtain ⟨finish, created⟩ := created unrevoked
      have here : a.user user.id user.organizationId = some lookup.user := by
        rw [← made.own, ← made.organization]
        exact found
      obtain ⟨older, behind⟩ := ok.begun start m user begun _ here
      have current : ¬ Behind user lookup.user := by
        unfold SessionLookup.isActive at active
        simp only [Bool.and_eq_true, beq_iff_eq] at active
        rintro (lt | lt)
        · rw [active.1.1, made.authentication] at lt
          omega
        · rw [active.1.2, made.authorization] at lt
          omega
      refine ⟨fun t' scope logged' earlier covered => ?_, fun full x found' => ?_⟩
      · rcases List.mem_cons.mp logged' with same | before
        · cases same
        · rcases covered with covered | rfl
          · refine ⟨⟨m, user, start, finish, ?_, List.mem_cons_of_mem _ begun,
              List.mem_cons_of_mem _ created⟩, ?_⟩
            · by_contra notAfter
              refine current (behind t' scope before (by omega) ?_)
              rw [← made.own, ← made.organization]
              exact covered
            · rintro id rfl
              exact covered
          · exact absurd unrevoked ((ok.loggedOut t' _ before).2 _ listed rfl)
      · obtain rfl : x = lookup.user := Option.some.inj (found'.symm.trans found)
        exact older.bootstrap (made.bootstrap full)
    · obtain ⟨after, full⟩ := ok.looked t n lookup before active
      refine ⟨fun t' scope logged' earlier covered => ?_, full⟩
      rcases List.mem_cons.mp logged' with same | before'
      · obtain ⟨rfl, _⟩ := Prod.mk.inj same
        have := ok.numbered _ before
        simp only at this
        omega
      · obtain ⟨⟨m, user, start, finish, later, begun, created⟩, ofUser⟩ :=
          after t' scope before' earlier covered
        exact ⟨⟨m, user, start, finish, later, List.mem_cons_of_mem _ begun,
          List.mem_cons_of_mem _ created⟩, ofUser⟩
  answered t n lookup logged := by
    rcases List.mem_cons.mp logged with same | before
    · obtain ⟨_, rfl⟩ := Prod.mk.inj same
      obtain ⟨active, t', looked⟩ := answered n lookup rfl
      exact ⟨active, t', List.mem_cons_of_mem _ looked⟩
    · obtain ⟨active, t', looked⟩ := ok.answered t n lookup before
      exact ⟨active, t', List.mem_cons_of_mem _ looked⟩

theorem AccountsOk.same (ok : AccountsOk R a) (same : SameAccounts a.store store) :
    AccountsOk R (a.note store none) := by
  have ages : Ages (fun _ _ => False) a.store.users store.users := by
    rw [same.users]
    exact ages_refl _
  refine ok.aged ages ?_ ?_ same.drawn
  · rw [same.sessions]
    exact wanes_refl _
  · rw [same.sessions]
    exact ok.ids

/-- A session with a new identifier joins the others, when its creation is in the log. -/
theorem AccountsOk.join (ok : AccountsOk R a) {session : UserSessionRecord}
    (users : store.users = a.store.users)
    (sessions : store.userSessions = a.store.userSessions ++ [session])
    (fresh : session.id = R.freshId a.store.idsDrawn) (drawn : a.store.idsDrawn < store.idsDrawn)
    (made : ∃ t m user, (t, .began m user) ∈ a.log ∧ MadeFor user session ∧
      ∃ t', (t', .created m session) ∈ a.log) : AccountsOk R (a.note store none) := by
  have apart : ∀ id, Drawn R.toPlatform a.store.toMemoryStore id → id ≠ session.id := by
    intro id before
    rw [fresh]
    exact before.ne 0
  have found : ∀ userId organizationId,
      (a.note store none).user userId organizationId = a.user userId organizationId := by
    intro userId organizationId
    show findSessionUser store.toMemoryStore userId organizationId = _
    unfold findSessionUser Accounts.user findSessionUser
    rw [users]
  have cases' : ∀ x ∈ store.userSessions, x ∈ a.store.userSessions ∨ x = session := by
    intro x member
    rw [sessions, List.mem_append, List.mem_singleton] at member
    exact member
  refine ⟨ok.numbered, ?_, ?_, ?_, ?_, ?_, ?_, ok.answered⟩
  · intro x member
    rcases cases' x member with before | rfl
    · exact (ok.drawn x before).mono (Nat.le_of_lt drawn)
    · exact ⟨_, drawn, fresh.symm⟩
  · show KeysUnique UserSessionRecord.id store.userSessions
    rw [sessions]
    exact ok.ids.append fun x before => apart x.id (ok.drawn x before)
  · intro x member
    rcases cases' x member with before | rfl
    · exact ok.made x before
    · obtain ⟨t, m, user, begun, made, created⟩ := made
      exact ⟨t, m, user, begun, made, fun _ => created⟩
  · intro t m user begun x here
    rw [found] at here
    exact ok.begun t m user begun x here
  · intro t id revoked
    obtain ⟨before, gone⟩ := ok.loggedOut t id revoked
    refine ⟨before.mono (Nat.le_of_lt drawn), fun x member same => ?_⟩
    rcases cases' x member with listed | rfl
    · exact gone x listed same
    · exact absurd same.symm (apart id before)
  · intro t n lookup looked active
    obtain ⟨after, full⟩ := ok.looked t n lookup looked active
    refine ⟨after, fun purpose x here => ?_⟩
    rw [found] at here
    exact full purpose x here

/-- The step lemma: a part of a call keeps the accounts in order. -/
theorem AccountMove.ok {n : Nat} {a' : Accounts} (move : AccountMove R n a a')
    (ok : AccountsOk R a) : AccountsOk R a' := by
  cases move with
  | quiet store same => exact ok.same same
  | aged store userId rotated =>
    exact ok.aged rotated.ages rotated.revokes.wanes (rotated.revokes.ids ok.ids) rotated.drawn
  | began store user same here =>
    refine (ok.same same).add _ ?_ (by simp) (by simp) (by simp)
    rintro m user' ⟨⟩
    unfold Accounts.user findSessionUser Accounts.note
    dsimp only
    rw [same.users]
    exact here
  | created store session user same begun made unrevoked fresh drawn kept sessions =>
    have wanes : Wanes a.store.userSessions (a.store.userSessions.filter kept) :=
      fun x member => ⟨x, List.mem_of_mem_filter member, .inl rfl⟩
    have filtered : AccountsOk R
        (a.note { a.store with userSessions := a.store.userSessions.filter kept } none) :=
      ok.aged (ages_refl _) wanes (ok.ids.filter kept) (le_refl _)
    have noted := filtered.add (.created n session) (by simp) (by simp) (by simp) (by simp)
    obtain ⟨t, begun⟩ := begun
    exact noted.join same sessions fresh drawn
      ⟨t, n, user, List.mem_cons_of_mem _ begun, made, _, List.mem_cons_self⟩
  | looked store lookup same finds =>
    refine (ok.same same).add _ (by simp) (by simp) ?_ (by simp)
    rintro m lookup' ⟨⟩
    refine ⟨?_, finds.unrevoked, ?_⟩
    · show lookup.session ∈ store.userSessions
      rw [same.sessions]
      exact finds.listed
    · have found := finds.user
      unfold findSessionUser at found
      rw [← same.users] at found
      exact found
  | answered store lookup same looked active =>
    refine (ok.same same).add _ (by simp) (by simp) (by simp) ?_
    rintro m lookup' ⟨⟩
    exact ⟨active, looked⟩
  | loggedOut store session same drawn live timestamp found sessions =>
    have member := List.mem_of_find?_eq_some found
    have wanes : Wanes a.store.userSessions store.userSessions := by
      rw [sessions]
      intro x changed
      rcases mem_updateFirst changed with before | ⟨y, found', rfl⟩
      · exact ⟨x, before, .inl rfl⟩
      · exact ⟨y, List.mem_of_find?_eq_some found', .inr ⟨timestamp, rfl⟩⟩
    have unique : KeysUnique UserSessionRecord.id store.userSessions := by
      rw [sessions]
      exact ok.ids.updateFirst _ _ fun _ => rfl
    have ages : Ages (fun _ _ => False) a.store.users store.users := by
      rw [same]
      exact ages_refl _
    have keeps : ∀ x : UserSessionRecord, ({ x with revokedAt := some timestamp }).id = x.id :=
      fun _ => rfl
    refine (ok.aged ages wanes unique drawn).add _ (by simp) ?_ (by simp) (by simp)
    rintro scope ⟨⟩
    refine ⟨fun _ _ _ _ _ _ never => never.elim, ?_⟩
    rintro id ⟨⟩
    refine ⟨(ok.drawn session member).mono drawn, fun x listed sameId => ?_⟩
    replace listed : x ∈ store.userSessions := listed
    rw [sessions] at listed
    rcases mem_updateFirst_of_unique ok.ids keeps found listed with rfl | ⟨_, other⟩
    · simp
    · exact absurd sameId other
  | revoked store scope ages revokes drawn ofUser =>
    have aged := ok.aged ages revokes.wanes (revokes.ids ok.ids) drawn
    refine aged.add _ (by simp) ?_ (by simp) (by simp)
    rintro scope' ⟨⟩
    refine ⟨fun t m user begun y found covered => ?_, fun id same => absurd same (ofUser id)⟩
    obtain ⟨x, before, _, behind⟩ := ages _ _ y found
    exact (ok.begun t m user begun x before).1.behind (behind covered)

end

/-! ## The law -/

theorem accounts_ok {R : Runtime} {s : AuditedStore} {turns : List (Turn AccountCall Unit)}
    {pool : Pool AccountCall Accounts Unit (Except Halt AccountReply)}
    (ran : (accountSystem R).run (System.start (Accounts.start s)) turns = some pool) :
    (accountDiscipline R).Sure pool ∧ AccountsOk R pool.state := by
  have start : (accountDiscipline R).Sure (System.start (Accounts.start s)) :=
    Discipline.sure_start trivial
  refine ⟨Discipline.run_holds (account_sound R) start ran, ?_⟩
  refine Discipline.run_keeps (account_sound R) ?_ start (accountsOk_start R s) ran
  intro m n a a' _ _ move ok
  exact move.ok ok

/-- The search number `asked` of the log may find this session: every revocation before the
search that covers the session was over before the session was begun. -/
def OutlivesRevocations (log : List (Nat × AccountEvent)) (asked : Nat)
    (session : UserSessionRecord) : Prop :=
  ∀ t scope, (t, .revoked scope) ∈ log → t < asked → scope.covers session →
    BegunAfter log t session ∧ ∀ id, scope ≠ .session id

/-- No membership of the user that a sign-in finds still has its bootstrap password. -/
def NoBootstrap (a : Accounts) (session : UserSessionRecord) : Prop :=
  ∀ x, a.user session.userId session.organizationId = some x →
    x.bootstrapPasswordExpiresAt = none

/-- Whatever the calls and however their parts interleave: a user whom `findActiveUserSession`
has returned comes from a session that began after every revocation of it that the search
started after, a session that was logged out is found by no later search, and a full session
is never that of a user with a bootstrap password. -/
theorem a_revocation_leaves_no_session (R : Runtime) (s : AuditedStore)
    (turns : List (Turn AccountCall Unit))
    (pool : Pool AccountCall Accounts Unit (Except Halt AccountReply))
    (ran : (accountSystem R).run (System.start (Accounts.start s)) turns = some pool) :
    (∀ (n : Nat) call user purpose,
        pool.tasks[n]? = some (call, .settled (.ok (.ok (.found (some (user, purpose)))))) →
      ∃ lookup asked, (asked, .looked n lookup) ∈ pool.state.log ∧
        lookup.user = user ∧ lookup.session.purpose = purpose ∧
        OutlivesRevocations pool.state.log asked lookup.session ∧
        (purpose = .full → user.bootstrapPasswordExpiresAt = none ∧
          NoBootstrap pool.state lookup.session)) ∧
    ∀ session ∈ pool.state.store.userSessions, session.purpose = .full →
      NoBootstrap pool.state session := by
  obtain ⟨sure, ok⟩ := accounts_ok ran
  refine ⟨?_, ?_⟩
  · intro n call user purpose settled
    obtain ⟨lookup, rfl, rfl, t, answered⟩ := sure.ok settled user purpose rfl
    obtain ⟨active, asked, looked⟩ := ok.answered t n lookup answered
    obtain ⟨outlives, full⟩ := ok.looked asked n lookup looked active
    refine ⟨lookup, asked, looked, rfl, rfl, outlives, fun purpose => ⟨?_, full purpose⟩⟩
    unfold SessionLookup.isActive at active
    rw [purpose] at active
    simp only [Bool.and_eq_true] at active
    exact Option.isNone_iff_eq_none.mp active.2
  · intro session listed full x found
    obtain ⟨t, m, user, begun, made, _⟩ := ok.made session listed
    rw [made.own, made.organization] at found
    exact (ok.begun t m user begun x found).1.bootstrap (made.bootstrap full)

/-! ## An example -/

def benSignsIn : AccountCall :=
  .createUserSession "acme"
    { tokenHash := "token", expiresAt := "2026-01-06T00:00:00.000Z", expectedPasswordHash := "",
      expectedRole := .admin, expectedAuthenticationEpoch := 0, expectedAuthorizationEpoch := 0,
      purpose := none, expectedBootstrapPasswordExpiresAt := none }
    { actorUserId := "ben", ipAddress := none, requestId := none }

def benCalls : AccountCall := .findActiveUserSession "ben" "acme" "token"

def benLeaves : AccountCall := .identity (.removeMembership "acme" "ben" onboarding)

/-- Ben signs in and calls. His membership ends while his session is looked up, and he calls
again. -/
def benTurns : List (Turn AccountCall Unit) :=
  [.call benSignsIn, .run 0 (), .run 0 (), .call benCalls, .run 1 (), .call benLeaves,
   .run 2 (), .run 1 (), .call benCalls, .run 3 (), .run 3 ()]

def benRun : Option (Pool AccountCall Accounts Unit (Except Halt AccountReply)) :=
  (accountSystem cmsRuntime).run
    (System.start (Accounts.start (storeOf [member "ann" .owner, member "ben" .admin]))) benTurns

/-- What a call has answered with. -/
def foundBy (pool : Pool AccountCall Accounts Unit (Except Halt AccountReply)) (n : Nat) :
    Option (Except Halt AccountReply) :=
  match pool.tasks[n]? with
  | some (_, .settled (.ok r)) => some r
  | _ => none

theorem foundBy_some {pool : Pool AccountCall Accounts Unit (Except Halt AccountReply)} {n : Nat}
    {r : Except Halt AccountReply} (found : foundBy pool n = some r) :
    ∃ call, pool.tasks[n]? = some (call, .settled (.ok r)) := by
  unfold foundBy at found
  split at found
  · rename_i call r' here
    cases found
    exact ⟨call, here⟩
  · cases found

/-- The session that Ben made, as the first search found it. -/
def benLookup : SessionLookup :=
  { timestamp := mondayAt 9
    session := { id := uuid 0, organizationId := "acme", userId := "ben", tokenHash := "token",
                 authenticationEpoch := 0, authorizationEpoch := 0, purpose := .full,
                 expiresAt := "2026-01-06T00:00:00.000Z", revokedAt := none,
                 createdAt := mondayAt 9 }
    user := member "ben" .admin }

def benIsDemoted : AccountCall :=
  .identity (.changeMembershipRole "acme" "ben" .viewer onboarding)

/-- Ben signs in again, as a viewer. -/
def benReturns : AccountCall :=
  .createUserSession "acme"
    { tokenHash := "second", expiresAt := "2026-01-06T00:00:00.000Z", expectedPasswordHash := "",
      expectedRole := .viewer, expectedAuthenticationEpoch := 0, expectedAuthorizationEpoch := 1,
      purpose := none, expectedBootstrapPasswordExpiresAt := none }
    { actorUserId := "ben", ipAddress := none, requestId := none }

/-- Ben gets another role, which ends his session. He signs in again, and calls with his new
session and with the old one. -/
def demotionTurns : List (Turn AccountCall Unit) :=
  [.call benSignsIn, .run 0 (), .run 0 (), .call benIsDemoted, .run 1 (), .call benReturns,
   .run 2 (), .run 2 (), .call (.findActiveUserSession "ben" "acme" "second"), .run 3 (),
   .run 3 (), .call benCalls, .run 4 (), .run 4 ()]

def demotionRun : Option (Pool AccountCall Accounts Unit (Except Halt AccountReply)) :=
  (accountSystem cmsRuntime).run
    (System.start (Accounts.start (storeOf [member "ann" .owner, member "ben" .admin])))
    demotionTurns

def viewerBen : SessionUser := { member "ben" .viewer with authorizationEpoch := 1 }

/-- The new session of Ben, as the search after the revocation found it. -/
def viewerLookup : SessionLookup :=
  { timestamp := mondayAt 9
    session := { id := uuid 3, organizationId := "acme", userId := "ben", tokenHash := "second",
                 authenticationEpoch := 0, authorizationEpoch := 1, purpose := .full,
                 expiresAt := "2026-01-06T00:00:00.000Z", revokedAt := none,
                 createdAt := mondayAt 9 }
    user := viewerBen }

/-- What has happened, the newest first. -/
def demotionLog : List (Nat × AccountEvent) :=
  [(6, .answered 3 viewerLookup), (5, .looked 3 viewerLookup),
   (4, .created 2 viewerLookup.session), (3, .began 2 viewerBen),
   (2, .revoked (.membership "acme" "ben")), (1, .created 0 benLookup.session),
   (0, .began 0 (member "ben" .admin))]

/-- Both searches start after the revocation. One finds the session that was begun after it, and the
other one finds nothing. -/
theorem ben_is_found_with_his_new_session : ∃ pool, demotionRun = some pool ∧
    pool.state.log = demotionLog ∧ foundBy pool 4 = some (.ok (.found none)) ∧
    BegunAfter pool.state.log 2 viewerLookup.session := by
  have happens : (demotionRun.map fun pool => decide (pool.state.log = demotionLog ∧
      foundBy pool 3 = some (.ok (.found (some (viewerBen, .full)))) ∧
      foundBy pool 4 = some (.ok (.found none)))) = some true := by decide +kernel
  obtain ⟨pool, ran, holds⟩ := Option.map_eq_some_iff.mp happens
  obtain ⟨log, found, missed⟩ := of_decide_eq_true holds
  obtain ⟨call, settled⟩ := foundBy_some found
  obtain ⟨lookup, asked, looked, _, _, outlives, _⟩ :=
    (a_revocation_leaves_no_session cmsRuntime _ demotionTurns pool ran).1 3 call _ _ settled
  have same : asked = 5 ∧ lookup = viewerLookup := by
    rw [log] at looked
    simpa [demotionLog] using looked
  obtain ⟨rfl, rfl⟩ := same
  have revoked : (2, .revoked (.membership "acme" "ben")) ∈ pool.state.log := by
    simp [log, demotionLog]
  exact ⟨pool, ran, log, missed, (outlives 2 _ revoked (by decide) (.inl ⟨rfl, rfl⟩)).1⟩

/-- A search that had begun before the revocation still returns the session after it. -/
theorem a_search_in_flight_finds_a_revoked_session :
    ¬ ∀ (R : Runtime) (s : AuditedStore) (turns : List (Turn AccountCall Unit))
      (pool : Pool AccountCall Accounts Unit (Except Halt AccountReply)),
      (accountSystem R).run (System.start (Accounts.start s)) turns = some pool →
      ∀ t scope answered n lookup, (t, .revoked scope) ∈ pool.state.log →
        (answered, .answered n lookup) ∈ pool.state.log → t < answered →
        scope.covers lookup.session → BegunAfter pool.state.log t lookup.session := by
  intro claimed
  have happens : (benRun.map fun pool => decide (
      (3, .revoked (.membership "acme" "ben")) ∈ pool.state.log ∧
        (4, .answered 1 benLookup) ∈ pool.state.log ∧
        ∀ entry ∈ pool.state.log, entry.1 ≤ 3 ∨ entry.2 = .answered 1 benLookup)) =
      some true := by decide +kernel
  obtain ⟨pool, ran, log⟩ := Option.map_eq_some_iff.mp happens
  obtain ⟨revoked, answered, rest⟩ := of_decide_eq_true log
  obtain ⟨m, user, start, _, later, begun, _⟩ :=
    claimed cmsRuntime _ benTurns pool ran 3 _ 4 1 benLookup revoked answered (by omega)
      (.inl ⟨rfl, rfl⟩)
  rcases rest _ begun with early | same
  · simp only at early
    omega
  · cases same

end screengoblin.server
