-- What each part of a call on accounts does to the users and the sessions. A session carries
-- the epochs of the user it was made for, and a revocation moves the epochs of the user on.
import ScreenGoblin.OwnerContinuity

open js collections scripts scripts.Script screengoblin.schedule

namespace screengoblin.server

/-! ## The epochs of a user -/

/-- `y` is the user `x`, perhaps after some changes. -/
structure Older (x y : SessionUser) : Prop where
  authentication : x.authenticationEpoch ≤ y.authenticationEpoch
  authorization : x.authorizationEpoch ≤ y.authorizationEpoch
  bootstrap : x.bootstrapPasswordExpiresAt = none → y.bootstrapPasswordExpiresAt = none

/-- An epoch of `x` has passed. -/
def Behind (x y : SessionUser) : Prop :=
  x.authenticationEpoch < y.authenticationEpoch ∨ x.authorizationEpoch < y.authorizationEpoch

theorem Older.refl (x : SessionUser) : Older x x := ⟨le_refl _, le_refl _, fun h => h⟩

theorem Older.trans {x y z : SessionUser} (h : Older x y) (h' : Older y z) : Older x z :=
  ⟨h.authentication.trans h'.authentication, h.authorization.trans h'.authorization,
    fun none => h'.bootstrap (h.bootstrap none)⟩

theorem Behind.older {x y z : SessionUser} (h : Behind x y) (h' : Older y z) : Behind x z :=
  h.imp (fun lt => lt.trans_le h'.authentication) fun lt => lt.trans_le h'.authorization

theorem Older.behind {x y z : SessionUser} (h : Older x y) (h' : Behind y z) : Behind x z :=
  h'.imp (fun lt => h.authentication.trans_lt lt) fun lt => h.authorization.trans_lt lt

/-- Whose sessions a call revokes. -/
inductive RevocationScope where
  | user (userId : String)
  | membership (organizationId userId : String)
  | session (sessionId : String)
  deriving DecidableEq

/-- The scope is every session of this user in this organization. -/
def RevocationScope.coversUser : RevocationScope → String → String → Prop
  | .user userId, other, _ => other = userId
  | .membership organizationId userId, other, organization =>
    other = userId ∧ organization = organizationId
  | .session _, _, _ => False

def RevocationScope.covers (scope : RevocationScope) (session : UserSessionRecord) : Prop :=
  scope.coversUser session.userId session.organizationId ∨ scope = .session session.id

/-- A user who can still be found was there before, and has moved on where `covers` holds. -/
def Ages (covers : String → String → Prop) (users users' : List SessionUser) : Prop :=
  ∀ userId organizationId y, users'.find? (isSessionUser userId organizationId) = some y →
    ∃ x, users.find? (isSessionUser userId organizationId) = some x ∧ Older x y ∧
      (covers userId organizationId → Behind x y)

theorem ages_refl (users : List SessionUser) : Ages (fun _ _ => False) users users := by
  intro userId organizationId y found
  exact ⟨y, found, Older.refl y, False.elim⟩

theorem ages_changeWhere {covers : String → String → Prop} {users : List SessionUser}
    {p : SessionUser → Bool} {f : SessionUser → SessionUser}
    (same : ∀ userId organizationId user,
      isSessionUser userId organizationId (f user) = isSessionUser userId organizationId user)
    (older : ∀ user ∈ users, p user = true → Older user (f user))
    (behind : ∀ user ∈ users, covers user.id user.organizationId →
      p user = true ∧ Behind user (f user)) : Ages covers users (changeWhere p f users) := by
  intro userId organizationId y found
  rw [find_changeWhere fun user _ => same userId organizationId user,
    Option.map_eq_some_iff] at found
  obtain ⟨x, found, rfl⟩ := found
  have member := List.mem_of_find?_eq_some found
  refine ⟨x, found, ?_, ?_⟩
  · by_cases changed : p x = true
    · rw [if_pos changed]
      exact older x member changed
    · rw [if_neg changed]
      exact Older.refl x
  · intro covered
    have own := List.find?_some found
    unfold isSessionUser at own
    simp only [Bool.and_eq_true, beq_iff_eq] at own
    rw [← own.1.1, ← own.1.2] at covered
    obtain ⟨changed, passed⟩ := behind x member covered
    rw [if_pos changed]
    exact passed

/-- Users who leave or are disabled are not found, and the others are as they were. -/
theorem ages_of_gone {covers : String → String → Prop} {users users' : List SessionUser}
    (gone : ∀ userId organizationId, covers userId organizationId →
      users'.find? (isSessionUser userId organizationId) = none)
    (others : ∀ userId organizationId, ¬ covers userId organizationId →
      users'.find? (isSessionUser userId organizationId) =
        users.find? (isSessionUser userId organizationId)) : Ages covers users users' := by
  intro userId organizationId y found
  by_cases covered : covers userId organizationId
  · rw [gone userId organizationId covered] at found
    cases found
  · rw [others userId organizationId covered] at found
    exact ⟨y, found, Older.refl y, fun h => absurd h covered⟩

/-! ## What the changes of an identity revoke -/

def IdentityCall.scope : IdentityCall → RevocationScope
  | .rotateUserPassword userId _ _ | .disableUser userId _ => .user userId
  | .changeMembershipRole organizationId userId _ _
  | .removeMembership organizationId userId _ => .membership organizationId userId

/-- Passwords that change, with a bootstrap password that may end. -/
theorem ages_of_rotation {users : List SessionUser} {userId : String} {epoch : Nat}
    {f : SessionUser → SessionUser}
    (common : ∀ user ∈ users, user.id = userId → user.authenticationEpoch = epoch)
    (same : ∀ userId organizationId user,
      isSessionUser userId organizationId (f user) = isSessionUser userId organizationId user)
    (moved : ∀ user, (f user).authenticationEpoch = epoch + 1)
    (kept : ∀ user, (f user).authorizationEpoch = user.authorizationEpoch)
    (bootstrap : ∀ user, user.bootstrapPasswordExpiresAt = none →
      (f user).bootstrapPasswordExpiresAt = none) :
    Ages (RevocationScope.user userId).coversUser users
      (changeWhere (fun user => user.id == userId) f users) := by
  have passed : ∀ user ∈ users, user.id = userId →
      user.authenticationEpoch < (f user).authenticationEpoch := by
    intro user member own
    rw [common user member own, moved]
    omega
  refine ages_changeWhere same ?_ ?_
  · intro user member own
    have lt := passed user member (beq_iff_eq.mp own)
    exact ⟨by omega, by rw [kept], bootstrap user⟩
  · intro user member own
    exact ⟨beq_iff_eq.mpr own, .inl (passed user member own)⟩

theorem IdentityChange.ages {users users' : List SessionUser} {call : IdentityCall}
    (change : IdentityChange users call users') : Ages call.scope.coversUser users users' := by
  cases change with
  | rotated userId passwordHash audit epoch common =>
    exact ages_of_rotation common (fun _ _ _ => rfl) (fun _ => rfl) (fun _ => rfl) fun _ h => h
  | disabled userId audit epoch timestamp common others =>
    refine ages_of_gone ?_ ?_
    · rintro user organization rfl
      rw [List.find?_eq_none]
      intro y member found
      obtain ⟨x, _, rfl⟩ := mem_changeWhere.mp member
      unfold isSessionUser at found
      split at found
      · simp at found
      · rename_i other
        simp only [Bool.and_eq_true, beq_iff_eq] at found other
        exact other found.1.1
    · intro user organization apart
      rw [find_changeWhere]
      · cases found : users.find? (isSessionUser user organization) with
        | none => rfl
        | some x =>
          have own := List.find?_some found
          unfold isSessionUser at own
          simp only [Bool.and_eq_true, beq_iff_eq] at own
          have other : ¬ (x.id == userId) = true := by
            rw [beq_iff_eq, own.1.1]
            exact apart
          rw [Option.map_some, if_neg other]
      · intro x own
        have other : ¬ x.id = user := by
          rw [beq_iff_eq.mp own]
          exact Ne.symm apart
        unfold isSessionUser
        rw [beq_eq_false_iff_ne.mpr other]
        rfl
  | roleChanged organizationId userId role audit membership own others =>
    refine ages_changeWhere (fun _ _ _ => rfl) ?_ ?_
    · intro user _ _
      exact ⟨le_refl _, Nat.le_succ _, fun h => h⟩
    · rintro user _ ⟨sameUser, sameOrganization⟩
      refine ⟨?_, .inr (Nat.lt_succ_self _)⟩
      unfold isMembership
      simp only [Bool.and_eq_true, beq_iff_eq]
      exact ⟨sameUser, sameOrganization⟩
  | removed organizationId userId audit membership own others =>
    refine ages_of_gone ?_ ?_
    · rintro user organization ⟨rfl, rfl⟩
      rw [List.find?_eq_none]
      intro y member found
      have stays := (List.mem_filter.mp member).2
      unfold isMembership at stays
      unfold isSessionUser at found
      simp only [Bool.and_eq_true] at found
      simp [found.1.1, found.1.2] at stays
    · intro user organization apart
      rw [List.find?_filter]
      congr 1
      funext y
      by_cases found : isSessionUser user organization y = true
      · have stays : isMembership organizationId userId y = false := by
          refine Bool.eq_false_iff.mpr fun own => apart ?_
          unfold isSessionUser at found
          unfold isMembership at own
          simp only [Bool.and_eq_true, beq_iff_eq] at found own
          exact ⟨found.1.1.symm.trans own.1, found.1.2.symm.trans own.2⟩
        rw [stays, found]
        rfl
      · simp [found]

/-! ## What the calls on sessions do -/

theorem captureUser_gives (R : Runtime) (userId organizationId : String) (s : AuditedStore) :
    Gives (fun captured s' => SameAccounts s s' ∧
        captured.2 = findSessionUser s.toMemoryStore userId organizationId)
      (fun _ _ => False) (captureUser R userId organizationId) s := by
  unfold captureUser now
  rw [gives_bind, gives_draw, gives_bind, gives_look, gives_pure]
  exact ⟨⟨rfl, rfl, le_refl _⟩, rfl⟩

/-- The session was made for the user, as the user was then. -/
structure MadeFor (user : SessionUser) (session : UserSessionRecord) : Prop where
  own : session.userId = user.id
  organization : session.organizationId = user.organizationId
  authentication : session.authenticationEpoch = user.authenticationEpoch
  authorization : session.authorizationEpoch = user.authorizationEpoch
  bootstrap : session.purpose = .full → user.bootstrapPasswordExpiresAt = none

theorem mayHaveSession_full {R : Runtime} {input : UserSessionCreateInput} {timestamp : Int}
    {user : SessionUser} (may : mayHaveSession R input timestamp user = true)
    (full : input.purpose.getD .full = .full) : user.bootstrapPasswordExpiresAt = none := by
  unfold mayHaveSession at may
  simp only [Bool.and_eq_true] at may
  have fits := may.2
  split at fits
  · cases fits
  · simp only [full, Bool.and_eq_true] at fits
    exact Option.isNone_iff_eq_none.mp fits.2

theorem createUserSession_gives (R : Runtime) (organizationId : String)
    (input : UserSessionCreateInput) (audit : UserMutationAuditContext)
    (captured : Int × Option SessionUser) (s : AuditedStore)
    (own : ∀ user, captured.2 = some user → user.organizationId = organizationId) :
    Gives
      (fun session s' => s'.users = s.users ∧ (∃ user, captured.2 = some user ∧
          MadeFor user session) ∧ session.revokedAt = none ∧
        session.id = R.freshId s.idsDrawn ∧ s.idsDrawn < s'.idsDrawn ∧
        ∃ kept : UserSessionRecord → Bool,
          s'.userSessions = s.userSessions.filter kept ++ [session])
      (fun _ s' => SameAccounts s s')
      (createUserSession R organizationId input audit captured) s := by
  unfold createUserSession
  dsimp only
  cases may : captured.2.filter (mayHaveSession R input captured.1) with
  | none => exact gives_stop.mpr ⟨rfl, rfl, le_refl _⟩
  | some user =>
    obtain ⟨here, may⟩ := Option.filter_eq_some_iff.mp may
    dsimp only
    unfold drawId
    rw [gives_bind, gives_draw]
    refine gives_after (stays_buildAuditRecord R _) (Std.Refl.refl _) ?_ ?_
    · intro e s' same
      have kept := same.accounts
      exact ⟨kept.users, kept.sessions, by have := kept.drawn; simp only at this; omega⟩
    · intro auditRecord s' same
      have kept := same.accounts
      have drawn := kept.drawn
      simp only at drawn
      rw [gives_bind, gives_change, gives_bind, gives_pushAudits, gives_pure]
      refine ⟨kept.users, ⟨user, here, rfl, (own user here).symm, rfl, rfl, ?_⟩, rfl, rfl, ?_, ?_⟩
      · exact mayHaveSession_full may
      · exact drawn
      · exact ⟨_, by rw [kept.sessions]⟩

/-- What `findActiveUserSession` finds belongs to the user and was not revoked. -/
structure Finds (s : AuditedStore) (lookup : SessionLookup) : Prop where
  listed : lookup.session ∈ s.userSessions
  unrevoked : lookup.session.revokedAt = none
  user : findSessionUser s.toMemoryStore lookup.session.userId lookup.session.organizationId =
    some lookup.user

theorem isLiveSession_iff {R : Runtime} {userId organizationId tokenHash : String}
    {timestamp : Int} {session : UserSessionRecord}
    (live : isLiveSession R userId organizationId tokenHash timestamp session = true) :
    session.userId = userId ∧ session.organizationId = organizationId ∧
      session.revokedAt = none := by
  unfold isLiveSession at live
  simp only [Bool.and_eq_true, beq_iff_eq, Option.isNone_iff_eq_none] at live
  exact ⟨live.1.1.1.1, live.1.1.1.2, live.1.2⟩

theorem lookUpSession_gives (R : Runtime) (userId organizationId tokenHash : String)
    (s : AuditedStore) :
    Gives (fun found s' => SameAccounts s s' ∧ ∀ lookup, found = some lookup → Finds s lookup)
      (fun _ _ => False) (lookUpSession R userId organizationId tokenHash) s := by
  unfold lookUpSession now
  simp only [gives_bind, gives_draw, gives_look]
  refine ⟨⟨rfl, rfl, le_refl _⟩, ?_⟩
  intro lookup found
  obtain ⟨session, live, found⟩ := Option.bind_eq_some_iff.mp found
  obtain ⟨user, own, found⟩ := Option.bind_eq_some_iff.mp found
  obtain rfl := Option.some.inj found
  obtain ⟨sameUser, sameOrganization, unrevoked⟩ := isLiveSession_iff (List.find?_some live)
  refine ⟨List.mem_of_find?_eq_some live, unrevoked, ?_⟩
  dsimp only
  rw [sameUser, sameOrganization]
  exact own

theorem revokeUserSession_gives (R : Runtime) (userId organizationId tokenHash : String)
    (audit : UserMutationAuditContext) (captured : Int × Option SessionUser) (s : AuditedStore) :
    Gives
      (fun session s' => s'.users = s.users ∧ s.idsDrawn ≤ s'.idsDrawn ∧
        ∃ (live : UserSessionRecord → Bool) (timestamp : Int),
          s.userSessions.find? live = some session ∧
          s'.userSessions = updateFirst live
            (fun session => { session with revokedAt := some timestamp }) s.userSessions)
      (fun _ s' => SameAccounts s s')
      (revokeUserSession R userId organizationId tokenHash audit captured) s := by
  have stops : ∀ (e : Halt) s', Untouched s s' → SameAccounts s s' := fun _ _ => Untouched.accounts
  unfold revokeUserSession
  dsimp only
  rw [gives_bind, gives_found]
  refine ⟨fun session live => ?_, fun _ => ⟨rfl, rfl, le_refl _⟩⟩
  refine gives_after (stays_refuseIf _ _) (Std.Refl.refl s) stops fun _ s1 same1 => ?_
  refine gives_after (stays_buildAuditRecord R _) same1 stops fun auditRecord s2 same2 => ?_
  obtain ⟨users, sessions, drawn⟩ := same2.accounts
  simp only [gives_bind, gives_change, gives_pushAudits, gives_pure]
  exact ⟨users, drawn, _, _, live, by rw [sessions]⟩

/-- What a rotation of a bootstrap password does to the accounts, also when a record of it
cannot be built. -/
structure BootstrapRotated (userId : String) (s s' : AuditedStore) : Prop where
  ages : Ages (RevocationScope.user userId).coversUser s.users s'.users
  revokes : Revokes s.userSessions s'.userSessions
  drawn : s.idsDrawn ≤ s'.idsDrawn

theorem BootstrapRotated.untouched {userId : String} {s t s' : AuditedStore}
    (rotated : BootstrapRotated userId s t) (same : Untouched t s') :
    BootstrapRotated userId s s' := by
  obtain ⟨users, sessions, drawn⟩ := same.accounts
  exact ⟨users ▸ rotated.ages, sessions ▸ rotated.revokes, rotated.drawn.trans drawn⟩

theorem rotateBootstrapPassword_gives (R : Runtime) (userId organizationId : String)
    (input : BootstrapPasswordRotationInput) (audit : UserMutationAuditContext)
    (s : AuditedStore) :
    Gives (fun _ s' => BootstrapRotated userId s s')
      (fun _ s' => SameAccounts s s' ∨ BootstrapRotated userId s s')
      (rotateBootstrapPasswordAndAudit R userId organizationId input audit) s := by
  have stops : ∀ (e : Halt) s', Untouched s s' → SameAccounts s s' ∨ BootstrapRotated userId s s' :=
    fun _ _ same => .inl same.accounts
  unfold rotateBootstrapPasswordAndAudit
  refine gives_after (stays_ensure _ _) (Std.Refl.refl s) stops fun _ s1 same1 => ?_
  refine gives_after (stays_now R) same1 stops fun timestamp s2 same2 => ?_
  rw [gives_bind, gives_look, gives_bind, gives_found]
  refine ⟨fun current own => ?_, fun _ => .inl same2.accounts⟩
  rw [gives_bind, gives_found]
  refine ⟨fun session _ => ?_, fun _ => .inl same2.accounts⟩
  rw [gives_bind, gives_refuseIf]
  refine ⟨fun expected => ?_, fun _ => .inl same2.accounts⟩
  rw [gives_bind, gives_look, gives_bind, gives_changeStore, gives_bind, gives_changeStore,
    gives_bind, gives_revokeSessions]
  obtain ⟨users, sessions, drawn⟩ := same2.accounts
  have all : ∀ user ∈ s2.users, user.id = userId →
      user.authenticationEpoch = current.authenticationEpoch := by
    have each : ∀ user ∈ memberships s2.toMemoryStore userId,
        user.authenticationEpoch = input.expectedAuthenticationEpoch := by
      intro user member
      simp only [Bool.or_eq_false_iff, Bool.not_eq_false'] at expected
      have seen := List.all_eq_true.mp expected.1.1.1.1.2 user member
      unfold asExpected at seen
      simp only [Bool.and_eq_true, beq_iff_eq] at seen
      exact seen.2
    intro user member same
    rw [each user (List.mem_filter.mpr ⟨member, beq_iff_eq.mpr same⟩),
      each current (List.mem_of_find?_eq_some own)]
  have rotated : ∀ s', s'.users = changeWhere (fun user => user.id == userId) (fun user =>
        { user with
          bootstrapPasswordExpiresAt := none
          passwordHash := input.passwordHash
          authenticationEpoch := current.authenticationEpoch + 1 }) s2.users →
      s'.userSessions = changeWhere
        (fun session => (session.userId == userId) && session.revokedAt.isNone)
        (fun session => { session with revokedAt := some timestamp }) s2.userSessions →
      s'.idsDrawn = s2.idsDrawn → BootstrapRotated userId s s' := by
    intro s' changed revoked same
    refine ⟨?_, ⟨_, _, by rw [revoked, sessions]⟩, by rw [same]; exact drawn⟩
    rw [changed, ← users]
    exact ages_of_rotation all (fun _ _ _ => rfl) (fun _ => rfl) (fun _ => rfl) fun _ _ => rfl
  refine gives_after (stays_each (fun org => stays_buildAuditRecord R _) _) (Std.Refl.refl _) ?_ ?_
  · intro e s' same
    refine .inr (BootstrapRotated.untouched ?_ same)
    exact rotated _ rfl rfl rfl
  · intro auditRecords s' same
    rw [gives_bind, gives_pushAudits, gives_pure]
    have after : BootstrapRotated userId s s' := by
      refine BootstrapRotated.untouched ?_ same
      exact rotated _ rfl rfl rfl
    exact ⟨after.ages, after.revokes, after.drawn⟩

end screengoblin.server
