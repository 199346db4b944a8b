-- The changes of an identity, and what they keep: every organization that has members has an
-- enabled owner, and the memberships of a user agree on the authentication epoch.
import ScreenGoblin.AccountOperations

open js collections scripts scripts.Script screengoblin.schedule

namespace screengoblin.server

/-! ## Owners -/

/-- One record for each user of an organization. -/
def Unique (users : List SessionUser) : Prop :=
  KeysUnique (fun user => (user.id, user.organizationId)) users

def EnabledOwner (user : SessionUser) : Prop := user.role = .owner ∧ user.disabledAt = none

/-- Every organization that has members has an enabled owner. -/
def Owned (users : List SessionUser) : Prop :=
  ∀ member ∈ users, ∃ owner ∈ users,
    owner.organizationId = member.organizationId ∧ EnabledOwner owner

/-- The memberships of a user have one authentication epoch. -/
def EpochsAgree (users : List SessionUser) (userId : String) : Prop :=
  ∀ x ∈ users, ∀ y ∈ users, x.id = userId → y.id = userId →
    x.authenticationEpoch = y.authenticationEpoch

/-- Another user is an enabled owner of the organization. -/
def OtherOwner (users : List SessionUser) (organizationId userId : String) : Prop :=
  ∃ owner ∈ users, owner.organizationId = organizationId ∧ owner.id ≠ userId ∧ EnabledOwner owner

theorem hasOtherActiveOwner_iff {s : MemoryStore} {organizationId userId : String} :
    hasOtherActiveOwner s organizationId userId = true ↔
      OtherOwner s.users organizationId userId := by
  unfold hasOtherActiveOwner OtherOwner EnabledOwner
  simp only [List.any_eq_true, Bool.and_eq_true, beq_iff_eq, bne_iff_ne,
    Option.isNone_iff_eq_none, and_assoc]

/-- An enabled owner who is not the last one of the organization leaves another. -/
theorem not_last {s : MemoryStore} {userId : String} {membership : SessionUser}
    (kept : isLastOwner s userId membership = false) (owner : EnabledOwner membership) :
    OtherOwner s.users membership.organizationId userId := by
  obtain ⟨role, enabled⟩ := owner
  unfold isLastOwner at kept
  simp only [role, enabled, beq_self_eq_true, Option.isNone_none, Bool.and_self, Bool.true_and,
    Bool.not_eq_false'] at kept
  exact hasOtherActiveOwner_iff.mp kept

theorem commonEpoch_some {s : MemoryStore} {userId : String} {epoch : Nat}
    (common : commonEpoch s userId = some epoch) :
    ∀ user ∈ s.users, user.id = userId → user.authenticationEpoch = epoch := by
  intro user member own
  have listed : user.authenticationEpoch ∈ (memberships s userId).map (·.authenticationEpoch) :=
    List.mem_map_of_mem (List.mem_filter.mpr ⟨member, beq_iff_eq.mpr own⟩)
  unfold commonEpoch at common
  split at common
  · cases common
  · rename_i first rest same
    rw [same] at listed
    split at common
    · rename_i all
      obtain rfl : first = epoch := Option.some.inj common
      rcases List.mem_cons.mp listed with first | later
      · exact first
      · exact beq_iff_eq.mp (List.all_eq_true.mp all _ later)
    · cases common

/-! ## The calls -/

inductive IdentityCall where
  | rotateUserPassword (userId passwordHash : String) (audit : SystemIdentityMutationAuditContext)
  | disableUser (userId : String) (audit : SystemIdentityMutationAuditContext)
  | changeMembershipRole (organizationId userId : String) (role : Role)
      (audit : SystemIdentityMutationAuditContext)
  | removeMembership (organizationId userId : String)
      (audit : SystemIdentityMutationAuditContext)
  deriving DecidableEq

def IdentityCall.perform (R : Runtime) : IdentityCall → Operation Unit
  | .rotateUserPassword userId passwordHash audit => do
    let _ ← rotateUserPasswordAndAudit R userId passwordHash audit
  | .disableUser userId audit => do
    let _ ← disableUserAndAudit R userId audit
  | .changeMembershipRole organizationId userId role audit =>
    changeMembershipRoleAndAudit R organizationId userId role audit
  | .removeMembership organizationId userId audit =>
    removeMembershipAndAudit R organizationId userId audit

/-- What a completed call does to the users. -/
inductive IdentityChange (users : List SessionUser) : IdentityCall → List SessionUser → Prop where
  | rotated (userId passwordHash audit epoch)
    (common : ∀ user ∈ users, user.id = userId → user.authenticationEpoch = epoch) :
    IdentityChange users (.rotateUserPassword userId passwordHash audit)
      (changeWhere (fun user => user.id == userId) (fun user =>
        { user with passwordHash := passwordHash, authenticationEpoch := epoch + 1 }) users)
  | disabled (userId audit epoch timestamp)
    (common : ∀ user ∈ users, user.id = userId → user.authenticationEpoch = epoch)
    (others : ∀ user ∈ users, user.id = userId → EnabledOwner user →
      OtherOwner users user.organizationId userId) :
    IdentityChange users (.disableUser userId audit)
      (changeWhere (fun user => user.id == userId) (fun user =>
        { user with authenticationEpoch := epoch + 1, disabledAt := some timestamp }) users)
  | roleChanged (organizationId userId role audit membership)
    (own : users.find? (isMembership organizationId userId) = some membership)
    (others : role ≠ .owner → EnabledOwner membership → OtherOwner users organizationId userId) :
    IdentityChange users (.changeMembershipRole organizationId userId role audit)
      (changeWhere (isMembership organizationId userId) (fun user =>
        { user with role := role, authorizationEpoch := user.authorizationEpoch + 1 }) users)
  | removed (organizationId userId audit membership)
    (own : users.find? (isMembership organizationId userId) = some membership)
    (others : EnabledOwner membership → OtherOwner users organizationId userId) :
    IdentityChange users (.removeMembership organizationId userId audit)
      (users.filter fun user => !isMembership organizationId userId user)

/-! ## One call -/

/-- Sessions that were not revoked before are revoked now, and no other session changes. -/
def Revokes (sessions sessions' : List UserSessionRecord) : Prop :=
  ∃ (own : UserSessionRecord → Bool) (timestamp : Int), sessions' =
    changeWhere (fun session => own session && session.revokedAt.isNone)
      (fun session => { session with revokedAt := some timestamp }) sessions

/-- The accounts are as they were. -/
structure SameAccounts (s s' : AuditedStore) : Prop where
  users : s'.users = s.users
  sessions : s'.userSessions = s.userSessions
  drawn : s.idsDrawn ≤ s'.idsDrawn

theorem Untouched.accounts {s s' : AuditedStore} (same : Untouched s s') : SameAccounts s s' := by
  have users := congrArg (fun c : AuditedStore => c.users) same.collections
  have sessions := congrArg (fun c : AuditedStore => c.userSessions) same.collections
  exact ⟨users, sessions, same.drawn⟩

theorem stays_identityMutationReason (audit : SystemIdentityMutationAuditContext) :
    Stays Untouched (identityMutationReason audit) := by
  unfold identityMutationReason
  dsimp only
  split
  · exact stays_stop _
  · exact stays_pure _

theorem stays_identityAudit (R : Runtime) (organizationId action entityType entityId : String)
    (audit : SystemIdentityMutationAuditContext) (metadata : List (String × Value)) :
    Stays Untouched
      (identityAudit R organizationId action entityType entityId audit metadata) :=
  stays_bind (stays_identityMutationReason audit) fun _ => stays_buildAuditRecord R _

/-- What a completed call does, and that a call that stops does nothing. -/
def Steps (call : IdentityCall) {α : Type} (m : Operation α) : Prop :=
  ∀ s, Gives
    (fun _ s' => IdentityChange s.users call s'.users ∧
      Revokes s.userSessions s'.userSessions ∧ s.idsDrawn ≤ s'.idsDrawn)
    (fun _ s' => SameAccounts s s') m s

theorem rotateUserPassword_steps (R : Runtime) (userId passwordHash : String)
    (audit : SystemIdentityMutationAuditContext) :
    Steps (.rotateUserPassword userId passwordHash audit)
      (rotateUserPasswordAndAudit R userId passwordHash audit) := by
  intro s
  have stops : ∀ (e : Halt) s', Untouched s s' → SameAccounts s s' := fun _ _ => Untouched.accounts
  unfold rotateUserPasswordAndAudit
  refine gives_after (stays_ensure _ _) (Std.Refl.refl s) stops fun _ s1 same1 => ?_
  refine gives_after (stays_identityMutationReason audit) same1 stops fun _ s2 same2 => ?_
  refine gives_after (stays_look _) same2 stops fun organizationIds s3 same3 => ?_
  rw [gives_bind, gives_found]
  refine ⟨fun epoch common => ?_, fun _ => same3.accounts⟩
  refine gives_after (stays_now R) same3 stops fun timestamp s4 same4 => ?_
  refine gives_after (stays_each (fun org => stays_identityAudit R org _ _ _ audit _) _)
    same4 stops fun auditRecords s5 same5 => ?_
  have users3 := same3.accounts.users
  obtain ⟨users5, sessions5, drawn⟩ := same5.accounts
  simp only [gives_bind, gives_changeStore, gives_revokeSessions, gives_pushAudits, gives_pure]
  refine ⟨?_, ?_, drawn⟩
  · have change := @IdentityChange.rotated s.users userId passwordHash audit epoch
      (users3 ▸ commonEpoch_some common)
    rw [← users5] at change
    exact users5 ▸ change
  · exact ⟨_, _, by rw [← sessions5]⟩

theorem disableUser_steps (R : Runtime) (userId : String)
    (audit : SystemIdentityMutationAuditContext) :
    Steps (.disableUser userId audit) (disableUserAndAudit R userId audit) := by
  intro s
  have stops : ∀ (e : Halt) s', Untouched s s' → SameAccounts s s' := fun _ _ => Untouched.accounts
  unfold disableUserAndAudit
  refine gives_after (stays_identityMutationReason audit) (Std.Refl.refl s) stops fun _ s1 same1 => ?_
  refine gives_after (stays_look _) same1 stops fun organizationIds s2 same2 => ?_
  rw [gives_bind, gives_found]
  refine ⟨fun epoch common => ?_, fun _ => same2.accounts⟩
  rw [gives_bind, gives_look, gives_bind, gives_refuseIf]
  refine ⟨fun kept => ?_, fun _ => same2.accounts⟩
  refine gives_after (stays_now R) same2 stops fun timestamp s3 same3 => ?_
  refine gives_after (stays_each (fun org => stays_identityAudit R org _ _ _ audit _) _)
    same3 stops fun auditRecords s4 same4 => ?_
  have users2 := same2.accounts.users
  obtain ⟨users4, sessions4, drawn⟩ := same4.accounts
  have others : ∀ user ∈ s2.users, user.id = userId → EnabledOwner user →
      OtherOwner s2.users user.organizationId userId := by
    intro user member own owner
    have listed : user ∈ memberships s2.toMemoryStore userId :=
      List.mem_filter.mpr ⟨member, beq_iff_eq.mpr own⟩
    have last := List.any_eq_false.mp kept user listed
    exact not_last (Bool.eq_false_iff.mpr last) owner
  simp only [gives_bind, gives_changeStore, gives_revokeSessions, gives_pushAudits, gives_pure]
  refine ⟨?_, ?_, drawn⟩
  · have change := @IdentityChange.disabled s.users userId audit epoch timestamp
      (users2 ▸ commonEpoch_some common) (users2 ▸ others)
    rw [← users4] at change
    exact users4 ▸ change
  · exact ⟨_, _, by rw [← sessions4]⟩

theorem changeMembershipRole_steps (R : Runtime) (organizationId userId : String) (role : Role)
    (audit : SystemIdentityMutationAuditContext) :
    Steps (.changeMembershipRole organizationId userId role audit)
      (changeMembershipRoleAndAudit R organizationId userId role audit) := by
  intro s
  have stops : ∀ (e : Halt) s', Untouched s s' → SameAccounts s s' := fun _ _ => Untouched.accounts
  unfold changeMembershipRoleAndAudit
  refine gives_after (stays_identityMutationReason audit) (Std.Refl.refl s) stops fun _ s1 same1 => ?_
  rw [gives_bind, gives_found]
  refine ⟨fun membership own => ?_, fun _ => same1.accounts⟩
  rw [gives_bind, gives_look, gives_bind, gives_refuseIf]
  refine ⟨fun kept => ?_, fun _ => same1.accounts⟩
  refine gives_after (stays_now R) same1 stops fun timestamp s2 same2 => ?_
  refine gives_after (stays_identityAudit R _ _ _ _ audit _) same2 stops
    fun auditRecord s3 same3 => ?_
  have users1 := same1.accounts.users
  obtain ⟨users3, sessions3, drawn⟩ := same3.accounts
  have others : role ≠ .owner → EnabledOwner membership →
      OtherOwner s1.users organizationId userId := by
    intro other owner
    have last : isLastOwner s1.toMemoryStore userId membership = false := by
      simpa [other] using kept
    have here := List.find?_some own
    unfold isMembership at here
    simp only [Bool.and_eq_true, beq_iff_eq] at here
    exact here.2 ▸ not_last last owner
  simp only [gives_bind, gives_changeStore, gives_revokeSessions, gives_pushAudits]
  refine ⟨?_, ?_, drawn⟩
  · have change := @IdentityChange.roleChanged s.users organizationId userId role audit
      membership (users1 ▸ own) (users1 ▸ others)
    rw [← users3] at change
    exact users3 ▸ change
  · exact ⟨_, _, by rw [← sessions3]⟩

theorem removeMembership_steps (R : Runtime) (organizationId userId : String)
    (audit : SystemIdentityMutationAuditContext) :
    Steps (.removeMembership organizationId userId audit)
      (removeMembershipAndAudit R organizationId userId audit) := by
  intro s
  have stops : ∀ (e : Halt) s', Untouched s s' → SameAccounts s s' := fun _ _ => Untouched.accounts
  unfold removeMembershipAndAudit
  refine gives_after (stays_identityMutationReason audit) (Std.Refl.refl s) stops fun _ s1 same1 => ?_
  rw [gives_bind, gives_found]
  refine ⟨fun membership own => ?_, fun _ => same1.accounts⟩
  rw [gives_bind, gives_look, gives_bind, gives_refuseIf]
  refine ⟨fun kept => ?_, fun _ => same1.accounts⟩
  refine gives_after (stays_now R) same1 stops fun timestamp s2 same2 => ?_
  refine gives_after (stays_identityAudit R _ _ _ _ audit _) same2 stops
    fun auditRecord s3 same3 => ?_
  have users1 := same1.accounts.users
  obtain ⟨users3, sessions3, drawn⟩ := same3.accounts
  have others : EnabledOwner membership → OtherOwner s1.users organizationId userId := by
    intro owner
    have here := List.find?_some own
    unfold isMembership at here
    simp only [Bool.and_eq_true, beq_iff_eq] at here
    exact here.2 ▸ not_last kept owner
  simp only [gives_bind, gives_changeStore, gives_revokeSessions, gives_pushAudits]
  refine ⟨?_, ?_, drawn⟩
  · have change := @IdentityChange.removed s.users organizationId userId audit
      membership (users1 ▸ own) (users1 ▸ others)
    rw [← users3] at change
    exact users3 ▸ change
  · exact ⟨_, _, by rw [← sessions3]⟩

theorem identity_steps (R : Runtime) (call : IdentityCall) : Steps call (call.perform R) := by
  intro s
  cases call with
  | rotateUserPassword userId passwordHash audit =>
    simp only [IdentityCall.perform, gives_bind, gives_pure]
    exact rotateUserPassword_steps R userId passwordHash audit s
  | disableUser userId audit =>
    simp only [IdentityCall.perform, gives_bind, gives_pure]
    exact disableUser_steps R userId audit s
  | changeMembershipRole organizationId userId role audit =>
    exact changeMembershipRole_steps R organizationId userId role audit s
  | removeMembership organizationId userId audit =>
    exact removeMembership_steps R organizationId userId audit s

/-! ## What one call keeps -/

section
variable {users : List SessionUser} {p : SessionUser → Bool} {f : SessionUser → SessionUser}

/-- A change of members keeps the owners, if it keeps each enabled owner or leaves another. -/
theorem owned_changeWhere (owned : Owned users)
    (organization : ∀ user, (f user).organizationId = user.organizationId)
    (owner : ∀ user ∈ users, p user = true → EnabledOwner user → EnabledOwner (f user) ∨
      ∃ other ∈ users, p other = false ∧ other.organizationId = user.organizationId ∧
        EnabledOwner other) : Owned (changeWhere p f users) := by
  have same : ∀ user, (if p user then f user else user).organizationId = user.organizationId := by
    intro user
    split
    · exact organization user
    · rfl
  intro changed member
  obtain ⟨user, before, rfl⟩ := mem_changeWhere.mp member
  obtain ⟨x, hx, org, enabled⟩ := owned user before
  by_cases changed : p x = true
  · rcases owner x hx changed enabled with still | ⟨other, ho, unchanged, org', enabled'⟩
    · refine ⟨f x, mem_changeWhere.mpr ⟨x, hx, by rw [if_pos changed]⟩, ?_, still⟩
      rw [same, organization, org]
    · refine ⟨other, mem_changeWhere.mpr ⟨other, ho, ?_⟩, ?_, enabled'⟩
      · rw [if_neg (Bool.eq_false_iff.mp unchanged)]
      · rw [same, org', org]
  · refine ⟨x, mem_changeWhere.mpr ⟨x, hx, by rw [if_neg changed]⟩, ?_, enabled⟩
    rw [same, org]

/-- Members can leave, if each enabled owner who leaves has another who stays. -/
theorem owned_filter (owned : Owned users)
    (owner : ∀ user ∈ users, p user = true → EnabledOwner user →
      ∃ other ∈ users, p other = false ∧ other.organizationId = user.organizationId ∧
        EnabledOwner other) : Owned (users.filter fun user => !p user) := by
  intro member stays
  obtain ⟨x, hx, org, enabled⟩ := owned member (List.mem_of_mem_filter stays)
  by_cases leaves : p x = true
  · obtain ⟨other, ho, staysToo, org', enabled'⟩ := owner x hx leaves enabled
    exact ⟨other, List.mem_filter.mpr ⟨ho, by rw [staysToo]; rfl⟩, org'.trans org, enabled'⟩
  · refine ⟨x, List.mem_filter.mpr ⟨hx, ?_⟩, org, enabled⟩
    rw [Bool.eq_false_iff.mpr leaves]
    rfl

theorem epochsAgree_changeWhere {userId : String} (agree : EpochsAgree users userId)
    (id : ∀ user, (f user).id = user.id)
    (epoch : ∀ user ∈ users, user.id = userId → p user = true →
      (f user).authenticationEpoch = user.authenticationEpoch) :
    EpochsAgree (changeWhere p f users) userId := by
  have kept : ∀ user ∈ users, (if p user then f user else user).id = userId → user.id = userId ∧
      (if p user then f user else user).authenticationEpoch = user.authenticationEpoch := by
    intro user member own
    split at own
    · rename_i changed
      rw [id] at own
      exact ⟨own, by rw [if_pos changed, epoch user member own changed]⟩
    · rename_i unchanged
      exact ⟨own, by rw [if_neg unchanged]⟩
  intro x' hx' y' hy' ownX ownY
  obtain ⟨x, hx, rfl⟩ := mem_changeWhere.mp hx'
  obtain ⟨y, hy, rfl⟩ := mem_changeWhere.mp hy'
  obtain ⟨ownX, epochX⟩ := kept x hx ownX
  obtain ⟨ownY, epochY⟩ := kept y hy ownY
  rw [epochX, epochY]
  exact agree x hx y hy ownX ownY

/-- A change that gives every membership of a user one epoch. -/
theorem epochsAgree_of_change {userId target : String} {epoch : Nat}
    (agree : EpochsAgree users userId) (id : ∀ user, (f user).id = user.id)
    (given : ∀ user, (f user).authenticationEpoch = epoch) :
    EpochsAgree (changeWhere (fun user => user.id == target) f users) userId := by
  by_cases own : userId = target
  · have all : ∀ x ∈ changeWhere (fun user => user.id == target) f users, x.id = userId →
        x.authenticationEpoch = epoch := by
      intro x' hx' ownX
      obtain ⟨x, hx, rfl⟩ := mem_changeWhere.mp hx'
      by_cases target' : (x.id == target) = true
      · rw [if_pos target', given]
      · rw [if_neg target'] at ownX
        exact absurd (beq_iff_eq.mpr (ownX.trans own)) target'
    intro x hx y hy ownX ownY
    rw [all x hx ownX, all y hy ownY]
  · refine epochsAgree_changeWhere agree id ?_
    intro user _ same target'
    exact absurd (same.symm.trans (beq_iff_eq.mp target')) own

end

/-- The one membership of a user in an organization. -/
theorem Unique.membership {users : List SessionUser} {organizationId userId : String}
    {membership user : SessionUser} (unique : Unique users)
    (own : users.find? (isMembership organizationId userId) = some membership)
    (member : user ∈ users) (same : isMembership organizationId userId user = true) :
    user = membership := by
  have found := List.find?_some own
  unfold isMembership at found same
  simp only [Bool.and_eq_true, beq_iff_eq] at found same
  refine unique.eq member (List.mem_of_find?_eq_some own) ?_
  simp only [found.1, found.2, same.1, same.2]

/-- Another owner of an organization is none of the memberships of the user. -/
theorem OtherOwner.stays {users : List SessionUser} {organizationId userId : String}
    (others : OtherOwner users organizationId userId) (org : String) :
    ∃ other ∈ users, isMembership org userId other = false ∧
      other.organizationId = organizationId ∧ EnabledOwner other := by
  obtain ⟨other, member, organization, apart, enabled⟩ := others
  refine ⟨other, member, ?_, organization, enabled⟩
  unfold isMembership
  rw [beq_eq_false_iff_ne.mpr apart, Bool.false_and]

namespace IdentityChange

variable {users users' : List SessionUser} {call : IdentityCall}

theorem unique (change : IdentityChange users call users') (unique : Unique users) :
    Unique users' := by
  cases change with
  | rotated | disabled | roleChanged => exact KeysUnique.changeWhere unique _ fun _ => rfl
  | removed => exact KeysUnique.filter unique _

theorem owned (change : IdentityChange users call users') (unique : Unique users)
    (owned : Owned users) : Owned users' := by
  cases change with
  | rotated userId passwordHash audit epoch common =>
    exact owned_changeWhere owned (fun _ => rfl) fun user _ _ enabled => .inl enabled
  | disabled userId audit epoch timestamp common others =>
    refine owned_changeWhere owned (fun _ => rfl) fun user member own enabled => .inr ?_
    obtain ⟨other, ho, organization, apart, enabled'⟩ :=
      others user member (beq_iff_eq.mp own) enabled
    exact ⟨other, ho, beq_eq_false_iff_ne.mpr apart, organization, enabled'⟩
  | roleChanged organizationId userId role audit membership own others =>
    refine owned_changeWhere owned (fun _ => rfl) fun user member here enabled => ?_
    obtain rfl := unique.membership own member here
    by_cases still : role = .owner
    · exact .inl ⟨still, enabled.2⟩
    · have organization : user.organizationId = organizationId := by
        unfold isMembership at here
        simp only [Bool.and_eq_true, beq_iff_eq] at here
        exact here.2
      exact .inr (organization ▸ (others still enabled).stays organizationId)
  | removed organizationId userId audit membership own others =>
    refine owned_filter owned fun user member here enabled => ?_
    obtain rfl := unique.membership own member here
    have organization : user.organizationId = organizationId := by
      unfold isMembership at here
      simp only [Bool.and_eq_true, beq_iff_eq] at here
      exact here.2
    exact organization ▸ (others enabled).stays organizationId

theorem epochsAgree {userId : String} (change : IdentityChange users call users')
    (agree : EpochsAgree users userId) : EpochsAgree users' userId := by
  cases change with
  | rotated | disabled => exact epochsAgree_of_change agree (fun _ => rfl) fun _ => rfl
  | roleChanged => exact epochsAgree_changeWhere agree (fun _ => rfl) fun _ _ _ _ => rfl
  | removed =>
    intro x hx y hy
    exact agree x (List.mem_of_mem_filter hx) y (List.mem_of_mem_filter hy)

end IdentityChange

/-! ## The law -/

/-- The calls one after the other, whatever becomes of each. -/
def performAll (R : Runtime) : List IdentityCall → AuditedStore → AuditedStore
  | [], s => s
  | call :: rest, s => performAll R rest (call.perform R s).2

theorem one_call (R : Runtime) (call : IdentityCall) (s : AuditedStore) :
    IdentityChange s.users call (call.perform R s).2.users ∨
      (call.perform R s).2.users = s.users := by
  have steps := identity_steps R call s
  rcases ran : call.perform R s with ⟨r, s'⟩
  cases r with
  | ok u => exact .inl (steps.ok ran).1
  | error e => exact .inr (steps.error ran).1

theorem call_keeps (R : Runtime) (call : IdentityCall) (s : AuditedStore) (unique : Unique s.users)
    (owned : Owned s.users) :
    Unique (call.perform R s).2.users ∧ Owned (call.perform R s).2.users ∧
      ∀ userId, EpochsAgree s.users userId → EpochsAgree (call.perform R s).2.users userId := by
  rcases one_call R call s with change | same
  · exact ⟨change.unique unique, change.owned unique owned, fun _ => change.epochsAgree⟩
  · rw [same]
    exact ⟨unique, owned, fun _ agree => agree⟩

/-- Whatever the calls and their order, an organization that has members keeps an enabled owner,
and a user whose memberships agreed on the authentication epoch still has one epoch. -/
theorem an_organization_keeps_an_owner (R : Runtime) (calls : List IdentityCall)
    (s : AuditedStore) (unique : Unique s.users) (owned : Owned s.users) :
    Owned (performAll R calls s).users ∧
      ∀ userId, EpochsAgree s.users userId →
        EpochsAgree (performAll R calls s).users userId := by
  induction calls generalizing s with
  | nil => exact ⟨owned, fun _ agree => agree⟩
  | cons call rest ih =>
    obtain ⟨unique', owned', agree'⟩ := call_keeps R call s unique owned
    obtain ⟨ownedAfter, agreeAfter⟩ := ih (call.perform R s).2 unique' owned'
    exact ⟨ownedAfter, fun userId agree => agreeAfter userId (agree' userId agree)⟩

/-! ## An example -/

/-- The clock stands at nine o'clock. -/
def cmsRuntime : Runtime := { cms with clock := fun _ => mondayAt 9 }

/-- A store with these users and nothing else. -/
def storeOf (users : List SessionUser) : AuditedStore :=
  { MemoryStore.seeded users with
    userSessions := [], emergencies := [], auditRecords := [], clockReads := 0 }

def onboarding : SystemIdentityMutationAuditContext :=
  { reason := "Onboarding", requestId := none }

/-- Ben takes over from Ann, who leaves. -/
def handover : List IdentityCall :=
  [.removeMembership "acme" "ann" onboarding, .changeMembershipRole "acme" "ben" .owner onboarding,
   .removeMembership "acme" "ann" onboarding]

theorem ben_is_an_owner_after_the_handover :
    ((performAll cmsRuntime handover (storeOf [member "ann" .owner, member "ben" .admin])).users.map
        fun user => (user.id, user.role)) = [("ben", .owner)] ∧
      Owned (performAll cmsRuntime handover
        (storeOf [member "ann" .owner, member "ben" .admin])).users := by
  refine ⟨by decide +kernel, (an_organization_keeps_an_owner cmsRuntime handover
    (storeOf [member "ann" .owner, member "ben" .admin]) ?_ ?_).1⟩
  · unfold Unique KeysUnique
    decide
  · unfold Owned EnabledOwner
    decide

/-- Ann is an owner of two organizations, with two epochs. -/
def twoEpochs : List SessionUser :=
  [member "ann" .owner,
   { member "ann" .owner with organizationId := "globex", authenticationEpoch := 1 }]

/-- The change of a password asks for one epoch, and does not make one of two. -/
theorem two_epochs_stay_two :
    ¬ ∀ (R : Runtime) (calls : List IdentityCall) (s : AuditedStore),
      Unique s.users → Owned s.users →
        Owned (performAll R calls s).users ∧
          ∀ userId, EpochsAgree (performAll R calls s).users userId := by
  intro claimed
  have unique : Unique (storeOf twoEpochs).users := by
    unfold Unique KeysUnique
    decide
  have owned : Owned (storeOf twoEpochs).users := by
    unfold Owned EnabledOwner
    decide
  have agree := (claimed cmsRuntime
    [.rotateUserPassword "ann" "$2b$12$C6UzMDM.H6dfI/f/IKcEe.82jG7y4g4AY8I8HibLFSWafVkx8S4hS"
      onboarding] (storeOf twoEpochs) unique owned).2 "ann"
  have stays : (performAll cmsRuntime
      [.rotateUserPassword "ann" "$2b$12$C6UzMDM.H6dfI/f/IKcEe.82jG7y4g4AY8I8HibLFSWafVkx8S4hS"
        onboarding] (storeOf twoEpochs)).users = twoEpochs := by decide +kernel
  rw [stays] at agree
  unfold EpochsAgree at agree
  revert agree
  decide

end screengoblin.server
