-- The operations on users come in two forms: as the runs of the releases take them, on the
-- collections alone, and with the sessions and the audit trail. An audited operation that completes
-- has changed the collections as the other form does at its reading of the clock.
import ScreenGoblin.OwnerContinuity

open js collections scripts scripts.Script screengoblin.schedule

namespace screengoblin.server

variable {R : Runtime} {s s' : AuditedStore} {α β : Type}

/-! ## Scripts that record -/

/-- The script changes no collection, and stops only with an error. -/
def Records (m : Operation α) : Prop :=
  ∀ s, Gives (fun _ s' => Untouched s s')
    (fun halt s' => Untouched s s' ∧ ∀ reason, halt ≠ .refused reason) m s

theorem records_bind {m : Operation α} {f : α → Operation β} (first : Records m)
    (rest : ∀ a, Records (f a)) : Records (m >>= f) := by
  intro s
  rw [gives_bind]
  apply (first s).imp
  · intro a s' same
    apply (rest a s').imp
    · intro b s'' same'
      exact IsTrans.trans _ _ _ same same'
    · rintro halt s'' ⟨same', isError⟩
      exact ⟨IsTrans.trans _ _ _ same same', isError⟩
  · intro halt s' stopped
    exact stopped

theorem records_pure (a : α) : Records (pure a) := by
  intro s
  rw [gives_pure]
  exact Std.Refl.refl s

theorem records_each {f : α → Operation β} (step : ∀ a, Records (f a)) (l : List α) :
    Records (each f l) := by
  induction l with
  | nil => exact records_pure []
  | cons a l ih =>
    exact records_bind (step a) fun b => records_bind ih fun bs => records_pure (b :: bs)

theorem records_identityMutationReason (audit : SystemIdentityMutationAuditContext) :
    Records (identityMutationReason audit) := by
  intro s
  unfold identityMutationReason
  dsimp only
  split
  · rw [gives_stop]
    exact ⟨Std.Refl.refl s, fun _ => Halt.noConfusion⟩
  · rw [gives_pure]
    exact Std.Refl.refl s

theorem records_buildAuditRecord (event : AuditEvent) : Records (buildAuditRecord R event) := by
  intro s
  unfold buildAuditRecord drawId now check
  simp only [gives_bind, gives_draw, gives_lift, gives_pure]
  have same : Untouched s
      { s with idsDrawn := s.idsDrawn + 1, clockReads := s.clockReads + 1 } :=
    ⟨rfl, Nat.le_succ _⟩
  refine ⟨fun _ _ => same, ?_⟩
  intro halt stopped
  refine ⟨same, ?_⟩
  cases accepted : assertAuditEventIntegrity event with
  | ok _ =>
    rw [accepted] at stopped
    cases stopped
  | error message =>
    rw [accepted] at stopped
    cases stopped
    exact fun _ => Halt.noConfusion

theorem records_identityAudit (organizationId action entityType entityId : String)
    (audit : SystemIdentityMutationAuditContext) (metadata : List (String × Value)) :
    Records (identityAudit R organizationId action entityType entityId audit metadata) :=
  records_bind (records_identityMutationReason audit) fun _ => records_buildAuditRecord _

/-! ## The two forms -/

/-- The operation makes one store of the other, but for the identifiers that are drawn. -/
def Made (operation : MemoryStore → MemoryStore × Except String Unit) (s s' : AuditedStore) :
    Prop :=
  operation s.toMemoryStore = ({ s'.toMemoryStore with idsDrawn := s.idsDrawn }, .ok ())

/-- From the first store on, an audited form completes if the operation does, and refuses with its
reason. An error comes before the change or after it. -/
def DoesAs (operation : MemoryStore → MemoryStore × Except String Unit) (first : AuditedStore)
    (m : Operation α) (s : AuditedStore) : Prop :=
  Gives (fun _ s' => Made operation first s')
    (fun halt s' => match halt with
      | .refused reason =>
        Untouched first s' ∧ operation first.toMemoryStore = (first.toMemoryStore, .error reason)
      | .threw _ => Untouched first s' ∨ Made operation first s') m s

section forms

variable {operation : MemoryStore → MemoryStore × Except String Unit} {first : AuditedStore}

theorem Untouched.store (same : Untouched s s') :
    { s'.toMemoryStore with idsDrawn := s.idsDrawn } = s.toMemoryStore :=
  congrArg (fun c : AuditedStore => { c.toMemoryStore with idsDrawn := s.idsDrawn })
    same.collections

/-- The records of a form are built before its change. -/
theorem doesAs_after {m : Operation β} {f : β → Operation α} (records : Records m)
    (before : Untouched first s)
    (rest : ∀ b s', Untouched first s' → DoesAs operation first (f b) s') :
    DoesAs operation first (m >>= f) s := by
  unfold DoesAs
  rw [gives_bind]
  apply (records s).imp
  · intro b s' same
    exact rest b s' (IsTrans.trans _ _ _ before same)
  · rintro halt s' ⟨same, isError⟩
    cases halt with
    | refused reason => exact absurd rfl (isError reason)
    | threw message => exact Or.inl (IsTrans.trans _ _ _ before same)

/-- The reason of the caller is read without a change. -/
theorem doesAs_reason {audit : SystemIdentityMutationAuditContext} {f : String → Operation α}
    (before : Untouched first s) (rest : ∀ reason, DoesAs operation first (f reason) s) :
    DoesAs operation first (identityMutationReason audit >>= f) s := by
  unfold DoesAs
  rw [gives_bind]
  unfold identityMutationReason
  dsimp only
  split
  · rw [gives_stop]
    exact Or.inl before
  · rw [gives_pure]
    exact rest _

theorem doesAs_approved {passwordHash : String} {f : Unit → Operation α}
    (before : Untouched first s) (rest : DoesAs operation first (f ()) s) :
    DoesAs operation first (approvePasswordHash passwordHash >>= f) s := by
  unfold DoesAs approvePasswordHash
  rw [gives_bind, gives_ensure]
  exact ⟨fun _ => rest, fun _ => Or.inl before⟩

theorem doesAs_found {value : AuditedStore → Option β} {reason : String} {f : β → Operation α}
    (before : Untouched first s)
    (rest : ∀ b, value s = some b → DoesAs operation first (f b) s)
    (refused : value s = none →
      operation first.toMemoryStore = (first.toMemoryStore, .error reason)) :
    DoesAs operation first (found value reason >>= f) s := by
  unfold DoesAs
  rw [gives_bind, gives_found]
  exact ⟨rest, fun none => ⟨before, refused none⟩⟩

theorem doesAs_refuseIf {test : Bool} {reason : String} {f : Unit → Operation α}
    (before : Untouched first s) (rest : test = false → DoesAs operation first (f ()) s)
    (refused : test = true →
      operation first.toMemoryStore = (first.toMemoryStore, .error reason)) :
    DoesAs operation first (refuseIf test reason >>= f) s := by
  unfold DoesAs
  rw [gives_bind, gives_refuseIf]
  exact ⟨rest, fun yes => ⟨before, refused yes⟩⟩

theorem doesAs_look {value : AuditedStore → β} {f : β → Operation α}
    (rest : DoesAs operation first (f (value s)) s) :
    DoesAs operation first (look value >>= f) s := by
  unfold DoesAs
  rw [gives_bind, gives_look]
  exact rest

theorem doesAs_now {f : Int → Operation α}
    (rest : ∀ s', Untouched s s' → DoesAs operation s (f (R.clock s.clockReads)) s') :
    DoesAs operation s (now R >>= f) s := by
  unfold DoesAs now
  rw [gives_bind, gives_draw]
  exact rest _ ⟨rfl, le_refl _⟩

/-- The records of a form are built after its change. -/
theorem doesAs_made {m : Operation (List AuditRecord)} {f : List AuditRecord → Operation α}
    (records : Records m) (made : Made operation first s)
    (rest : ∀ auditRecords s', Made operation first s' →
      DoesAs operation first (f auditRecords) s') : DoesAs operation first (m >>= f) s := by
  have kept : ∀ s', Untouched s s' → Made operation first s' := by
    intro s' same
    have stores : { s'.toMemoryStore with idsDrawn := first.idsDrawn } =
        { s.toMemoryStore with idsDrawn := first.idsDrawn } :=
      congrArg (fun c : AuditedStore => { c.toMemoryStore with idsDrawn := first.idsDrawn })
        same.collections
    unfold Made at *
    rw [stores]
    exact made
  unfold DoesAs
  rw [gives_bind]
  apply (records s).imp
  · intro auditRecords s' same
    exact rest auditRecords s' (kept s' same)
  · rintro halt s' ⟨same, isError⟩
    cases halt with
    | refused reason => exact absurd rfl (isError reason)
    | threw message => exact Or.inr (kept s' same)

end forms

/-! ## The identities -/

/-- A call as the runs of the releases take it. -/
def IdentityCall.operation (timestamp : Int) :
    IdentityCall → MemoryStore → MemoryStore × Except String Unit
  | .rotateUserPassword userId passwordHash _ =>
    server.rotateUserPassword timestamp userId passwordHash
  | .disableUser userId _ => server.disableUser timestamp userId
  | .changeMembershipRole organizationId userId role _ =>
    server.changeMembershipRole timestamp organizationId userId role
  | .removeMembership organizationId userId _ =>
    server.removeMembership timestamp organizationId userId

/-- Only the organizations count, not their order. -/
theorem revokePendingIssuerGrants_affected (userId : String) (timestamp : Int)
    (s : AuditedStore) :
    revokePendingIssuerGrants userId (affectedOrganizationIds s userId) timestamp =
      revokePendingIssuerGrants userId (organizationsOf s.toMemoryStore userId) timestamp := by
  have same : ∀ org, (affectedOrganizationIds s userId).contains org =
      (organizationsOf s.toMemoryStore userId).contains org := by
    intro org
    rw [Bool.eq_iff_iff, List.contains_iff_mem, List.contains_iff_mem]
    unfold affectedOrganizationIds organizationsOf
    rw [mem_sortedSet, List.mem_dedup]
  funext store
  unfold revokePendingIssuerGrants
  simp only [same]

theorem lastOwner_any (s : MemoryStore) (userId : String) :
    ((memberships s userId).any fun membership =>
      membership.disabledAt.isNone && membership.role == .owner &&
        !hasOtherActiveOwner s membership.organizationId userId) =
      (memberships s userId).any (isLastOwner s userId) := by
  congr 1
  funext membership
  unfold isLastOwner
  ac_rfl

theorem organization_of_find {users : List SessionUser} {organizationId userId : String}
    {membership : SessionUser}
    (own : users.find? (isMembership organizationId userId) = some membership) :
    membership.organizationId = organizationId := by
  have here := List.find?_some own
  unfold isMembership at here
  simp only [Bool.and_eq_true, beq_iff_eq] at here
  exact here.2

theorem rotateUserPassword_agrees (userId passwordHash : String)
    (audit : SystemIdentityMutationAuditContext) (s : AuditedStore) :
    DoesAs (rotateUserPassword (R.clock s.clockReads) userId passwordHash) s
      (rotateUserPasswordAndAudit R userId passwordHash audit) s := by
  unfold rotateUserPasswordAndAudit
  refine doesAs_approved (Std.Refl.refl s) (doesAs_reason (Std.Refl.refl s) fun reason => ?_)
  refine doesAs_look (doesAs_found (Std.Refl.refl s) ?_ ?_)
  · intro epoch common
    refine doesAs_now fun s1 same1 => ?_
    refine doesAs_after (records_each (fun org => records_identityAudit org _ _ _ audit _) _) same1
      fun auditRecords s2 same2 => ?_
    unfold DoesAs Made
    simp only [gives_bind, gives_changeStore, gives_revokeSessions, gives_pushAudits, gives_pure]
    rw [revokePendingIssuerGrants_affected]
    unfold rotateUserPassword
    rw [common]
    dsimp only
    rw [← same2.store]
    rfl
  · intro none
    unfold rotateUserPassword
    rw [none]

theorem disableUser_agrees (userId : String) (audit : SystemIdentityMutationAuditContext)
    (s : AuditedStore) :
    DoesAs (disableUser (R.clock s.clockReads) userId) s
      (disableUserAndAudit R userId audit) s := by
  unfold disableUserAndAudit
  refine doesAs_reason (Std.Refl.refl s) fun reason => doesAs_look ?_
  refine doesAs_found (Std.Refl.refl s) ?_ ?_
  · intro epoch common
    refine doesAs_look (doesAs_refuseIf (Std.Refl.refl s) ?_ ?_)
    · intro kept
      refine doesAs_now fun s1 same1 => ?_
      refine doesAs_after (records_each (fun org => records_identityAudit org _ _ _ audit _) _)
        same1 fun auditRecords s2 same2 => ?_
      unfold DoesAs Made
      simp only [gives_bind, gives_changeStore, gives_revokeSessions, gives_pushAudits, gives_pure]
      rw [revokePendingIssuerGrants_affected]
      unfold disableUser
      rw [common]
      dsimp only
      rw [lastOwner_any, if_neg (Bool.eq_false_iff.mp kept), ← same2.store]
      rfl
    · intro last
      unfold disableUser
      rw [common]
      dsimp only
      rw [lastOwner_any, if_pos last]
  · intro none
    unfold disableUser
    rw [none]

theorem changeMembershipRole_agrees (organizationId userId : String) (role : Role)
    (audit : SystemIdentityMutationAuditContext) (s : AuditedStore) :
    DoesAs (changeMembershipRole (R.clock s.clockReads) organizationId userId role) s
      (changeMembershipRoleAndAudit R organizationId userId role audit) s := by
  unfold changeMembershipRoleAndAudit
  refine doesAs_reason (Std.Refl.refl s) fun reason => doesAs_found (Std.Refl.refl s) ?_ ?_
  · intro membership own
    have last : (isLastOwner s.toMemoryStore userId membership && role != .owner) =
        (membership.role == .owner && role != .owner && membership.disabledAt.isNone &&
          !hasOtherActiveOwner s.toMemoryStore organizationId userId) := by
      unfold isLastOwner
      rw [organization_of_find own]
      ac_rfl
    refine doesAs_look (doesAs_refuseIf (Std.Refl.refl s) ?_ ?_)
    · intro kept
      refine doesAs_now fun s1 same1 => ?_
      refine doesAs_after (records_identityAudit _ _ _ _ audit _) same1
        fun auditRecord s2 same2 => ?_
      unfold DoesAs Made
      simp only [gives_bind, gives_changeStore, gives_revokeSessions, gives_pushAudits]
      unfold changeMembershipRole
      rw [own]
      dsimp only
      rw [← last, if_neg (Bool.eq_false_iff.mp kept), ← same2.store]
      rfl
    · intro isLast
      unfold changeMembershipRole
      rw [own]
      dsimp only
      rw [← last, if_pos isLast]
  · intro none
    unfold changeMembershipRole
    rw [none]

theorem removeMembership_agrees (organizationId userId : String)
    (audit : SystemIdentityMutationAuditContext) (s : AuditedStore) :
    DoesAs (removeMembership (R.clock s.clockReads) organizationId userId) s
      (removeMembershipAndAudit R organizationId userId audit) s := by
  unfold removeMembershipAndAudit
  refine doesAs_reason (Std.Refl.refl s) fun reason => doesAs_found (Std.Refl.refl s) ?_ ?_
  · intro membership own
    have last : isLastOwner s.toMemoryStore userId membership =
        (membership.role == .owner && membership.disabledAt.isNone &&
          !hasOtherActiveOwner s.toMemoryStore organizationId userId) := by
      unfold isLastOwner
      rw [organization_of_find own]
    refine doesAs_look (doesAs_refuseIf (Std.Refl.refl s) ?_ ?_)
    · intro kept
      refine doesAs_now fun s1 same1 => ?_
      refine doesAs_after (records_identityAudit _ _ _ _ audit _) same1
        fun auditRecord s2 same2 => ?_
      unfold DoesAs Made
      simp only [gives_bind, gives_changeStore, gives_revokeSessions, gives_pushAudits]
      unfold removeMembership
      rw [own]
      dsimp only
      rw [← last, if_neg (Bool.eq_false_iff.mp kept), ← same2.store]
      rfl
    · intro isLast
      unfold removeMembership
      rw [own]
      dsimp only
      rw [← last, if_pos isLast]
  · intro none
    unfold removeMembership
    rw [none]

/-- Each call on an identity changes the collections as its other form does at its reading of the
clock. -/
theorem identity_agrees (call : IdentityCall) (s : AuditedStore) :
    DoesAs (call.operation (R.clock s.clockReads)) s (call.perform R) s := by
  cases call with
  | rotateUserPassword userId passwordHash audit =>
    unfold DoesAs
    simp only [IdentityCall.perform, gives_bind, gives_pure]
    exact rotateUserPassword_agrees userId passwordHash audit s
  | disableUser userId audit =>
    unfold DoesAs
    simp only [IdentityCall.perform, gives_bind, gives_pure]
    exact disableUser_agrees userId audit s
  | changeMembershipRole organizationId userId role audit =>
    exact changeMembershipRole_agrees organizationId userId role audit s
  | removeMembership organizationId userId audit =>
    exact removeMembership_agrees organizationId userId audit s

/-! ## The rotation of a bootstrap password -/

/-- The expectations of a rotation, with the test of its session. -/
def BootstrapPasswordRotationInput.rotation (R : Runtime) (userId organizationId : String)
    (input : BootstrapPasswordRotationInput) (audit : UserMutationAuditContext) (timestamp : Int)
    (sessions : List UserSessionRecord) : BootstrapRotation :=
  { actorUserId := audit.actorUserId
    sessionIsCurrent :=
      (sessions.find? (isRotationSession R userId organizationId input timestamp)).any
        fun session => session.authenticationEpoch == input.expectedAuthenticationEpoch &&
          session.authorizationEpoch == input.expectedAuthorizationEpoch
    expectedPasswordHash := input.expectedPasswordHash
    expectedBootstrapPasswordExpiresAt := input.expectedBootstrapPasswordExpiresAt
    expectedAuthenticationEpoch := input.expectedAuthenticationEpoch
    expectedAuthorizationEpoch := input.expectedAuthorizationEpoch
    passwordHash := input.passwordHash }

/-- The two forms ask the same of the memberships and of the session. -/
theorem rotation_fits {userId organizationId : String} {input : BootstrapPasswordRotationInput}
    {audit : UserMutationAuditContext} {timestamp : Int} {sessions : List UserSessionRecord}
    {session : UserSessionRecord} {own : List SessionUser} {current : SessionUser}
    (isSession : sessions.find? (isRotationSession R userId organizationId input timestamp) =
      some session) :
    let rotation := input.rotation R userId organizationId audit timestamp sessions
    (rotation.actorUserId == userId && rotation.sessionIsCurrent &&
      own.all (fun user => user.disabledAt.isNone &&
        user.passwordHash == rotation.expectedPasswordHash &&
        user.bootstrapPasswordExpiresAt == some rotation.expectedBootstrapPasswordExpiresAt &&
        user.authenticationEpoch == rotation.expectedAuthenticationEpoch) &&
      decide (timestamp < rotation.expectedBootstrapPasswordExpiresAt) &&
      current.authorizationEpoch == rotation.expectedAuthorizationEpoch) = true ↔
    (audit.actorUserId != userId || !own.all (asExpected input) ||
      decide (input.expectedBootstrapPasswordExpiresAt ≤ timestamp) ||
      current.authorizationEpoch != input.expectedAuthorizationEpoch ||
      session.authenticationEpoch != input.expectedAuthenticationEpoch ||
      session.authorizationEpoch != input.expectedAuthorizationEpoch) = false := by
  have expected : asExpected input = fun user => user.disabledAt.isNone &&
      user.passwordHash == input.expectedPasswordHash &&
      user.bootstrapPasswordExpiresAt == some input.expectedBootstrapPasswordExpiresAt &&
      user.authenticationEpoch == input.expectedAuthenticationEpoch := by
    funext user
    unfold asExpected
    rfl
  rw [expected]
  unfold BootstrapPasswordRotationInput.rotation
  rw [isSession]
  simp only [Option.any_some, Bool.and_eq_true, beq_iff_eq, decide_eq_true_eq,
    Bool.or_eq_false_iff, bne_eq_false_iff_eq, Bool.not_eq_false', decide_eq_false_iff_not, not_le]
  constructor
  · rintro ⟨⟨⟨⟨actor, authentication, authorization⟩, all⟩, unexpired⟩, epoch⟩
    exact ⟨⟨⟨⟨⟨actor, all⟩, unexpired⟩, epoch⟩, authentication⟩, authorization⟩
  · rintro ⟨⟨⟨⟨⟨actor, all⟩, unexpired⟩, epoch⟩, authentication⟩, authorization⟩
    exact ⟨⟨⟨⟨actor, authentication, authorization⟩, all⟩, unexpired⟩, epoch⟩

/-- A rotation of a bootstrap password changes the collections as its other form does, also when a
record of it cannot be built. -/
theorem rotateBootstrapPassword_agrees (userId organizationId : String)
    (input : BootstrapPasswordRotationInput) (audit : UserMutationAuditContext)
    (s : AuditedStore) :
    DoesAs (rotateBootstrapPassword (R.clock s.clockReads) userId organizationId
        (input.rotation R userId organizationId audit (R.clock s.clockReads) s.userSessions)) s
      (rotateBootstrapPasswordAndAudit R userId organizationId input audit) s := by
  unfold rotateBootstrapPasswordAndAudit
  refine doesAs_approved (Std.Refl.refl s) (doesAs_now fun s1 same1 => doesAs_look ?_)
  have users : memberships s1.toMemoryStore userId = memberships s.toMemoryStore userId := by
    unfold memberships
    rw [same1.accounts.users]
  have organizations : organizationsOf s1.toMemoryStore userId =
      organizationsOf s.toMemoryStore userId := by
    unfold organizationsOf
    rw [users]
  have sessions := same1.accounts.sessions
  refine doesAs_found same1 ?_ ?_
  · intro current isCurrent
    rw [users] at isCurrent
    refine doesAs_found same1 ?_ ?_
    · intro session isSession
      rw [sessions] at isSession
      rw [users]
      refine doesAs_refuseIf same1 ?_ ?_
      · intro kept
        have fits := (rotation_fits isSession).mpr kept
        refine doesAs_look ?_
        unfold DoesAs
        rw [gives_bind, gives_changeStore, gives_bind, gives_changeStore, gives_bind,
          gives_revokeSessions]
        refine doesAs_made (records_each (fun org => records_buildAuditRecord _) _) ?_
          fun auditRecords s' made => ?_
        · unfold Made rotateBootstrapPassword
          rw [isCurrent]
          dsimp only
          rw [if_pos fits, revokePendingIssuerGrants_affected, organizations, ← same1.store]
          rfl
        · unfold DoesAs
          simp only [gives_bind, gives_pushAudits, gives_pure]
          exact made
      · intro refused
        unfold rotateBootstrapPassword
        rw [isCurrent]
        dsimp only
        rw [if_neg]
        intro fits
        rw [(rotation_fits isSession).mp fits] at refused
        cases refused
    · intro none
      rw [sessions] at none
      unfold rotateBootstrapPassword BootstrapPasswordRotationInput.rotation
      rw [isCurrent, none]
      simp
  · intro none
    rw [users] at none
    unfold rotateBootstrapPassword
    rw [none]

end screengoblin.server
