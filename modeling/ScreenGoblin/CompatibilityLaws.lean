-- The policy of the roles and the evaluation of the stored grants agree after any changes of
-- roles, as long as the grants for the organization that were there at first, and that no change
-- has revoked, are in effect.
import ScreenGoblin.CompatibilityGrants

open js collections screengoblin.schedule screengoblin.server

namespace screengoblin.authorization

variable {P : GrantPlatform} {first db : AuthorityTables} {membership : MembershipRow}
  {instant : Int}

/-! ## Grants in effect -/

/-- The evaluation reads the instant back. Its year has four digits. -/
def ReadsBack (P : Platform) (instant : Int) : Prop :=
  canonicalUtcInstant (P.toISOString instant) = true

/-- The grant has started and has not ended. -/
def Runs (instant : Int) (grant : AccessGrantRow) : Prop :=
  grant.startsAt ≤ instant ∧ ∀ expiresAt, grant.expiresAt = some expiresAt → instant < expiresAt

/-- The evaluation takes the grant for one that runs. -/
structure InEffect (P : Platform) (instant : Int) (grant : AccessGrantRow) : Prop where
  runs : Runs instant grant
  named : grant.id ≠ ""
  readable : ReadsBack P grant.startsAt
  readableEnd : ∀ expiresAt, grant.expiresAt = some expiresAt → ReadsBack P expiresAt

/-- The grant is an unrevoked one of the membership, for the capability in the organization. -/
def Grants (membership : MembershipRow) (capability : Capability) (grant : AccessGrantRow) : Prop :=
  isActiveOrganizationGrant membership grant = true ∧ grant.capability = capability.text

/-- Each membership has a grant that runs for each capability of its role. -/
def EachRoleGranted (db : AuthorityTables) (instant : Int) : Prop :=
  ∀ membership ∈ db.memberships, ∀ capability ∈ COMPATIBILITY_GRANT_CAPABILITIES membership.role,
    ∃ grant ∈ db.grants, Grants membership capability grant ∧ Runs instant grant

/-! ## The invariant -/

/-- What the changes of roles keep. An unrevoked grant was there at first, or is in effect. -/
structure Mirrors (P : GrantPlatform) (first : AuthorityTables) (instant : Int)
    (db : AuthorityTables) : Prop where
  ids : KeysUnique AccessGrantRow.id db.grants
  known : ∀ grant ∈ db.grants, grant.revokedAt = none →
    grant ∈ first.grants ∨ InEffect P.toPlatform instant grant
  granted : ∀ membership ∈ db.memberships,
    ∀ capability ∈ COMPATIBILITY_GRANT_CAPABILITIES membership.role,
      ∃ grant ∈ db.grants, Grants membership capability grant
  memberships : KeysUnique MembershipRow.id db.memberships
  epochs : ∀ membership ∈ db.memberships, membership.authorizationEpoch ≤ maxInteger

theorem grantsAccepted_ids {grants : List AccessGrantRow}
    (accepted : grantsAccepted grants = true) : KeysUnique AccessGrantRow.id grants := by
  unfold grantsAccepted at accepted
  simp only [Bool.and_eq_true, decide_eq_true_eq] at accepted
  exact accepted.1.2

theorem Mirrors.initially (holds : TablesHold first) {start : Int}
    (granted : EachRoleGranted first start) : Mirrors P first instant first where
  ids := grantsAccepted_ids holds.grants
  known := fun _ here _ => .inl here
  granted := by
    intro membership here capability within
    obtain ⟨grant, isGrant, grants, _⟩ := granted membership here capability within
    exact ⟨grant, isGrant, grants⟩
  memberships := holds.memberships
  epochs := holds.epochs

/-! ## One change of a role -/

theorem compatibilityGrant_inEffect {databaseNow : Int} {capability : Capability}
    (readable : ReadsBack P.toPlatform databaseNow) (past : databaseNow ≤ instant) :
    InEffect P.toPlatform instant (compatibilityGrant P membership databaseNow capability) where
  runs := ⟨past, fun _ never => by cases never⟩
  named := by simp [compatibilityGrant, compatibilityGrantId]
  readable := readable
  readableEnd := by
    intro expiresAt never
    cases never

theorem compatibilityGrant_grants {databaseNow : Int} {capability : Capability} :
    Grants membership capability (compatibilityGrant P membership databaseNow capability) := by
  constructor
  · simp [isActiveOrganizationGrant, isOfMembership, compatibilityGrant]
  · rfl

/-- A grant of another membership is none of this one's. -/
theorem isOfMembership_other {other : MembershipRow} {grant : AccessGrantRow}
    (different : other.id ≠ membership.id) (isOther : isOfMembership other grant = true) :
    isOfMembership membership grant = false := by
  unfold isOfMembership at *
  simp only [Bool.and_eq_true, beq_iff_eq] at isOther
  rw [isOther.2]
  simp [different]

/-- What a replacement leaves: the grants of the other memberships and a grant for each capability
of the role. Each unrevoked grant is an old one, or new. -/
theorem replaceCompatibilityGrants_spec {role : Role} {databaseNow : Int}
    {grants after : List AccessGrantRow}
    (replaced : replaceCompatibilityGrants P membership role databaseNow grants = some after) :
    KeysUnique AccessGrantRow.id after ∧
    (∀ grant ∈ after, grant.revokedAt = none → grant ∈ grants ∨
      ∃ capability, grant = compatibilityGrant P membership databaseNow capability) ∧
    (∀ capability ∈ COMPATIBILITY_GRANT_CAPABILITIES role,
      ∃ grant ∈ after, Grants membership capability grant) ∧
    (∀ grant ∈ grants, isOfMembership membership grant = false → grant ∈ after) := by
  unfold replaceCompatibilityGrants at replaced
  dsimp only at replaced
  split at replaced
  case isFalse => cases replaced
  next accepted =>
  cases replaced
  refine ⟨grantsAccepted_ids accepted, ?_, ?_, ?_⟩
  · intro grant here unrevoked
    rcases List.mem_append.mp here with kept | new
    · left
      obtain ⟨old, isOld, rfl⟩ := mem_changeWhere.mp kept
      by_cases system : isCompatibilityGrant membership old = true
      · rw [if_pos system] at unrevoked
        cases unrevoked
      · rw [if_neg system]
        exact isOld
    · right
      obtain ⟨capability, _, rfl⟩ := List.mem_map.mp new
      exact ⟨capability, rfl⟩
  · intro capability within
    by_cases covered : ((changeWhere (isCompatibilityGrant membership) (revokedGrant databaseNow)
        grants).filter (isActiveOrganizationGrant membership)).map (·.capability) |>.contains
          capability.text
    · obtain ⟨grant, isCovering, same⟩ := List.mem_map.mp (List.contains_iff_mem.mp covered)
      obtain ⟨here, active⟩ := List.mem_filter.mp isCovering
      exact ⟨grant, List.mem_append_left _ here, active, same⟩
    · refine ⟨compatibilityGrant P membership databaseNow capability,
        List.mem_append_right _ ?_, compatibilityGrant_grants⟩
      apply List.mem_map_of_mem
      apply List.mem_filter.mpr
      exact ⟨within, by simpa using covered⟩
  · intro grant here other
    apply List.mem_append_left
    apply mem_changeWhere.mpr
    refine ⟨grant, here, ?_⟩
    rw [if_neg]
    simp [isCompatibilityGrant, other]

/-- What a call can do: nothing, or replace the grants of a membership with its role. -/
theorem changeMembershipRoleAndAudit_cases (P : GrantPlatform) (call : RoleChange)
    (db : AuthorityTables) :
    (changeMembershipRoleAndAudit P call db).1 = db ∨
    ∃ membership ∈ db.memberships, ∃ grants,
      replaceCompatibilityGrants P membership call.role call.databaseNow db.grants = some grants ∧
      membership.authorizationEpoch + 1 ≤ maxInteger ∧
      (changeMembershipRoleAndAudit P call db).1 =
        { db with
          grants
          memberships := changeWhere (fun other => other.id == membership.id)
            (fun other => { other with
              role := call.role, authorizationEpoch := other.authorizationEpoch + 1 })
            db.memberships } := by
  unfold changeMembershipRoleAndAudit
  split
  · exact .inl rfl
  split
  · exact .inl rfl
  split
  · exact .inl rfl
  next membership actor found =>
  split
  · exact .inl rfl
  split
  · exact .inl rfl
  next grants replaced =>
  split
  · exact .inl rfl
  next fits =>
  right
  have here : membership ∈ db.memberships := by
    unfold findMember at found
    simp only [Option.bind_eq_bind, Option.bind_eq_some_iff, Option.pure_def, Option.some.injEq,
      Prod.mk.injEq] at found
    obtain ⟨other, isMember, _, _, rfl, _⟩ := found
    exact List.mem_of_find?_eq_some isMember
  exact ⟨membership, here, grants, replaced, not_lt.mp fits, rfl⟩

theorem Mirrors.change (h : Mirrors P first instant db) {call : RoleChange}
    (readable : ReadsBack P.toPlatform call.databaseNow) (past : call.databaseNow ≤ instant) :
    Mirrors P first instant (changeMembershipRoleAndAudit P call db).1 := by
  rcases changeMembershipRoleAndAudit_cases P call db with same |
    ⟨membership, here, grants, replaced, fits, same⟩
  · rw [same]
    exact h
  rw [same]
  obtain ⟨ids, unrevoked, granted, others⟩ := replaceCompatibilityGrants_spec replaced
  refine ⟨ids, ?_, ?_, ?_, ?_⟩
  · intro grant isGrant live
    rcases unrevoked grant isGrant live with old | ⟨capability, rfl⟩
    · exact h.known grant old live
    · exact .inr (compatibilityGrant_inEffect readable past)
  · intro other isMember capability within
    obtain ⟨old, isOld, rfl⟩ := mem_changeWhere.mp isMember
    by_cases changed : old.id = membership.id
    · have isMembership : old = membership := h.memberships.eq isOld here changed
      subst isMembership
      rw [if_pos (by simp)] at within ⊢
      exact granted capability within
    · rw [if_neg (by simpa using changed)] at within ⊢
      obtain ⟨grant, isGrant, grants⟩ := h.granted old isOld capability within
      have ofOther : isOfMembership old grant = true := by
        have active := grants.1
        unfold isActiveOrganizationGrant at active
        simp only [Bool.and_eq_true] at active
        exact active.1.1
      exact ⟨grant, others grant isGrant (isOfMembership_other changed ofOther), grants⟩
  · apply h.memberships.changeWhere
    intro other
    rfl
  · intro other isMember
    obtain ⟨old, isOld, rfl⟩ := mem_changeWhere.mp isMember
    by_cases changed : old.id = membership.id
    · have isMembership : old = membership := h.memberships.eq isOld here changed
      subst isMembership
      rw [if_pos (by simp)]
      exact fits
    · rw [if_neg (by simpa using changed)]
      exact h.epochs old isOld

theorem Mirrors.changes (h : Mirrors P first instant db) (calls : List RoleChange)
    (readable : ∀ call ∈ calls, ReadsBack P.toPlatform call.databaseNow)
    (past : ∀ call ∈ calls, call.databaseNow ≤ instant) :
    Mirrors P first instant (afterRoleChanges P db calls) := by
  induction calls generalizing db with
  | nil => exact h
  | cons call rest ih =>
    have once := h.change (readable call List.mem_cons_self) (past call List.mem_cons_self)
    apply ih once
    · intro other later
      exact readable other (List.mem_cons_of_mem _ later)
    · intro other later
      exact past other (List.mem_cons_of_mem _ later)

/-! ## The evaluation of the rows -/

/-- The targets of an evaluation: screens of the organization, each once. They are left out for a
capability of the organization, and there for a capability of screens. -/
structure WellFormedTargets (organizationId : String) (capability : Capability)
    (targets : List Json) : Prop where
  described : ∃ screens, List.Forall₂ (Describes organizationId) targets screens ∧
    (screens.map ScreenTarget.screenId).Nodup
  organizationWide : capability ∈ ORGANIZATION_SCOPED_CAPABILITIES → targets = []
  forScreens : capability ∈ TARGET_SCOPED_CAPABILITIES → targets ≠ []

def requestOf (membership : MembershipRow) (capability : Capability) (instant : Int) : Request :=
  ⟨membership.organizationId, membership.userId, membership.id, capability, instant⟩

theorem isActiveOrganizationGrant_iff {grant : AccessGrantRow} :
    isActiveOrganizationGrant membership grant = true ↔
      grant.organizationId = membership.organizationId ∧
        grant.subjectUserId = membership.userId ∧
        grant.subjectMembershipId = some membership.id ∧
        grant.scopeType = .organization ∧ grant.revokedAt = none := by
  unfold isActiveOrganizationGrant isOfMembership
  simp only [Bool.and_eq_true, beq_iff_eq, Option.isNone_iff_eq_none, and_assoc]

/-- A row in effect reads as an active grant for the organization. -/
theorem json_active {P : Platform} {capability : Capability} {grant : AccessGrantRow}
    (grants : Grants membership capability grant) (inEffect : InEffect P instant grant) :
    ActiveGrant P (requestOf membership capability instant) (grant.json P) grant.id
      .organization := by
  obtain ⟨active, named⟩ := grants
  obtain ⟨ofOrg, ofUser, ofMembership, scope, unrevoked⟩ := isActiveOrganizationGrant_iff.mp active
  constructor
  case identifier => exact ⟨by simp [AccessGrantRow.json], inEffect.named⟩
  case organization => simp [AccessGrantRow.json, requestOf, ofOrg]
  case user => simp [AccessGrantRow.json, requestOf, ofUser]
  case membership => simp [AccessGrantRow.json, requestOf, ofMembership, textOrNull]
  case capability => simp [AccessGrantRow.json, requestOf, named]
  case unrevoked => exact .inr (by simp [AccessGrantRow.json, unrevoked, textOrNull])
  case scope =>
    apply HasScope.organization
    · simp [AccessGrantRow.json, scope, AuthorizationScopeType.text]
    · exact .inr (by simp [AccessGrantRow.json, AccessGrantRow.scopeId, scope, textOrNull])
  case starts =>
    exact ⟨grant.startsAt, inEffect.runs.1, inEffect.readable, by simp [AccessGrantRow.json]⟩
  case unexpired =>
    cases ends : grant.expiresAt with
    | none => exact .inl (.inr (by simp [AccessGrantRow.json, ends, textOrNull]))
    | some expiresAt =>
      right
      refine ⟨expiresAt, inEffect.runs.2 expiresAt ends, inEffect.readableEnd expiresAt ends, ?_⟩
      simp [AccessGrantRow.json, ends, textOrNull]

theorem json_id {P : Platform} {request : Request} {grant : AccessGrantRow} {id : String}
    {scope : Scope} (active : ActiveGrant P request (grant.json P) id scope) : id = grant.id := by
  have named := active.identifier.1
  simp only [AccessGrantRow.json, get_object_cons, if_true, Option.some_or, Option.some.injEq,
    Json.str.injEq] at named
  exact named.symm

/-- The capabilities of the roles have a scope. -/
theorem bundle_scoped {role : Role} {capability : Capability}
    (within : capability ∈ COMPATIBILITY_GRANT_CAPABILITIES role) :
    capability ∈ ORGANIZATION_SCOPED_CAPABILITIES ∨ capability ∈ TARGET_SCOPED_CAPABILITIES := by
  cases role <;> cases capability <;> revert within <;> decide

theorem mem_roleCapabilities {role : Role} {capability : Capability}
    (notManage : capability ≠ .authorizationManage) :
    capability ∈ ROLE_CAPABILITIES role ↔ capability ∈ COMPATIBILITY_GRANT_CAPABILITIES role := by
  cases role <;> simp [ROLE_CAPABILITIES, notManage]

theorem hasCapability_stored {role : Role} {capability : Capability} :
    hasCapability (some (.str (roleText role))) (some (.str capability.text)) = true ↔
      capability ∈ ROLE_CAPABILITIES role := by
  rw [hasCapability, knownRole_iff.mpr rfl, knownCapability_iff.mpr rfl]
  exact List.contains_iff_mem

/-- Rows that hold a grant in effect for a capability of the role allow the capability. -/
theorem evaluation_allowed {P : EvidencePlatform} {rows : List AccessGrantRow}
    {capability : Capability} {targets : List Json} {grant : AccessGrantRow}
    (unique : KeysUnique AccessGrantRow.id rows) (here : grant ∈ rows)
    (grants : Grants membership capability grant) (inEffect : InEffect P.toPlatform instant grant)
    (within : capability ∈ COMPATIBILITY_GRANT_CAPABILITIES membership.role)
    (named : membership.organizationId ≠ "" ∧ membership.userId ≠ "" ∧ membership.id ≠ "")
    (fits : membership.authorizationEpoch ≤ maxInteger)
    (readable : ReadsBack P.toPlatform instant)
    (wellFormed : WellFormedTargets membership.organizationId capability targets) :
    (evaluateScopedAuthorization P (evaluationInput P.toPlatform membership rows capability instant
      targets)).allowed = true := by
  obtain ⟨⟨screens, described, distinct⟩, without, withScreens⟩ := wellFormed
  have notManage : capability ≠ .authorizationManage := by
    rintro rfl
    revert within
    cases membership.role <;> decide
  have active := json_active grants inEffect
  have listed : grant.json P.toPlatform ∈ rows.map (AccessGrantRow.json P.toPlatform) :=
    List.mem_map_of_mem here
  apply allowed_of_permitted
  refine ⟨requestOf membership capability instant, screens,
    rows.map (AccessGrantRow.json P.toPlatform), ?_,
    ⟨membership.role, rfl, (mem_roleCapabilities notManage).mpr within⟩, notManage, ?_⟩
  · constructor
    case organization => exact ⟨rfl, named.1⟩
    case actor => exact ⟨rfl, named.2.1⟩
    case membership => exact ⟨rfl, named.2.2⟩
    case epoch =>
      refine ⟨membership.authorizationEpoch, ?_, rfl⟩
      have small : (membership.authorizationEpoch : Rat) ≤ (maxInteger : Nat) := by
        exact_mod_cast fits
      exact Rat.le_trans small (by decide)
    case instant => exact ⟨readable, rfl⟩
    case described => exact ⟨targets, rfl, described⟩
    case distinctScreens => exact distinct
    case listed => rfl
    case capability => rfl
    case distinctGrants =>
      rw [List.pairwise_map]
      apply (List.pairwise_map.mp unique).imp
      intro one other different id scope scope' isOne isOther
      exact different ((json_id isOne).symm.trans (json_id isOther))
  · rcases bundle_scoped within with ofOrg | ofScreens
    · left
      refine ⟨ofOrg, ?_, _, listed, _, active⟩
      rw [without ofOrg] at described
      exact List.forall₂_nil_left_iff.mp described
    · right
      refine ⟨ofScreens, ?_, fun target _ => ⟨_, listed, _, .organization, active, trivial⟩⟩
      rintro rfl
      exact withScreens ofScreens (List.forall₂_nil_right_iff.mp described)

/-- An allowed evaluation has found a grant for the capability that has started. -/
theorem started_of_allowed {P : EvidencePlatform} {rows : List AccessGrantRow}
    {capability : Capability} {targets : List Json}
    (allowed : (evaluateScopedAuthorization P (evaluationInput P.toPlatform membership rows
      capability instant targets)).allowed = true) :
    ∃ grant ∈ rows, grant.capability = capability.text ∧ grant.startsAt ≤ instant := by
  obtain ⟨request, screens, grants, valid, _, _, found⟩ := permitted_of_allowed allowed
  have listed := valid.listed
  simp only [evaluationInput, Option.some.injEq, Json.arr.injEq] at listed
  have active : ∃ v ∈ grants, ∃ id scope, ActiveGrant P.toPlatform request v id scope := by
    rcases found with ⟨_, _, v, here, id, active⟩ | ⟨_, some, covered⟩
    · exact ⟨v, here, id, _, active⟩
    · obtain ⟨screen, isScreen⟩ := List.exists_mem_of_ne_nil _ some
      obtain ⟨v, here, id, scope, active, _⟩ := covered screen isScreen
      exact ⟨v, here, id, scope, active⟩
  obtain ⟨v, here, id, scope, active⟩ := active
  rw [← listed] at here
  obtain ⟨grant, isRow, rfl⟩ := List.mem_map.mp here
  refine ⟨grant, isRow, ?_, ?_⟩
  · have ofGrant := active.capability
    have ofRequest := valid.capability
    simp [AccessGrantRow.json] at ofGrant
    simp only [evaluationInput, Option.some.injEq, Json.str.injEq] at ofRequest
    exact ofGrant.trans ofRequest.symm
  · obtain ⟨t, started, _, starts⟩ := active.starts
    obtain ⟨_, evaluated⟩ := valid.instant
    simp [AccessGrantRow.json] at starts
    simp only [evaluationInput, Option.some.injEq, Json.str.injEq] at evaluated
    rw [toISOString_injective P.toPlatform starts, toISOString_injective P.toPlatform evaluated]
    exact started

/-! ## The two policies -/

/-- The policy of the roles, for a stored membership. -/
def roleAllows (membership : MembershipRow) (capability : Capability) : Bool :=
  hasCapability (some (.str (roleText membership.role))) (some (.str capability.text))

/-- After any changes of roles the evaluation of the stored grants is the policy of the roles. For a
capability of the role this asks that the first grants for it that are still unrevoked are in
effect. The shadow of a created candidate finds no mismatch. -/
theorem the_grants_follow_the_roles_while_the_first_grants_are_in_effect (P : GrantPlatform)
    {first : AuthorityTables} (holds : TablesHold first) {start : Int} (instant : Int)
    (granted : EachRoleGranted first start) (calls : List RoleChange)
    (past : ∀ call ∈ calls, call.databaseNow ≤ instant)
    (readable : ReadsBack P.toPlatform instant)
    (readableCalls : ∀ call ∈ calls, ReadsBack P.toPlatform call.databaseNow)
    {membership : MembershipRow} (live : membership ∈ (afterRoleChanges P first calls).memberships)
    (named : membership.organizationId ≠ "" ∧ membership.userId ≠ "" ∧ membership.id ≠ "")
    (capability : Capability) (notManage : capability ≠ .authorizationManage)
    (lasting : capability ∈ COMPATIBILITY_GRANT_CAPABILITIES membership.role →
      ∀ grant ∈ first.grants, grant ∈ (afterRoleChanges P first calls).grants →
        Grants membership capability grant → InEffect P.toPlatform instant grant)
    {targets : List Json}
    (wellFormed : WellFormedTargets membership.organizationId capability targets) :
    (evaluateStored P.toEvidencePlatform (afterRoleChanges P first calls) membership capability
        instant targets).allowed = roleAllows membership capability ∧
      (capability = .releaseCandidateCreate → roleAllows membership capability = true →
        ∀ screenIds locationIds groupIds,
          mismatchKind (evaluateScopedAuthorization P.toEvidencePlatform
            (evaluationInput P.toPlatform membership
              (shadowGrants (afterRoleChanges P first calls) membership instant screenIds
                locationIds groupIds) capability instant targets)) = .none) := by
  have mirrors : Mirrors P first instant (afterRoleChanges P first calls) :=
    (Mirrors.initially holds granted).changes calls readableCalls past
  -- a grant for each capability of the role is stored and in effect
  have stored : roleAllows membership capability = true →
      capability ∈ COMPATIBILITY_GRANT_CAPABILITIES membership.role ∧
      ∃ grant ∈ (afterRoleChanges P first calls).grants, Grants membership capability grant ∧
        InEffect P.toPlatform instant grant := by
    intro allows
    have within := (mem_roleCapabilities notManage).mp (hasCapability_stored.mp allows)
    refine ⟨within, ?_⟩
    obtain ⟨grant, here, grants⟩ := mirrors.granted membership live capability within
    refine ⟨grant, here, grants, ?_⟩
    have unrevoked := (isActiveOrganizationGrant_iff.mp grants.1).2.2.2.2
    rcases mirrors.known grant here unrevoked with old | inEffect
    · exact lasting within grant old here grants
    · exact inEffect
  have fits := mirrors.epochs membership live
  have isStored : ∀ grant ∈ (afterRoleChanges P first calls).grants,
      Grants membership capability grant →
        grant ∈ storedGrants (afterRoleChanges P first calls) membership := by
    intro grant here grants
    apply List.mem_filter.mpr
    have active := grants.1
    unfold isActiveOrganizationGrant at active
    simp only [Bool.and_eq_true] at active
    exact ⟨here, active.1.1⟩
  constructor
  · rw [Bool.eq_iff_iff]
    constructor
    · intro allowed
      obtain ⟨_, _, _, _, _, _, _, _, _, capable, _⟩ := evaluate_allowed.mp allowed
      exact capable
    · intro allows
      obtain ⟨within, grant, here, grants, inEffect⟩ := stored allows
      exact evaluation_allowed (mirrors.ids.filter _) (isStored grant here grants) grants inEffect
        within named fits readable wellFormed
  · intro isCreate allows screenIds locationIds groupIds
    obtain ⟨within, grant, here, grants, inEffect⟩ := stored allows
    have loaded : grant ∈ shadowGrants (afterRoleChanges P first calls) membership instant screenIds
        locationIds groupIds := by
      apply List.mem_filter.mpr
      refine ⟨isStored grant here grants, ?_⟩
      obtain ⟨_, _, _, scope, unrevoked⟩ := isActiveOrganizationGrant_iff.mp grants.1
      have ends : grant.expiresAt.all (fun expiresAt => decide (instant < expiresAt)) = true := by
        rw [Option.all_eq_true]
        intro expiresAt known
        exact decide_eq_true (inEffect.runs.2 expiresAt known)
      simp [grants.2, isCreate, unrevoked, inEffect.runs.1, ends, scope]
    have unique : KeysUnique AccessGrantRow.id (shadowGrants (afterRoleChanges P first calls)
        membership instant screenIds locationIds groupIds) := (mirrors.ids.filter _).filter _
    unfold mismatchKind
    rw [if_pos (evaluation_allowed unique loaded grants inEffect within named fits readable
      wellFormed)]

/-! ## A grant that is still to start -/

def newYear : Int := mondayAt 0 - 345600000

/-- A grant that a user made for ann, for the whole organization. -/
def annGrant (capability : Capability) (startsAt : Int) : AccessGrantRow :=
  { id := "grant-" ++ capability.text, organizationId := "acme", subjectUserId := "ann"
    subjectMembershipId := some "acme:ann", capability := capability.text
    scopeType := .organization, locationId := none, screenGroupId := none, screenId := none
    startsAt, expiresAt := none, revokedAt := none, creatorKind := .user
    createdByUserId := some "ann", createdBySystemKey := none, createdAt := newYear }

/-- Ann is a viewer. She may publish from tomorrow on. -/
def annTables : AuthorityTables :=
  { organizations := ["acme"], users := [⟨"ann", none⟩]
    memberships := [⟨"acme:ann", "acme", "ann", .viewer, 0⟩]
    grants := annGrant .releasePublish (mondayAt 24) ::
      (COMPATIBILITY_GRANT_CAPABILITIES .viewer).map (annGrant · newYear) }

def annPromotion : RoleChange :=
  { organizationId := "acme", userId := "ann", role := .publisher, reason := "New team"
    databaseNow := mondayAt 9 }

def annPublisher : MembershipRow := ⟨"acme:ann", "acme", "ann", .publisher, 1⟩

def annTargets : List Json := [targetJson "screen-1" none []]

/-- The runtime of the example, with the hashes of the grants that the promotion makes and of the
evidence of two evaluations. -/
def annPlatform : GrantPlatform :=
  { cms with
    sha256After := fun domain json =>
      let evidenceOf := fun capability reason grants =>
        evidence cms (evaluationInput cms annPublisher [] capability (mondayAt 9 + 60000) [])
          [⟨"screen-1", none, []⟩] reason grants
      if domain = EVIDENCE_DOMAIN ∧ json = evidenceOf .releasePublish .scopeDenied [] then
        "adb4c53d9d7a26cd66d89259ad574cd9cde2c4c92b01d49e98ae87da84ed499d"
      else if domain = EVIDENCE_DOMAIN ∧ json = evidenceOf .releaseCandidateCreate .allowed
          [⟨"compat-v1:41861675cc0343e433d5ae51f5e2e8ecf33591a2379b7feeb946bc77f25b042c",
            "acme:ann", .organization, none, "2026-01-05T09:00:00.000Z", none⟩] then
        "da987fa72be4f1b9e034d7daecb03afcc84c1bcd81733504f4e62959c38c2790"
      else ""
    sha256Text := fun text =>
      let framedGrant := "ScreenGoblin compatibility grant v1\n4:acme8:acme:ann1:"
      if text = framedGrant ++ "24:release.candidate.create" then
        "41861675cc0343e433d5ae51f5e2e8ecf33591a2379b7feeb946bc77f25b042c"
      else if text = framedGrant ++ "24:release.candidate.submit" then
        "49eaf58b2e226ebef29980e5d9ce6c733199d0b5d1145a0a1b4210c63ee7e2a8"
      else if text = framedGrant ++ "16:release.withdraw" then
        "8a5d7b249695cc93c848515a59a2389610880cfd5b9869de1f91740ba956d8fc"
      else "" }

theorem annTables_hold : TablesHold annTables where
  users := List.nodup_singleton _
  memberships := List.nodup_singleton _
  members := List.nodup_singleton _
  tenants := by decide
  epochs := by decide
  grants := by decide +kernel
  subjects := by
    have each : ∀ grant ∈ annTables.grants, grant.subjectMembershipId = some "acme:ann" ∧
        grant.organizationId = "acme" ∧ grant.subjectUserId = "ann" := by decide +kernel
    intro grant here id named
    obtain ⟨ofMembership, ofOrg, ofUser⟩ := each grant here
    rw [ofMembership] at named
    cases named
    exact ⟨_, List.mem_singleton_self _, rfl, ofOrg.symm, ofUser.symm⟩

theorem annTables_granted : EachRoleGranted annTables (mondayAt 9) := by
  intro membership here capability within
  rw [List.mem_singleton.mp here] at within ⊢
  have past : newYear ≤ mondayAt 9 := by decide
  refine ⟨annGrant capability newYear, ?_, ⟨?_, rfl⟩, past, fun _ never => by cases never⟩
  · exact List.mem_cons_of_mem _ (List.mem_map_of_mem within)
  · simp [isActiveOrganizationGrant, isOfMembership, annGrant]

theorem annTargets_wellFormed {capability : Capability}
    (ofScreens : capability ∈ TARGET_SCOPED_CAPABILITIES) :
    WellFormedTargets "acme" capability annTargets where
  described := by
    refine ⟨[⟨"screen-1", none, []⟩], .cons ?_ .nil, List.nodup_singleton _⟩
    constructor
    case organization => simp [targetJson]
    case screen => exact ⟨by simp [targetJson], by simp⟩
    case location => exact .inl ⟨.inl (by simp [targetJson]), rfl⟩
    case groups => simp [targetJson]
    case named => simp
  organizationWide := by
    intro ofOrg
    exact absurd ofOrg (scoped_once ofScreens)
  forScreens := fun _ => by simp [annTargets]

set_option maxRecDepth 10000 in
theorem annPromotion_promotes :
    annPublisher ∈ (afterRoleChanges annPlatform annTables [annPromotion]).memberships ∧
      ∀ grant ∈ (afterRoleChanges annPlatform annTables [annPromotion]).grants,
        grant.capability = Capability.releasePublish.text →
          mondayAt 9 + 60000 < grant.startsAt := by
  decide +kernel

/-- Ann becomes a publisher while a grant is there that lets her publish from tomorrow on. She gets
no other one, so the evaluation denies today what her role has. -/
theorem a_grant_for_tomorrow_stands_in_for_the_role :
    ¬∀ (P : GrantPlatform) (first : AuthorityTables) (start instant : Int), TablesHold first →
      EachRoleGranted first start → start ≤ instant → ∀ calls : List RoleChange,
        (∀ call ∈ calls, start ≤ call.databaseNow ∧ call.databaseNow ≤ instant) →
          ∀ membership ∈ (afterRoleChanges P first calls).memberships,
            ∀ capability ≠ .authorizationManage, ∀ targets : List Json,
              WellFormedTargets membership.organizationId capability targets →
                ((evaluateStored P.toEvidencePlatform (afterRoleChanges P first calls) membership
                  capability instant targets).allowed = true ↔
                    roleAllows membership capability = true) := by
  intro every
  have agree := every annPlatform annTables (mondayAt 9) (mondayAt 9 + 60000) annTables_hold
    annTables_granted (by decide) [annPromotion] (by decide) annPublisher annPromotion_promotes.1
    .releasePublish (by decide) annTargets (annTargets_wellFormed (by decide))
  have allowed := agree.mpr (by decide +kernel)
  obtain ⟨grant, here, named, started⟩ := started_of_allowed allowed
  have later := annPromotion_promotes.2 grant (List.mem_filter.mp here).1 named
  omega

set_option maxRecDepth 10000 in
theorem ann_may_create_candidates :
    (evaluateStored annPlatform.toEvidencePlatform
        (afterRoleChanges annPlatform annTables [annPromotion]) annPublisher
        .releaseCandidateCreate (mondayAt 9 + 60000) annTargets).allowed = true ∧
      mismatchKind (evaluateScopedAuthorization annPlatform.toEvidencePlatform
        (evaluationInput annPlatform.toPlatform annPublisher
          (shadowGrants (afterRoleChanges annPlatform annTables [annPromotion]) annPublisher
            (mondayAt 9 + 60000) ["screen-1"] [] []) .releaseCandidateCreate
          (mondayAt 9 + 60000) annTargets)) = .none := by
  have allows : roleAllows annPublisher .releaseCandidateCreate = true := by decide +kernel
  have law := the_grants_follow_the_roles_while_the_first_grants_are_in_effect annPlatform
    annTables_hold (mondayAt 9 + 60000) annTables_granted [annPromotion] (by decide)
    (by unfold ReadsBack; decide +kernel) (by unfold ReadsBack; decide +kernel)
    annPromotion_promotes.1 (by decide) .releaseCandidateCreate (by decide)
    (by
      intro _ grant here _ grants
      have others : ∀ grant ∈ annTables.grants,
          grant.capability ≠ Capability.releaseCandidateCreate.text := by decide +kernel
      exact absurd grants.2 (others grant here))
    (annTargets_wellFormed (by decide))
  rw [allows] at law
  exact ⟨law.1, law.2 rfl rfl _ _ _⟩

end screengoblin.authorization
