-- The grants that stand for the roles of today: the rows of the table with its constraints, and
-- what a change of a role does to them (apps/api/src/authorization/compatibility.ts,
-- changeMembershipRoleAndAudit in apps/api/src/store/prisma.ts). The law says when the scoped
-- evaluation agrees with the policy of the roles.
import ScreenGoblin.AuditTrail
import ScreenGoblin.ScopedEvidence

open js collections screengoblin.server

namespace screengoblin.authorization

/-! ## Identifiers -/

structure GrantPlatform extends EvidencePlatform where
  /-- The SHA-256 of a text, in hex. -/
  sha256Text : String → String

def COMPATIBILITY_GRANT_SYSTEM_KEY : String := "legacy-role-backfill-v1"

/-- A text behind its length in bytes. -/
def framed (text : String) : String := s!"{utf8Bytes text}:{text}"

def compatibilityGrantId (P : GrantPlatform) (organizationId membershipId : String)
    (authorizationEpoch : Nat) (capability : Capability) : String :=
  "compat-v1:" ++ P.sha256Text ("ScreenGoblin compatibility grant v1\n" ++
    framed organizationId ++ framed membershipId ++ s!"{authorizationEpoch}:" ++
    framed capability.text)

/-! ## Rows -/

structure UserRow where
  id : String
  disabledAt : Option Int
  deriving DecidableEq

structure MembershipRow where
  id : String
  organizationId : String
  userId : String
  role : Role
  authorizationEpoch : Nat
  deriving DecidableEq

inductive AccessGrantCreatorKind where
  | user
  | system
  deriving DecidableEq

structure AccessGrantRow where
  id : String
  organizationId : String
  subjectUserId : String
  subjectMembershipId : Option String
  capability : String
  scopeType : AuthorizationScopeType
  locationId : Option String
  screenGroupId : Option String
  screenId : Option String
  startsAt : Int
  expiresAt : Option Int
  revokedAt : Option Int
  creatorKind : AccessGrantCreatorKind
  createdByUserId : Option String
  createdBySystemKey : Option String
  createdAt : Int
  deriving DecidableEq

structure AuthorityTables where
  organizations : List String
  users : List UserRow
  memberships : List MembershipRow
  grants : List AccessGrantRow

/-! ## Constraints -/

/-- `AccessGrant_capability` -/
def grantedCapabilities : List String :=
  ["screen.read", "location.read", "media.read", "playlist.read", "schedule.read",
   "release.candidate.read", "release.candidate.create", "release.candidate.submit",
   "release.approve", "release.publish", "release.withdraw", "screen.credential.revoke",
   "screen.credential.reenroll"]

/-- `AccessGrant_scope_shape` -/
def hasScopeShape (grant : AccessGrantRow) : Bool :=
  grant.locationId.isSome == (grant.scopeType == .location) &&
    grant.screenGroupId.isSome == (grant.scopeType == .screenGroup) &&
    grant.screenId.isSome == (grant.scopeType == .screen)

/-- `AccessGrant_organization_only_capability` -/
def hasCapabilityScope (grant : AccessGrantRow) : Bool :=
  !List.contains ["location.read", "media.read", "playlist.read"] grant.capability ||
    grant.scopeType == .organization

/-- `AccessGrant_creator_shape` -/
def hasCreatorShape (grant : AccessGrantRow) : Bool :=
  match grant.creatorKind with
  | .user => grant.createdByUserId.isSome && grant.createdBySystemKey.isNone
  | .system => grant.createdByUserId.isNone &&
      grant.createdBySystemKey == some COMPATIBILITY_GRANT_SYSTEM_KEY

/-- The `CHECK` constraints of a row. -/
def passesChecks (grant : AccessGrantRow) : Bool :=
  grantedCapabilities.contains grant.capability && hasScopeShape grant &&
    hasCapabilityScope grant && hasCreatorShape grant &&
    grant.expiresAt.all (fun expiresAt => decide (grant.startsAt < expiresAt)) &&
    grant.revokedAt.all (fun revokedAt => decide (grant.createdAt ≤ revokedAt)) &&
    (grant.subjectMembershipId.isSome || grant.revokedAt.isSome)

/-- The columns of `AccessGrant_active_scope_key`. -/
structure ActiveScopeKey where
  organizationId : String
  subjectUserId : String
  capability : String
  scopeType : AuthorizationScopeType
  locationId : String
  screenGroupId : String
  screenId : String
  deriving DecidableEq

/-- The key of a row that the index holds. -/
def activeScopeKey (grant : AccessGrantRow) : Option ActiveScopeKey :=
  if grant.revokedAt.isNone && grant.subjectMembershipId.isSome then
    some
      { organizationId := grant.organizationId, subjectUserId := grant.subjectUserId
        capability := grant.capability, scopeType := grant.scopeType
        locationId := grant.locationId.getD "", screenGroupId := grant.screenGroupId.getD ""
        screenId := grant.screenId.getD "" }
  else none

/-- The rows of the table that the constraints accept together. -/
def grantsAccepted (grants : List AccessGrantRow) : Bool :=
  grants.all passesChecks && decide (grants.map AccessGrantRow.id).Nodup &&
    decide (grants.filterMap activeScopeKey).Nodup

/-- The largest `INTEGER`. -/
def maxInteger : Nat := 2147483647

/-- The tables are as their constraints have them. -/
structure TablesHold (db : AuthorityTables) : Prop where
  users : KeysUnique UserRow.id db.users
  memberships : KeysUnique MembershipRow.id db.memberships
  members : KeysUnique (fun membership => (membership.organizationId, membership.userId))
    db.memberships
  tenants : ∀ membership ∈ db.memberships, membership.organizationId ∈ db.organizations ∧
    ∃ user ∈ db.users, user.id = membership.userId
  epochs : ∀ membership ∈ db.memberships, membership.authorizationEpoch ≤ maxInteger
  grants : grantsAccepted db.grants = true
  subjects : ∀ grant ∈ db.grants, ∀ id, grant.subjectMembershipId = some id →
    ∃ membership ∈ db.memberships, membership.id = id ∧
      membership.organizationId = grant.organizationId ∧ membership.userId = grant.subjectUserId

/-! ## Changes of a role -/

def isOfMembership (membership : MembershipRow) (grant : AccessGrantRow) : Bool :=
  grant.organizationId == membership.organizationId && grant.subjectUserId == membership.userId &&
    grant.subjectMembershipId == some membership.id

/-- The unrevoked grants of the system for a membership. -/
def isCompatibilityGrant (membership : MembershipRow) (grant : AccessGrantRow) : Bool :=
  isOfMembership membership grant && grant.creatorKind == .system &&
    grant.createdBySystemKey == some COMPATIBILITY_GRANT_SYSTEM_KEY && grant.revokedAt.isNone

/-- The unrevoked grants for the organization. They need not be in effect. -/
def isActiveOrganizationGrant (membership : MembershipRow) (grant : AccessGrantRow) : Bool :=
  isOfMembership membership grant && grant.scopeType == .organization && grant.revokedAt.isNone

def revokedGrant (databaseNow : Int) (grant : AccessGrantRow) : AccessGrantRow :=
  { grant with revokedAt := some (max databaseNow grant.createdAt) }

def compatibilityGrant (P : GrantPlatform) (membership : MembershipRow) (databaseNow : Int)
    (capability : Capability) : AccessGrantRow :=
  { id := compatibilityGrantId P membership.organizationId membership.id
      (membership.authorizationEpoch + 1) capability
    organizationId := membership.organizationId, subjectUserId := membership.userId
    subjectMembershipId := some membership.id, capability := capability.text
    scopeType := .organization, locationId := none, screenGroupId := none, screenId := none
    startsAt := databaseNow, expiresAt := none, revokedAt := none, creatorKind := .system
    createdByUserId := none, createdBySystemKey := some COMPATIBILITY_GRANT_SYSTEM_KEY
    createdAt := databaseNow }

/-- `replaceCompatibilityGrants`. `none` is a row that the table does not accept. -/
def replaceCompatibilityGrants (P : GrantPlatform) (membership : MembershipRow) (role : Role)
    (databaseNow : Int) (grants : List AccessGrantRow) : Option (List AccessGrantRow) :=
  let kept := changeWhere (isCompatibilityGrant membership) (revokedGrant databaseNow) grants
  let coveredCapabilities :=
    (kept.filter (isActiveOrganizationGrant membership)).map (·.capability)
  let data := ((COMPATIBILITY_GRANT_CAPABILITIES role).filter fun capability =>
    !coveredCapabilities.contains capability.text).map
      (compatibilityGrant P membership databaseNow)
  if grantsAccepted (kept ++ data) then some (kept ++ data) else none

def hasOtherActiveOwner (db : AuthorityTables) (organizationId userId : String) : Bool :=
  db.memberships.any fun membership =>
    membership.organizationId == organizationId && membership.userId != userId &&
      membership.role == .owner &&
      db.users.any fun owner => owner.id == membership.userId && owner.disabledAt.isNone

inductive RoleChangeResult where
  | updated
  | notFound
  | ownerContinuityRequired
  | threw
  deriving DecidableEq

/-- The membership of a user in an organization, with the user. -/
def findMember (db : AuthorityTables) (organizationId userId : String) :
    Option (MembershipRow × UserRow) := do
  let membership ← db.memberships.find? fun membership =>
    membership.organizationId == organizationId && membership.userId == userId
  let actor ← db.users.find? fun user => user.id == membership.userId
  return (membership, actor)

/-- One call, with the time of its transaction. -/
structure RoleChange where
  organizationId : String
  userId : String
  role : Role
  reason : String
  databaseNow : Int

/-- `identityMutationMetadata` takes the reason. -/
def isMutationReason (reason : String) : Bool :=
  trim reason != "" && decide (utf16Length (trim reason) ≤ 500)

/-- `changeMembershipRoleAndAudit`. The tables stay as they were where the call throws. -/
def changeMembershipRoleAndAudit (P : GrantPlatform) (call : RoleChange) (db : AuthorityTables) :
    AuthorityTables × RoleChangeResult :=
  if !isMutationReason call.reason then (db, .threw)
  else if !db.organizations.contains call.organizationId then (db, .notFound)
  else match findMember db call.organizationId call.userId with
    | none => (db, .notFound)
    | some (membership, actor) =>
      if membership.role == .owner && call.role != .owner && actor.disabledAt.isNone &&
          !hasOtherActiveOwner db call.organizationId call.userId then
        (db, .ownerContinuityRequired)
      else match replaceCompatibilityGrants P membership call.role call.databaseNow db.grants with
        | none => (db, .threw)
        | some grants =>
          if maxInteger < membership.authorizationEpoch + 1 then (db, .threw)
          else
            ({ db with
                grants
                memberships := changeWhere (fun other => other.id == membership.id)
                  (fun other => { other with
                    role := call.role, authorizationEpoch := other.authorizationEpoch + 1 })
                  db.memberships },
              .updated)

def afterRoleChanges (P : GrantPlatform) (db : AuthorityTables) (calls : List RoleChange) :
    AuthorityTables :=
  calls.foldl (fun db call => (changeMembershipRoleAndAudit P call db).1) db

/-! ## The evaluation of stored grants -/

def AccessGrantRow.scopeId (grant : AccessGrantRow) : Option String :=
  match grant.scopeType with
  | .location => grant.locationId
  | .screenGroup => grant.screenGroupId
  | .screen => grant.screenId
  | .organization => none

/-- A row as the evaluation reads it. -/
def AccessGrantRow.json (P : Platform) (grant : AccessGrantRow) : Json :=
  object [("id", some (.str grant.id)),
    ("organizationId", some (.str grant.organizationId)),
    ("subjectUserId", some (.str grant.subjectUserId)),
    ("subjectMembershipId", some (textOrNull grant.subjectMembershipId)),
    ("capability", some (.str grant.capability)),
    ("scopeType", some (.str grant.scopeType.text)),
    ("scopeId", some (textOrNull grant.scopeId)),
    ("startsAt", some (.str (P.toISOString grant.startsAt))),
    ("expiresAt", some (textOrNull (grant.expiresAt.map P.toISOString))),
    ("revokedAt", some (textOrNull (grant.revokedAt.map P.toISOString)))]

def storedGrants (db : AuthorityTables) (membership : MembershipRow) : List AccessGrantRow :=
  db.grants.filter (isOfMembership membership)

/-- An evaluation over rows, for a membership with its role and its epoch. -/
def evaluationInput (P : Platform) (membership : MembershipRow) (rows : List AccessGrantRow)
    (capability : Capability) (instant : Int) (targets : List Json) :
    ScopedAuthorizationEvaluationInput :=
  { organizationId := some (.str membership.organizationId)
    actorUserId := some (.str membership.userId)
    membershipId := some (.str membership.id)
    role := some (.str (roleText membership.role))
    authorizationEpoch := some (.num membership.authorizationEpoch)
    capability := some (.str capability.text)
    evaluatedAt := some (.str (P.toISOString instant))
    grants := some (.arr (rows.map (AccessGrantRow.json P)))
    targets := some (.arr targets) }

def evaluateStored (P : EvidencePlatform) (db : AuthorityTables) (membership : MembershipRow)
    (capability : Capability) (instant : Int) (targets : List Json) :
    ScopedAuthorizationDecision :=
  evaluateScopedAuthorization P (evaluationInput P.toPlatform membership
    (storedGrants db membership) capability instant targets)

/-- `releaseCandidateCreateAuthorizationShadow` loads these rows for the screens of a candidate,
with their locations and groups. -/
def shadowGrants (db : AuthorityTables) (membership : MembershipRow) (databaseNow : Int)
    (screenIds locationIds groupIds : List String) : List AccessGrantRow :=
  (storedGrants db membership).filter fun grant =>
    grant.capability == Capability.releaseCandidateCreate.text && grant.revokedAt.isNone &&
      decide (grant.startsAt ≤ databaseNow) &&
      grant.expiresAt.all (fun expiresAt => decide (databaseNow < expiresAt)) &&
      (grant.scopeType == .organization || grant.locationId.any locationIds.contains ||
        grant.screenGroupId.any groupIds.contains || grant.screenId.any screenIds.contains)

inductive MismatchKind where
  | none
  | legacyAllowScopedDeny
  deriving DecidableEq

/-- `evaluatedAuthorizationShadow`. The legacy decision has allowed the command before. -/
def mismatchKind (decision : ScopedAuthorizationDecision) : MismatchKind :=
  if decision.allowed then .none else .legacyAllowScopedDeny

end screengoblin.authorization
