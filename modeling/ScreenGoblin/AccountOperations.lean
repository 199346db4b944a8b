-- The accounts of the store: the sessions of its users, and the changes of an identity
-- (apps/api/src/store/memory.ts). An operation with an `await` is one definition for each
-- synchronous part. The first part takes what it read over the `await`, so the second part
-- can find a store that has changed since.
import ScreenGoblin.AuditTrail

open js collections scripts scripts.Script screengoblin.schedule

namespace screengoblin.server

/-! ## Sessions -/

structure UserSessionCreateInput where
  tokenHash : String
  expiresAt : String
  expectedPasswordHash : String
  expectedRole : Role
  expectedAuthenticationEpoch : Nat
  expectedAuthorizationEpoch : Nat
  purpose : Option UserSessionPurpose
  expectedBootstrapPasswordExpiresAt : Option Int
  deriving DecidableEq

def isSessionUser (userId organizationId : String) (user : SessionUser) : Bool :=
  user.id == userId && user.organizationId == organizationId && user.disabledAt.isNone

def findSessionUser (s : MemoryStore) (userId organizationId : String) : Option SessionUser :=
  s.users.find? (isSessionUser userId organizationId)

/-- `createUserSessionAndAudit` up to its `await`: the time, and the user as it was then. -/
def captureUser (R : Runtime) (userId organizationId : String) :
    Operation (Int × Option SessionUser) := do
  let timestamp ← now R
  let user ← look fun s => findSessionUser s.toMemoryStore userId organizationId
  return (timestamp, user)

/-- A session for the rotation of a bootstrap password ends with that password, and soon. -/
def fitsRotation (user : SessionUser) (expiresAtMs timestamp : Int) : Bool :=
  match user.bootstrapPasswordExpiresAt with
  | none => false
  | some bootstrapEnds =>
    decide (timestamp < bootstrapEnds) && decide (expiresAtMs ≤ bootstrapEnds) &&
      decide (expiresAtMs - timestamp ≤ 10 * 60 * 1000)

/-- The user is still the one who signed in, and may have a session like this. -/
def mayHaveSession (R : Runtime) (input : UserSessionCreateInput) (timestamp : Int)
    (user : SessionUser) : Bool :=
  user.passwordHash == input.expectedPasswordHash && user.role == input.expectedRole &&
    user.authenticationEpoch == input.expectedAuthenticationEpoch &&
    user.authorizationEpoch == input.expectedAuthorizationEpoch &&
    user.bootstrapPasswordExpiresAt == input.expectedBootstrapPasswordExpiresAt &&
    match R.dateParse input.expiresAt with
    | none => false
    | some expiresAtMs =>
      decide (timestamp < expiresAtMs) &&
        match input.purpose.getD .full with
        | .full => user.bootstrapPasswordExpiresAt.isNone
        | .bootstrapPasswordRotation => fitsRotation user expiresAtMs timestamp

def UserSessionPurpose.text : UserSessionPurpose → String
  | .full => "FULL"
  | .bootstrapPasswordRotation => "BOOTSTRAP_PASSWORD_ROTATION"

/-- `candidate.expiresAt > timestamp`. -/
def outlasts (R : Runtime) (timestamp : Int) (session : UserSessionRecord) : Bool :=
  textIsLater session.expiresAt (R.toISOString timestamp)

/-- `createUserSessionAndAudit` after its `await`. -/
def createUserSession (R : Runtime) (organizationId : String) (input : UserSessionCreateInput)
    (audit : UserMutationAuditContext) (captured : Int × Option SessionUser) :
    Operation UserSessionRecord := do
  let timestamp := captured.1
  match captured.2.filter (mayHaveSession R input timestamp) with
  | none => refuse "FORBIDDEN"
  | some user =>
    let sessionId ← drawId R
    let session : UserSessionRecord :=
      { id := sessionId, organizationId := organizationId, userId := user.id,
        tokenHash := input.tokenHash, authenticationEpoch := user.authenticationEpoch,
        authorizationEpoch := user.authorizationEpoch, purpose := input.purpose.getD .full,
        expiresAt := input.expiresAt, revokedAt := none, createdAt := timestamp }
    let auditRecord ← buildAuditRecord R
      { userEvent organizationId audit "auth.login_succeeded" "session" session.id
          [("expiresAt", some (.str session.expiresAt)),
            ("purpose", some (.str session.purpose.text))] with
        actorUserId := some user.id }
    change fun s =>
      { s with userSessions := s.userSessions.filter (outlasts R timestamp) ++ [session] }
    pushAudits [auditRecord]
    return session

/-- The session of a token, unless it was revoked or has expired. -/
def isLiveSession (R : Runtime) (userId organizationId tokenHash : String) (timestamp : Int)
    (session : UserSessionRecord) : Bool :=
  session.userId == userId && session.organizationId == organizationId &&
    session.tokenHash == tokenHash && session.revokedAt.isNone && outlasts R timestamp session

/-- What `findActiveUserSession` takes over its `await`. -/
structure SessionLookup where
  timestamp : Int
  session : UserSessionRecord
  user : SessionUser
  deriving DecidableEq

/-- `findActiveUserSession` up to its `await`. -/
def lookUpSession (R : Runtime) (userId organizationId tokenHash : String) :
    Operation (Option SessionLookup) := do
  let timestamp ← now R
  look fun s => do
    let session ←
      s.userSessions.find? (isLiveSession R userId organizationId tokenHash timestamp)
    let user ← findSessionUser s.toMemoryStore userId organizationId
    return { timestamp := timestamp, session := session, user := user }

/-- The session was made for the user as the user is now. -/
def SessionLookup.isActive (R : Runtime) (lookup : SessionLookup) : Bool :=
  lookup.user.authenticationEpoch == lookup.session.authenticationEpoch &&
    lookup.user.authorizationEpoch == lookup.session.authorizationEpoch &&
    match lookup.session.purpose with
    | .full => lookup.user.bootstrapPasswordExpiresAt.isNone
    | .bootstrapPasswordRotation =>
      match lookup.user.bootstrapPasswordExpiresAt with
      | none => false
      | some bootstrapEnds =>
        decide (lookup.timestamp < bootstrapEnds) &&
          decide (TextLe lookup.session.expiresAt (R.toISOString bootstrapEnds))

/-- `findActiveUserSession` after its `await`: its user and the purpose of its session. -/
def activeUserSession (R : Runtime) (lookup : Option SessionLookup) :
    Option (SessionUser × UserSessionPurpose) :=
  (lookup.filter (·.isActive R)).map fun lookup => (lookup.user, lookup.session.purpose)

/-- `revokeUserSessionAndAudit` after its `await`. -/
def revokeUserSession (R : Runtime) (userId organizationId tokenHash : String)
    (audit : UserMutationAuditContext) (captured : Int × Option SessionUser) :
    Operation UserSessionRecord := do
  let timestamp := captured.1
  let live := isLiveSession R userId organizationId tokenHash timestamp
  let session ← found (fun s => s.userSessions.find? live) "NOT_FOUND"
  refuseIf (captured.2.isNone || audit.actorUserId != userId) "NOT_FOUND"
  let auditRecord ← buildAuditRecord R
    (userEvent organizationId audit "auth.logout" "session" session.id [])
  change fun s =>
    { s with
      userSessions := updateFirst live (fun session => { session with revokedAt := some timestamp })
        s.userSessions }
  pushAudits [auditRecord]
  return session

/-- The sessions that were not revoked before. -/
def revokeSessions (timestamp : Int) (own : UserSessionRecord → Bool) : Operation Unit :=
  change fun s =>
    { s with
      userSessions := changeWhere (fun session => own session && session.revokedAt.isNone)
        (fun session => { session with revokedAt := some timestamp }) s.userSessions }

@[simp]
theorem gives_revokeSessions {Q : Unit → AuditedStore → Prop} {E : Halt → AuditedStore → Prop}
    {timestamp : Int} {own : UserSessionRecord → Bool} {s : AuditedStore} :
    Gives Q E (revokeSessions timestamp own) s ↔
      Q () { s with
        userSessions := changeWhere (fun session => own session && session.revokedAt.isNone)
          (fun session => { session with revokedAt := some timestamp }) s.userSessions } :=
  gives_change

/-! ## Passwords -/

/-- `/^\$2[aby]\$(?:1[2-9]|2\d|3[01])\$[./A-Za-z0-9]{53}$/` -/
def isApprovedPasswordHash (text : String) : Bool :=
  match text.toList with
  | '$' :: '2' :: version :: '$' :: tens :: ones :: '$' :: rest =>
    ['a', 'b', 'y'].contains version &&
      ((tens == '1' && '2' ≤ ones && ones ≤ '9') || (tens == '2' && '0' ≤ ones && ones ≤ '9') ||
        (tens == '3' && (ones == '0' || ones == '1'))) &&
      rest.length == 53 && rest.all fun c =>
        c == '.' || c == '/' || ('A' ≤ c && c ≤ 'Z') || ('a' ≤ c && c ≤ 'z') ||
          ('0' ≤ c && c ≤ '9')
  | _ => false

def approvePasswordHash (passwordHash : String) : Operation Unit :=
  ensure (isApprovedPasswordHash passwordHash)
    (.threw "An approved bcrypt password hash is required")

/-- `[...new Set(memberships.map(({ organizationId }) => organizationId))].sort()`. -/
def affectedOrganizationIds (s : AuditedStore) (userId : String) : List String :=
  sortedSet TextLe ((memberships s.toMemoryStore userId).map (·.organizationId))

structure BootstrapPasswordRotationInput where
  tokenHash : String
  expectedPasswordHash : String
  expectedBootstrapPasswordExpiresAt : Int
  expectedAuthenticationEpoch : Nat
  expectedAuthorizationEpoch : Nat
  passwordHash : String
  deriving DecidableEq

/-- The session that a rotation asks for. -/
def isRotationSession (R : Runtime) (userId organizationId : String)
    (input : BootstrapPasswordRotationInput) (timestamp : Int) (session : UserSessionRecord) :
    Bool :=
  isLiveSession R userId organizationId input.tokenHash timestamp session &&
    session.purpose == .bootstrapPasswordRotation

/-- Every membership is as the caller of the rotation saw it. -/
def asExpected (input : BootstrapPasswordRotationInput) (membership : SessionUser) : Bool :=
  membership.disabledAt.isNone && membership.passwordHash == input.expectedPasswordHash &&
    membership.bootstrapPasswordExpiresAt == some input.expectedBootstrapPasswordExpiresAt &&
    membership.authenticationEpoch == input.expectedAuthenticationEpoch

/-- The records are built after the changes here, not before them. -/
def rotateBootstrapPasswordAndAudit (R : Runtime) (userId organizationId : String)
    (input : BootstrapPasswordRotationInput) (audit : UserMutationAuditContext) :
    Operation (List String) := do
  approvePasswordHash input.passwordHash
  let timestamp ← now R
  let own ← look fun s => memberships s.toMemoryStore userId
  let current ← found
    (fun _ => own.find? fun user => user.organizationId == organizationId) "FORBIDDEN"
  let session ← found
    (fun s => s.userSessions.find? (isRotationSession R userId organizationId input timestamp))
    "FORBIDDEN"
  refuseIf (audit.actorUserId != userId || !own.all (asExpected input) ||
      decide (input.expectedBootstrapPasswordExpiresAt ≤ timestamp) ||
      current.authorizationEpoch != input.expectedAuthorizationEpoch ||
      session.authenticationEpoch != input.expectedAuthenticationEpoch ||
      session.authorizationEpoch != input.expectedAuthorizationEpoch) "FORBIDDEN"
  let organizationIds ← look fun s => affectedOrganizationIds s userId
  changeStore (revokePendingIssuerGrants userId organizationIds timestamp)
  changeStore (changeUser userId fun user =>
    { user with
      bootstrapPasswordExpiresAt := none
      passwordHash := input.passwordHash
      authenticationEpoch := current.authenticationEpoch + 1 })
  revokeSessions timestamp fun candidate => candidate.userId == userId
  let auditRecords ← each (fun org => buildAuditRecord R
    (userEvent org { audit with actorUserId := userId } "auth.bootstrap_password_rotated" "user"
      userId [])) organizationIds
  pushAudits auditRecords
  return organizationIds

/-! ## Identities -/

structure SystemIdentityMutationAuditContext where
  reason : String
  requestId : Option String
  deriving DecidableEq

def identityMutationReason (audit : SystemIdentityMutationAuditContext) : Operation String :=
  let reason := trim audit.reason
  if reason == "" || decide (500 < utf16Length reason) then
    stop (.threw "Identity mutation reason must contain 1 to 500 characters")
  else pure reason

def identityAudit (R : Runtime) (organizationId action entityType entityId : String)
    (audit : SystemIdentityMutationAuditContext) (metadata : List (String × Value)) :
    Operation AuditRecord := do
  let reason ← identityMutationReason audit
  buildAuditRecord R
    { organizationId := organizationId, actorUserId := none, actorType := "system",
      action := action, entityType := entityType, entityId := some entityId, ipAddress := none,
      requestId := truthyText audit.requestId,
      metadata := ("reason", some (.str reason)) :: metadata }

def rotateUserPasswordAndAudit (R : Runtime) (userId passwordHash : String)
    (audit : SystemIdentityMutationAuditContext) : Operation (List String) := do
  approvePasswordHash passwordHash
  let _ ← identityMutationReason audit
  let organizationIds ← look fun s => affectedOrganizationIds s userId
  let epoch ← found (fun s => commonEpoch s.toMemoryStore userId) "NOT_FOUND"
  let timestamp ← now R
  let auditRecords ← each (fun org =>
    identityAudit R org "identity.password_rotated" "user" userId audit []) organizationIds
  changeStore (revokePendingIssuerGrants userId organizationIds timestamp)
  changeStore (changeUser userId fun user =>
    { user with passwordHash := passwordHash, authenticationEpoch := epoch + 1 })
  revokeSessions timestamp fun session => session.userId == userId
  pushAudits auditRecords
  return organizationIds

/-- The user is the only enabled owner of an organization. -/
def isLastOwner (s : MemoryStore) (userId : String) (membership : SessionUser) : Bool :=
  membership.role == .owner && membership.disabledAt.isNone &&
    !hasOtherActiveOwner s membership.organizationId userId

def disableUserAndAudit (R : Runtime) (userId : String)
    (audit : SystemIdentityMutationAuditContext) : Operation (List String) := do
  let _ ← identityMutationReason audit
  let organizationIds ← look fun s => affectedOrganizationIds s userId
  let epoch ← found (fun s => commonEpoch s.toMemoryStore userId) "NOT_FOUND"
  let last ← look fun s =>
    (memberships s.toMemoryStore userId).any (isLastOwner s.toMemoryStore userId)
  refuseIf last "OWNER_CONTINUITY_REQUIRED"
  let timestamp ← now R
  let auditRecords ← each (fun org =>
    identityAudit R org "identity.user_disabled" "user" userId audit []) organizationIds
  changeStore (revokePendingIssuerGrants userId organizationIds timestamp)
  changeStore (changeUser userId fun user =>
    { user with authenticationEpoch := epoch + 1, disabledAt := some timestamp })
  revokeSessions timestamp fun session => session.userId == userId
  pushAudits auditRecords
  return organizationIds

def Role.text : Role → String
  | .owner => "OWNER"
  | .admin => "ADMIN"
  | .publisher => "PUBLISHER"
  | .viewer => "VIEWER"

def isSessionOf (userId organizationId : String) (session : UserSessionRecord) : Bool :=
  session.userId == userId && session.organizationId == organizationId

def changeMembershipRoleAndAudit (R : Runtime) (organizationId userId : String) (role : Role)
    (audit : SystemIdentityMutationAuditContext) : Operation Unit := do
  let _ ← identityMutationReason audit
  let membership ← found (fun s => s.users.find? (isMembership organizationId userId)) "NOT_FOUND"
  let last ← look fun s => isLastOwner s.toMemoryStore userId membership
  refuseIf (last && role != .owner) "OWNER_CONTINUITY_REQUIRED"
  let timestamp ← now R
  let auditRecord ← identityAudit R organizationId "identity.membership_role_changed" "membership"
    s!"{organizationId}:{userId}" audit
    [("previousRole", some (.str membership.role.text)), ("role", some (.str role.text))]
  changeStore (revokePendingIssuerGrants userId [organizationId] timestamp)
  changeStore fun s =>
    { s with
      users := changeWhere (isMembership organizationId userId) (fun user =>
        { user with role := role, authorizationEpoch := user.authorizationEpoch + 1 }) s.users }
  revokeSessions timestamp (isSessionOf userId organizationId)
  pushAudits [auditRecord]

def removeMembershipAndAudit (R : Runtime) (organizationId userId : String)
    (audit : SystemIdentityMutationAuditContext) : Operation Unit := do
  let _ ← identityMutationReason audit
  let membership ← found (fun s => s.users.find? (isMembership organizationId userId)) "NOT_FOUND"
  let last ← look fun s => isLastOwner s.toMemoryStore userId membership
  refuseIf last "OWNER_CONTINUITY_REQUIRED"
  let timestamp ← now R
  let auditRecord ← identityAudit R organizationId "identity.membership_removed" "membership"
    s!"{organizationId}:{userId}" audit [("previousRole", some (.str membership.role.text))]
  changeStore (revokePendingIssuerGrants userId [organizationId] timestamp)
  revokeSessions timestamp (isSessionOf userId organizationId)
  changeStore fun s =>
    { s with users := s.users.filter fun user => !isMembership organizationId userId user }
  pushAudits [auditRecord]

end screengoblin.server
