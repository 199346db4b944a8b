-- The enrollment of devices in the store (apps/api/src/store/memory.ts): the grants with their
-- pairing codes, the attempts on a grant, and the credentials that they end with. An operation
-- with an `await` is one definition for each synchronous part.
import ScreenGoblin.AccountOperations

open js collections scripts scripts.Script screengoblin.schedule

namespace screengoblin.server

def DEVICE_ENROLLMENT_AUTHORITY_RETENTION_MS : Int := 30 * 24 * 60 * 60 * 1000

/-- The runtime of the operations on devices. -/
structure DeviceRuntime extends Runtime where
  /-- `randomToken()`, for the draw of each number. -/
  randomToken : Nat → String
  randomToken_injective : Function.Injective randomToken

def drawToken (R : DeviceRuntime) : Operation String :=
  draw (fun s => R.randomToken s.idsDrawn) fun s => { s with idsDrawn := s.idsDrawn + 1 }

/-! ## Grants and their issuers -/

/-- The membership that a grant names: a membership without an identifier has one made of its
organization and its user. -/
def SessionUser.membership (user : SessionUser) : String :=
  user.membershipId.getD s!"{user.organizationId}:{user.id}"

/-- The user who issued the grant, if the user is still enabled in the organization. -/
def grantIssuer (s : MemoryStore) (org : String) (grant : PairingRecord) : Option SessionUser :=
  s.users.find? fun user =>
    some user.id == grant.authorizedByUserId && user.organizationId == org &&
      user.disabledAt.isNone

def mayIssue (user : SessionUser) : Bool := user.role == .owner || user.role == .admin

/-- The issuer is as the issuer was when the grant was made. -/
def signedBy (grant : PairingRecord) (issuer : SessionUser) : Bool :=
  mayIssue issuer && some issuer.membership == grant.authorizedByMembershipId &&
    some issuer.authenticationEpoch == grant.authorizedByAuthenticationEpoch &&
    some issuer.authorizationEpoch == grant.authorizedByAuthorizationEpoch

/-- A pending grant already has this code. -/
def codeIsTaken (s : MemoryStore) (codeHash : String) (timestamp : Int) : Bool :=
  s.pairings.any fun grant =>
    grant.codeHash == codeHash && grant.status == .pending && decide (timestamp < grant.expiresAt)

/-- The grants of a maintenance pass: those that pass the test, the ones that expire first. -/
def grantBatch (P : Platform) (grants : List PairingRecord) (test : PairingRecord → Bool) :
    List PairingRecord :=
  ((grants.filter test).insertionSort fun a b =>
    ((compare a.expiresAt b.expiresAt).then (P.localeCompare a.id b.id)).isLE).take
      DATABASE_MAINTENANCE_BATCH_SIZE

/-- Pending grants that have expired are marked. -/
def expireGrants (P : Platform) (org : String) (timestamp : Int) (s : MemoryStore) : MemoryStore :=
  let expired := grantBatch P s.pairings fun grant =>
    grant.organizationId == org && grant.status == .pending && decide (grant.expiresAt ≤ timestamp)
  { s with
    pairings := changeWhere (fun grant => decide (grant ∈ expired))
      (fun grant => { grant with status := .expired }) s.pairings }

/-- Grants that ended long ago are removed, with the attempts on them. -/
def removeGrants (P : Platform) (org : String) (timestamp : Int) (s : MemoryStore) : MemoryStore :=
  let removed := (grantBatch P s.pairings fun grant =>
    grant.organizationId == org && grant.status != .pending &&
      decide (grant.expiresAt ≤ timestamp - DEVICE_ENROLLMENT_AUTHORITY_RETENTION_MS)).map (·.id)
  { s with
    pairings := s.pairings.filter fun grant => !removed.contains grant.id
    pairingAttempts := s.pairingAttempts.filter fun attempt =>
      !removed.contains attempt.pairingCodeId }

/-- The responses of expired commands are dropped, but for one key. -/
def compactEnrollmentResponses (P : Platform) (org : String) (timestamp : Int)
    (preserveIdempotencyKeyHash : Option String) (s : MemoryStore) : MemoryStore :=
  let compacted := ((s.screenEnrollmentIdempotencyRecords.filter fun record =>
      record.organizationId == org && some record.keyHash != preserveIdempotencyKeyHash &&
        record.response.isSome && decide (record.expiresAt ≤ timestamp)).insertionSort fun a b =>
    ((compare a.expiresAt b.expiresAt).then (P.localeCompare a.keyHash b.keyHash)).isLE).take
      DATABASE_MAINTENANCE_BATCH_SIZE
  { s with
    screenEnrollmentIdempotencyRecords := changeWhere (fun record => decide (record ∈ compacted))
      (fun record => { record with response := none }) s.screenEnrollmentIdempotencyRecords }

def pruneDeviceEnrollmentAuthority (P : Platform) (org : String) (timestamp : Int)
    (preserveIdempotencyKeyHash : Option String) (s : MemoryStore) : MemoryStore :=
  compactEnrollmentResponses P org timestamp preserveIdempotencyKeyHash
    (removeGrants P org timestamp (expireGrants P org timestamp s))

/-- A cancellation that keeps the time of an earlier one: `cancelledAt ??= timestamp`. -/
def PairingAttemptRecord.cancelOnce (timestamp : Int) (attempt : PairingAttemptRecord) :
    PairingAttemptRecord :=
  { attempt with cancelledAt := some (attempt.cancelledAt.getD timestamp) }

def PairingAttemptRecord.cancel (timestamp : Int) (attempt : PairingAttemptRecord) :
    PairingAttemptRecord :=
  { attempt with cancelledAt := some timestamp }

/-- The pending ones among these grants are revoked, and the open attempts on them end. -/
def revokeGrants (grants : PairingRecord → Bool) (isOpen : PairingAttemptRecord → Bool)
    (cancel : PairingAttemptRecord → PairingAttemptRecord) (s : MemoryStore) : MemoryStore :=
  { s with
    pairings := changeWhere (fun grant => grants grant && grant.status == .pending)
      (fun grant => { grant with status := .revoked }) s.pairings
    pairingAttempts := changeWhere (fun attempt => isOpen attempt && s.pairings.any fun grant =>
        grants grant && grant.status == .pending && attempt.pairingCodeId == grant.id)
      cancel s.pairingAttempts }

/-! ## Screens and their credentials -/

structure DeviceMetadata where
  installationId : String
  model : String
  osVersion : String
  playerVersion : String
  deriving DecidableEq

/-- What the store shows of a screen. -/
def publicScreen (s : MemoryStore) (screen : ScreenRecord) : ScreenRecord :=
  { screen with
    deviceTokenHash := none
    locationName := ((truthyText screen.locationId).bind fun locationId =>
      s.locations.find? (isLocation screen.organizationId locationId)).map (·.name) }

/-- A screen that no device speaks for: its token and the state of its last heartbeat are gone. -/
def ScreenRecord.disconnected (screen : ScreenRecord) : ScreenRecord :=
  { screen with
    deviceTokenHash := none, status := .offline, lastSeenAt := none, manifestVersion := none,
    nowPlayingAssetId := none, uptimeSeconds := none, freeStorageBytes := none,
    networkType := none }

/-- A screen whose credentials were revoked moves to its next generation. -/
def ScreenRecord.revoked (timestamp : Int) (screen : ScreenRecord) : ScreenRecord :=
  { screen.disconnected with
    credentialRevokedAt := some timestamp
    credentialGeneration := some (screen.credentialGeneration.getD 0 + 1) }

/-- A screen with the device of an attempt. -/
def ScreenRecord.enrolled (attempt : PairingAttemptRecord) (generation : Nat) (timestamp : Int)
    (screen : ScreenRecord) : ScreenRecord :=
  { screen.disconnected with
    installationId := attempt.installationId, model := attempt.model,
    osVersion := attempt.osVersion, playerVersion := attempt.playerVersion,
    credentialRevokedAt := none, credentialGeneration := some generation, updatedAt := timestamp }

def changeScreen (org screenId : String) (change : ScreenRecord → ScreenRecord) (s : MemoryStore) :
    MemoryStore :=
  { s with screens := updateFirst (isScreen org screenId) change s.screens }

/-- A new screen of a device that no operator has placed. -/
def newScreen (screenId org : String) (device : DeviceMetadata) (timestamp : Int) : ScreenRecord :=
  { id := screenId, organizationId := org,
    name := "New screen " ++ String.ofList (device.installationId.toList.reverse.take 6).reverse,
    location := "Unassigned", locationId := none, locationName := none, status := .online,
    orientation := .landscape, resolution := "1920x1080", tags := [],
    installationId := some device.installationId, deviceTokenHash := none,
    model := some device.model, osVersion := some device.osVersion,
    playerVersion := some device.playerVersion, manifestVersion := none,
    nowPlayingAssetId := none, uptimeSeconds := none, freeStorageBytes := none,
    networkType := none, lastSeenAt := some timestamp, credentialRevokedAt := none,
    credentialGeneration := none, createdAt := timestamp, updatedAt := timestamp }

def ofScreen (org screenId : String) (credential : DeviceCredentialRecord) : Bool :=
  credential.organizationId == org && credential.screenId == screenId

/-- The credential that an attempt ends with. -/
def newCredential (credentialId org screenId : String) (attempt : PairingAttemptRecord)
    (timestamp : Int) : DeviceCredentialRecord :=
  { id := credentialId, organizationId := org, screenId := screenId, detached := false,
    keyId := attempt.keyId, publicKeySpki := attempt.publicKeySpki,
    securityLevel := attempt.securityLevel, expiresAt := attempt.credentialExpiresAt,
    revokedAt := none, createdAt := timestamp }

/-- A key that a device has used stays used. -/
def keyIsUsed (s : MemoryStore) (keyId : String) : Bool :=
  s.deviceCredentials.any (fun credential => credential.keyId == keyId) ||
    s.usedDeviceKeyIds.contains keyId

/-- `this.deviceCredentials.push(credential)`, with its key in the set of used keys. -/
def pushCredential (credential : DeviceCredentialRecord) (s : MemoryStore) : MemoryStore :=
  { s with
    deviceCredentials := s.deviceCredentials ++ [credential]
    usedDeviceKeyIds :=
      if s.usedDeviceKeyIds.contains credential.keyId then s.usedDeviceKeyIds
      else s.usedDeviceKeyIds ++ [credential.keyId] }

/-- The credentials of a screen that are not detached yet are revoked, and their open
challenges are used up. -/
def supersedeCredentials (org screenId : String) (timestamp : Int) (s : MemoryStore) :
    MemoryStore :=
  let superseded (credential : DeviceCredentialRecord) : Bool :=
    ofScreen org screenId credential && !credential.detached
  { s with
    deviceCredentials := changeWhere superseded (fun credential =>
      { credential with
        revokedAt := some (credential.revokedAt.getD timestamp), detached := true })
      s.deviceCredentials
    deviceAuthChallenges := consumeOpenChallenges
      ((s.deviceCredentials.filter superseded).map (·.id)) timestamp s.deviceAuthChallenges }

/-! ## Codes without a target -/

/-- A grant without a target screen and without an issuer. -/
def untargetedGrant (grantId org codeHash : String) (expiresAt : Int) : PairingRecord :=
  { id := grantId, organizationId := org, codeHash := codeHash, expiresAt := expiresAt,
    claimedAt := none, status := .pending, screenId := none, purpose := none,
    targetScreenId := none, expectedGeneration := none, authorizedByUserId := none,
    authorizedByMembershipId := none, authorizedByAuthenticationEpoch := none,
    authorizedByAuthorizationEpoch := none, priorCredentialId := none, requestReason := none,
    createdAt := none }

/-- The expired grants with this code are marked. -/
def expireCode (codeHash : String) (timestamp : Int) (s : MemoryStore) : MemoryStore :=
  { s with
    pairings := changeWhere (fun grant => grant.codeHash == codeHash && grant.status == .pending &&
        decide (grant.expiresAt ≤ timestamp))
      (fun grant => { grant with status := .expired }) s.pairings }

def pushGrant (grant : PairingRecord) (s : MemoryStore) : MemoryStore :=
  { s with pairings := s.pairings ++ [grant] }

def tryCreatePairing (R : Runtime) (org codeHash : String) (expiresAt : Int) :
    Operation PairingRecord := do
  let currentTime ← now R
  changeStore (expireCode codeHash currentTime)
  let taken ← look fun s => s.pairings.any fun grant =>
    grant.codeHash == codeHash && grant.status == .pending
  refuseIf taken "CODE_COLLISION"
  let grantId ← drawId R
  let pairing := untargetedGrant grantId org codeHash expiresAt
  changeStore (pushGrant pairing)
  return pairing

def tryCreatePairingAndAudit (R : Runtime) (org codeHash : String) (expiresAt : Int)
    (audit : UserMutationAuditContext) : Operation PairingRecord := do
  let _ ← found (fun s => activeActor s.toMemoryStore org audit.actorUserId [.owner, .admin])
    "FORBIDDEN"
  let currentTime ← now R
  let taken ← look fun s => codeIsTaken s.toMemoryStore codeHash currentTime
  refuseIf taken "CODE_COLLISION"
  let grantId ← drawId R
  let pairing := untargetedGrant grantId org codeHash expiresAt
  let auditRecord ← buildAuditRecord R (userEvent org audit "pairing.created" "pairing" pairing.id
    [("expiresAt", some (.str (R.toISOString expiresAt)))])
  changeStore (expireCode codeHash currentTime)
  changeStore (pushGrant pairing)
  pushAudits [auditRecord]
  return pairing

def isClaimable (codeHash : String) (timestamp : Int) (grant : PairingRecord) : Bool :=
  grant.codeHash == codeHash && grant.purpose.getD .newScreen == .newScreen &&
    (truthyText grant.targetScreenId).isNone && (truthyText grant.authorizedByUserId).isNone &&
    grant.status == .pending && decide (timestamp < grant.expiresAt)

/-- The first grant that the code can still claim. -/
def claimablePairing (R : Runtime) (codeHash : String) : Operation PairingRecord := do
  let timestamp ← now R
  found (fun s => s.pairings.find? (isClaimable codeHash timestamp)) "INVALID"

/-- A claim makes a screen, and ends the grant. -/
def claimGrant (pairing : PairingRecord) (screen : ScreenRecord) (s : MemoryStore) : MemoryStore :=
  { s with
    screens := s.screens ++ [screen]
    pairings := updateFirst (fun grant => grant.id == pairing.id) (fun grant =>
      { grant with status := .claimed, screenId := some screen.id }) s.pairings }

/-- `claimPairingRecord`, with the identifier and the time of an audited claim. -/
def claimPairingRecord (R : Runtime) (codeHash : String) (device : DeviceMetadata)
    (tokenHash : String) (prepared : Option (String × Int)) : Operation ScreenRecord := do
  let pairing ← claimablePairing R codeHash
  let timestamp ← match prepared with
    | some (_, timestamp) => pure timestamp
    | none => now R
  let screenId ← match prepared with
    | some (screenId, _) => pure screenId
    | none => drawId R
  let screen : ScreenRecord :=
    { newScreen screenId pairing.organizationId device timestamp with
      deviceTokenHash := some tokenHash }
  changeStore (claimGrant pairing screen)
  return screen

def claimPairing (R : Runtime) (codeHash : String) (device : DeviceMetadata) (tokenHash : String) :
    Operation ScreenRecord := claimPairingRecord R codeHash device tokenHash none

structure PairingClaimAuditContext where
  ipAddress : Option String
  requestId : Option String
  metadata : List (String × Value)
  deriving DecidableEq

/-- `{ ...fields, [key]: value }`. -/
def assignField (fields : List (String × Value)) (key : String) (value : Value) :
    List (String × Value) :=
  if fields.any (·.1 == key) then changeWhere (·.1 == key) (fun _ => (key, value)) fields
  else fields ++ [(key, value)]

/-- The event of an operation of a device. -/
def deviceEvent (organizationId : String) (audit : PairingClaimAuditContext)
    (action entityType entityId : String) (metadata : List (String × Value)) : AuditEvent :=
  { organizationId := organizationId, actorUserId := none, actorType := "device",
    action := action, entityType := entityType, entityId := some entityId,
    ipAddress := truthyText audit.ipAddress, requestId := truthyText audit.requestId,
    metadata := metadata }

def claimPairingAndAudit (R : Runtime) (codeHash : String) (device : DeviceMetadata)
    (tokenHash : String) (audit : PairingClaimAuditContext) : Operation ScreenRecord := do
  let pairing ← claimablePairing R codeHash
  let screenId ← drawId R
  let timestamp ← now R
  let auditRecord ← buildAuditRecord R (deviceEvent pairing.organizationId audit "device.paired"
    "screen" screenId
    (assignField audit.metadata "installationId" (some (.str device.installationId))))
  let screen ← claimPairingRecord R codeHash device tokenHash (some (screenId, timestamp))
  pushAudits [auditRecord]
  return screen

/-! ## Grants for a screen -/

def textValue (text : String) : Value := some (.str text)

def numberValue (n : Nat) : Value := some (.num n)

/-- The actor of an operation on devices. -/
def deviceActor (org actorUserId : String) : Operation SessionUser :=
  found (fun s => adminActor s.toMemoryStore org actorUserId) "FORBIDDEN"

/-- A grant for a screen, with its issuer as the issuer is now. -/
def targetedGrant (grantId org codeHash : String) (expiresAt : Int) (purpose : PairingPurpose)
    (screenId : String) (expectedGeneration : Nat) (actor : SessionUser)
    (priorCredentialId : Option String) (reason : String) (timestamp : Int) : PairingRecord :=
  { id := grantId, organizationId := org, codeHash := codeHash, expiresAt := expiresAt,
    claimedAt := none, status := .pending, screenId := none, purpose := some purpose,
    targetScreenId := some screenId, expectedGeneration := some expectedGeneration,
    authorizedByUserId := some actor.id, authorizedByMembershipId := some actor.membership,
    authorizedByAuthenticationEpoch := some actor.authenticationEpoch,
    authorizedByAuthorizationEpoch := some actor.authorizationEpoch,
    priorCredentialId := priorCredentialId, requestReason := some reason,
    createdAt := some timestamp }

def isTarget (screenId : String) (grant : PairingRecord) : Bool :=
  grant.targetScreenId == some screenId

/-- A new grant revokes the pending grants and the credentials of its screen. -/
def beginReenrollment (R : Runtime) (org screenId : String) (pairing : PairingRecord)
    (timestamp : Int) (s : MemoryStore) : MemoryStore :=
  pushGrant pairing (changeScreen org screenId (·.revoked timestamp)
    (supersedeCredentials org screenId timestamp
      (revokeGrants (isTarget screenId) (·.boundCredentialId.isNone) (·.cancel timestamp)
        (pruneDeviceEnrollmentAuthority R.toPlatform org timestamp none s))))

def requestScreenReenrollmentAndAudit (R : Runtime) (org screenId codeHash : String)
    (expiresAt : Int) (reason : String) (audit : UserMutationAuditContext) :
    Operation PairingRecord := do
  let actor ← deviceActor org audit.actorUserId
  let screen ← found (fun s => s.screens.find? (isScreen org screenId)) "NOT_FOUND"
  let timestamp ← now R
  let taken ← look fun s => codeIsTaken s.toMemoryStore codeHash timestamp
  refuseIf taken "CODE_COLLISION"
  let priorCredential ← look fun s => s.deviceCredentials.find? fun credential =>
    ofScreen org screenId credential && !credential.detached
  let generation := screen.credentialGeneration.getD 0 + 1
  let grantId ← drawId R
  let pairing := targetedGrant grantId org codeHash expiresAt .reenroll screenId generation actor
    (priorCredential.map (·.id)) reason timestamp
  let auditRecord ← buildAuditRecord R
    (userEvent org audit "device.reenrollment.requested" "screen" screenId
      [("grantId", textValue pairing.id), ("expectedGeneration", numberValue generation),
        ("reason", textValue reason)])
  changeStore (beginReenrollment R org screenId pairing timestamp)
  pushAudits [auditRecord]
  return pairing

structure CodeCandidate where
  codeHash : String
  counter : Nat
  deriving DecidableEq

structure ScreenEnrollmentIdempotencyInput where
  keyHash : String
  requestDigestSha256 : String
  codeCandidates : List CodeCandidate
  deriving DecidableEq

structure ScreenEnrollmentGrant where
  pairing : PairingRecord
  codeCounter : Nat
  replayed : Bool
  deriving DecidableEq

/-- The record of an earlier call under this key. -/
def earlierCall (operation : EnrollmentOperation) (org keyHash : String) (s : MemoryStore) :
    Option EnrollmentIdempotencyRecord :=
  s.screenEnrollmentIdempotencyRecords.find? fun record =>
    record.operation == operation && record.organizationId == org && record.keyHash == keyHash

/-- The response of an earlier call, for the same caller and the same request. -/
def earlierResponse (existing : EnrollmentIdempotencyRecord)
    (actorUserId requestDigestSha256 : String) (timestamp : Int) :
    Operation EnrollmentResponse := do
  refuseIf (existing.actorUserId != actorUserId ||
    existing.requestDigestSha256 != requestDigestSha256) "IDEMPOTENCY_KEY_REUSED"
  refuseIf (decide (existing.expiresAt ≤ timestamp)) "IDEMPOTENCY_KEY_EXPIRED"
  found (fun _ => existing.response) "IDEMPOTENCY_KEY_EXPIRED"

/-- A grant that a pass has removed was not pending any more. -/
def PairingRecord.ended (grant : PairingRecord) : PairingRecord :=
  if grant.status == .pending then { grant with status := .expired } else grant

/-- An earlier call gets its answer again. -/
def replayEnrollment (R : Runtime) (org : String) (existing : EnrollmentIdempotencyRecord)
    (audit : UserMutationAuditContext) (idempotency : ScreenEnrollmentIdempotencyInput)
    (timestamp : Int) : Operation ScreenEnrollmentGrant := do
  let response ← earlierResponse existing audit.actorUserId idempotency.requestDigestSha256
    timestamp
  match response with
  | .bound _ => refuse "IDEMPOTENCY_KEY_EXPIRED"
  | .granted grantId codeCounter =>
    let pairing ← found (fun s => s.pairings.find? fun grant => grant.id == grantId)
      "IDEMPOTENCY_KEY_EXPIRED"
    changeStore (pruneDeviceEnrollmentAuthority R.toPlatform org timestamp
      (some idempotency.keyHash))
    let current ← look fun s =>
      (s.pairings.find? fun grant => grant.id == grantId).getD pairing.ended
    return { pairing := current, codeCounter := codeCounter, replayed := true }

/-- No device has ever been bound to the screen. -/
def isUnenrolled (s : MemoryStore) (org : String) (screen : ScreenRecord) : Bool :=
  screen.credentialGeneration.getD 0 == 0 && (truthyText screen.installationId).isNone &&
    (truthyText screen.deviceTokenHash).isNone &&
    !s.deviceCredentials.any (ofScreen org screen.id)

/-- The command is remembered under its key. -/
def rememberEnrollment (operation : EnrollmentOperation) (org keyHash : String)
    (actorUserId requestDigestSha256 : String) (timestamp : Int) (response : EnrollmentResponse)
    (s : MemoryStore) : MemoryStore :=
  { s with
    screenEnrollmentIdempotencyRecords := s.screenEnrollmentIdempotencyRecords ++
      [{ operation := operation, organizationId := org, keyHash := keyHash,
         actorUserId := actorUserId, requestDigestSha256 := requestDigestSha256,
         expiresAt := timestamp + DEVICE_ENROLLMENT_AUTHORITY_RETENTION_MS,
         response := some response }] }

def isNewScreenGrant (org screenId : String) (grant : PairingRecord) : Bool :=
  grant.organizationId == org && isTarget screenId grant && grant.purpose == some .newScreen

/-- A new grant for a screen without devices revokes the other ones for it. -/
def beginEnrollment (R : Runtime) (org screenId : String) (pairing : PairingRecord)
    (actorUserId keyHash requestDigestSha256 : String) (codeCounter : Nat) (timestamp : Int)
    (s : MemoryStore) : MemoryStore :=
  rememberEnrollment .create org keyHash actorUserId requestDigestSha256 timestamp
    (.granted pairing.id codeCounter)
    (pushGrant pairing
      (revokeGrants (isNewScreenGrant org screenId) (·.boundCredentialId.isNone)
        (·.cancelOnce timestamp)
        (pruneDeviceEnrollmentAuthority R.toPlatform org timestamp (some keyHash) s)))

def requestScreenEnrollmentAndAudit (R : Runtime) (org screenId reason : String)
    (audit : UserMutationAuditContext) (idempotency : ScreenEnrollmentIdempotencyInput) :
    Operation ScreenEnrollmentGrant := do
  let actor ← deviceActor org audit.actorUserId
  let timestamp ← now R
  match ← look fun s => earlierCall .create org idempotency.keyHash s.toMemoryStore with
  | some existing => replayEnrollment R org existing audit idempotency timestamp
  | none =>
    let target ← found (fun s => s.screens.find? (isScreen org screenId)) "NOT_FOUND"
    let eligible ← look fun s => isUnenrolled s.toMemoryStore org target
    refuseIf (!eligible) "SCREEN_NOT_ELIGIBLE"
    let selected ← found (fun s => idempotency.codeCandidates.find? fun candidate =>
      !codeIsTaken s.toMemoryStore candidate.codeHash timestamp) "CODE_COLLISION"
    let grantId ← drawId R
    let pairing := targetedGrant grantId org selected.codeHash (timestamp + 10 * 60000) .newScreen
      screenId 0 actor none reason timestamp
    let auditRecord ← buildAuditRecord R
      (userEvent org audit "device.enrollment.requested" "screen" screenId
        [("grantId", textValue pairing.id), ("expectedGeneration", numberValue 0),
          ("reason", textValue reason)])
    changeStore (beginEnrollment R org screenId pairing actor.id idempotency.keyHash
      idempotency.requestDigestSha256 selected.counter timestamp)
    pushAudits [auditRecord]
    return { pairing := pairing, codeCounter := selected.counter, replayed := false }

/-! ## The activation of a candidate -/

structure Activation where
  screen : ScreenRecord
  credential : DeviceCredentialRecord
  replayed : Bool
  deriving DecidableEq

/-- The attempt has ended with a credential. -/
def PairingAttemptRecord.isBound (attempt : PairingAttemptRecord) : Bool :=
  (attempt.consumedAt.isSome || attempt.activatedAt.isSome) && attempt.boundCredentialId.isSome

/-- What an activation says of its candidate. -/
def activationMetadata (grant : PairingRecord) (attempt : PairingAttemptRecord)
    (credential : DeviceCredentialRecord) : List (String × Value) :=
  [("grantId", textValue grant.id), ("candidateId", textValue attempt.id),
    ("credentialId", textValue credential.id), ("keyId", textValue credential.keyId),
    ("reason", grant.requestReason.map .str)]

/-- The attempt is bound to the credential, the grant is used, and the other attempts end. -/
def bindAttempt (grant : PairingRecord) (attempt : PairingAttemptRecord) (credentialId : String)
    (change : PairingRecord → PairingRecord) (timestamp : Int) (s : MemoryStore) : MemoryStore :=
  { s with
    pairings := updateFirst (fun other => other.id == grant.id) change s.pairings
    pairingAttempts :=
      changeWhere (fun other => other.pairingCodeId == grant.id && other.id != attempt.id)
        (·.cancelOnce timestamp)
        (updateFirst (fun other => other.id == attempt.id) (fun attempt =>
          { attempt with
            activatedAt := some timestamp, boundCredentialId := some credentialId })
          s.pairingAttempts) }

/-- The changes of an activated re-enrollment. -/
def finishReenrollment (org screenId : String) (grant : PairingRecord)
    (attempt : PairingAttemptRecord) (credential : DeviceCredentialRecord) (generation : Nat)
    (timestamp : Int) (s : MemoryStore) : MemoryStore :=
  -- the other grants of the screen are revoked here, and the attempts on them stay
  revokeGrants (isTarget screenId) (fun _ => false) id
    (bindAttempt grant attempt credential.id
      (fun grant => { grant with status := .claimed, screenId := some screenId }) timestamp
      (pushCredential credential
        (changeScreen org screenId (·.enrolled attempt generation timestamp) s)))

/-- The credential of an attempt that was activated before, while it is still the one of the
generation that its grant led to. -/
def boundActivation (org screenId : String) (grant : Option PairingRecord)
    (attempt : PairingAttemptRecord) (s : MemoryStore) : Option Activation := do
  let credential ← s.deviceCredentials.find? fun credential =>
    some credential.id == attempt.boundCredentialId
  let screen ← s.screens.find? (isScreen org screenId)
  let expected ← grant.bind (·.expectedGeneration)
  if credential.revokedAt.isNone && !credential.detached &&
      screen.credentialGeneration == some (expected + 1) then
    some { screen := publicScreen s screen, credential := credential, replayed := false }
  else none

def activateReenrollmentCandidateAndAudit (R : Runtime) (org screenId grantId candidateId : String)
    (audit : UserMutationAuditContext) : Operation Activation := do
  let _ ← deviceActor org audit.actorUserId
  let candidate ← look fun s => s.pairingAttempts.find? fun attempt =>
    attempt.id == candidateId && attempt.organizationId == org
  let named ← look fun s => s.pairings.find? fun grant =>
    grant.id == grantId && some grant.id == candidate.map (·.pairingCodeId) &&
      isTarget screenId grant && grant.purpose == some .reenroll
  let stale ← look fun s => named.any fun grant =>
    !(grantIssuer s.toMemoryStore org grant).any (signedBy grant)
  refuseIf stale "STALE"
  match candidate.filter (·.isBound) with
  | some attempt =>
    found (fun s => boundActivation org screenId named attempt s.toMemoryStore) "STALE"
  | none =>
    let attempt ← found (fun _ => candidate) "NOT_FOUND"
    let grant ← found (fun _ => named) "NOT_FOUND"
    refuseIf (attempt.provedAt.isNone || attempt.cancelledAt.isSome) "NOT_FOUND"
    let screen ← found (fun s => s.screens.find? (isScreen org screenId)) "STALE"
    refuseIf (grant.status != .pending) "STALE"
    let reading ← now R
    refuseIf (decide (grant.expiresAt ≤ reading) ||
      grant.expectedGeneration != some (screen.credentialGeneration.getD 0)) "STALE"
    let used ← look fun s => keyIsUsed s.toMemoryStore attempt.keyId
    refuseIf used "STALE"
    let timestamp ← now R
    let credentialId ← drawId R
    let credential := newCredential credentialId org screenId attempt timestamp
    let auditRecord ← buildAuditRecord R
      (userEvent org audit "device.reenrollment.activated" "screen" screenId
        (activationMetadata grant attempt credential))
    changeStore (finishReenrollment org screenId grant attempt credential
      (screen.credentialGeneration.getD 0 + 1) timestamp)
    pushAudits [auditRecord]
    let shown ← look fun s => publicScreen s.toMemoryStore
      (screen.enrolled attempt (screen.credentialGeneration.getD 0 + 1) timestamp)
    return { screen := shown, credential := credential, replayed := false }

structure ScreenEnrollmentActivationIdempotencyInput where
  keyHash : String
  requestDigestSha256 : String
  deriving DecidableEq

/-- An earlier activation gets its answer again. -/
def replayActivation (R : Runtime) (org screenId actorUserId : String)
    (existing : EnrollmentIdempotencyRecord)
    (idempotency : ScreenEnrollmentActivationIdempotencyInput) (timestamp : Int) :
    Operation Activation := do
  let response ← earlierResponse existing actorUserId idempotency.requestDigestSha256 timestamp
  let credential ← found (fun s => s.deviceCredentials.find? fun credential =>
    response == .bound credential.id) "STALE"
  let target ← found (fun s => s.screens.find? (isScreen org screenId)) "STALE"
  let screen ← look fun s => publicScreen s.toMemoryStore target
  changeStore (pruneDeviceEnrollmentAuthority R.toPlatform org timestamp
    (some idempotency.keyHash))
  return { screen := screen, credential := credential, replayed := true }

/-- A grant and an attempt on it that can still be activated on a screen without devices. -/
def canActivate (s : MemoryStore) (org : String) (target : ScreenRecord) (grant : PairingRecord)
    (attempt : PairingAttemptRecord) (timestamp : Int) : Bool :=
  (grantIssuer s org grant).any (signedBy grant) && grant.status == .pending &&
    decide (timestamp < grant.expiresAt) && attempt.provedAt.isSome &&
    attempt.cancelledAt.isNone && attempt.activatedAt.isNone &&
    grant.expectedGeneration == some 0 && isUnenrolled s org target &&
    !s.usedDeviceKeyIds.contains attempt.keyId

/-- The changes of an activated enrollment. -/
def finishEnrollment (R : Runtime) (org screenId : String) (grant : PairingRecord)
    (attempt : PairingAttemptRecord) (credential : DeviceCredentialRecord)
    (actorUserId keyHash requestDigestSha256 : String) (timestamp : Int) (s : MemoryStore) :
    MemoryStore :=
  rememberEnrollment .activate org keyHash actorUserId requestDigestSha256 timestamp
    (.bound credential.id)
    (revokeGrants (fun other =>
        other.id != grant.id && other.organizationId == org && isTarget screenId other)
      (·.boundCredentialId.isNone) (·.cancelOnce timestamp)
      (bindAttempt grant attempt credential.id
        (fun grant =>
          { grant with
            status := .claimed, claimedAt := some timestamp, screenId := some screenId })
        timestamp
        (pushCredential credential
          (changeScreen org screenId (·.enrolled attempt 1 timestamp)
            (pruneDeviceEnrollmentAuthority R.toPlatform org timestamp (some keyHash) s)))))

def activateScreenEnrollmentCandidateAndAudit (R : Runtime)
    (org screenId grantId candidateId fingerprint : String) (audit : UserMutationAuditContext)
    (idempotency : ScreenEnrollmentActivationIdempotencyInput) : Operation Activation := do
  let actor ← deviceActor org audit.actorUserId
  let timestamp ← now R
  match ← look fun s => earlierCall .activate org idempotency.keyHash s.toMemoryStore with
  | some existing => replayActivation R org screenId actor.id existing idempotency timestamp
  | none =>
    let target ← found (fun s => s.screens.find? (isScreen org screenId)) "NOT_FOUND"
    let grant ← found (fun s => s.pairings.find? fun grant =>
      grant.id == grantId && isNewScreenGrant org screenId grant) "NOT_FOUND"
    let attempt ← found (fun s => s.pairingAttempts.find? fun attempt =>
      attempt.id == candidateId && attempt.organizationId == org &&
        attempt.pairingCodeId == grantId) "NOT_FOUND"
    refuseIf (attempt.keyId != fingerprint) "FINGERPRINT_MISMATCH"
    let current ← look fun s => canActivate s.toMemoryStore org target grant attempt timestamp
    refuseIf (!current) "STALE"
    let credentialId ← drawId R
    let credential := newCredential credentialId org screenId attempt timestamp
    let auditRecord ← buildAuditRecord R
      (userEvent org audit "device.enrollment.activated" "screen" screenId
        (activationMetadata grant attempt credential))
    changeStore (finishEnrollment R org screenId grant attempt credential actor.id
      idempotency.keyHash idempotency.requestDigestSha256 timestamp)
    pushAudits [auditRecord]
    let shown ← look fun s => publicScreen s.toMemoryStore (target.enrolled attempt 1 timestamp)
    return { screen := shown, credential := credential, replayed := false }

/-! ## Cancellation and revocation -/

def cancelScreenReenrollmentAndAudit (R : Runtime) (org screenId grantId : String)
    (audit : UserMutationAuditContext) (purpose : PairingPurpose) : Operation Unit := do
  let _ ← deviceActor org audit.actorUserId
  let grant ← found (fun s => s.pairings.find? fun grant =>
    grant.id == grantId && grant.organizationId == org && isTarget screenId grant &&
      grant.purpose == some purpose && grant.status == .pending) "NOT_FOUND"
  -- this record names neither the address nor the request
  let auditRecord ← buildAuditRecord R
    (userEvent org { audit with ipAddress := none, requestId := none }
      (if purpose == .reenroll then "device.reenrollment.cancelled"
        else "device.enrollment.cancelled")
      "screen" screenId [("grantId", textValue grant.id)])
  let timestamp ← now R
  changeStore (revokeGrants (fun other => other.id == grant.id) (·.consumedAt.isNone)
    (·.cancel timestamp))
  pushAudits [auditRecord]

/-- The pending grants of a screen of the organization. -/
def pendingGrants (s : MemoryStore) (org screenId : String) : List PairingRecord :=
  s.pairings.filter fun grant =>
    grant.organizationId == org && isTarget screenId grant && grant.status == .pending

/-- The credential that a revocation is about: the one in use, or one that was revoked. -/
def credentialToRevoke (s : MemoryStore) (org screenId : String) : Option DeviceCredentialRecord :=
  (s.deviceCredentials.find? fun credential =>
    ofScreen org screenId credential && !credential.detached).or
  (s.deviceCredentials.find? fun credential =>
    ofScreen org screenId credential && credential.revokedAt.isSome)

/-- The changes of a revocation that finds no credential in use. -/
def reassertRevocation (org screenId : String) (timestamp : Int) (s : MemoryStore) : MemoryStore :=
  changeScreen org screenId (·.revoked timestamp)
    (revokeGrants (fun grant => grant.organizationId == org && isTarget screenId grant)
      (·.consumedAt.isNone) (·.cancel timestamp) s)

/-- The changes of a revocation. -/
def revokeCredential (org screenId : String) (credential : DeviceCredentialRecord)
    (timestamp : Int) (s : MemoryStore) : MemoryStore :=
  revokeGrants (isTarget screenId) (·.consumedAt.isNone) (·.cancel timestamp)
    { changeScreen org screenId (·.revoked timestamp) s with
      deviceCredentials := updateFirst (fun other => other.id == credential.id) (fun credential =>
        { credential with revokedAt := some timestamp, detached := true }) s.deviceCredentials
      deviceAuthChallenges :=
        consumeOpenChallenges [credential.id] timestamp s.deviceAuthChallenges }

def revokeDeviceCredentialAndAudit (R : Runtime) (org screenId : String)
    (audit : UserMutationAuditContext) : Operation (Option DeviceCredentialRecord) := do
  let _ ← deviceActor org audit.actorUserId
  let credential ← look fun s => credentialToRevoke s.toMemoryStore org screenId
  let _ ← found (fun s => s.screens.find? (isScreen org screenId)) "NOT_FOUND"
  match credential.filter (·.revokedAt.isNone) with
  | none =>
    let pending ← look fun s => pendingGrants s.toMemoryStore org screenId
    refuseIf pending.isEmpty (if credential.isSome then "ALREADY_REVOKED" else "NOT_FOUND")
    let reassertedAt ← now R
    let auditRecord ← buildAuditRecord R
      (userEvent org audit "device.credential.revocation_reasserted"
        (if credential.isSome then "device_credential" else "screen")
        ((credential.map (·.id)).getD screenId)
        [("screenId", textValue screenId),
          ("cancelledGrantIds", some (.arr (pending.map fun grant => .str grant.id)))])
    changeStore (reassertRevocation org screenId reassertedAt)
    pushAudits [auditRecord]
    return credential
  | some credential =>
    let revokedAt ← now R
    let auditRecord ← buildAuditRecord R
      (userEvent org audit "device.credential.revoked" "device_credential" credential.id
        [("screenId", textValue credential.screenId), ("keyId", textValue credential.keyId)])
    changeStore (revokeCredential org screenId credential revokedAt)
    pushAudits [auditRecord]
    return some { credential with revokedAt := some revokedAt, detached := true }

end screengoblin.server
