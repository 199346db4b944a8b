-- The pairing of a device that proves its key (apps/api/src/store/memory.ts): a challenge for a
-- pairing code, and the claim with the signature of the challenge. The claim waits for the
-- verification of the signature, so it is two definitions.
import ScreenGoblin.DeviceEnrollment

open js collections scripts scripts.Script screengoblin.schedule

namespace screengoblin.server

/-! ## Challenges -/

structure PairingChallengeInput where
  codeHash : String
  credential : DeviceCredentialEnrollment
  challengeHashSha256 : String
  transcriptDigestSha256 : String
  expiresAt : Int
  deriving DecidableEq

/-- `/^[A-Za-z0-9_-]{43}$/` -/
def isKeyId (text : String) : Bool := text.toList.length == 43 && text.toList.all isBase64Url

/-- A field that a grant leaves open fits every value. -/
def leftOpen {α : Type} [BEq α] (expected : Option α) (value : α) : Bool :=
  expected.all (· == value)

/-- The issuer may still issue, and is the one that the grant names, as far as it says so. A grant
without an issuer has no target. -/
def issuerIsCurrent (s : MemoryStore) (grant : PairingRecord) : Bool :=
  match truthyText grant.authorizedByUserId with
  | some _ => (grantIssuer s grant.organizationId grant).any fun issuer =>
      mayIssue issuer && leftOpen (truthyText grant.authorizedByMembershipId) issuer.membership &&
        leftOpen grant.authorizedByAuthenticationEpoch issuer.authenticationEpoch &&
        leftOpen grant.authorizedByAuthorizationEpoch issuer.authorizationEpoch
  | none => (truthyText grant.targetScreenId).isNone

/-- The attempts of a key on a grant that are still open. -/
def openAttempts (s : MemoryStore) (grant : PairingRecord) (keyId : String) (timestamp : Int) :
    List PairingAttemptRecord :=
  s.pairingAttempts.filter fun attempt =>
    attempt.pairingCodeId == grant.id && attempt.keyId == keyId && attempt.consumedAt.isNone &&
      decide (timestamp < attempt.expiresAt)

/-- The grant takes another attempt of this key. -/
def mayAttempt (s : MemoryStore) (input : PairingChallengeInput) (createdAt : Int)
    (grant : PairingRecord) : Bool :=
  issuerIsCurrent s grant && decide (createdAt < input.expiresAt) &&
    decide (input.expiresAt - createdAt ≤ 45000) && isKeyId input.credential.keyId &&
    isLowerHex64 input.challengeHashSha256 && isLowerHex64 input.transcriptDigestSha256 &&
    !keyIsUsed s input.credential.keyId &&
    !s.pairingAttempts.any (fun attempt =>
      attempt.challengeHashSha256 == input.challengeHashSha256) &&
    decide ((openAttempts s grant input.credential.keyId createdAt).length < 4)

def newAttempt (attemptId : String) (input : PairingChallengeInput) (grant : PairingRecord)
    (createdAt : Int) : PairingAttemptRecord :=
  { id := attemptId, organizationId := grant.organizationId, pairingCodeId := grant.id,
    keyId := input.credential.keyId, publicKeySpki := input.credential.publicKeySpki,
    securityLevel := input.credential.securityLevel,
    credentialExpiresAt := input.credential.expiresAt,
    challengeHashSha256 := input.challengeHashSha256,
    transcriptDigestSha256 := input.transcriptDigestSha256, expiresAt := input.expiresAt,
    consumedAt := none, provedAt := none, activatedAt := none, cancelledAt := none,
    installationId := none, model := none, osVersion := none, playerVersion := none,
    boundCredentialId := none, createdAt := createdAt }

def pushAttempt (attempt : PairingAttemptRecord) (s : MemoryStore) : MemoryStore :=
  { s with pairingAttempts := s.pairingAttempts ++ [attempt] }

def isPendingCode (codeHash : String) (timestamp : Int) (grant : PairingRecord) : Bool :=
  grant.codeHash == codeHash && grant.status == .pending && decide (timestamp < grant.expiresAt)

/-- `none` is a refusal without a reason. -/
def issuePairingChallenge (R : DeviceRuntime) (input : PairingChallengeInput) :
    Operation (Option PairingAttemptRecord) := do
  let reading ← now R.toRuntime
  let pairing ← look fun s => s.pairings.find? (isPendingCode input.codeHash reading)
  let createdAt ← now R.toRuntime
  match ← look fun s => pairing.filter (mayAttempt s.toMemoryStore input createdAt) with
  | none => return none
  | some grant =>
    let attemptId ← drawToken R
    let attempt := newAttempt attemptId input grant createdAt
    changeStore (pushAttempt attempt)
    return some attempt

/-! ## Claims -/

structure PairingProofInput where
  codeHash : String
  pairingAttemptId : String
  challengeHashSha256 : String
  transcriptDigestSha256 : String
  keyId : String
  device : DeviceMetadata
  deriving DecidableEq

/-- The attempt and the grant of a claim. -/
structure PairingClaim where
  attempt : PairingAttemptRecord
  pairing : PairingRecord
  deriving DecidableEq

/-- `claimPairingWithCredentialAndAudit` up to its `await`. -/
def findPairingClaim (input : PairingProofInput) : Operation PairingClaim := do
  let attempt ← found (fun s => s.pairingAttempts.find? fun attempt =>
    attempt.id == input.pairingAttemptId) "INVALID"
  let pairing ← found (fun s => s.pairings.find? fun grant =>
    grant.id == attempt.pairingCodeId && grant.organizationId == attempt.organizationId &&
      grant.codeHash == input.codeHash) "INVALID"
  refuseIf (attempt.challengeHashSha256 != input.challengeHashSha256 ||
    attempt.transcriptDigestSha256 != input.transcriptDigestSha256 ||
    attempt.keyId != input.keyId) "INVALID"
  return { attempt := attempt, pairing := pairing }

/-- The credential that the verification of a claim is about. -/
def PairingAttemptRecord.enrollment (attempt : PairingAttemptRecord) :
    DeviceCredentialEnrollment :=
  { keyId := attempt.keyId, publicKeySpki := attempt.publicKeySpki,
    securityLevel := attempt.securityLevel, expiresAt := attempt.credentialExpiresAt }

/-- How a claim ends that is not refused. -/
inductive PairingOutcome where
  | paired (screen : ScreenRecord) (credential : DeviceCredentialRecord)
  | pendingApproval (grantId candidateId keyId : String) (expiresAt : Int)
  deriving DecidableEq

def PairingClaim.pendingApproval (claim : PairingClaim) : PairingOutcome :=
  .pendingApproval claim.pairing.id claim.attempt.id claim.attempt.keyId claim.pairing.expiresAt

/-- The credential and the screen of an attempt that is bound, while the credential is in use. -/
def boundPairing (s : MemoryStore) (attempt : PairingAttemptRecord) (reading : Int) :
    Option PairingOutcome := do
  let credential ← s.deviceCredentials.find? fun credential =>
    some credential.id == attempt.boundCredentialId && credential.revokedAt.isNone &&
      credential.expiresAt.all fun expiresAt => decide (reading < expiresAt)
  let screen ← s.screens.find? (isScreen credential.organizationId credential.screenId)
  return .paired (publicScreen s screen) credential

/-- The proved attempts of a grant that were not cancelled. -/
def provedCandidates (s : MemoryStore) (grant : PairingRecord) : List PairingAttemptRecord :=
  s.pairingAttempts.filter fun attempt =>
    attempt.pairingCodeId == grant.id && attempt.provedAt.isSome && attempt.cancelledAt.isNone

/-- The issuer may still issue, and is the one that the grant names, if it names one. -/
def issuerStillSigns (s : MemoryStore) (grant : PairingRecord) : Bool :=
  (grantIssuer s grant.organizationId grant).any fun issuer =>
    mayIssue issuer && (grant.authorizedByMembershipId.isNone || signedBy grant issuer)

/-- The grant takes another proved candidate. -/
def mayProve (s : MemoryStore) (grant : PairingRecord) : Bool :=
  (truthyText grant.targetScreenId).isSome && issuerStillSigns s grant &&
    decide ((provedCandidates s grant).length < 4)

/-- The attempt is proved, with the device that proved it. -/
def proveAttempt (attemptId : String) (device : DeviceMetadata) (provedAt : Int)
    (s : MemoryStore) : MemoryStore :=
  { s with
    pairingAttempts := updateFirst (fun attempt => attempt.id == attemptId) (fun attempt =>
      { attempt with
        provedAt := some provedAt, installationId := some device.installationId,
        model := some device.model, osVersion := some device.osVersion,
        playerVersion := some device.playerVersion }) s.pairingAttempts }

/-- On a grant for a screen, a claim makes a candidate for the operator. -/
def proveCandidate (R : Runtime) (input : PairingProofInput) (audit : PairingClaimAuditContext)
    (claim : PairingClaim) : Operation PairingOutcome := do
  let may ← look fun s => mayProve s.toMemoryStore claim.pairing
  refuseIf (!may) "INVALID"
  let provedAt ← now R
  let auditRecord ← buildAuditRecord R (deviceEvent claim.pairing.organizationId audit
    (if claim.pairing.purpose == some .reenroll then "device.reenrollment.candidate_proved"
      else "device.enrollment.candidate_proved")
    "screen" (claim.pairing.targetScreenId.getD "")
    [("grantId", textValue claim.pairing.id), ("candidateId", textValue claim.attempt.id),
      ("keyId", textValue claim.attempt.keyId),
      ("installationId", textValue input.device.installationId)])
  changeStore (proveAttempt claim.attempt.id input.device provedAt)
  pushAudits [auditRecord]
  return claim.pendingApproval

/-- A claim on a code without a target makes a screen with its credential. -/
def pairScreen (claim : PairingClaim) (screen : ScreenRecord)
    (credential : DeviceCredentialRecord) (timestamp : Int) (s : MemoryStore) : MemoryStore :=
  let paired := pushCredential credential (claimGrant claim.pairing screen s)
  { paired with
    pairingAttempts := updateFirst (fun attempt => attempt.id == claim.attempt.id) (fun attempt =>
      { attempt with
        consumedAt := some timestamp, boundCredentialId := some credential.id })
      s.pairingAttempts }

def pairNewScreen (R : Runtime) (input : PairingProofInput) (audit : PairingClaimAuditContext)
    (claim : PairingClaim) : Operation PairingOutcome := do
  let timestamp ← now R
  let screenId ← drawId R
  let screen := newScreen screenId claim.pairing.organizationId input.device timestamp
  let credentialId ← drawId R
  let credential :=
    newCredential credentialId claim.pairing.organizationId screenId claim.attempt timestamp
  let auditRecord ← buildAuditRecord R (deviceEvent claim.pairing.organizationId audit
    "device.paired" "screen" screenId
    (assignField (assignField (assignField audit.metadata
      "installationId" (textValue input.device.installationId))
      "credentialId" (textValue credential.id)) "keyId" (textValue credential.keyId)))
  changeStore (pairScreen claim screen credential timestamp)
  pushAudits [auditRecord]
  let shown ← look fun s => publicScreen s.toMemoryStore screen
  return .paired shown credential

/-- A proved attempt waits for the operator. -/
def PairingClaim.isPending (claim : PairingClaim) (reading : Int) : Bool :=
  claim.pairing.purpose.isSome && claim.attempt.provedAt.isSome &&
    claim.attempt.cancelledAt.isNone && claim.pairing.status == .pending &&
    decide (reading < claim.pairing.expiresAt)

/-- `claimPairingWithCredentialAndAudit` after its `await`, with the attempt and the grant as they
are now. -/
def settlePairingClaim (R : Runtime) (input : PairingProofInput)
    (audit : PairingClaimAuditContext) (claim : PairingClaim) (verified : Bool) :
    Operation PairingOutcome := do
  refuseIf (!verified) "INVALID"
  if claim.attempt.isBound then
    let reading ← now R
    found (fun s => boundPairing s.toMemoryStore claim.attempt reading) "INVALID"
  else
    let reading ← now R
    if claim.isPending reading then return claim.pendingApproval
    else
      let attemptReading ← now R
      let grantReading ← now R
      let used ← look fun s => s.deviceCredentials.any fun credential =>
        credential.keyId == claim.attempt.keyId
      refuseIf (decide (claim.attempt.expiresAt ≤ attemptReading) ||
        decide (claim.pairing.expiresAt ≤ grantReading) || claim.pairing.status != .pending || used)
        "INVALID"
      if claim.pairing.purpose.isSome then proveCandidate R input audit claim
      else pairNewScreen R input audit claim

end screengoblin.server
