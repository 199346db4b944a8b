-- The proofs that a device gives with its requests (apps/api/src/store/memory.ts): one-time
-- challenges for a credential, and a heartbeat that consumes one. The verification of a signature
-- is an `await`, so an operation is one definition for each synchronous part.
import ScreenGoblin.DevicePairing

open js collections scripts scripts.Script screengoblin.schedule

namespace screengoblin.server

def DEVICE_AUTH_CHALLENGE_RETENTION_MS : Int := 24 * 60 * 60 * 1000

/-! ## Credentials in use -/

/-- A credential with its screen. -/
structure ActiveDevice where
  credential : DeviceCredentialRecord
  screen : ScreenRecord
  deriving DecidableEq

def isInUse (reading : Int) (credential : DeviceCredentialRecord) : Bool :=
  !credential.detached && credential.revokedAt.isNone &&
    credential.expiresAt.all fun expiresAt => decide (reading < expiresAt)

def activeDeviceCredential (s : MemoryStore) (credentialId : String) (reading : Int) :
    Option ActiveDevice := do
  let credential ← s.deviceCredentials.find? fun credential =>
    credential.id == credentialId && isInUse reading credential
  let screen ← s.screens.find? (isScreen credential.organizationId credential.screenId)
  return { credential, screen }

/-- The device of a screen and a key. `none` is an invalid proof. -/
def authenticateDeviceCredential (R : Runtime) (screenId keyId : String) :
    Operation (Option ActiveDevice) := do
  let reading ← now R
  look fun s => do
    let credential ← s.deviceCredentials.find? fun credential =>
      credential.screenId == screenId && credential.keyId == keyId
    let active ← activeDeviceCredential s.toMemoryStore credential.id reading
    return { active with screen := publicScreen s.toMemoryStore active.screen }

/-! ## Challenges -/

structure DeviceAuthChallengeInput where
  screenId : String
  keyId : String
  challengeHashSha256 : String
  operation : DeviceAuthOperation
  requestDigestSha256 : String
  expiresAt : Int
  deriving DecidableEq

/-- The challenges of a credential for an operation that can still be consumed. -/
def liveChallenges (s : MemoryStore) (credentialId : String) (operation : DeviceAuthOperation)
    (timestamp : Int) : List DeviceAuthChallengeRecord :=
  s.deviceAuthChallenges.filter fun challenge =>
    challenge.credentialId == credentialId && challenge.operation == operation &&
      challenge.consumedAt.isNone && decide (timestamp < challenge.expiresAt)

/-- The device may have another challenge. -/
def mayIssueChallenge (s : MemoryStore) (input : DeviceAuthChallengeInput)
    (credential : DeviceCredentialRecord) (createdAt : Int) : Bool :=
  decide (createdAt < input.expiresAt) && decide (input.expiresAt - createdAt ≤ 60000) &&
    isLowerHex64 input.challengeHashSha256 && isLowerHex64 input.requestDigestSha256 &&
    !s.deviceAuthChallenges.any (fun challenge =>
      challenge.challengeHashSha256 == input.challengeHashSha256) &&
    decide ((liveChallenges s credential.id input.operation createdAt).length < 4)

/-- Challenges that expired long ago are removed, the ones that expired first. -/
def pruneOldDeviceAuthChallenges (P : Platform) (timestamp : Int) (s : MemoryStore) :
    MemoryStore :=
  let removable := (((s.deviceAuthChallenges.filter fun challenge =>
      decide (challenge.expiresAt ≤ timestamp - DEVICE_AUTH_CHALLENGE_RETENTION_MS)).insertionSort
    fun a b => ((compare a.expiresAt b.expiresAt).then (P.localeCompare a.id b.id)).isLE).take
      DATABASE_MAINTENANCE_BATCH_SIZE).map (·.id)
  { s with
    deviceAuthChallenges := s.deviceAuthChallenges.filter fun challenge =>
      !removable.contains challenge.id }

def newDeviceAuthChallenge (challengeId : String) (input : DeviceAuthChallengeInput)
    (credential : DeviceCredentialRecord) (createdAt : Int) : DeviceAuthChallengeRecord :=
  { id := challengeId, organizationId := credential.organizationId,
    credentialId := credential.id, challengeHashSha256 := input.challengeHashSha256,
    operation := input.operation, requestDigestSha256 := input.requestDigestSha256,
    expiresAt := input.expiresAt, consumedAt := none, createdAt := createdAt }

def pushChallenge (P : Platform) (challenge : DeviceAuthChallengeRecord) (timestamp : Int)
    (s : MemoryStore) : MemoryStore :=
  let pruned := pruneOldDeviceAuthChallenges P timestamp s
  { pruned with deviceAuthChallenges := pruned.deviceAuthChallenges ++ [challenge] }

/-- `issueDeviceAuthChallenge` after its `await`, with the device that was authenticated before
it. `none` is a refusal without a reason. -/
def issueDeviceAuthChallenge (R : DeviceRuntime) (input : DeviceAuthChallengeInput)
    (authenticated : Option ActiveDevice) : Operation (Option DeviceAuthChallengeRecord) := do
  let createdAt ← now R.toRuntime
  match ← look fun s => authenticated.filter fun active =>
      mayIssueChallenge s.toMemoryStore input active.credential createdAt with
  | none => return none
  | some active =>
    let challengeId ← drawToken R
    let challenge := newDeviceAuthChallenge challengeId input active.credential createdAt
    changeStore (pushChallenge R.toPlatform challenge createdAt)
    return some challenge

/-! ## The consumption of a challenge -/

structure DeviceProofInput where
  credentialId : String
  challengeId : String
  challengeHashSha256 : String
  operation : DeviceAuthOperation
  requestDigestSha256 : String
  deriving DecidableEq

/-- The challenge can be consumed by this proof. -/
def fitsProof (input : DeviceProofInput) (reading : Int) (challenge : DeviceAuthChallengeRecord) :
    Bool :=
  challenge.consumedAt.isNone && decide (reading < challenge.expiresAt) &&
    challenge.challengeHashSha256 == input.challengeHashSha256 &&
    challenge.operation == input.operation &&
    challenge.requestDigestSha256 == input.requestDigestSha256

/-- What `consumeDeviceProof` takes over the verification of the signature. -/
structure ProofLookup where
  active : ActiveDevice
  challenge : DeviceAuthChallengeRecord
  deriving DecidableEq

def ActiveDevice.generation (active : ActiveDevice) : Nat :=
  active.screen.credentialGeneration.getD 0

/-- `consumeDeviceProof` up to its `await`. -/
def findDeviceProof (R : Runtime) (input : DeviceProofInput) : Operation (Option ProofLookup) := do
  let reading ← now R
  let challengeReading ← now R
  look fun s => do
    let active ← activeDeviceCredential s.toMemoryStore input.credentialId reading
    let challenge ← s.deviceAuthChallenges.find? fun challenge =>
      challenge.id == input.challengeId && challenge.credentialId == input.credentialId &&
        challenge.organizationId == active.credential.organizationId
    if fitsProof input challengeReading challenge then some { active, challenge } else none

/-- The device and the challenge are the ones that the signature was verified for. A record keeps
its identifier, so the same identifier is the same object. -/
def isSameProof (lookup : ProofLookup) (active : ActiveDevice)
    (challenge : DeviceAuthChallengeRecord) : Bool :=
  active.credential.id == lookup.active.credential.id &&
    active.screen.id == lookup.active.screen.id &&
    active.generation == lookup.active.generation && challenge.id == lookup.challenge.id

/-- What `consumeDeviceProof` finds after its `await`. -/
def currentProof (s : MemoryStore) (input : DeviceProofInput) (lookup : ProofLookup)
    (reading consumedAt : Int) : Option ActiveDevice := do
  let active ← activeDeviceCredential s input.credentialId reading
  let challenge ← s.deviceAuthChallenges.find? fun challenge => challenge.id == input.challengeId
  if isSameProof lookup active challenge &&
      active.credential.expiresAt.all (fun expiresAt => decide (consumedAt < expiresAt)) &&
      challenge.credentialId == input.credentialId &&
      challenge.organizationId == active.credential.organizationId &&
      fitsProof input consumedAt challenge then
    some active
  else none

def consumeChallenge (challengeId : String) (consumedAt : Int) (s : MemoryStore) : MemoryStore :=
  { s with
    deviceAuthChallenges := updateFirst (fun challenge => challenge.id == challengeId)
      (fun challenge => { challenge with consumedAt := some consumedAt }) s.deviceAuthChallenges }

/-- `consumeDeviceProof` after its `await`. -/
def consumeDeviceProof (R : Runtime) (input : DeviceProofInput) (lookup : Option ProofLookup)
    (verified : Bool) : Operation (Option ActiveDevice) := do
  match lookup.filter fun _ => verified with
  | none => return none
  | some lookup =>
    let reading ← now R
    let consumedAt ← now R
    match ← look fun s => currentProof s.toMemoryStore input lookup reading consumedAt with
    | none => return none
    | some active =>
      changeStore (consumeChallenge input.challengeId consumedAt)
      return some active

/-! ## Heartbeats -/

/-- What a heartbeat says. A field that is `none` is `null`, and removes the old value. -/
structure HeartbeatUpdateInput where
  playerVersion : String
  manifestVersion : Option String
  nowPlayingAssetId : Option String
  uptimeSeconds : Rat
  freeStorageBytes : Rat
  networkType : String
  deriving DecidableEq

def HeartbeatUpdateInput.apply (data : HeartbeatUpdateInput) (lastSeenAt updatedAt : Int)
    (screen : ScreenRecord) : ScreenRecord :=
  { screen with
    playerVersion := some data.playerVersion, uptimeSeconds := some data.uptimeSeconds,
    freeStorageBytes := some data.freeStorageBytes, networkType := some data.networkType,
    status := .online, lastSeenAt := some lastSeenAt, updatedAt := updatedAt,
    manifestVersion := data.manifestVersion, nowPlayingAssetId := data.nowPlayingAssetId }

/-- The end of `heartbeatWithDeviceProof`. A screen that is not in the store any more takes the
heartbeat outside it. -/
def recordHeartbeat (R : Runtime) (data : HeartbeatUpdateInput) (active : ActiveDevice) :
    Operation ActiveDevice := do
  let lastSeenAt ← now R
  let updatedAt ← now R
  changeStore fun s =>
    { s with
      screens := updateFirst (fun screen => screen.id == active.screen.id)
        (data.apply lastSeenAt updatedAt) s.screens }
  look fun s =>
    { active with
      screen := publicScreen s.toMemoryStore (data.apply lastSeenAt updatedAt active.screen) }

/-- `heartbeat`, for a screen that was authenticated before. -/
def heartbeat (R : Runtime) (screenId : String) (data : HeartbeatUpdateInput) :
    Operation (Option ScreenRecord) := do
  let screen ← look fun s => s.screens.find? fun screen => screen.id == screenId
  match screen with
  | none => return none
  | some screen =>
    let lastSeenAt ← now R
    let updatedAt ← now R
    changeStore fun s =>
      { s with
        screens := updateFirst (fun screen => screen.id == screenId)
          (data.apply lastSeenAt updatedAt) s.screens }
    return some (data.apply lastSeenAt updatedAt screen)

end screengoblin.server
