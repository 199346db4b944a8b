-- The calls on devices side by side (apps/api/src/store/memory.ts). A call with an `await` goes
-- on in a later step, and any other call can run in between.
import ScreenGoblin.DeviceProof
import ScreenGoblin.OwnerContinuity

open js collections scripts scripts.Script screengoblin.schedule

namespace screengoblin.server

/-! ## Calls in one step -/

/-- The end of an operation without its value. -/
def ends {α : Type} (operation : Operation α) : Operation Unit := do
  let _ ← operation

/-- `deleteScreenAndAudit`. -/
def decommissionScreen (R : Runtime) (org screenId : String) (audit : UserMutationAuditContext) :
    Operation Unit := do
  let _ ← deviceActor org audit.actorUserId
  let _ ← found (fun s => s.screens.find? (isScreen org screenId)) "NOT_FOUND"
  let auditRecord ← buildAuditRecord R
    (userEvent org audit "screen.decommissioned" "screen" screenId [])
  let timestamp ← now R
  changeStore fun s => (deleteScreenAndAudit timestamp org screenId audit.actorUserId s).1
  pushAudits [auditRecord]

/-- The calls without an `await` on the way. The audit records of a screen that is created or
changed are left out. -/
inductive DeviceCall where
  | tryCreatePairing (org codeHash : String) (expiresAt : Int)
  | tryCreatePairingAndAudit (org codeHash : String) (expiresAt : Int)
      (audit : UserMutationAuditContext)
  | claimPairing (codeHash : String) (device : DeviceMetadata) (tokenHash : String)
  | claimPairingAndAudit (codeHash : String) (device : DeviceMetadata) (tokenHash : String)
      (audit : PairingClaimAuditContext)
  | requestScreenReenrollment (org screenId codeHash : String) (expiresAt : Int) (reason : String)
      (audit : UserMutationAuditContext)
  | requestScreenEnrollment (org screenId reason : String) (audit : UserMutationAuditContext)
      (idempotency : ScreenEnrollmentIdempotencyInput)
  | issuePairingChallenge (input : PairingChallengeInput)
  | activateReenrollment (org screenId grantId candidateId : String)
      (audit : UserMutationAuditContext)
  | activateScreenEnrollment (org screenId grantId candidateId fingerprint : String)
      (audit : UserMutationAuditContext) (idempotency : ScreenEnrollmentActivationIdempotencyInput)
  | cancelReenrollment (org screenId grantId : String) (audit : UserMutationAuditContext)
      (purpose : PairingPurpose)
  | revokeDeviceCredential (org screenId : String) (audit : UserMutationAuditContext)
  | createScreen (org : String) (data : ScreenInput)
  | createScreenAndAudit (org : String) (data : ScreenInput) (actorUserId : String)
  | updateScreenAndAudit (org screenId : String) (patch : ScreenPatch) (actorUserId : String)
  | deleteScreen (org screenId : String)
  | decommissionScreen (org screenId : String) (audit : UserMutationAuditContext)
  | heartbeat (screenId : String) (data : HeartbeatUpdateInput)
  | identity (call : IdentityCall)
  | rotateBootstrapPassword (userId organizationId : String)
      (input : BootstrapPasswordRotationInput) (audit : UserMutationAuditContext)

def DeviceCall.perform (R : DeviceRuntime) : DeviceCall → Operation Unit
  | .tryCreatePairing org codeHash expiresAt =>
    ends (server.tryCreatePairing R.toRuntime org codeHash expiresAt)
  | .tryCreatePairingAndAudit org codeHash expiresAt audit =>
    ends (server.tryCreatePairingAndAudit R.toRuntime org codeHash expiresAt audit)
  | .claimPairing codeHash device tokenHash =>
    ends (server.claimPairing R.toRuntime codeHash device tokenHash)
  | .claimPairingAndAudit codeHash device tokenHash audit =>
    ends (server.claimPairingAndAudit R.toRuntime codeHash device tokenHash audit)
  | .requestScreenReenrollment org screenId codeHash expiresAt reason audit =>
    ends (requestScreenReenrollmentAndAudit R.toRuntime org screenId codeHash expiresAt reason
      audit)
  | .requestScreenEnrollment org screenId reason audit idempotency =>
    ends (requestScreenEnrollmentAndAudit R.toRuntime org screenId reason audit idempotency)
  | .issuePairingChallenge input => ends (server.issuePairingChallenge R input)
  | .activateReenrollment org screenId grantId candidateId audit =>
    ends (activateReenrollmentCandidateAndAudit R.toRuntime org screenId grantId candidateId audit)
  | .activateScreenEnrollment org screenId grantId candidateId fingerprint audit idempotency =>
    ends (activateScreenEnrollmentCandidateAndAudit R.toRuntime org screenId grantId candidateId
      fingerprint audit idempotency)
  | .cancelReenrollment org screenId grantId audit purpose =>
    cancelScreenReenrollmentAndAudit R.toRuntime org screenId grantId audit purpose
  | .revokeDeviceCredential org screenId audit =>
    ends (revokeDeviceCredentialAndAudit R.toRuntime org screenId audit)
  | .createScreen org data => do
    let timestamp ← now R.toRuntime
    changeStore fun s => (server.createScreen R.toPlatform timestamp org data s).1
  | .createScreenAndAudit org data actorUserId => do
    let timestamp ← now R.toRuntime
    changeStore fun s =>
      (server.createScreenAndAudit R.toPlatform timestamp org data actorUserId s).1
  | .updateScreenAndAudit org screenId patch actorUserId => do
    let timestamp ← now R.toRuntime
    changeStore fun s =>
      (server.updateScreenAndAudit timestamp org screenId patch actorUserId s).1
  | .deleteScreen org screenId => changeStore fun s => (server.deleteScreen org screenId s).1
  | .decommissionScreen org screenId audit =>
    server.decommissionScreen R.toRuntime org screenId audit
  | .heartbeat screenId data => ends (server.heartbeat R.toRuntime screenId data)
  | .identity call => call.perform R.toRuntime
  | .rotateBootstrapPassword userId organizationId input audit =>
    ends (rotateBootstrapPasswordAndAudit R.toRuntime userId organizationId input audit)

/-! ## Calls with an `await` -/

/-- Where a call waits, or how it ended. -/
inductive DevicePhase where
  | issuing (input : DeviceAuthChallengeInput) (authenticated : Option ActiveDevice)
  | issued (challenge : Option DeviceAuthChallengeRecord)
  /-- The signature of a proof is verified. With `data` it is the proof of a heartbeat. -/
  | proving (input : DeviceProofInput) (data : Option HeartbeatUpdateInput)
      (lookup : Option ProofLookup)
  | accepted (data : Option HeartbeatUpdateInput) (active : ActiveDevice)
  /-- The answer to a proof. `none` is an invalid proof. -/
  | proved (data : Option HeartbeatUpdateInput) (active : Option ActiveDevice)
  | claiming (input : PairingProofInput) (audit : PairingClaimAuditContext) (claim : PairingClaim)
  | claimed (outcome : Except Halt PairingOutcome)
  /-- The verification of a signature threw an error. -/
  | rejected
  deriving DecidableEq

/-- A device that was authenticated, as its records are now. A record that has left the store
stays as it was. -/
def ActiveDevice.current (s : MemoryStore) (active : ActiveDevice) : ActiveDevice :=
  { credential := (s.deviceCredentials.find? fun credential =>
      credential.id == active.credential.id).getD active.credential
    screen := (s.screens.find? fun screen => screen.id == active.screen.id).getD active.screen }

def PairingClaim.current (s : MemoryStore) (claim : PairingClaim) : PairingClaim :=
  { attempt := (s.pairingAttempts.find? fun attempt => attempt.id == claim.attempt.id).getD
      claim.attempt
    pairing := (s.pairings.find? fun grant => grant.id == claim.pairing.id).getD
      claim.pairing.ended }

/-- A call holds the records themselves, which other calls change. -/
def DevicePhase.current (s : MemoryStore) : DevicePhase → DevicePhase
  | .accepted data active => .accepted data (active.current s)
  | .claiming input audit claim => .claiming input audit (claim.current s)
  | phase => phase

/-- A proof that was accepted, with the challenge and the time of its consumption. -/
structure Acceptance where
  call : Nat
  input : DeviceProofInput
  active : ActiveDevice
  consumedAt : Int
  deriving DecidableEq

/-- The store, its calls with an `await`, and what has happened so far: the challenges that were
issued, the proofs that were accepted, and the calls whose heartbeat was written. -/
structure Devices where
  store : AuditedStore
  phases : List DevicePhase
  issued : List DeviceAuthChallengeRecord
  accepted : List Acceptance
  beats : List Nat
  deriving DecidableEq

def Devices.start (s : AuditedStore) : Devices :=
  { store := s, phases := [], issued := [], accepted := [], beats := [] }

/-- A change of the store that no record of a device, a grant or a screen is part of. -/
structure Elsewhere where
  change : AuditedStore → AuditedStore
  screens : ∀ s, (change s).screens = s.screens
  pairings : ∀ s, (change s).pairings = s.pairings
  pairingAttempts : ∀ s, (change s).pairingAttempts = s.pairingAttempts
  deviceCredentials : ∀ s, (change s).deviceCredentials = s.deviceCredentials
  usedDeviceKeyIds : ∀ s, (change s).usedDeviceKeyIds = s.usedDeviceKeyIds
  deviceAuthChallenges : ∀ s, (change s).deviceAuthChallenges = s.deviceAuthChallenges
  idsDrawn : ∀ s, s.idsDrawn ≤ (change s).idsDrawn
  clockReads : ∀ s, s.clockReads ≤ (change s).clockReads

inductive DeviceEvent where
  | call (call : DeviceCall)
  | elsewhere (change : Elsewhere)
  | issue (input : DeviceAuthChallengeInput)
  | prove (input : DeviceProofInput) (data : Option HeartbeatUpdateInput)
  | pair (input : PairingProofInput) (audit : PairingClaimAuditContext)
  /-- The call of this number goes on. The answer of a verification can be an error. -/
  | goOn (i : Nat) (verified : Except String Bool)

/-- The state with the store after a step. The calls see what has changed. -/
def Devices.withStore (d : Devices) (s : AuditedStore) : Devices :=
  { d with store := s, phases := d.phases.map (·.current s.toMemoryStore) }

def Devices.push (d : Devices) (phase : DevicePhase) : Devices :=
  { d with phases := d.phases ++ [phase] }

def Devices.setPhase (d : Devices) (i : Nat) (phase : DevicePhase) : Devices :=
  { d with phases := d.phases.set i phase }

/-- The value of an operation that never stops. -/
def answerOf {α : Type} (result : Except Halt (Option α)) : Option α := result.toOption.join

/-- The first step of a call with an `await`. -/
def beginIssue (R : DeviceRuntime) (input : DeviceAuthChallengeInput) (d : Devices) : Devices :=
  let (authenticated, s) :=
    authenticateDeviceCredential R.toRuntime input.screenId input.keyId d.store
  (d.withStore s).push (.issuing input (answerOf authenticated))

def beginProof (R : DeviceRuntime) (input : DeviceProofInput)
    (data : Option HeartbeatUpdateInput) (d : Devices) : Devices :=
  let (lookup, s) := findDeviceProof R.toRuntime input d.store
  (d.withStore s).push (.proving input data (answerOf lookup))

def beginClaim (input : PairingProofInput) (audit : PairingClaimAuditContext) (d : Devices) :
    Devices :=
  let (claim, s) := findPairingClaim input d.store
  (d.withStore s).push (match claim with
    | .ok claim => .claiming input audit claim
    | .error halt => .claimed (.error halt))

def endIssue (R : DeviceRuntime) (i : Nat) (input : DeviceAuthChallengeInput)
    (authenticated : Option ActiveDevice) (d : Devices) : Devices :=
  let (challenge, s) := issueDeviceAuthChallenge R input authenticated d.store
  { (d.withStore s).setPhase i (.issued (answerOf challenge)) with
    issued := d.issued ++ (answerOf challenge).toList }

/-- The time of a consumption is the second reading of its step. -/
def endProof (R : DeviceRuntime) (i : Nat) (input : DeviceProofInput)
    (data : Option HeartbeatUpdateInput) (lookup : Option ProofLookup) (verified : Bool)
    (d : Devices) : Devices :=
  let (active, s) := consumeDeviceProof R.toRuntime input lookup verified d.store
  match answerOf active with
  | none => (d.withStore s).setPhase i (.proved data none)
  | some active =>
    { (d.withStore s).setPhase i (.accepted data active) with
      accepted := d.accepted ++
        [{ call := i, input := input, active := active,
           consumedAt := R.clock (d.store.clockReads + 1) }] }

/-- The end of `consumeDeviceAuthChallenge` or, with `data`, of `heartbeatWithDeviceProof`. -/
def endAccepted (R : DeviceRuntime) (i : Nat) (data : Option HeartbeatUpdateInput)
    (active : ActiveDevice) (d : Devices) : Devices :=
  match data with
  | none => d.setPhase i (.proved none (some { active with
      screen := publicScreen d.store.toMemoryStore active.screen }))
  | some data =>
    let (shown, s) := recordHeartbeat R.toRuntime data active d.store
    { (d.withStore s).setPhase i (.proved (some data) shown.toOption) with
      beats := d.beats ++ [i] }

def endClaim (R : DeviceRuntime) (i : Nat) (input : PairingProofInput)
    (audit : PairingClaimAuditContext) (claim : PairingClaim) (verified : Bool) (d : Devices) :
    Devices :=
  let (outcome, s) := settlePairingClaim R.toRuntime input audit claim verified d.store
  (d.withStore s).setPhase i (.claimed outcome)

/-- The step of a call that waits. -/
def goOn (R : DeviceRuntime) (i : Nat) (verified : Except String Bool) (d : Devices) :
    DevicePhase → Option Devices
  | .issuing input authenticated => some (endIssue R i input authenticated d)
  | .accepted data active => some (endAccepted R i data active d)
  | .proving input data none => some (endProof R i input data none false d)
  | .proving input data (some lookup) => some (match verified with
    | .ok verified => endProof R i input data (some lookup) verified d
    | .error _ => d.setPhase i .rejected)
  | .claiming input audit claim => some (match verified with
    | .ok verified => endClaim R i input audit claim verified d
    | .error _ => d.setPhase i .rejected)
  | .issued _ | .proved _ _ | .claimed _ | .rejected => none

def stepDevices (R : DeviceRuntime) (d : Devices) : DeviceEvent → Option Devices
  | .call call => some (d.withStore (call.perform R d.store).2)
  | .elsewhere change => some (d.withStore (change.change d.store))
  | .issue input => some (beginIssue R input d)
  | .prove input data => some (beginProof R input data d)
  | .pair input audit => some (beginClaim input audit d)
  | .goOn i verified => d.phases[i]?.bind (goOn R i verified d)

def runDevices (R : DeviceRuntime) (d : Devices) : List DeviceEvent → Option Devices
  | [] => some d
  | event :: rest => (stepDevices R d event).bind fun d => runDevices R d rest

end screengoblin.server
