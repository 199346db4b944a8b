-- The steps of a pairing (`pair` and `resumePairing` in core/api.ts of the player), from one wait
-- to the next, with the record that the player has stored. A crash can come at every wait.
import ScreenGoblin.PairingRecovery

open jsvalues

namespace screengoblin.pairing

/-! ## States -/

/-- A run of the loop of `resumePairing`. -/
structure Session where
  recovery : Recovery
  pollingDeadline : Int

structure Credentials where
  response : JsValue
  installationId : JsString

/-- What a call waits for. -/
inductive Phase where
  | idle
  -- `pair`: the identity, the challenge, the signature, `onProofPrepared`
  | identifying (code installationId : JsString)
  | challenging (pairing : Pairing)
  | signing (pairing : Pairing) (challenge : Challenge)
  | preparing (recovery : Recovery) (written : Bool)
  -- `resumePairing`: the identity, a response, `onPending`, a pause
  | reidentifying (recovery : Recovery) (body : JsValue)
  | requesting (session : Session)
  | reporting (session : Session) (bounded : Recovery) (written : Bool)
  | pausing (session : Session) (since milliseconds : Int)
  | finished (result : Except Thrown Credentials)

/-- A record was written, or a final request was sent. -/
inductive Entry where
  | persisted (time : Int) (recovery : Recovery)
  | requested (time : Int) (session : Session) (body : List Char)

structure State where
  clock : Int := 0
  phase : Phase := .idle
  aborted : Bool := false
  stored : Option Recovery := none
  log : List Entry := []

def State.fail (s : State) (thrown : Thrown) : State :=
  { s with phase := .finished (.error thrown) }

/-- `attempt`, up to the answer -/
def beginRequest (session : Session) (s : State) : State :=
  if s.aborted then s.fail (.failure cancelled)
  else { s with
    phase := .requesting session,
    log := s.log ++ [.requested s.clock session session.recovery.finalBody] }

/-- `pause`, up to its end -/
def beginPause (session : Session) (milliseconds : Int) (s : State) : State :=
  if s.aborted then s.fail (.failure cancelled)
  else { s with phase := .pausing session s.clock milliseconds }

variable (config : Config)

/-! ## The loop -/

def resumePairing (recovery : Recovery) (s : State) : State :=
  match validatePendingProofPairing config.platform recovery config.apiBaseUrl s.clock with
  | .error failure => s.fail (.failure failure)
  | .ok body => { s with phase := .reidentifying recovery body }

/-- The deadline of a loop. The record was validated, so its expiry is a time. -/
def pollingDeadline (recovery : Recovery) (now : Int) : Int :=
  if recovery.stage = .prepared then now + config.pairingApprovalMaxWaitMs
  else min (recovery.expiresAt.getD 0) (now + config.pairingApprovalMaxWaitMs)

def reidentified (recovery : Recovery) (body : JsValue)
    (answer : Except Thrown (Option DeviceIdentity)) (s : State) : State :=
  let mismatch := protocolFailure "Pending pairing does not match the active Android identity"
  match getDeviceIdentity config.platform answer with
  | .error thrown => s.fail thrown
  | .ok none => s.fail (.failure mismatch)
  | .ok (some identity) =>
    if identity.keyId ≠ recovery.expectedKeyId ∨ some identity.publicKeySpki ≠
        (get body "identity").bind fun value => getString value "publicKeySpki" then
      s.fail (.failure mismatch)
    else beginRequest { recovery, pollingDeadline := pollingDeadline config recovery s.clock } s

/-- The record of a pending claim. -/
def boundedRecovery (session : Session) (pending : JsValue) (expiresAt : Int) : Recovery :=
  { session.recovery with
    stage := .pending,
    approval := some pending,
    expiresAt := some (min expiresAt session.pollingDeadline) }

def answered (session : Session) (answer : Except Thrown (Nat × JsValue)) (s : State) : State :=
  match answer with
  | .error (.error message) => s.fail (.error message)
  | .error (.failure failure) =>
    if failure.retryable = false then s.fail (.failure failure)
    else
      let remaining := session.pollingDeadline - s.clock
      if remaining ≤ 0 then s.fail (.failure expired)
      else
        let requestedDelay :=
          if failure.status = some 429 then
            failure.retryAfterMs.getD config.pairingApprovalPollIntervalMs
          else config.pairingApprovalPollIntervalMs
        beginPause session (min requestedDelay remaining) s
  | .ok (status, response) =>
    if getString response "status" = some (jsString "pending-approval") then
      if status ≠ 202 then
        s.fail (.failure (protocolFailure "Pending pairing response used an invalid HTTP status"))
      else
        match validatePendingPairingResponse config.platform response
          session.recovery.expectedKeyId s.clock with
        | .error failure => s.fail (.failure failure)
        | .ok expiresAt =>
          { s with phase := .reporting session (boundedRecovery session response expiresAt) false }
    else if status ≠ 201 then
      s.fail (.failure (protocolFailure "Activated pairing response used an invalid HTTP status"))
    else
      match validatePairingResponse config.platform response session.recovery.expectedKeyId with
      | .error failure => s.fail (.failure failure)
      | .ok response =>
        { s with phase := .finished (.ok
            { response, installationId := session.recovery.installationId }) }

/-- After `onPending`. -/
def reported (session : Session) (bounded : Recovery) (s : State) : State :=
  let remaining := bounded.expiresAt.getD 0 - s.clock
  if remaining ≤ 0 then s.fail (.failure expired)
  else beginPause session (min config.pairingApprovalPollIntervalMs remaining) s

/-! ## A new pairing -/

/-- The value of `canonicalPairingTranscript` -/
def transcriptValue (pairing : Pairing) : JsValue :=
  .object true [(jsString "version", .string (jsString "ScreenGoblin pairing transcript v1")),
    (jsString "code", .string pairing.code), (jsString "device", deviceValue config pairing),
    (jsString "identity", identityValue pairing.identity)] false

def identified (code installationId : JsString) (answer : Except Thrown (Option DeviceIdentity))
    (s : State) : State :=
  match getDeviceIdentity config.platform answer with
  | .error thrown => s.fail thrown
  | .ok none => s.fail (.failure (protocolFailure "Android device identity is unavailable"))
  | .ok (some identity) =>
    if installationId ≠ identity.keyId then
      s.fail (.failure
        (protocolFailure "Android installation ID does not match its device identity"))
    else
      match canonicalJson config.platform.numbers
        (transcriptValue config { code, installationId, identity }) with
      | .error message => s.fail (.error message)
      | .ok _ =>
        if s.aborted then s.fail (.failure cancelled)
        else { s with phase := .challenging { code, installationId, identity } }

def challenged (pairing : Pairing) (answer : Except Thrown JsValue) (s : State) : State :=
  match answer with
  | .error thrown => s.fail thrown
  | .ok value =>
    match validateChallenge config.platform value s.clock with
    | .error failure => s.fail (.failure failure)
    | .ok challenge => { s with phase := .signing pairing challenge }

/-- The record of a proof that is prepared. -/
def preparedRecovery (pairing : Pairing) (body : List Char) (now : Int) : Recovery where
  stage := .prepared
  apiBaseUrl := trim config.apiBaseUrl
  finalBody := body
  expectedKeyId := pairing.identity.keyId
  installationId := pairing.installationId
  expiresAt := some (now + config.pairingApprovalMaxWaitMs)

def signed (pairing : Pairing) (challenge : Challenge) (answer : Except Thrown Signature)
    (s : State) : State :=
  match signDeviceChallenge pairing.identity.keyId answer with
  | .error thrown => s.fail thrown
  | .ok signature =>
    match finalBody config pairing challenge signature with
    | .error message => s.fail (.error message)
    | .ok body =>
      { s with phase := .preparing (preparedRecovery config pairing body s.clock) false }

/-! ## Steps -/

/-- `write` is the moment at which a callback has stored the record, and `called` the end of the
callback. -/
inductive Event where
  | pair (code installationId : JsString)
  | resume
  | identity (answer : Except Thrown (Option DeviceIdentity))
  | challenge (answer : Except Thrown JsValue)
  | signature (answer : Except Thrown Signature)
  | write
  | called (answer : Except Thrown Unit)
  | response (answer : Except Thrown (Nat × JsValue))
  | paused
  | abort
  | discard
  | crash

/-- A call can begin. -/
def Phase.free : Phase → Bool
  | .idle | .finished _ => true
  | _ => false

def State.persist (recovery : Recovery) (s : State) : State :=
  { s with stored := some recovery, log := s.log ++ [.persisted s.clock recovery] }

/-- The step of what a phase waits for. -/
def Phase.next (s : State) : Phase → Event → Option State
  | .identifying code installationId, .identity answer =>
    some (identified config code installationId answer s)
  | .challenging pairing, .challenge answer => some (challenged config pairing answer s)
  | .signing pairing challenge, .signature answer => some (signed config pairing challenge answer s)
  | .preparing recovery _, .write =>
    some { s.persist recovery with phase := .preparing recovery true }
  | .preparing _ _, .called (.error thrown) => some (s.fail thrown)
  | .preparing recovery true, .called (.ok ()) => some (resumePairing config recovery s)
  | .reidentifying recovery body, .identity answer =>
    some (reidentified config recovery body answer s)
  | .requesting session, .response answer => some (answered config session answer s)
  | .reporting session bounded _, .write =>
    some { s.persist bounded with phase := .reporting session bounded true }
  | .reporting _ _ _, .called (.error thrown) => some (s.fail thrown)
  | .reporting session bounded true, .called (.ok ()) => some (reported config session bounded s)
  | .pausing session _ _, .paused => some (beginRequest session s)
  | _, _ => none

/-- One step at a time of the clock. -/
def step (s : State) (now : Int) (event : Event) : Option State :=
  if now < s.clock then none
  else
    let s := { s with clock := now }
    match event with
    | .pair code installationId =>
      if s.phase.free then
        some { s with phase := .identifying code installationId, aborted := false }
      else none
    | .resume =>
      match s.stored with
      | none => none
      | some recovery =>
        if s.phase.free then some (resumePairing config recovery { s with aborted := false })
        else none
    | .abort =>
      match s.phase with
      | .pausing _ _ _ => some { s.fail (.failure cancelled) with aborted := true }
      | _ => some { s with aborted := true }
    | .discard => some { s with stored := none }
    | .crash => some { s with phase := .idle }
    | event => s.phase.next config s event

def run (s : State) : List (Int × Event) → Option State
  | [] => some s
  | (now, event) :: rest => (step config s now event).bind fun s => run s rest

end screengoblin.pairing
