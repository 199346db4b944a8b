-- The device command journal of the Android player (DeviceCommandJournal.java). The journal
-- keeps one command under its storage key. A commit whose result is not sure closes the key
-- until the process starts again. `synchronized` makes each operation one step.
import Mathlib.Data.Prod.Lex
import Mathlib.Order.WithBot
import ScreenGoblin.Histories
import ScreenGoblin.Scripts

open scripts Script

namespace screengoblin.journal

/-! ## Exceptions -/

/-- What an operation throws: a `JournalException`, or a `RuntimeException` of the storage. -/
inductive Failure where
  | journalException (code message : String)
  | runtime
  deriving DecidableEq

def corrupt : Failure := .journalException "STATE_CORRUPT" "Durable device command state is corrupt"

/-! ## Checks of single values -/

def maxSafeInteger : Int := 9007199254740991

def requireNumber (value : Int) (name : String) : Except Failure Unit :=
  if value < 0 ∨ value > maxSafeInteger then
    .error (.journalException "INVALID_ARGUMENT" (name ++ " must be a non-negative safe integer"))
  else
    .ok ()

def isLowerHex (c : Char) : Bool := ('0' ≤ c && c ≤ '9') || ('a' ≤ c && c ≤ 'f')

/-- `UUID.fromString` reads the text, and `toString` gives the same 36 characters back: groups
of 8, 4, 4, 4 and 12 lower case digits. -/
def isCanonicalUuid (text : String) : Bool :=
  text.toList.length == 36 && text.toList.zipIdx.all fun p =>
    if p.2 = 8 ∨ p.2 = 13 ∨ p.2 = 18 ∨ p.2 = 23 then p.1 == '-' else isLowerHex p.1

def canonicalUuid (value : Option String) (name : String) : Except Failure String :=
  let invalid : Failure :=
    .journalException "INVALID_ARGUMENT" (name ++ " must be a canonical lowercase UUID")
  match value with
  | some text => if isCanonicalUuid text then .ok text else .error invalid
  | none => .error invalid

def REFRESH_CONTENT : String := "REFRESH_CONTENT"
def RESTART_RENDERER : String := "RESTART_RENDERER"

def SUPPORTED_ACTIONS : List String := [REFRESH_CONTENT, RESTART_RENDERER]

def supportedAction (value : Option String) : Except Failure String :=
  let unsupported : Failure :=
    .journalException "UNSUPPORTED_ACTION" "Device command action is not supported"
  match value with
  | some action => if SUPPORTED_ACTIONS.contains action then .ok action else .error unsupported
  | none => .error unsupported

/-! ## Stored values -/

/-- The texts under one storage key. The first entry of a name is its value. -/
abbrev Values := List (String × String)

def schemaVersion : Nat := 1

def STATE_KEYS : List String :=
  ["schemaVersion", "credentialGeneration", "highestSequence", "commandId", "action",
    "acceptedRendererLifecycleId", "state", "pendingTerminalAck", "restartRequired"]

/-- `values.keySet().equals(STATE_KEYS)` -/
def hasStateKeys (values : Values) : Bool :=
  values.all (fun p => STATE_KEYS.contains p.1) &&
    STATE_KEYS.all fun key => (values.lookup key).isSome

inductive CommandState where
  | REFRESH_REQUIRED
  | RESTART_REQUIRED
  | SUCCEEDED
  | FAILED
  deriving DecidableEq

def CommandState.name : CommandState → String
  | .REFRESH_REQUIRED => "REFRESH_REQUIRED"
  | .RESTART_REQUIRED => "RESTART_REQUIRED"
  | .SUCCEEDED => "SUCCEEDED"
  | .FAILED => "FAILED"

def CommandState.valueOf (value : Option String) : Except Failure CommandState :=
  if value = some "REFRESH_REQUIRED" then .ok .REFRESH_REQUIRED
  else if value = some "RESTART_REQUIRED" then .ok .RESTART_REQUIRED
  else if value = some "SUCCEEDED" then .ok .SUCCEEDED
  else if value = some "FAILED" then .ok .FAILED
  else .error corrupt

def CommandState.isTerminal (state : CommandState) : Bool :=
  state == .SUCCEEDED || state == .FAILED

def parseDigits (digits : List Char) : Option Int :=
  if !digits.isEmpty && digits.all Char.isDigit then
    some (Nat.ofDigitChars 10 digits 0)
  else
    none

def parseSigned : List Char → Option Int
  | '-' :: digits => (parseDigits digits).map fun n => -n
  | '+' :: digits => parseDigits digits
  | digits => parseDigits digits

/-- `Long.parseLong`, for the digits 0 to 9. The other digits that Java knows never come back
from `Long.toString`, so `parseStoredNumber` refuses them all the same. -/
def parseLong (text : String) : Option Int :=
  (parseSigned text.toList).filter fun n => -9223372036854775808 ≤ n && n ≤ 9223372036854775807

def parseStoredNumber (value : Option String) : Except Failure Int :=
  match value with
  | none => .error corrupt
  | some text =>
    match parseLong text with
    | none => .error corrupt
    | some number =>
      match requireNumber number "number" with
      | .error _ => .error corrupt
      | .ok () => if toString number = text then .ok number else .error corrupt

def parseStoredUuid (value : Option String) : Except Failure String :=
  match canonicalUuid value "stored UUID" with
  | .ok text => .ok text
  | .error _ => .error corrupt

def parseStoredAction (value : Option String) : Except Failure String :=
  match supportedAction value with
  | .ok action => .ok action
  | .error _ => .error corrupt

def parseBoolean (value : Option String) : Except Failure Bool :=
  if value = some "true" then .ok true
  else if value = some "false" then .ok false
  else .error corrupt

/-! ## Snapshots -/

/-- The order of commands: the credential generation first, then the sequence. -/
abbrev Number := Int ×ₗ Int

structure Snapshot where
  credentialGeneration : Int
  highestSequence : Int
  commandId : String
  action : String
  acceptedRendererLifecycleId : String
  state : CommandState
  pendingTerminalAck : Bool
  restartRequired : Bool
  deriving DecidableEq

namespace Snapshot

def number (s : Snapshot) : Number := toLex (s.credentialGeneration, s.highestSequence)

def actionStateValid (action : String) (state : CommandState) : Bool :=
  if action = REFRESH_CONTENT then
    state == .REFRESH_REQUIRED || state.isTerminal
  else
    state == .RESTART_REQUIRED || state == .SUCCEEDED

def parse (values : Values) : Except Failure (Option Snapshot) :=
  if values.isEmpty then
    .ok none
  else if !hasStateKeys values then
    .error corrupt
  else if values.lookup "schemaVersion" ≠ some (toString schemaVersion) then
    .error corrupt
  else do
    let generation ← parseStoredNumber (values.lookup "credentialGeneration")
    let sequence ← parseStoredNumber (values.lookup "highestSequence")
    let commandId ← parseStoredUuid (values.lookup "commandId")
    let action ← parseStoredAction (values.lookup "action")
    let acceptedRendererLifecycleId ←
      parseStoredUuid (values.lookup "acceptedRendererLifecycleId")
    let state ← CommandState.valueOf (values.lookup "state")
    let pendingAck ← parseBoolean (values.lookup "pendingTerminalAck")
    let restart ← parseBoolean (values.lookup "restartRequired")
    let pendingRestart := state == .RESTART_REQUIRED
    if (pendingAck && !state.isTerminal) || restart != pendingRestart ||
        !actionStateValid action state then
      .error corrupt
    else
      .ok (some ⟨generation, sequence, commandId, action, acceptedRendererLifecycleId, state,
        pendingAck, restart⟩)

def encode (s : Snapshot) : Values :=
  [("schemaVersion", toString schemaVersion),
    ("credentialGeneration", toString s.credentialGeneration),
    ("highestSequence", toString s.highestSequence),
    ("commandId", s.commandId),
    ("action", s.action),
    ("acceptedRendererLifecycleId", s.acceptedRendererLifecycleId),
    ("state", s.state.name),
    ("pendingTerminalAck", toString s.pendingTerminalAck),
    ("restartRequired", toString s.restartRequired)]

end Snapshot

structure Result where
  duplicate : Bool
  credentialGeneration : Int
  sequence : Int
  commandId : String
  action : String
  acceptedRendererLifecycleId : String
  state : CommandState
  pendingTerminalAck : Bool
  restartRequired : Bool
  deriving DecidableEq

/-- `new Result(snapshot, duplicate)` -/
def Result.new (snapshot : Snapshot) (duplicate : Bool) : Result where
  duplicate := duplicate
  credentialGeneration := snapshot.credentialGeneration
  sequence := snapshot.highestSequence
  commandId := snapshot.commandId
  action := snapshot.action
  acceptedRendererLifecycleId := snapshot.acceptedRendererLifecycleId
  state := snapshot.state
  pendingTerminalAck := snapshot.pendingTerminalAck
  restartRequired := snapshot.restartRequired

/-! ## Storage -/

/-- What `read` does: it gives the stored values, gives `null`, or throws. -/
inductive Reading where
  | values
  | null
  | thrown (failure : Failure)
  deriving DecidableEq

/-- What `replace` does. When it returns false or throws, the storage keeps the new values or
the old ones. -/
inductive Commit where
  | done
  | returnedFalse (kept : Bool)
  | thrown (kept : Bool)
  deriving DecidableEq

def Commit.written : Commit → Bool
  | .done => true
  | .returnedFalse kept | .thrown kept => kept

/-- The storage as one operation finds it. -/
structure Persistence where
  storageKey : String
  read : Reading
  replace : Commit

/-- A device: what its storage holds under each key, what `replace` has answered so far, and the
`UNCERTAIN_STORAGE_KEYS` of the process that runs. -/
structure Device where
  values : String → Values
  commits : List (String × Commit)
  uncertainStorageKeys : List String

/-- The device after a call of `replace`, with the mark that the journal makes when it is not
sure of the commit. -/
def Device.replaced (d : Device) (p : Persistence) (values : Values) : Device where
  values := fun key => if key = p.storageKey ∧ p.replace.written then values else d.values key
  commits := (p.storageKey, p.replace) :: d.commits
  uncertainStorageKeys :=
    if p.replace = .done then d.uncertainStorageKeys else p.storageKey :: d.uncertainStorageKeys

/-! ## Operations -/

abbrev Journal (α : Type) := Script Device Failure α

def load (p : Persistence) : Journal (Option Snapshot) := do
  let uncertain ← look fun d => d.uncertainStorageKeys.contains p.storageKey
  ensure (!uncertain) (.journalException "STATE_UNCERTAIN"
    "Durable device command state is uncertain until process restart")
  match p.read with
  | .thrown failure => stop failure
  | .null => stop corrupt
  | .values =>
    let values ← look fun d => d.values p.storageKey
    lift (Snapshot.parse values)

def required (p : Persistence) : Journal Snapshot := do
  match ← load p with
  | none => stop (.journalException "COMMAND_NOT_FOUND" "No durable command exists")
  | some current => return current

def persist (p : Persistence) (snapshot : Snapshot) : Journal Unit := do
  change fun d => d.replaced p snapshot.encode
  ensure (p.replace = .done) (.journalException "PERSISTENCE_UNCERTAIN"
    "Durable device command commit outcome is uncertain")

def requireIdentity (current : Snapshot) (sequence : Int) (commandId : Option String) :
    Except Failure Unit := do
  requireNumber sequence "sequence"
  let commandId ← canonicalUuid commandId "commandId"
  if sequence ≠ current.highestSequence ∨ commandId ≠ current.commandId then
    .error (.journalException "COMMAND_MISMATCH" "Command does not match durable state")
  else
    .ok ()

def terminal (current : Snapshot) (succeeded : Bool) : Snapshot :=
  { current with
    state := if succeeded then .SUCCEEDED else .FAILED
    pendingTerminalAck := true
    restartRequired := false }

/-- A command of this generation that is not finished and acknowledged. -/
def isBusy (current : Snapshot) : Bool :=
  current.restartRequired || current.pendingTerminalAck || current.state == .REFRESH_REQUIRED

/-- The command as `accept` first stores it. -/
def acceptedSnapshot (credentialGeneration sequence : Int) (commandId action : String)
    (rendererLifecycleId : String) : Snapshot :=
  let state : CommandState :=
    if action = RESTART_RENDERER then .RESTART_REQUIRED else .REFRESH_REQUIRED
  { credentialGeneration, highestSequence := sequence, commandId, action
    acceptedRendererLifecycleId := rendererLifecycleId
    state
    pendingTerminalAck := false
    restartRequired := state == .RESTART_REQUIRED }

/-- What the durable command says to a new one: refuse it, take it for a duplicate, or let it
in. -/
def admission (current : Snapshot) (credentialGeneration sequence : Int)
    (commandId action : String) : Except Failure Bool :=
  if credentialGeneration < current.credentialGeneration then
    .error (.journalException "GENERATION_ROLLBACK"
      "Credential generation is older than durable state")
  else if credentialGeneration = current.credentialGeneration ∧
      sequence < current.highestSequence then
    .error (.journalException "SEQUENCE_ROLLBACK" "Command sequence is older than durable state")
  else if credentialGeneration = current.credentialGeneration ∧
      sequence = current.highestSequence then
    if commandId ≠ current.commandId ∨ action ≠ current.action then
      .error (.journalException "SEQUENCE_CONFLICT" "Command sequence conflicts with durable state")
    else
      .ok true
  else if credentialGeneration = current.credentialGeneration ∧ isBusy current then
    .error (.journalException "COMMAND_BUSY"
      "A durable command result must be completed and acknowledged first")
  else
    .ok false

def accept (p : Persistence) (credentialGeneration sequence : Int)
    (commandId action rendererLifecycleId : Option String) : Journal Result := do
  lift (requireNumber credentialGeneration "credentialGeneration")
  lift (requireNumber sequence "sequence")
  let commandId ← lift (canonicalUuid commandId "commandId")
  let action ← lift (supportedAction action)
  let rendererLifecycleId ← lift (canonicalUuid rendererLifecycleId "rendererLifecycleId")
  let current ← load p
  let next := acceptedSnapshot credentialGeneration sequence commandId action rendererLifecycleId
  match current with
  | none =>
    persist p next
    return Result.new next false
  | some current =>
    let duplicate ← lift (admission current credentialGeneration sequence commandId action)
    if duplicate then
      return Result.new current true
    else do
      persist p next
      return Result.new next false

def completeRefresh (p : Persistence) (sequence : Int) (commandId : Option String)
    (succeeded : Bool) : Journal Result := do
  let current ← required p
  lift (requireIdentity current sequence commandId)
  ensure (current.action = REFRESH_CONTENT && current.state == .REFRESH_REQUIRED)
    (.journalException "INVALID_TRANSITION" "Only a pending refresh can be completed")
  persist p (terminal current succeeded)
  return Result.new (terminal current succeeded) false

def confirmRendererRestarted (p : Persistence) (sequence : Int)
    (commandId rendererLifecycleId : Option String) : Journal Result := do
  let current ← required p
  lift (requireIdentity current sequence commandId)
  let rendererLifecycleId ← lift (canonicalUuid rendererLifecycleId "rendererLifecycleId")
  ensure (current.action = RESTART_RENDERER && current.state == .RESTART_REQUIRED &&
      current.restartRequired)
    (.journalException "INVALID_TRANSITION" "Only a pending renderer restart can be completed")
  ensure (rendererLifecycleId ≠ current.acceptedRendererLifecycleId)
    (.journalException "LIFECYCLE_NOT_ADVANCED"
      "Renderer restart requires a different ready lifecycle")
  persist p (terminal current true)
  return Result.new (terminal current true) false

def pendingAcknowledgement (p : Persistence) : Journal (Option Result) := do
  match ← load p with
  | none => return none
  | some current =>
    return if current.pendingTerminalAck then some (Result.new current true) else none

def delivered (current : Snapshot) : Snapshot :=
  { current with pendingTerminalAck := false, restartRequired := false }

def markAcknowledgementDelivered (p : Persistence) (sequence : Int) (commandId : Option String) :
    Journal Result := do
  let current ← required p
  lift (requireIdentity current sequence commandId)
  ensure (current.pendingTerminalAck && current.state.isTerminal)
    (.journalException "INVALID_TRANSITION" "No terminal acknowledgement is pending")
  persist p (delivered current)
  return Result.new (delivered current) false

/-! ## Runs -/

inductive Request where
  | accept (credentialGeneration sequence : Int)
      (commandId action rendererLifecycleId : Option String)
  | completeRefresh (sequence : Int) (commandId : Option String) (succeeded : Bool)
  | confirmRendererRestarted (sequence : Int) (commandId rendererLifecycleId : Option String)
  | pendingAcknowledgement
  | markAcknowledgementDelivered (sequence : Int) (commandId : Option String)

/-- The operation of a request. `pendingAcknowledgement` may answer `null`. -/
def Request.perform (p : Persistence) : Request → Journal (Option Result)
  | .accept generation sequence commandId action rendererLifecycleId =>
    some <$> journal.accept p generation sequence commandId action rendererLifecycleId
  | .completeRefresh sequence commandId succeeded =>
    some <$> journal.completeRefresh p sequence commandId succeeded
  | .confirmRendererRestarted sequence commandId rendererLifecycleId =>
    some <$> journal.confirmRendererRestarted p sequence commandId rendererLifecycleId
  | .pendingAcknowledgement => journal.pendingAcknowledgement p
  | .markAcknowledgementDelivered sequence commandId =>
    some <$> journal.markAcknowledgementDelivered p sequence commandId

/-- What happens to a device: an operation on some key, or a new start of the process. A crash
in an operation is an uncertain commit with a start after it. -/
inductive Move where
  | call (persistence : Persistence) (request : Request)
  | restart

/-- The answer to a call, or nothing for a start. -/
abbrev Answer := Option (Except Failure (Option Result))

def Device.step : Move → Device → Answer × Device
  | .call p request, d => (some (request.perform p d).1, (request.perform p d).2)
  | .restart, d => (none, { d with uncertainStorageKeys := [] })

end screengoblin.journal
