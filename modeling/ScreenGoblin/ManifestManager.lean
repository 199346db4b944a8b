-- The manifest manager of the player (class `ManifestManager` of
-- apps/player/src/core/manifest.ts). Each `await` ends a segment, and so does each
-- reading of the clock and of the staging generation, so a run of the model can put
-- other calls at more places than JavaScript can.
import ScreenGoblin.PlayerStore

open js async

namespace screengoblin.player

/-! ## Small steps -/

/-- `Date.now()`. One reading serves the synchronous code that follows it. -/
def dateNow (me : Nat) : Call Int :=
  Prog.step fun s i => (.ok i.now, (s.tick i.now).log me (.read i.now))

def readStagingGeneration : Call Nat :=
  Prog.step fun s i => (.ok s.stagingGeneration, s.tick i.now)

def cancelled : String := "Manifest staging was cancelled"

def assertStagingGeneration (expected : Nat) : Call Unit :=
  Prog.step fun s i =>
    (if expected = s.stagingGeneration then .ok () else .error cancelled, s.tick i.now)

def ensure (test : Bool) (message : String) : Call Unit :=
  if test then pure () else Prog.fail message

/-- `await verifySignedPlayerManifest(value, trust)` -/
def verify (P : Platform) (me : Nat) (value : Value) (trust : ManifestTrust) :
    Call (Option Json) :=
  Prog.step fun s i => (.ok (verifySignedPlayerManifest P i.now value trust),
    (s.tick i.now).log me (.verified trust value i.now))

def enqueueState {α : Type} (me : Nat) (operation : Call α) : Call α :=
  Prog.queued (Device.joinState me) (fun s => s.stateQueue.head? == some me)
    (fun s i => s.tick i.now) Device.leaveState operation

def enqueueStaging {α : Type} (me : Nat) (operation : Call α) : Call α :=
  Prog.queued (Device.joinStaging me) (fun s => s.stagingQueue.head? == some me)
    (fun s i => s.tick i.now) Device.leaveStaging operation

/-- `return manifest`, for a manifest that was found fit to play at `now`. -/
def giveBack (me : Nat) (trust : ManifestTrust) (envelope : Value) (manifest : Json) (now : Int) :
    Call (Option Json) :=
  Prog.step fun s i =>
    (.ok (some manifest), (s.tick i.now).log me (.returned trust envelope manifest now))

/-- `isStoredManifestPlayable(manifest) ? manifest : undefined` -/
def giveBackPlayable (P : Platform) (me : Nat) (trust : ManifestTrust) (envelope : Value)
    (manifest : Option Json) : Call (Option Json) := do
  let now ← dateNow me
  match manifest with
  | some m =>
    if isStoredManifestPlayable P now (some m) then giveBack me trust envelope m now
    else pure none
  | none => pure none

/-! ## Ordering -/

def dateLt : Option Int → Option Int → Bool
  | some a, some b => decide (a < b)
  | _, _ => false

def isOlder (P : Platform) (candidate active : Value) : Bool :=
  dateLt (P.date (candidate.get "generatedAt")) (P.date (active.get "generatedAt"))

/-- Two versions of one generation time, where one answers a proof challenge. -/
def isAmbiguous (P : Platform) (candidate active : Value) : Bool :=
  (P.date (candidate.get "generatedAt")).isSome &&
    P.date (candidate.get "generatedAt") == P.date (active.get "generatedAt") &&
    !Value.strictEq (candidate.get "version") (active.get "version") &&
    (candidate.get "requestChallengeId" != none || active.get "requestChallengeId" != none)

def assertNotOlderThanActive (P : Platform) (candidate : Json) (active : Option Json) :
    Call Unit :=
  match active with
  | none => pure ()
  | some a => do
    ensure (!isOlder P (some candidate) (some a))
      "Manifest generation time is older than the active release"
    ensure (!isAmbiguous P (some candidate) (some a))
      "Manifest generation time is ambiguous with the active release"

/-! ## Downloads -/

/-- The requests that run, the items that no worker has taken, and the first failure. -/
structure Downloads where
  inFlight : List Json
  rest : List Json
  failure : Option String

/-- The worker of a request that ended stops, or takes the next item. `current` says whether
the staging generation is still the one of the stage. -/
def Downloads.afterRequest (d : Downloads) (index : Nat) (ok current : Bool) : Downloads :=
  let inFlight := d.inFlight.eraseIdx index
  if !ok then
    { d with inFlight, failure := d.failure.or (some "The download failed") }
  else if !current then { d with inFlight, failure := d.failure.or (some cancelled) }
  else if d.failure.isSome then { d with inFlight }
  else match d.rest with
    | [] => { d with inFlight }
    | item :: rest => { d with inFlight := inFlight ++ [item], rest }

/-- A request resolves when the download worked and the asset has a name in the cache. -/
def fetches (P : Platform) (asset : Json) (ok : Bool) : Bool :=
  ok && (isWeb asset || (P.cacheKey asset).isSome)

/-- `if (stopped) throw failure` -/
def settleDownloads (d : Downloads) : Call Unit :=
  match d.failure with
  | some failure => Prog.fail failure
  | none => pure ()

/-- The two workers. `left` bounds the requests that still have to end. -/
def awaitDownloads (P : Platform) (me stagingGeneration : Nat) : Nat → Downloads → Call Unit
  | 0, d => settleDownloads d
  | left + 1, d =>
    if d.inFlight.isEmpty then settleDownloads d
    else
      let ended (i : Answer) : Json := d.inFlight.getD (i.pick % d.inFlight.length) .null
      .segment (fun _ => true)
        (fun s i =>
          if fetches P (ended i) i.ok then (s.tick i.now).prefetched P me (ended i)
          else s.tick i.now)
        (fun s i => awaitDownloads P me stagingGeneration left
          (d.afterRequest (i.pick % d.inFlight.length) (fetches P (ended i) i.ok)
            (stagingGeneration == s.stagingGeneration)))

def prefetchAssets (P : Platform) (me : Nat) (items : List Json) (stagingGeneration : Nat) :
    Call Unit :=
  if items.isEmpty then pure ()
  else do
    assertStagingGeneration stagingGeneration
    awaitDownloads P me stagingGeneration items.length
      { inFlight := items.take MAX_CONCURRENT_PREFETCHES
        rest := items.drop MAX_CONCURRENT_PREFETCHES
        failure := none }

/-- Collection is best effort: a failed read or prune is ignored. -/
def pruneRetainedAssets (P : Platform) (me : Nat) : Call Unit :=
  Prog.orElse (do
    let active ← Store.getActiveManifest
    let previous ← Store.getPreviousManifest
    match retainedAssets [active, previous] with
    | none => Prog.fail "A stored record has no manifest"
    | some assets => pruneAssets P me assets) fun _ => pure ()

/-! ## Staging -/

def invalidSignature : String := "Manifest signature or screen binding is invalid"

def expiredLease : String := "Manifest has already expired"

def activateExclusive (P : Platform) (me : Nat) (signedCandidate : Value) (trust : ManifestTrust)
    (stagingGeneration : Nat) : Call (Option Json) := do
  assertStagingGeneration stagingGeneration
  let verified ← verify P me signedCandidate trust
  assertStagingGeneration stagingGeneration
  match verified with
  | none => Prog.fail invalidSignature
  | some candidate =>
    let now ← dateNow me
    ensure (!leaseEnded P now (some candidate)) expiredLease
    let ended := playbackEnded P now (some candidate)
    let signedActive ← Store.getActiveManifest
    let active ← verify P me signedActive trust
    assertStagingGeneration stagingGeneration
    (if signedActive.truthy && active.isNone then Store.clearManifests me else pure ())
    assertNotOlderThanActive P candidate active
    assertStagingGeneration stagingGeneration
    Store.activateManifest me trust signedCandidate
    if isWithdrawn (some candidate) || ended then pure none
    else giveBack me trust signedCandidate candidate now

def stageAndActivateExclusive (P : Platform) (me : Nat) (signedCandidate : Value)
    (trust : ManifestTrust) (stagingGeneration : Nat) : Call (Option Json) := do
  assertStagingGeneration stagingGeneration
  let verified ← verify P me signedCandidate trust
  assertStagingGeneration stagingGeneration
  match verified with
  | none => Prog.fail invalidSignature
  | some candidate =>
    let now ← dateNow me
    ensure (!leaseEnded P now (some candidate)) expiredLease
    let signedActiveAtStage ← Store.getActiveManifest
    let activeAtStage ← verify P me signedActiveAtStage trust
    assertStagingGeneration stagingGeneration
    assertNotOlderThanActive P candidate activeAtStage
    pruneRetainedAssets P me
    assertStagingGeneration stagingGeneration
    let now ← dateNow me
    (if playbackEnded P now (some candidate) then pure ()
      else prefetchAssets P me (manifestItems (some candidate)) stagingGeneration)
    assertStagingGeneration stagingGeneration
    let result ← enqueueState me
      (activateExclusive P me signedCandidate trust stagingGeneration)
    pruneRetainedAssets P me
    pure result

def stageAndActivate (P : Platform) (me : Nat) (signedCandidate : Value) (trust : ManifestTrust) :
    Call (Option Json) := do
  let verified ← verify P me signedCandidate trust
  match verified with
  | none => Prog.fail invalidSignature
  | some candidate =>
    let now ← dateNow me
    ensure (!leaseEnded P now (some candidate)) expiredLease
    let stagingGeneration ← readStagingGeneration
    enqueueStaging me (stageAndActivateExclusive P me signedCandidate trust stagingGeneration)

def cancelPendingStages : Call (Option Json) :=
  Prog.step fun s i => (.ok none,
    { s with clock := i.now, stagingGeneration := s.stagingGeneration + 1 })

/-! ## Recovery and rollback -/

def recoverExclusive (P : Platform) (me : Nat) (trust : ManifestTrust) : Call (Option Json) := do
  let signedActive ← Store.getActiveManifest
  let verifiedActive ← verify P me signedActive trust
  let now ← dateNow me
  match verifiedActive with
  | none =>
    if signedActive.truthy then do
      Store.clearManifests me
      pure none
    else do
      let signedPrevious ← Store.getPreviousManifest
      (if signedPrevious.truthy then Store.clearManifests me else pure ())
      pure none
  | some active =>
    let version := Value.get (some active) "version"
    if isWithdrawn (some active) then do
      Store.clearPreviousManifest me version
      pure none
    else if isEmergency (some active) && leaseEnded P now (some active) then do
      let signedRollbackCandidate ← Store.getPreviousManifest
      let rollbackCandidate ← verify P me signedRollbackCandidate trust
      let now ← dateNow me
      if signedRollbackCandidate.truthy && rollbackCandidate.isNone then do
        Store.clearManifests me
        pure none
      else if isEmergency rollbackCandidate && leaseEnded P now rollbackCandidate then do
        Store.clearPreviousManifest me version
        pure none
      else if !isStoredManifestPlayable P now rollbackCandidate then do
        Store.clearPreviousManifest me version
        pure none
      else do
        let previous ← Store.rollback me trust version none
        let verifiedPrevious ← verify P me previous trust
        giveBackPlayable P me trust previous verifiedPrevious
    else if playbackEnded P now (some active) then do
      Store.clearPreviousManifest me version
      pure none
    else giveBack me trust signedActive active now

/-- `recover`. The collection that it puts on the staging queue runs after the manifest was
given back, and here it is the rest of the call. -/
def recover (P : Platform) (me : Nat) (trust : ManifestTrust) : Call (Option Json) := do
  let recovered ← enqueueState me (recoverExclusive P me trust)
  enqueueStaging me (pruneRetainedAssets P me)
  pure recovered

def rollbackExclusive (P : Platform) (me : Nat) (trust : ManifestTrust)
    (expectedActiveVersion : Value) : Call (Option Json) := do
  let signedActive ← Store.getActiveManifest
  let verifiedActive ← verify P me signedActive trust
  match verifiedActive with
  | none =>
    let signedPrevious ←
      (if signedActive.truthy then pure none else Store.getPreviousManifest : Call Value)
    (if signedActive.truthy || signedPrevious.truthy then Store.clearManifests me else pure ())
    pure none
  | some active =>
    let now ← dateNow me
    if isWithdrawn (some active) || playbackEnded P now (some active) then do
      Store.clearPreviousManifest me (Value.get (some active) "version")
      pure none
    else if expectedActiveVersion != none &&
        !Value.strictEq (Value.get (some active) "version") expectedActiveVersion then
      giveBackPlayable P me trust signedActive (some active)
    else do
      let signedPrevious ← Store.getPreviousManifest
      let previous ← verify P me signedPrevious trust
      let now ← dateNow me
      if signedPrevious.truthy && previous.isNone then do
        Store.clearManifests me
        pure none
      else if !isStoredManifestPlayable P now previous then do
        Store.clearManifests me
        pure none
      else do
        let resultingActive ← Store.rollback me trust expectedActiveVersion
          (rollbackDeadline P (some active) previous)
        let verifiedActive ← verify P me resultingActive trust
        if resultingActive.truthy && verifiedActive.isNone then do
          Store.clearManifests me
          pure none
        else giveBackPlayable P me trust resultingActive verifiedActive

def rollback (P : Platform) (me : Nat) (trust : ManifestTrust) (expectedActiveVersion : Value) :
    Call (Option Json) :=
  enqueueState me (rollbackExclusive P me trust expectedActiveVersion)

/-! ## The system -/

/-- The calls of the manager. -/
inductive Command where
  | stageAndActivate (signedCandidate : Value) (trust : ManifestTrust)
  | recover (trust : ManifestTrust)
  | rollback (trust : ManifestTrust) (expectedActiveVersion : Option String)
  | cancelPendingStages
  deriving DecidableEq

def Command.program (P : Platform) (me : Nat) : Command → Call (Option Json)
  | .stageAndActivate signedCandidate trust => player.stageAndActivate P me signedCandidate trust
  | .recover trust => player.recover P me trust
  | .rollback trust version => player.rollback P me trust (version.map .str)
  | .cancelPendingStages => player.cancelPendingStages

/-- The manager over one device. When `steady` is true the clock never goes back. -/
def manager (P : Platform) (steady : Bool) : System Command Device Answer (Option Json) where
  entry := Command.program P
  env s i := !steady || decide (s.clock ≤ i.now)

/-- A device that starts with these two records, and with nothing else under way. -/
def Device.boot (slots : Slots) (cache : List String) (clock : Int) : Device where
  slots := slots
  stagingGeneration := 0
  stateQueue := []
  stagingQueue := []
  cache := cache
  clock := clock
  history := []

end screengoblin.player
