-- The commands on release candidates (apps/api/src/store/memory.ts): create, submit, approve
-- and publish, the withdrawal of a schedule, and what a screen is shown. Each command runs
-- without a pause. It reads the clock once, which is `timestamp` here.
import ScreenGoblin.ReleaseCanonical

open js collections screengoblin.schedule

namespace screengoblin.server

def RELEASE_CANDIDATE_RESPONSE_RETENTION_MS : Int := 30 * 24 * 60 * 60 * 1000
def DATABASE_MAINTENANCE_BATCH_SIZE : Nat := 100

structure ReleaseCandidateIdempotencyInput where
  keyHash : String
  requestDigestSha256 : String
  deriving DecidableEq

/-- The body of a release candidate, with its instants read. -/
structure CandidateInput extends FrozenScheduleSnapshot where
  playlistId : String
  screenIds : List String
  expiresAt : Int
  deriving DecidableEq

/-- How a command ends that does not complete. A replayed command gives back the candidate of
the first one. -/
inductive Stop where
  | replayed (candidate : ReleaseCandidateRecord)
  | refused (reason : ReleaseCandidateFailureReason)
  | threw (message : String)
  deriving DecidableEq

/-- The answer of a command: its candidate, or why it stopped. -/
abbrev Answer := Except Stop ReleaseCandidateRecord

/-! ## The checks of a command -/

/-- A command that fails a check stops there. -/
def refuseUnless (test : Bool) (reason : ReleaseCandidateFailureReason) : Except Stop Unit :=
  if test then .ok () else .error (.refused reason)

def throwUnless (test : Bool) (message : String) : Except Stop Unit :=
  if test then .ok () else .error (.threw message)

def foundOr {α : Type} (reason : ReleaseCandidateFailureReason) : Option α → Except Stop α
  | some value => .ok value
  | none => .error (.refused reason)

def candidateActor (s : MemoryStore) (org userId : String) : Option SessionUser :=
  s.users.find? fun user =>
    user.id == userId && user.organizationId == org && user.disabledAt.isNone

/-- The capability that a command needs. -/
def ReleaseOperation.capability : ReleaseOperation → Capability
  | .create => .releaseCandidateCreate
  | .submit => .releaseCandidateSubmit
  | .approve => .releaseApprove
  | .publish => .releasePublish

def mayCommand (s : MemoryStore) (org userId : String) (operation : ReleaseOperation) : Bool :=
  hasCapability ((candidateActor s org userId).map (·.role)) operation.capability

def hasValidCandidateDigest (P : Platform) (candidate : ReleaseCandidateRecord) : Bool :=
  candidate.policyVersion == 1 &&
    candidate.digestSha256 == releaseCandidateDigest P candidate.releaseDigestSha256
      candidate.schedule candidate.screenIds candidate.expiresAt

def isCandidate (org candidateId : String) (record : ReleaseCandidateRecord) : Bool :=
  record.organizationId == org && record.id == candidateId

/-! ## Replays -/

def expectedState : ReleaseOperation → ReleaseCandidateState
  | .create => .draft
  | .submit => .inReview
  | .approve => .approved
  | .publish => .published

def hasOwnApproval (live : ReleaseCandidateRecord) : Bool :=
  live.approval.any fun approval => approval.candidateDigestSha256 == live.digestSha256

/-- The candidate of a recorded response is still there, and still the candidate it was. -/
def replayable (P : Platform) (s : MemoryStore) (org : String) (operation : ReleaseOperation)
    (response : ReleaseCandidateRecord) : Bool :=
  match s.releaseCandidates.find? (isCandidate org response.id) with
  | none => false
  | some live =>
    response.organizationId == org && response.state == expectedState operation &&
      response.digestSha256 == live.digestSha256 && hasValidCandidateDigest P live &&
      (operation != .approve && operation != .publish || hasOwnApproval live) &&
      (operation != .publish ||
        live.scheduleId.isSome && live.assignmentId.isSome && live.state == .published)

def isRecord (org : String) (operation : ReleaseOperation) (keyHash : String)
    (record : ReleaseIdempotencyRecord) : Bool :=
  record.organizationId == org && record.operation == operation && record.keyHash == keyHash

/-- The command goes on when its key is new. -/
def releaseCandidateReplay (P : Platform) (s : MemoryStore) (org : String)
    (operation : ReleaseOperation) (actorUserId : String)
    (idempotency : ReleaseCandidateIdempotencyInput) (timestamp : Int) : Except Stop Unit :=
  match s.releaseCandidateIdempotencyRecords.find? (isRecord org operation idempotency.keyHash) with
  | none => .ok ()
  | some existing =>
    if existing.actorUserId != actorUserId ||
        existing.requestDigestSha256 != idempotency.requestDigestSha256 then
      .error (.refused .idempotencyKeyReused)
    else if existing.expiresAt ≤ timestamp then .error (.refused .idempotencyKeyExpired)
    else match existing.response with
      | none => .error (.refused .idempotencyKeyExpired)
      | some response =>
        if replayable P s org operation response then .error (.replayed response)
        else .error (.threw "Idempotent candidate response references are invalid")

def rememberReleaseCandidate (org : String) (operation : ReleaseOperation) (actorUserId : String)
    (idempotency : ReleaseCandidateIdempotencyInput) (candidate : ReleaseCandidateRecord)
    (timestamp : Int) (s : MemoryStore) : MemoryStore :=
  { s with
    releaseCandidateIdempotencyRecords := s.releaseCandidateIdempotencyRecords ++
      [{ organizationId := org, operation := operation, keyHash := idempotency.keyHash,
         actorUserId := actorUserId, requestDigestSha256 := idempotency.requestDigestSha256,
         expiresAt := timestamp + RELEASE_CANDIDATE_RESPONSE_RETENTION_MS,
         response := some candidate }] }

/-- The records that lose their responses: the oldest of the expired ones. -/
def compactableRecords (P : Platform) (s : MemoryStore) (timestamp : Int) :
    List ReleaseIdempotencyRecord :=
  ((s.releaseCandidateIdempotencyRecords.filter fun record =>
      record.response.isSome && decide (record.expiresAt ≤ timestamp)).insertionSort fun a b =>
    ((compare a.expiresAt b.expiresAt).then (P.localeCompare a.keyHash b.keyHash)).isLE).take
      DATABASE_MAINTENANCE_BATCH_SIZE

def compactExpiredIdempotencyResponses (P : Platform) (timestamp : Int) (s : MemoryStore) :
    MemoryStore :=
  let compactable := compactableRecords P s timestamp
  { s with
    releaseCandidateIdempotencyRecords := s.releaseCandidateIdempotencyRecords.map (fun record =>
      if record ∈ compactable then { record with response := none } else record) }

/-- The end of a completed command. -/
def complete (P : Platform) (org : String) (operation : ReleaseOperation) (actorUserId : String)
    (idempotency : ReleaseCandidateIdempotencyInput) (timestamp : Int)
    (candidate : ReleaseCandidateRecord) (s : MemoryStore) : MemoryStore × Answer :=
  (compactExpiredIdempotencyResponses P timestamp
    (rememberReleaseCandidate org operation actorUserId idempotency candidate timestamp s),
   .ok candidate)

/-- The first checks of each command, before it looks at a candidate. -/
def admitCommand (P : Platform) (s : MemoryStore) (org : String) (operation : ReleaseOperation)
    (actorUserId : String) (idempotency : ReleaseCandidateIdempotencyInput) (timestamp : Int) :
    Except Stop Unit := do
  refuseUnless (mayCommand s org actorUserId operation) .forbidden
  releaseCandidateReplay P s org operation actorUserId idempotency timestamp

def hasCanonicalHashes (idempotency : ReleaseCandidateIdempotencyInput) : Bool :=
  isLowerHex64 idempotency.keyHash && isLowerHex64 idempotency.requestDigestSha256

/-! ## Create -/

/-- The candidates that expired so long ago that no response for them is kept. -/
def expiredCandidates (P : Platform) (s : MemoryStore) (org : String) (timestamp : Int) :
    List ReleaseCandidateRecord :=
  ((s.releaseCandidates.filter fun candidate =>
      candidate.organizationId == org && candidate.state != .published &&
        decide (candidate.expiresAt ≤
          timestamp - RELEASE_CANDIDATE_RESPONSE_RETENTION_MS)).insertionSort fun a b =>
    ((compare a.expiresAt b.expiresAt).then (P.localeCompare a.id b.id)).isLE).take 20

/-- With no expired candidate this leaves the store as it is. -/
def pruneExpiredCandidates (P : Platform) (org : String) (timestamp : Int) (s : MemoryStore) :
    MemoryStore :=
  let expired := expiredCandidates P s org timestamp
  let kept := s.releaseCandidates.filter fun candidate =>
    !(expired.map (·.id)).contains candidate.id
  { s with
    releaseCandidates := kept
    releases := s.releases.filter fun release =>
      !(expired.map (·.releaseId)).contains release.id ||
        kept.any (fun candidate => candidate.releaseId == release.id) ||
        s.releaseAssignments.any fun assignment => assignment.releaseId == release.id }

def findScreen (s : MemoryStore) (org screenId : String) : Option ScreenRecord :=
  s.screens.find? fun screen => screen.organizationId == org && screen.id == screenId

def findMedia (s : MemoryStore) (org assetId : String) : Option MediaRecord :=
  s.media.find? fun asset => asset.organizationId == org && asset.id == assetId

def findPlaylist (s : MemoryStore) (org playlistId : String) : Option PlaylistRecord :=
  s.playlists.find? fun playlist => playlist.organizationId == org && playlist.id == playlistId

def openCandidates (s : MemoryStore) (org : String) : List ReleaseCandidateRecord :=
  s.releaseCandidates.filter fun candidate =>
    candidate.organizationId == org && candidate.state != .published

/-- What a playlist may not do: name a URL or a medium that the policy refuses. -/
def checkMedia (P : Platform) (mediaAllowedOrigins : List String) (urls : List String)
    (assets : List PolicyMediaAsset) (timestamp : Int) : Except Stop Unit := do
  refuseUnless (urls.all fun url => mediaUrlMatchesAllowedOrigin P url mediaAllowedOrigins)
    .assetNotAllowed
  match mediaPublicationFailure P assets timestamp with
  | some reason => .error (.refused reason)
  | none => .ok ()

/-- The checks of a new candidate, after the pruning. They end with its release snapshot. -/
def prepareCandidate (P : Platform) (s : MemoryStore) (org : String) (data : CandidateInput)
    (mediaAllowedOrigins : List String) (timestamp : Int) :
    Except Stop CanonicalReleaseSnapshot := do
  let screenIds := canonicalScreenIds data.screenIds
  refuseUnless (!screenIds.isEmpty && decide (screenIds.length ≤ 1000)) .screenNotFound
  refuseUnless (decide (((openCandidates s org).filter fun candidate =>
    decide (timestamp < candidate.expiresAt)).length < 100)) .releaseTooLarge
  refuseUnless (decide ((openCandidates s org).length < 1000)) .releaseTooLarge
  let playlist ← foundOr .playlistNotFound (findPlaylist s org data.playlistId)
  refuseUnless (screenIds.all fun screenId => (findScreen s org screenId).isSome) .screenNotFound
  let assets := playlist.items.filterMap fun item => findMedia s org item.assetId
  checkMedia P mediaAllowedOrigins (assets.map (·.url)) (assets.map (·.policy)) timestamp
  match canonicalReleaseSnapshot P playlist assets with
  | .ok snapshot => .ok snapshot
  | .error reason => .error (.refused reason)

/-- The release of a snapshot: one with this digest that is there, or a new one. -/
def releaseFor (P : Platform) (s : MemoryStore) (org actorUserId : String) (timestamp : Int)
    (snapshot : CanonicalReleaseSnapshot) : PublishedReleaseRecord :=
  let digest := releaseSnapshotDigest P snapshot
  match s.releases.find? fun release =>
      release.organizationId == org && release.digestSha256 == digest with
  | some release => release
  | none =>
    { id := P.freshId s.idsDrawn, organizationId := org,
      sourcePlaylistId := snapshot.sourcePlaylistId,
      sourcePlaylistUpdatedAt := snapshot.sourcePlaylistUpdatedAt,
      playlistName := snapshot.playlistName, playlistDescription := snapshot.playlistDescription,
      digestSha256 := digest, items := snapshot.items, createdById := actorUserId,
      createdAt := timestamp }

/-- The record of a new candidate. -/
def newCandidate (P : Platform) (s : MemoryStore) (org : String) (data : CandidateInput)
    (actorUserId : String) (timestamp : Int) (snapshot : CanonicalReleaseSnapshot) :
    ReleaseCandidateRecord :=
  let releaseDigestSha256 := releaseSnapshotDigest P snapshot
  { id := P.freshId (s.idsDrawn + 1), organizationId := org,
    releaseId := (releaseFor P s org actorUserId timestamp snapshot).id,
    releaseDigestSha256 := releaseDigestSha256, sourcePlaylistId := data.playlistId,
    state := .draft,
    digestSha256 := releaseCandidateDigest P releaseDigestSha256 data.toFrozenScheduleSnapshot
      data.screenIds data.expiresAt,
    authorUserId := actorUserId, items := snapshot.items,
    schedule := canonicalSchedule data.toFrozenScheduleSnapshot,
    screenIds := canonicalScreenIds data.screenIds, policyVersion := 1,
    expiresAt := data.expiresAt, submittedAt := none, approvedAt := none, publishedAt := none,
    scheduleId := none, assignmentId := none, approval := none, createdAt := timestamp }

/-- A new release goes into the store with its first candidate. -/
def addCandidate (P : Platform) (org : String) (data : CandidateInput) (actorUserId : String)
    (timestamp : Int) (snapshot : CanonicalReleaseSnapshot) (s : MemoryStore) : MemoryStore :=
  let release := releaseFor P s org actorUserId timestamp snapshot
  { s with
    releases := if release ∈ s.releases then s.releases else s.releases ++ [release]
    releaseCandidates := s.releaseCandidates ++
      [newCandidate P s org data actorUserId timestamp snapshot]
    idsDrawn := s.idsDrawn + 2 }

def createReleaseCandidate (P : Platform) (timestamp : Int) (org : String)
    (data : CandidateInput) (actorUserId : String) (mediaAllowedOrigins : List String)
    (idempotency : ReleaseCandidateIdempotencyInput) (s : MemoryStore) :
    MemoryStore × Answer :=
  let admitted : Except Stop Unit := do
    throwUnless (hasCanonicalHashes idempotency)
      "Canonical candidate idempotency hashes are required"
    admitCommand P s org .create actorUserId idempotency timestamp
    refuseUnless (decide (timestamp < data.expiresAt) &&
      decide (data.expiresAt ≤ timestamp + 7 * 24 * 60 * 60000)) .expired
  match admitted with
  | .error stop => (s, .error stop)
  | .ok () =>
    let pruned := pruneExpiredCandidates P org timestamp s
    match prepareCandidate P pruned org data mediaAllowedOrigins timestamp with
    | .error stop => (pruned, .error stop)
    | .ok snapshot =>
      complete P org .create actorUserId idempotency timestamp
        (newCandidate P pruned org data actorUserId timestamp snapshot)
        (addCandidate P org data actorUserId timestamp snapshot pruned)

/-! ## Submit and approve -/

/-- The checks that submit, approve and publish share. They end with the candidate. -/
def admitTransition (P : Platform) (s : MemoryStore) (org : String) (operation : ReleaseOperation)
    (candidateId expectedDigestSha256 actorUserId : String)
    (idempotency : ReleaseCandidateIdempotencyInput) (timestamp : Int) :
    Except Stop ReleaseCandidateRecord := do
  throwUnless (isLowerHex64 expectedDigestSha256 && hasCanonicalHashes idempotency)
    "Canonical candidate hashes are required"
  admitCommand P s org operation actorUserId idempotency timestamp
  let candidate ← foundOr .notFound (s.releaseCandidates.find? (isCandidate org candidateId))
  refuseUnless (candidate.digestSha256 == expectedDigestSha256 &&
    hasValidCandidateDigest P candidate) .staleDigest
  refuseUnless (decide (timestamp < candidate.expiresAt)) .expired
  .ok candidate

def updateCandidate (org candidateId : String)
    (change : ReleaseCandidateRecord → ReleaseCandidateRecord) (s : MemoryStore) : MemoryStore :=
  { s with
    releaseCandidates := updateFirst (isCandidate org candidateId) change s.releaseCandidates }

def submitted (timestamp : Int) (candidate : ReleaseCandidateRecord) : ReleaseCandidateRecord :=
  { candidate with state := .inReview, submittedAt := some timestamp }

def submitReleaseCandidate (P : Platform) (timestamp : Int) (org candidateId : String)
    (expectedDigestSha256 actorUserId : String)
    (idempotency : ReleaseCandidateIdempotencyInput) (s : MemoryStore) :
    MemoryStore × Answer :=
  let admitted : Except Stop ReleaseCandidateRecord := do
    let candidate ← admitTransition P s org .submit candidateId expectedDigestSha256 actorUserId
      idempotency timestamp
    refuseUnless (candidate.authorUserId == actorUserId) .forbidden
    refuseUnless (candidate.state == .draft) .invalidState
    .ok candidate
  match admitted with
  | .error stop => (s, .error stop)
  | .ok candidate =>
    complete P org .submit actorUserId idempotency timestamp (submitted timestamp candidate)
      (updateCandidate org candidateId (submitted timestamp) s)

/-- The epochs of the approver are those at the time of the approval. -/
def approved (P : Platform) (s : MemoryStore) (org actorUserId : String) (actor : SessionUser)
    (timestamp : Int) (candidate : ReleaseCandidateRecord) : ReleaseCandidateRecord :=
  { candidate with
    state := .approved
    approvedAt := some timestamp
    approval := some
      { id := P.freshId s.idsDrawn, organizationId := org, candidateId := candidate.id,
        candidateDigestSha256 := candidate.digestSha256, approverUserId := actorUserId,
        authenticationEpoch := actor.authenticationEpoch,
        authorizationEpoch := actor.authorizationEpoch, approvedAt := timestamp } }

def approveReleaseCandidate (P : Platform) (timestamp : Int) (org candidateId : String)
    (expectedDigestSha256 actorUserId : String)
    (idempotency : ReleaseCandidateIdempotencyInput) (s : MemoryStore) :
    MemoryStore × Answer :=
  let admitted : Except Stop (ReleaseCandidateRecord × SessionUser) := do
    let candidate ← admitTransition P s org .approve candidateId expectedDigestSha256 actorUserId
      idempotency timestamp
    refuseUnless (candidate.authorUserId != actorUserId) .authorCannotApprove
    refuseUnless (candidate.state == .inReview) .invalidState
    let actor ← foundOr .forbidden (candidateActor s org actorUserId)
    .ok (candidate, actor)
  match admitted with
  | .error stop => (s, .error stop)
  | .ok (candidate, actor) =>
    complete P org .approve actorUserId idempotency timestamp
      (approved P s org actorUserId actor timestamp candidate)
      { updateCandidate org candidateId (approved P s org actorUserId actor timestamp) s with
        idsDrawn := s.idsDrawn + 1 }

/-! ## Publish -/

/-- The approver still may approve, and neither of the epochs has moved since. -/
def approvalIsCurrent (s : MemoryStore) (org : String) (approval : ReleaseApprovalRecord) : Bool :=
  (candidateActor s org approval.approverUserId).any fun approver =>
    hasCapability (some approver.role) .releaseApprove &&
      approver.authenticationEpoch == approval.authenticationEpoch &&
      approver.authorizationEpoch == approval.authorizationEpoch

def admitPublication (P : Platform) (s : MemoryStore) (org candidateId : String)
    (expectedDigestSha256 actorUserId : String) (mediaAllowedOrigins : List String)
    (idempotency : ReleaseCandidateIdempotencyInput) (timestamp : Int) :
    Except Stop (ReleaseCandidateRecord × PublishedReleaseRecord) := do
  let candidate ← admitTransition P s org .publish candidateId expectedDigestSha256 actorUserId
    idempotency timestamp
  refuseUnless (candidate.state == .approved) .invalidState
  let approval ← foundOr .invalidState candidate.approval
  refuseUnless (approval.candidateDigestSha256 == candidate.digestSha256) .approvalStale
  refuseUnless (approvalIsCurrent s org approval) .approvalStale
  let release ← foundOr .staleDigest (s.releases.find? fun record =>
    record.organizationId == org && record.id == candidate.releaseId)
  refuseUnless (release.digestSha256 == candidate.releaseDigestSha256 &&
    hasValidStoredReleaseDigest P release) .staleDigest
  checkMedia P mediaAllowedOrigins (release.items.map (·.asset.url))
    (release.items.map (·.asset.policy)) timestamp
  refuseUnless (candidate.screenIds.all fun screenId => (findScreen s org screenId).isSome)
    .screenNotFound
  .ok (candidate, release)

/-- The schedule and the assignment of a publication draw these identifiers. -/
def scheduleIdOf (P : Platform) (s : MemoryStore) : String := P.freshId s.idsDrawn
def assignmentIdOf (P : Platform) (s : MemoryStore) : String := P.freshId (s.idsDrawn + 1)

def published (P : Platform) (s : MemoryStore) (timestamp : Int)
    (candidate : ReleaseCandidateRecord) : ReleaseCandidateRecord :=
  { candidate with
    state := .published
    publishedAt := some timestamp
    scheduleId := some (scheduleIdOf P s)
    assignmentId := some (assignmentIdOf P s) }

def publishedSchedule (P : Platform) (s : MemoryStore) (org : String) (timestamp : Int)
    (candidate : ReleaseCandidateRecord) (release : PublishedReleaseRecord) : ScheduleRecord :=
  { candidate.schedule with
    id := scheduleIdOf P s
    organizationId := org
    playlistId := candidate.sourcePlaylistId
    screenIds := candidate.screenIds
    releaseId := some release.id
    assignmentId := some (assignmentIdOf P s)
    createdAt := timestamp
    updatedAt := timestamp }

def publishedAssignment (P : Platform) (s : MemoryStore) (org actorUserId : String)
    (timestamp : Int) (candidate : ReleaseCandidateRecord) (release : PublishedReleaseRecord) :
    ReleaseAssignmentRecord :=
  { id := assignmentIdOf P s, organizationId := org, releaseId := release.id,
    scheduleId := scheduleIdOf P s, screenIds := candidate.screenIds, state := .assigned,
    schedule := candidate.schedule,
    digestSha256 := assignmentSnapshotDigest P candidate.releaseDigestSha256 .assigned
      candidate.schedule candidate.screenIds none,
    previousAssignmentId := none, createdById := actorUserId, createdAt := timestamp }

def addPublication (P : Platform) (org candidateId actorUserId : String) (timestamp : Int)
    (candidate : ReleaseCandidateRecord) (release : PublishedReleaseRecord) (s : MemoryStore) :
    MemoryStore :=
  { updateCandidate org candidateId (published P s timestamp) s with
    schedules := s.schedules ++ [publishedSchedule P s org timestamp candidate release]
    releaseAssignments := s.releaseAssignments ++
      [publishedAssignment P s org actorUserId timestamp candidate release]
    idsDrawn := s.idsDrawn + 2 }

def publishReleaseCandidate (P : Platform) (timestamp : Int) (org candidateId : String)
    (expectedDigestSha256 actorUserId : String) (mediaAllowedOrigins : List String)
    (idempotency : ReleaseCandidateIdempotencyInput) (s : MemoryStore) :
    MemoryStore × Answer :=
  match admitPublication P s org candidateId expectedDigestSha256 actorUserId mediaAllowedOrigins
      idempotency timestamp with
  | .error stop => (s, .error stop)
  | .ok (candidate, release) =>
    complete P org .publish actorUserId idempotency timestamp (published P s timestamp candidate)
      (addPublication P org candidateId actorUserId timestamp candidate release s)

/-! ## Withdraw -/

/-- The last assignment of a schedule. -/
def latestAssignment (s : MemoryStore) (scheduleId : String) : Option ReleaseAssignmentRecord :=
  s.releaseAssignments.reverse.find? fun assignment => assignment.scheduleId == scheduleId

inductive WithdrawalResult where
  | withdrawn (assignment : ReleaseAssignmentRecord)
  | notFound
  | alreadyWithdrawn
  | forbidden
  deriving DecidableEq

def withdrawal (P : Platform) (s : MemoryStore) (org scheduleId releaseId actorUserId : String)
    (timestamp : Int) (previous : ReleaseAssignmentRecord) (release : PublishedReleaseRecord) :
    ReleaseAssignmentRecord :=
  { id := P.freshId s.idsDrawn, organizationId := org, releaseId := releaseId,
    scheduleId := scheduleId, screenIds := previous.screenIds, state := .withdrawn,
    schedule := previous.schedule,
    digestSha256 := assignmentSnapshotDigest P release.digestSha256 .withdrawn previous.schedule
      previous.screenIds (some previous.id),
    previousAssignmentId := some previous.id, createdById := actorUserId, createdAt := timestamp }

def withdrawSchedule (P : Platform) (timestamp : Int) (org scheduleId actorUserId : String)
    (s : MemoryStore) : MemoryStore × WithdrawalResult :=
  if !hasCapability ((candidateActor s org actorUserId).map (·.role)) .releaseWithdraw then
    (s, .forbidden)
  else
    let schedule := s.schedules.find? fun candidate =>
      candidate.organizationId == org && candidate.id == scheduleId
    match schedule.bind (·.releaseId), latestAssignment s scheduleId with
    | some releaseId, some previous =>
      if previous.state = .withdrawn then (s, .alreadyWithdrawn)
      else match s.releases.find? fun candidate =>
          candidate.organizationId == org && candidate.id == releaseId with
        | none => (s, .notFound)
        | some release =>
          let assignment := withdrawal P s org scheduleId releaseId actorUserId timestamp previous release
          ({ s with releaseAssignments := s.releaseAssignments ++ [assignment]
                    idsDrawn := s.idsDrawn + 1 }, .withdrawn assignment)
    | _, _ => (s, .notFound)

/-! ## What a screen is shown -/

structure ActiveOrdinaryRelease where
  release : PublishedReleaseRecord
  assignment : ReleaseAssignmentRecord
  deriving DecidableEq

/-- The release of a schedule for a screen at an instant, if it is active. `none` is also the
answer where a time zone makes the window test throw, which fails the whole request. -/
def activeReleaseOf (P : Platform) (s : MemoryStore) (org screenId : String) (instant : Int)
    (schedule : ScheduleRecord) : Option ActiveOrdinaryRelease :=
  if schedule.organizationId != org || schedule.releaseId.isNone then none
  else match latestAssignment s schedule.id with
    | none => none
    | some assignment =>
      if assignment.organizationId == org && assignment.state == .assigned &&
          assignment.screenIds.contains screenId &&
          isActiveAt P.zones assignment.schedule instant then
        match s.releases.find? fun candidate =>
            candidate.organizationId == org && candidate.id == assignment.releaseId with
        | none => none
        | some release =>
          if hasValidStoredAssignmentDigest P assignment release then some { release, assignment }
          else none
      else none

def activeOrdinaryReleases (P : Platform) (s : MemoryStore) (org screenId : String)
    (instant : Int) : List ActiveOrdinaryRelease :=
  s.schedules.filterMap (activeReleaseOf P s org screenId instant)

end screengoblin.server
