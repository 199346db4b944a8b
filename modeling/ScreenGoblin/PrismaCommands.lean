-- The commands of the store on the rows of the releases (apps/api/src/store/prisma.ts): create,
-- submit, approve and publish a candidate, withdraw a schedule, and decommission a screen. Each
-- is one transaction, which reads the clock of the database once. A command that throws leaves
-- the rows as they were, and a refusal keeps what was written before it.
import ScreenGoblin.PrismaRows
import ScreenGoblin.ReleaseSteps

open js collections screengoblin.schedule screengoblin.server

namespace screengoblin.prisma

/-! ## What each command reads -/

/-- A call that throws inside a transaction. -/
def threwAs {α : Type} : Except String α → Except Stop α
  | .ok value => .ok value
  | .error message => .error (.threw message)

@[simp]
theorem threwAs_ok {α : Type} {value : Except String α} {a : α} :
    threwAs value = .ok a ↔ value = .ok a := by
  cases value <;> simp [threwAs]

def orThrow {α : Type} (message : String) : Option α → Except Stop α
  | some value => .ok value
  | none => .error (.threw message)

/-- The membership of a user that is not disabled. -/
def lockReleaseActor (db : Database) (org userId : String) : Option SessionUser :=
  db.users.find? fun user =>
    user.organizationId == org && user.id == userId && user.disabledAt.isNone

def roleOf (db : Database) (org userId : String) : Option Role :=
  (lockReleaseActor db org userId).map (·.role)

def candidate? (db : Database) (org candidateId : String) : Option ReleaseCandidateRow :=
  db.candidates.find? fun candidate =>
    candidate.id == candidateId && candidate.organizationId == org

/-- The release of a row, which a foreign key keeps in place. -/
def readRelease (P : Platform) (db : Database) (releaseId organizationId : String) :
    Except Stop PublishedReleaseRecord := do
  let release ← orThrow "Inconsistent query result" (db.release? releaseId organizationId)
  threwAs (publishedReleaseDto P release (db.itemsOf release))

/-- The record of a candidate with its release. -/
def readCandidate (P : Platform) (db : Database) (candidate : ReleaseCandidateRow) :
    Except Stop (ReleaseCandidateRecord × PublishedReleaseRecord) := do
  let release ← readRelease P db candidate.releaseId candidate.organizationId
  .ok (releaseCandidateDto candidate (db.candidateTargetsOf candidate) release
    (db.approvalOf candidate) (db.publicationOf candidate), release)

/-! ## Replays -/

def stateRank : ReleaseCandidateState → Nat
  | .draft => 0
  | .inReview => 1
  | .approved => 2
  | .published => 3

/-- The candidate as the operation left it. -/
def operationResponse (operation : ReleaseOperation) (live : ReleaseCandidateRecord) :
    ReleaseCandidateRecord :=
  match operation with
  | .create =>
    { live with state := .draft, submittedAt := none, approvedAt := none, publishedAt := none,
                scheduleId := none, assignmentId := none, approval := none }
  | .submit =>
    { live with state := .inReview, approvedAt := none, publishedAt := none, scheduleId := none,
                assignmentId := none, approval := none }
  | .approve =>
    { live with state := .approved, publishedAt := none, scheduleId := none,
                assignmentId := none }
  | .publish => live

/-- The candidate went at least as far as the operation. -/
def reached (operation : ReleaseOperation) (live : ReleaseCandidateRecord) : Bool :=
  decide (stateRank (expectedState operation) ≤ stateRank live.state) &&
    (operation == .create || live.submittedAt.isSome) &&
    (operation != .approve && operation != .publish || live.approvedAt.isSome)

/-- The test on the response of a record, with the candidate as it is now. -/
def isReplayOf (P : Platform) (operation : ReleaseOperation) (response : ReleaseCandidateRecord)
    (live : ReleaseCandidateRecord) (release : PublishedReleaseRecord) : Bool :=
  reached operation live && live.digestSha256 == response.digestSha256 &&
    response == operationResponse operation live &&
    live.digestSha256 == releaseCandidateDigest P live.releaseDigestSha256 live.schedule
      live.screenIds live.expiresAt &&
    hasValidStoredReleaseDigest P release &&
    (operation != .approve && operation != .publish || hasOwnApproval live) &&
    (operation != .publish ||
      live.scheduleId.isSome && live.assignmentId.isSome && live.state == .published)

def verifiedReleaseCandidateReplay (P : Platform) (db : Database) (org : String)
    (operation : ReleaseOperation) (response : ReleaseCandidateRecord) : Except Stop Bool :=
  if response.organizationId != org || response.state != expectedState operation ||
      !isLowerHex64 response.digestSha256 then .ok false
  else match candidate? db org response.id with
    | none => .ok false
    | some candidate => do
      let (live, release) ← readCandidate P db candidate
      .ok (isReplayOf P operation response live release)

/-- The command goes on when its key is new. -/
def replayOrGoOn (P : Platform) (db : Database) (org : String) (operation : ReleaseOperation)
    (actorUserId : String) (idempotency : ReleaseCandidateIdempotencyInput) (timestamp : Int) :
    Except Stop Unit :=
  match db.idempotencyRecords.find? (isRecord org operation idempotency.keyHash) with
  | none => .ok ()
  | some existing =>
    if existing.actorUserId != actorUserId ||
        existing.requestDigestSha256 != idempotency.requestDigestSha256 then
      .error (.refused .idempotencyKeyReused)
    else if existing.expiresAt ≤ timestamp then .error (.refused .idempotencyKeyExpired)
    else match existing.response with
      | none => .error (.refused .idempotencyKeyExpired)
      | some response => do
        let replay ← verifiedReleaseCandidateReplay P db org operation response
        if replay then .error (.replayed response)
        else .error (.threw "Idempotent candidate response references are invalid")

/-- The first checks of each command. -/
def admitCommand (P : Platform) (db : Database) (org : String) (operation : ReleaseOperation)
    (actorUserId : String) (idempotency : ReleaseCandidateIdempotencyInput) (timestamp : Int) :
    Except Stop Unit := do
  refuseUnless (hasCapability (roleOf db org actorUserId) operation.capability) .forbidden
  replayOrGoOn P db org operation actorUserId idempotency timestamp

def remember (org : String) (operation : ReleaseOperation) (actorUserId : String)
    (idempotency : ReleaseCandidateIdempotencyInput) (timestamp : Int)
    (response : ReleaseCandidateRecord) (db : Database) : Database :=
  { db with
    idempotencyRecords := db.idempotencyRecords ++
      [{ organizationId := org, operation := operation, keyHash := idempotency.keyHash,
         actorUserId := actorUserId, requestDigestSha256 := idempotency.requestDigestSha256,
         expiresAt := timestamp + RELEASE_CANDIDATE_RESPONSE_RETENTION_MS,
         response := some response }] }

/-- The end of a command that has written its rows: the candidate is read back, and the response
goes into the record of the key. -/
def complete (P : Platform) (org : String) (operation : ReleaseOperation) (actorUserId : String)
    (idempotency : ReleaseCandidateIdempotencyInput) (timestamp : Int) (candidateId : String)
    (before after : Database) : Database × Answer :=
  let read : Except Stop (ReleaseCandidateRecord × PublishedReleaseRecord) := do
    let candidate ← orThrow "No record was found" (candidate? after org candidateId)
    readCandidate P after candidate
  match read with
  | .error stop => (before, .error stop)
  | .ok (response, _) =>
    (remember org operation actorUserId idempotency timestamp response after, .ok response)

/-! ## Create -/

/-- The candidates that expired so long ago that no response for them is kept. -/
def expiredCandidates (P : Platform) (db : Database) (org : String) (timestamp : Int) :
    List ReleaseCandidateRow :=
  ((db.candidates.filter fun candidate =>
      candidate.organizationId == org && candidate.state != .published &&
        decide (candidate.expiresAt ≤ timestamp - RELEASE_CANDIDATE_RESPONSE_RETENTION_MS) &&
        (db.publicationOf candidate).isNone).insertionSort fun a b =>
    ((compare a.expiresAt b.expiresAt).then (P.localeCompare a.id b.id)).isLE).take 20

def forgetResponses (org : String) (candidateIds : List String)
    (records : List ReleaseIdempotencyRecord) : List ReleaseIdempotencyRecord :=
  records.map fun record =>
    if record.organizationId == org && record.operation != .publish &&
        record.response.any (fun response => candidateIds.contains response.id) then
      { record with response := none }
    else record

/-- The rows without some candidates, their targets and their approvals. -/
def deleteCandidates (candidateIds : List String) (db : Database) : Database :=
  { db with
    candidates := db.candidates.filter fun candidate => !candidateIds.contains candidate.id
    candidateTargets := db.candidateTargets.filter fun target =>
      !candidateIds.contains target.ownerId
    approvals := db.approvals.filter fun approval =>
      !candidateIds.contains approval.candidateId }

/-- One of these releases, and neither a candidate nor an assignment is left for it. -/
def isUnused (org : String) (releaseIds : List String) (db : Database)
    (release : PublishedReleaseRow) : Bool :=
  release.organizationId == org && releaseIds.contains release.id &&
    !db.candidates.any (fun candidate =>
      candidate.releaseId == release.id && candidate.organizationId == release.organizationId) &&
    !db.assignments.any fun assignment =>
      assignment.releaseId == release.id && assignment.organizationId == release.organizationId

/-- The items of a release go with it. -/
def deleteReleases (unused : PublishedReleaseRow → Bool) (db : Database) : Database :=
  { db with
    releases := db.releases.filter fun release => !unused release
    items := db.items.filter fun item =>
      !db.releases.any fun release => unused release && item.releaseId == release.id }

/-- With no expired candidate this leaves the rows as they are. -/
def pruneExpiredCandidates (P : Platform) (org : String) (timestamp : Int) (db : Database) :
    Database :=
  let expired := expiredCandidates P db org timestamp
  let without := deleteCandidates (expired.map (·.id)) db
  { deleteReleases (isUnused org (expired.map (·.releaseId)) without) without with
    idempotencyRecords := forgetResponses org (expired.map (·.id)) db.idempotencyRecords }

def mediaDto (P : Platform) (asset : MediaAssetRow) : Except String MediaRecord := do
  let sizeBytes ← safeInteger asset.sizeBytes "sizeBytes"
  .ok { id := asset.id, organizationId := asset.organizationId, name := asset.name,
        kind := asset.kind.enumLower, mimeType := asset.mimeType, url := asset.url,
        storageKey := some asset.storageKey, checksumSha256 := asset.checksumSha256,
        sizeBytes := sizeBytes, expiresAt := asset.expiresAt.map P.toISOString,
        createdAt := asset.createdAt, updatedAt := asset.updatedAt }

def openCandidates (db : Database) (org : String) : List ReleaseCandidateRow :=
  db.candidates.filter fun candidate =>
    candidate.organizationId == org && candidate.state != .published

def media? (db : Database) (org assetId : String) : Option MediaAssetRow :=
  db.media.find? fun asset => asset.id == assetId && asset.organizationId == org

def hasScreen (db : Database) (org screenId : String) : Bool :=
  db.screens.any fun screen => screen.organizationId == org && screen.id == screenId

/-- The checks of a new candidate, after the pruning. They end with its release snapshot. -/
def prepareCandidate (P : Platform) (db : Database) (org : String) (data : CandidateInput)
    (mediaAllowedOrigins : List String) (timestamp : Int) :
    Except Stop CanonicalReleaseSnapshot := do
  let screenIds := canonicalScreenIds data.screenIds
  refuseUnless (!screenIds.isEmpty && decide (screenIds.length ≤ 1000)) .screenNotFound
  refuseUnless (decide (((openCandidates db org).filter fun candidate =>
    decide (timestamp < candidate.expiresAt)).length < 100)) .releaseTooLarge
  refuseUnless (decide ((openCandidates db org).length < 1000)) .releaseTooLarge
  let playlist ← foundOr .playlistNotFound (db.playlists.find? fun playlist =>
    playlist.id == data.playlistId && playlist.organizationId == org)
  refuseUnless (screenIds.all (hasScreen db org)) .screenNotFound
  let ordered := playlist.items.insertionSort (itemLe P · ·)
  let assets ← threwAs ((ordered.filterMap fun item => media? db org item.assetId).mapM
    (mediaDto P))
  checkMedia P mediaAllowedOrigins (assets.map (·.url)) (assets.map (·.policy)) timestamp
  match canonicalReleaseSnapshot P { playlist with items := ordered } assets with
  | .ok snapshot => .ok snapshot
  | .error reason => .error (.refused reason)

/-- `BigInt(value)`, which throws on a number that is not whole. -/
def bigInt (value : Rat) : Except String Int :=
  if value.den = 1 then .ok value.num
  else .error "The number cannot be converted to a BigInt because it is not an integer"

/-- `value ? new Date(value) : null` -/
def dateColumn (P : Platform) (value : Option String) : Except String (Option Int) :=
  (truthyText value).mapM (instantColumn P)

/-- `asset.storageKey ?? mediaStorageKey(org, asset.id, asset.checksumSha256)` -/
def storageKeyColumn (org : String) (asset : FrozenReleaseAsset) : Except String String :=
  match asset.storageKey with
  | some storageKey => .ok storageKey
  | none => mediaStorageKey org asset.id asset.checksumSha256

def frozenItemRow (P : Platform) (org releaseId : String) (item : FrozenReleaseItem) :
    Except String FrozenReleaseItemRow := do
  let storageKey ← storageKeyColumn org item.asset
  let sizeBytes ← bigInt item.asset.sizeBytes
  let expiresAt ← dateColumn P item.asset.expiresAt
  .ok { releaseId := releaseId, organizationId := org, sourcePlaylistItemId := item.id,
        sourceAssetId := item.asset.id, assetName := item.asset.name,
        assetKind := kindColumn item.asset.kind, assetMimeType := item.asset.mimeType,
        assetUrl := item.asset.url, assetStorageKey := storageKey,
        assetChecksumSha256 := item.asset.checksumSha256, assetSizeBytes := sizeBytes,
        assetCreatedAt := item.asset.createdAt, assetExpiresAt := expiresAt,
        position := item.position, durationSeconds := item.durationSeconds }

def newReleaseRow (P : Platform) (db : Database) (org actorUserId : String) (timestamp : Int)
    (snapshot : CanonicalReleaseSnapshot) : PublishedReleaseRow :=
  { id := P.freshId db.idsDrawn, organizationId := org,
    sourcePlaylistId := snapshot.sourcePlaylistId, sourcePlaylistName := snapshot.playlistName,
    sourcePlaylistDescription := snapshot.playlistDescription,
    sourcePlaylistUpdatedAt := snapshot.sourcePlaylistUpdatedAt,
    digestSha256 := releaseSnapshotDigest P snapshot, createdById := actorUserId,
    createdAt := timestamp }

/-- The release of a snapshot: one with this digest that is there, or a new one. -/
def releaseFor (P : Platform) (org actorUserId : String) (timestamp : Int)
    (snapshot : CanonicalReleaseSnapshot) (db : Database) :
    Except Stop (PublishedReleaseRow × Database) :=
  match db.releases.find? fun release =>
      release.organizationId == org &&
        release.digestSha256 == releaseSnapshotDigest P snapshot with
  | some release => .ok (release, db)
  | none => do
    let release := newReleaseRow P db org actorUserId timestamp snapshot
    let items ← threwAs (snapshot.items.mapM (frozenItemRow P org release.id))
    .ok (release, { db with releases := db.releases ++ [release], items := db.items ++ items,
                            idsDrawn := db.idsDrawn + 1 })

/-- New targets, each with its live screen. -/
def liveTargets (org ownerId : String) (screenIds : List String) : List TargetRow :=
  screenIds.map fun screenId =>
    { ownerId := ownerId, organizationId := org, screenId := screenId,
      liveScreenId := some screenId, liveScreenOrganizationId := some org }

def newCandidateRow (P : Platform) (db : Database) (org : String) (data : CandidateInput)
    (actorUserId : String) (timestamp : Int) (snapshot : CanonicalReleaseSnapshot)
    (release : PublishedReleaseRow) (columns : ScheduleColumns) : ReleaseCandidateRow :=
  { toScheduleColumns := columns, id := P.freshId db.idsDrawn, organizationId := org,
    releaseId := release.id, state := .draft,
    digestSha256 := releaseCandidateDigest P (releaseSnapshotDigest P snapshot)
      (canonicalSchedule data.toFrozenScheduleSnapshot) (canonicalScreenIds data.screenIds)
      data.expiresAt
    authorUserId := actorUserId, policyVersion := 1, expiresAt := data.expiresAt,
    submittedAt := none, approvedAt := none, publishedAt := none, publicationId := none,
    createdAt := timestamp }

def addCandidate (org : String) (screenIds : List String) (candidate : ReleaseCandidateRow)
    (db : Database) : Database :=
  { db with
    candidates := db.candidates ++ [candidate]
    candidateTargets := db.candidateTargets ++
      liveTargets org candidate.id (canonicalScreenIds screenIds)
    idsDrawn := db.idsDrawn + 1 }

def createReleaseCandidate (P : Platform) (timestamp : Int) (org : String)
    (data : CandidateInput) (actorUserId : String) (mediaAllowedOrigins : List String)
    (idempotency : ReleaseCandidateIdempotencyInput) (db : Database) : Database × Answer :=
  let admitted : Except Stop Unit := do
    throwUnless (hasCanonicalHashes idempotency)
      "Canonical candidate idempotency hashes are required"
    admitCommand P db org .create actorUserId idempotency timestamp
    refuseUnless (decide (timestamp < data.expiresAt) &&
      decide (data.expiresAt ≤ timestamp + 7 * 24 * 60 * 60000)) .expired
  match admitted with
  | .error stop => (db, .error stop)
  | .ok () =>
    let pruned := pruneExpiredCandidates P org timestamp db
    let written : Except Stop (Database × String) := do
      let snapshot ← prepareCandidate P pruned org data mediaAllowedOrigins timestamp
      let (release, released) ← releaseFor P org actorUserId timestamp snapshot pruned
      let columns ← threwAs
        (scheduleColumns P (canonicalSchedule data.toFrozenScheduleSnapshot))
      let candidate := newCandidateRow P released org data actorUserId timestamp snapshot release
        columns
      .ok (addCandidate org data.screenIds candidate released, candidate.id)
    match written with
    | .error (.threw message) => (db, .error (.threw message))
    | .error stop => (pruned, .error stop)
    | .ok (after, candidateId) =>
      complete P org .create actorUserId idempotency timestamp candidateId db after

/-! ## Submit and approve -/

/-- The digests of a candidate and of its release are those of their content. -/
def hasValidDigests (P : Platform) (expectedDigestSha256 : String)
    (candidate : ReleaseCandidateRecord) (release : PublishedReleaseRecord) : Bool :=
  candidate.digestSha256 == expectedDigestSha256 && hasValidCandidateDigest P candidate &&
    hasValidStoredReleaseDigest P release

/-- The checks that submit, approve and publish share. They end with the candidate. -/
def admitTransition (P : Platform) (db : Database) (org : String) (operation : ReleaseOperation)
    (candidateId expectedDigestSha256 actorUserId : String)
    (idempotency : ReleaseCandidateIdempotencyInput) (timestamp : Int) :
    Except Stop (ReleaseCandidateRow × ReleaseCandidateRecord × PublishedReleaseRecord) := do
  throwUnless (isLowerHex64 expectedDigestSha256 && hasCanonicalHashes idempotency)
    "Canonical candidate hashes are required"
  admitCommand P db org operation actorUserId idempotency timestamp
  let candidate ← foundOr .notFound (candidate? db org candidateId)
  let (record, release) ← readCandidate P db candidate
  refuseUnless (hasValidDigests P expectedDigestSha256 record release) .staleDigest
  .ok (candidate, record, release)

def updateCandidate (candidateId : String) (change : ReleaseCandidateRow → ReleaseCandidateRow)
    (db : Database) : Database :=
  { db with
    candidates := changeWhere (fun candidate => candidate.id == candidateId) change
      db.candidates }

def submitted (timestamp : Int) (candidate : ReleaseCandidateRow) : ReleaseCandidateRow :=
  { candidate with state := .inReview, submittedAt := some timestamp }

def submitReleaseCandidate (P : Platform) (timestamp : Int) (org candidateId : String)
    (expectedDigestSha256 actorUserId : String)
    (idempotency : ReleaseCandidateIdempotencyInput) (db : Database) : Database × Answer :=
  let admitted : Except Stop Unit := do
    let (candidate, _, _) ← admitTransition P db org .submit candidateId expectedDigestSha256
      actorUserId idempotency timestamp
    refuseUnless (decide (timestamp < candidate.expiresAt)) .expired
    refuseUnless (candidate.authorUserId == actorUserId) .forbidden
    refuseUnless (candidate.state == .draft) .invalidState
  match admitted with
  | .error stop => (db, .error stop)
  | .ok () =>
    complete P org .submit actorUserId idempotency timestamp candidateId db
      (updateCandidate candidateId (submitted timestamp) db)

def approved (timestamp : Int) (candidate : ReleaseCandidateRow) : ReleaseCandidateRow :=
  { candidate with state := .approved, approvedAt := some timestamp }

/-- The epochs of the approver are those at the time of the approval. -/
def approvalRow (P : Platform) (db : Database) (org : String) (candidate : ReleaseCandidateRow)
    (actorUserId : String) (actor : SessionUser) (timestamp : Int) : ReleaseApprovalRecord :=
  { id := P.freshId db.idsDrawn, organizationId := org, candidateId := candidate.id,
    candidateDigestSha256 := candidate.digestSha256, approverUserId := actorUserId,
    authenticationEpoch := actor.authenticationEpoch,
    authorizationEpoch := actor.authorizationEpoch, approvedAt := timestamp }

def approveReleaseCandidate (P : Platform) (timestamp : Int) (org candidateId : String)
    (expectedDigestSha256 actorUserId : String)
    (idempotency : ReleaseCandidateIdempotencyInput) (db : Database) : Database × Answer :=
  let admitted : Except Stop ReleaseApprovalRecord := do
    let (candidate, _, _) ← admitTransition P db org .approve candidateId expectedDigestSha256
      actorUserId idempotency timestamp
    refuseUnless (decide (timestamp < candidate.expiresAt)) .expired
    refuseUnless (candidate.authorUserId != actorUserId) .authorCannotApprove
    refuseUnless (candidate.state == .inReview) .invalidState
    let actor ← foundOr .forbidden (lockReleaseActor db org actorUserId)
    .ok (approvalRow P db org candidate actorUserId actor timestamp)
  match admitted with
  | .error stop => (db, .error stop)
  | .ok approval =>
    complete P org .approve actorUserId idempotency timestamp candidateId db
      { updateCandidate candidateId (approved timestamp) db with
        approvals := db.approvals ++ [approval], idsDrawn := db.idsDrawn + 1 }

/-! ## Publish -/

/-- The approval is of this candidate by another user, who still may approve, and neither of the
epochs has moved since. -/
def approvalIsCurrent (db : Database) (org : String) (candidate : ReleaseCandidateRow)
    (approval : ReleaseApprovalRecord) : Bool :=
  approval.approverUserId != candidate.authorUserId &&
    approval.candidateDigestSha256 == candidate.digestSha256 &&
    (lockReleaseActor db org approval.approverUserId).any fun approver =>
      hasCapability (some approver.role) .releaseApprove &&
        approver.authenticationEpoch == approval.authenticationEpoch &&
        approver.authorizationEpoch == approval.authorizationEpoch

def admitPublication (P : Platform) (db : Database) (org candidateId : String)
    (expectedDigestSha256 actorUserId : String) (mediaAllowedOrigins : List String)
    (idempotency : ReleaseCandidateIdempotencyInput) (timestamp : Int) :
    Except Stop (ReleaseCandidateRow × ReleaseCandidateRecord) := do
  let (candidate, record, release) ← admitTransition P db org .publish candidateId
    expectedDigestSha256 actorUserId idempotency timestamp
  checkMedia P mediaAllowedOrigins (release.items.map (·.asset.url))
    (release.items.map (·.asset.policy)) timestamp
  refuseUnless (decide (timestamp < candidate.expiresAt)) .expired
  refuseUnless (candidate.state == .approved) .invalidState
  let approval ← foundOr .invalidState record.approval
  refuseUnless (approvalIsCurrent db org candidate approval) .approvalStale
  let targets := db.candidateTargetsOf candidate
  refuseUnless (!targets.isEmpty && targets.all fun target =>
    target.liveScreenId.isSome && target.liveScreenOrganizationId == some org) .screenNotFound
  .ok (candidate, record)

/-- The schedule, the assignment and the publication draw these identifiers. -/
def scheduleIdOf (P : Platform) (db : Database) : String := P.freshId db.idsDrawn
def assignmentIdOf (P : Platform) (db : Database) : String := P.freshId (db.idsDrawn + 1)
def publicationIdOf (P : Platform) (db : Database) : String := P.freshId (db.idsDrawn + 2)

def publishedAssignment (P : Platform) (db : Database) (org actorUserId : String)
    (timestamp : Int) (candidate : ReleaseCandidateRow) (record : ReleaseCandidateRecord) :
    ReleaseAssignmentRow :=
  { toScheduleColumns := candidate.toScheduleColumns, id := assignmentIdOf P db,
    organizationId := org, releaseId := candidate.releaseId, scheduleId := scheduleIdOf P db,
    state := .assigned,
    digestSha256 := assignmentSnapshotDigest P record.releaseDigestSha256 .assigned
      record.schedule record.screenIds none
    previousAssignmentId := none, createdById := actorUserId, approvalRequired := true,
    candidatePublicationId := some (publicationIdOf P db),
    expectedWithdrawalDigestSha256 := some (assignmentSnapshotDigest P
      record.releaseDigestSha256 .withdrawn record.schedule record.screenIds
      (some (assignmentIdOf P db)))
    createdAt := timestamp }

def published (P : Platform) (db : Database) (timestamp : Int)
    (candidate : ReleaseCandidateRow) : ReleaseCandidateRow :=
  { candidate with
    state := .published, publicationId := some (publicationIdOf P db)
    publishedAt := some timestamp }

def publicationRow (P : Platform) (db : Database) (org candidateId actorUserId : String)
    (timestamp : Int) : ReleaseCandidatePublicationRow :=
  { id := publicationIdOf P db, organizationId := org, candidateId := candidateId,
    scheduleId := scheduleIdOf P db, assignmentId := assignmentIdOf P db,
    publisherUserId := actorUserId, publishedAt := timestamp }

def addPublication (P : Platform) (org actorUserId : String) (timestamp : Int)
    (candidate : ReleaseCandidateRow) (record : ReleaseCandidateRecord) (db : Database) :
    Database :=
  let screenIds := (db.candidateTargetsOf candidate).map (·.screenId)
  { updateCandidate candidate.id (published P db timestamp) db with
    schedules := db.schedules ++
      [{ toScheduleColumns := candidate.toScheduleColumns, id := scheduleIdOf P db,
         organizationId := org, playlistId := record.sourcePlaylistId, screenIds := screenIds,
         createdAt := timestamp }]
    assignments := db.assignments ++
      [publishedAssignment P db org actorUserId timestamp candidate record]
    assignmentTargets := db.assignmentTargets ++
      liveTargets org (assignmentIdOf P db) screenIds
    publications := db.publications ++
      [publicationRow P db org candidate.id actorUserId timestamp]
    idsDrawn := db.idsDrawn + 3 }

def publishReleaseCandidate (P : Platform) (timestamp : Int) (org candidateId : String)
    (expectedDigestSha256 actorUserId : String) (mediaAllowedOrigins : List String)
    (idempotency : ReleaseCandidateIdempotencyInput) (db : Database) : Database × Answer :=
  match admitPublication P db org candidateId expectedDigestSha256 actorUserId mediaAllowedOrigins
      idempotency timestamp with
  | .error stop => (db, .error stop)
  | .ok (candidate, record) =>
    complete P org .publish actorUserId idempotency timestamp candidateId db
      (addPublication P org actorUserId timestamp candidate record db)

/-! ## Withdraw -/

/-- The assignment of a schedule that no other one follows. -/
def lastAssignment (db : Database) (org scheduleId : String) : Option ReleaseAssignmentRow :=
  db.assignments.find? fun assignment =>
    assignment.organizationId == org && assignment.scheduleId == scheduleId &&
      (db.nextAssignmentsOf assignment).isEmpty

/-- The digest that `withdrawScheduleAndAudit` gives the withdrawal of an assignment. -/
def withdrawalDigest (P : Platform) (db : Database) (release : PublishedReleaseRow)
    (previous : ReleaseAssignmentRow) : String :=
  let record := releaseAssignmentDto previous (db.targetsOf previous)
  assignmentSnapshotDigest P release.digestSha256 .withdrawn record.schedule record.screenIds
    (some previous.id)

def withdrawalRow (P : Platform) (db : Database) (org scheduleId actorUserId : String)
    (timestamp : Int) (previous : ReleaseAssignmentRow) (release : PublishedReleaseRow) :
    ReleaseAssignmentRow :=
  { toScheduleColumns := previous.toScheduleColumns, id := P.freshId db.idsDrawn,
    organizationId := org, releaseId := previous.releaseId, scheduleId := scheduleId,
    state := .withdrawn, digestSha256 := withdrawalDigest P db release previous,
    previousAssignmentId := some previous.id, createdById := actorUserId,
    approvalRequired := true, candidatePublicationId := none,
    expectedWithdrawalDigestSha256 := none, createdAt := timestamp }

def copiedTargets (ownerId : String) (targets : List TargetRow) : List TargetRow :=
  targets.map fun target => { target with ownerId := ownerId }

/-- The deferred trigger on a withdrawal (`require_complete_release_withdrawal_targets`). -/
def isCompleteWithdrawal (db : Database) (previous assignment : ReleaseAssignmentRow) : Bool :=
  let keys := (db.targetsOf assignment).map targetSnapshotKey
  let previousKeys := (db.targetsOf previous).map targetSnapshotKey
  previous.state == .assigned &&
    (!previous.approvalRequired ||
      previous.expectedWithdrawalDigestSha256 == some assignment.digestSha256) &&
    assignment.organizationId == previous.organizationId &&
    assignment.releaseId == previous.releaseId &&
    assignment.scheduleId == previous.scheduleId &&
    assignment.toScheduleColumns == previous.toScheduleColumns &&
    !keys.isEmpty && previousKeys.all keys.contains && keys.all previousKeys.contains

def addWithdrawal (previous assignment : ReleaseAssignmentRow) (db : Database) : Database :=
  { db with
    assignments := db.assignments ++ [assignment]
    assignmentTargets := db.assignmentTargets ++
      copiedTargets assignment.id (db.targetsOf previous)
    idsDrawn := db.idsDrawn + 1 }

/-- The trigger runs at the end of the transaction, which it can still make throw. -/
def withdrawSchedule (P : Platform) (timestamp : Int) (org scheduleId actorUserId : String)
    (db : Database) : Database × Except String WithdrawalResult :=
  if !hasCapability (roleOf db org actorUserId) .releaseWithdraw then (db, .ok .forbidden)
  else if !db.schedules.any (fun schedule =>
      schedule.id == scheduleId && schedule.organizationId == org) then (db, .ok .notFound)
  else match lastAssignment db org scheduleId with
    | none => (db, .ok .notFound)
    | some previous =>
      if previous.state = .withdrawn then (db, .ok .alreadyWithdrawn)
      else match db.release? previous.releaseId previous.organizationId with
        | none => (db, .error "Inconsistent query result")
        | some release =>
          let assignment := withdrawalRow P db org scheduleId actorUserId timestamp previous release
          let after := addWithdrawal previous assignment db
          if isCompleteWithdrawal after previous assignment then
            (after, .ok (.withdrawn (releaseAssignmentDto assignment (after.targetsOf assignment))))
          else
            (db, .error "Release withdrawal targets must exactly match the assigned predecessor")

/-! ## Decommission a screen -/

/-- `ON DELETE SET NULL`: a target lets go of the screen. -/
def detach (org screenId : String) (target : TargetRow) : TargetRow :=
  if target.liveScreenId == some screenId && target.liveScreenOrganizationId == some org then
    { target with liveScreenId := none, liveScreenOrganizationId := none }
  else target

inductive DeleteScreenResult where
  | forbidden
  | notFound
  | deleted
  deriving DecidableEq

/-- The rows without a screen. -/
def withoutScreen (org screenId : String) (db : Database) : Database :=
  { db with
    screens := db.screens.filter fun screen => screen.id != screenId
    schedules := db.schedules.map fun schedule =>
      if schedule.organizationId == org then
        { schedule with screenIds := schedule.screenIds.filter fun id => id != screenId }
      else schedule
    candidateTargets := db.candidateTargets.map (detach org screenId)
    assignmentTargets := db.assignmentTargets.map (detach org screenId) }

def mayDeleteScreen (db : Database) (org actorUserId : String) : Bool :=
  roleOf db org actorUserId == some .owner || roleOf db org actorUserId == some .admin

def deleteScreen (org screenId actorUserId : String) (db : Database) :
    Database × DeleteScreenResult :=
  if !mayDeleteScreen db org actorUserId then (db, .forbidden)
  else if !hasScreen db org screenId then (db, .notFound)
  else (withoutScreen org screenId db, .deleted)

/-! ## Runs -/

inductive Call where
  | create (org : String) (data : CandidateInput) (actorUserId : String)
      (mediaAllowedOrigins : List String) (idempotency : ReleaseCandidateIdempotencyInput)
  | submit (org candidateId expectedDigestSha256 actorUserId : String)
      (idempotency : ReleaseCandidateIdempotencyInput)
  | approve (org candidateId expectedDigestSha256 actorUserId : String)
      (idempotency : ReleaseCandidateIdempotencyInput)
  | publish (org candidateId expectedDigestSha256 actorUserId : String)
      (mediaAllowedOrigins : List String) (idempotency : ReleaseCandidateIdempotencyInput)
  | withdraw (org scheduleId actorUserId : String)
  | deleteScreen (org screenId actorUserId : String)

/-- The rows after a call. -/
def Call.perform (P : Platform) (timestamp : Int) (db : Database) : Call → Database
  | .create org data actor origins idempotency =>
    (createReleaseCandidate P timestamp org data actor origins idempotency db).1
  | .submit org candidateId digest actor idempotency =>
    (submitReleaseCandidate P timestamp org candidateId digest actor idempotency db).1
  | .approve org candidateId digest actor idempotency =>
    (approveReleaseCandidate P timestamp org candidateId digest actor idempotency db).1
  | .publish org candidateId digest actor origins idempotency =>
    (publishReleaseCandidate P timestamp org candidateId digest actor origins idempotency db).1
  | .withdraw org scheduleId actor => (withdrawSchedule P timestamp org scheduleId actor db).1
  | .deleteScreen org screenId actor => (prisma.deleteScreen org screenId actor db).1

/-- Any other work of the store: it may change users, screens, media and playlists at will, and
draw identifiers. The rows of the releases stay, and a screen goes only through its deletion. -/
def Elsewhere (db after : Database) : Prop :=
  ∃ users screens media playlists idsDrawn,
    (∀ screen ∈ db.screens, screen ∈ screens) ∧ db.idsDrawn ≤ idsDrawn ∧
      after = { db with users, screens, media, playlists, idsDrawn }

def emptyDatabase : Database :=
  { users := [], screens := [], media := [], playlists := [], schedules := [], releases := [],
    items := [], candidates := [], candidateTargets := [], approvals := [], publications := [],
    assignments := [], assignmentTargets := [], idempotencyRecords := [], idsDrawn := 0 }

/-- The states of the database that calls can reach, at any instants. -/
inductive Reachable (P : Platform) : Database → Prop where
  | empty : Reachable P emptyDatabase
  | call {db : Database} (reached : Reachable P db) (timestamp : Int) (c : Call) :
    Reachable P (c.perform P timestamp db)
  | elsewhere {db after : Database} (reached : Reachable P db) (other : Elsewhere db after) :
    Reachable P after

end screengoblin.prisma
