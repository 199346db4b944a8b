-- The rows of the releases in the database (apps/api/prisma/schema.prisma), the records that the
-- store makes of them, and the assignments that it trusts (apps/api/src/store/prisma.ts). A
-- `DateTime` column is its milliseconds, and `none` is a `null`.
import ScreenGoblin.MediaDelivery

open js collections screengoblin.schedule screengoblin.server

namespace screengoblin.prisma

/-! ## Columns -/

/-- `enum SchedulePriority` of the schema. -/
inductive SchedulePriority where
  | NORMAL
  | CAMPAIGN
  | PRIORITY
  | EMERGENCY
  deriving DecidableEq

/-- `enum MediaKind` of the schema. -/
inductive StoredMediaKind where
  | IMAGE
  | VIDEO
  | WEB
  | TEMPLATE
  deriving DecidableEq

def SchedulePriority.label : SchedulePriority → String
  | .NORMAL => "NORMAL"
  | .CAMPAIGN => "CAMPAIGN"
  | .PRIORITY => "PRIORITY"
  | .EMERGENCY => "EMERGENCY"

def StoredMediaKind.label : StoredMediaKind → String
  | .IMAGE => "IMAGE"
  | .VIDEO => "VIDEO"
  | .WEB => "WEB"
  | .TEMPLATE => "TEMPLATE"

/-- `enumLower(String(priority))` -/
def SchedulePriority.enumLower : SchedulePriority → Priority
  | .NORMAL => .normal
  | .CAMPAIGN => .campaign
  | .PRIORITY => .priority
  | .EMERGENCY => .emergency

/-- `enumLower(String(kind))` -/
def StoredMediaKind.enumLower : StoredMediaKind → MediaKind
  | .IMAGE => .image
  | .VIDEO => .video
  | .WEB => .web
  | .TEMPLATE => .template

/-- `priority.toUpperCase()` -/
def priorityColumn : Priority → SchedulePriority
  | .normal => .NORMAL
  | .campaign => .CAMPAIGN
  | .priority => .PRIORITY
  | .emergency => .EMERGENCY

/-- `kind.toUpperCase()` -/
def kindColumn : MediaKind → StoredMediaKind
  | .image => .IMAGE
  | .video => .VIDEO
  | .web => .WEB
  | .template => .TEMPLATE

/-- In a snapshot the priority is the label in lower case. -/
theorem priorityJson_enumLower (priority : SchedulePriority) :
    priorityJson priority.enumLower = textJson priority.label.toLower := by
  cases priority <;> decide +kernel

theorem kindJson_enumLower (kind : StoredMediaKind) :
    kindJson kind.enumLower = textJson kind.label.toLower := by
  cases kind <;> decide +kernel

@[simp]
theorem enumLower_priorityColumn (p : Priority) : (priorityColumn p).enumLower = p := by
  cases p <;> rfl

@[simp]
theorem enumLower_kindColumn (kind : MediaKind) : (kindColumn kind).enumLower = kind := by
  cases kind <;> rfl

/-- The columns of a schedule, as a candidate and an assignment have them. In the table of the
schedules the first one is `name`. -/
structure ScheduleColumns where
  scheduleName : String
  priority : SchedulePriority
  startsAt : Int
  endsAt : Option Int
  timezone : String
  daysOfWeek : List Int
  dailyStartMinutes : Option Int
  dailyEndMinutes : Option Int
  enabled : Bool
  deriving DecidableEq

/-- The `schedule` of a DTO, where a `null` is left out. Its instants stand for the texts that
`iso` writes. -/
def ScheduleColumns.schedule (columns : ScheduleColumns) : FrozenScheduleSnapshot :=
  { name := columns.scheduleName, priority := columns.priority.enumLower,
    startsAt := columns.startsAt, endsAt := columns.endsAt, timezone := columns.timezone,
    daysOfWeek := columns.daysOfWeek, dailyStartMinutes := columns.dailyStartMinutes,
    dailyEndMinutes := columns.dailyEndMinutes, enabled := columns.enabled }

/-- `new Date(text)` for a column. An invalid date is no value of a column. -/
def instantColumn (P : Platform) (text : String) : Except String Int :=
  match P.dateParse text with
  | some instant => .ok instant
  | none => .error "Provided Date object is invalid"

/-- The columns of a frozen schedule in `releaseCandidate.create`. What the snapshot leaves out
is `null`. -/
def scheduleColumns (P : Platform) (schedule : FrozenScheduleSnapshot) :
    Except String ScheduleColumns := do
  let startsAt ← instantColumn P (P.toISOString schedule.startsAt)
  let endsAt ← schedule.endsAt.mapM fun endsAt => instantColumn P (P.toISOString endsAt)
  .ok { scheduleName := schedule.name, priority := priorityColumn schedule.priority,
        startsAt := startsAt, endsAt := endsAt, timezone := schedule.timezone,
        daysOfWeek := schedule.daysOfWeek, dailyStartMinutes := schedule.dailyStartMinutes,
        dailyEndMinutes := schedule.dailyEndMinutes, enabled := schedule.enabled }

@[simp]
theorem instantColumn_written (P : Platform) (t : Int) :
    instantColumn P (P.toISOString t) = .ok t := by
  simp [instantColumn, P.dateParse_toISOString]

/-- A written schedule reads back as it was. -/
theorem schedule_of_columns {P : Platform} {schedule : FrozenScheduleSnapshot}
    {columns : ScheduleColumns} (written : scheduleColumns P schedule = .ok columns) :
    columns.schedule = schedule := by
  unfold scheduleColumns at written
  cases ends : schedule.endsAt with
  | none =>
    simp [ends, bind, Except.bind, pure, Except.pure] at written
    subst written
    simp [ScheduleColumns.schedule, ← ends]
  | some t =>
    simp [ends, bind, Except.bind, Functor.map, Except.map] at written
    subst written
    simp [ScheduleColumns.schedule, ← ends]

/-- The columns of the working hours. -/
def workingColumns : ScheduleColumns :=
  { scheduleName := "Mondays", priority := .NORMAL, startsAt := mondayAt 0 - 4 * 86400000,
    endsAt := none, timezone := "UTC", daysOfWeek := [1], dailyStartMinutes := some 480,
    dailyEndMinutes := some 1080, enabled := true }

example : workingColumns.schedule = workingHours := rfl

/-! ## Rows -/

structure ScreenRow where
  id : String
  organizationId : String
  deriving DecidableEq

/-- Each medium is written with a key of `mediaStorageKey`, which is not empty. -/
structure MediaAssetRow where
  id : String
  organizationId : String
  name : String
  kind : StoredMediaKind
  mimeType : String
  url : String
  storageKey : String
  checksumSha256 : String
  sizeBytes : Int
  expiresAt : Option Int
  createdAt : Int
  updatedAt : Int
  storageKey_some : storageKey ≠ ""
  deriving DecidableEq

structure ScheduleRow extends ScheduleColumns where
  id : String
  organizationId : String
  playlistId : String
  screenIds : List String
  createdAt : Int
  deriving DecidableEq

structure FrozenReleaseItemRow where
  releaseId : String
  organizationId : String
  sourcePlaylistItemId : String
  sourceAssetId : String
  assetName : String
  assetKind : StoredMediaKind
  assetMimeType : String
  assetUrl : String
  assetStorageKey : String
  assetChecksumSha256 : String
  assetSizeBytes : Int
  assetCreatedAt : Int
  assetExpiresAt : Option Int
  position : Int
  durationSeconds : Int
  deriving DecidableEq

structure PublishedReleaseRow where
  id : String
  organizationId : String
  sourcePlaylistId : String
  sourcePlaylistName : String
  sourcePlaylistDescription : String
  sourcePlaylistUpdatedAt : Int
  digestSha256 : String
  createdById : String
  createdAt : Int
  deriving DecidableEq

structure ReleaseCandidateRow extends ScheduleColumns where
  id : String
  organizationId : String
  releaseId : String
  state : ReleaseCandidateState
  digestSha256 : String
  authorUserId : String
  policyVersion : Nat
  expiresAt : Int
  submittedAt : Option Int
  approvedAt : Option Int
  publishedAt : Option Int
  publicationId : Option String
  createdAt : Int
  deriving DecidableEq

structure ReleaseCandidatePublicationRow where
  id : String
  organizationId : String
  candidateId : String
  scheduleId : String
  assignmentId : String
  publisherUserId : String
  publishedAt : Int
  deriving DecidableEq

structure ReleaseAssignmentRow extends ScheduleColumns where
  id : String
  organizationId : String
  releaseId : String
  scheduleId : String
  state : AssignmentState
  digestSha256 : String
  previousAssignmentId : Option String
  createdById : String
  approvalRequired : Bool
  candidatePublicationId : Option String
  expectedWithdrawalDigestSha256 : Option String
  createdAt : Int
  deriving DecidableEq

/-- A screen that an assignment or a candidate is for. The live columns refer to the screen for
as long as it is there. -/
structure TargetRow where
  ownerId : String
  organizationId : String
  screenId : String
  liveScreenId : Option String
  liveScreenOrganizationId : Option String
  deriving DecidableEq

/-- The tables, and how many identifiers the store and the database have drawn so far. A user
stands here once for each membership, and a playlist with its items. -/
structure Database where
  users : List SessionUser
  screens : List ScreenRow
  media : List MediaAssetRow
  playlists : List PlaylistRecord
  schedules : List ScheduleRow
  releases : List PublishedReleaseRow
  items : List FrozenReleaseItemRow
  candidates : List ReleaseCandidateRow
  candidateTargets : List TargetRow
  approvals : List ReleaseApprovalRecord
  publications : List ReleaseCandidatePublicationRow
  assignments : List ReleaseAssignmentRow
  assignmentTargets : List TargetRow
  idempotencyRecords : List ReleaseIdempotencyRecord
  idsDrawn : Nat
  deriving DecidableEq

namespace Database

/-! ## The rows that a query includes -/

def release? (db : Database) (releaseId organizationId : String) : Option PublishedReleaseRow :=
  db.releases.find? fun release =>
    release.id == releaseId && release.organizationId == organizationId

/-- `items: { orderBy: { position: "asc" } }` -/
def itemsOf (db : Database) (release : PublishedReleaseRow) : List FrozenReleaseItemRow :=
  (db.items.filter fun item =>
    item.releaseId == release.id && item.organizationId == release.organizationId).insertionSort
      fun a b => a.position ≤ b.position

def targetsOf (db : Database) (assignment : ReleaseAssignmentRow) : List TargetRow :=
  db.assignmentTargets.filter fun target =>
    target.ownerId == assignment.id && target.organizationId == assignment.organizationId

def candidateTargetsOf (db : Database) (candidate : ReleaseCandidateRow) : List TargetRow :=
  db.candidateTargets.filter fun target =>
    target.ownerId == candidate.id && target.organizationId == candidate.organizationId

def approvalOf (db : Database) (candidate : ReleaseCandidateRow) : Option ReleaseApprovalRecord :=
  db.approvals.find? fun approval =>
    approval.candidateId == candidate.id && approval.organizationId == candidate.organizationId

def publicationOf (db : Database) (candidate : ReleaseCandidateRow) :
    Option ReleaseCandidatePublicationRow :=
  db.publications.find? fun publication =>
    publication.candidateId == candidate.id &&
      publication.organizationId == candidate.organizationId

/-- The publication that an assignment names, if it names the assignment too. -/
def finalPublicationOf (db : Database) (assignment : ReleaseAssignmentRow) :
    Option ReleaseCandidatePublicationRow :=
  db.publications.find? fun publication =>
    assignment.candidatePublicationId == some publication.id &&
      publication.assignmentId == assignment.id &&
      publication.organizationId == assignment.organizationId

/-- The candidate that a publication names, if it names the publication too. -/
def publishedCandidateOf (db : Database) (publication : ReleaseCandidatePublicationRow) :
    Option ReleaseCandidateRow :=
  db.candidates.find? fun candidate =>
    candidate.publicationId == some publication.id && candidate.id == publication.candidateId &&
      candidate.organizationId == publication.organizationId

def nextAssignmentsOf (db : Database) (assignment : ReleaseAssignmentRow) :
    List ReleaseAssignmentRow :=
  db.assignments.filter fun next =>
    next.previousAssignmentId == some assignment.id &&
      next.organizationId == assignment.organizationId

end Database

/-! ## The records of the rows -/

/-- A count of bytes crosses the border to JSON only as a safe integer. -/
def safeInteger (value : Int) (field : String) : Except String Rat :=
  if Value.isSafeInteger (numberJson value) then .ok value
  else .error (field ++ " exceeds the JSON safe-integer range")

def frozenItemDto (P : Platform) (item : FrozenReleaseItemRow) :
    Except String FrozenReleaseItem := do
  let sizeBytes ← safeInteger item.assetSizeBytes "assetSizeBytes"
  .ok { id := item.sourcePlaylistItemId
        asset :=
          { id := item.sourceAssetId, name := item.assetName, kind := item.assetKind.enumLower,
            mimeType := item.assetMimeType, url := item.assetUrl,
            storageKey := some item.assetStorageKey,
            checksumSha256 := item.assetChecksumSha256, sizeBytes := sizeBytes,
            createdAt := item.assetCreatedAt,
            expiresAt := item.assetExpiresAt.map P.toISOString }
        position := item.position
        durationSeconds := item.durationSeconds }

def publishedReleaseDto (P : Platform) (release : PublishedReleaseRow)
    (items : List FrozenReleaseItemRow) : Except String PublishedReleaseRecord := do
  let frozen ← items.mapM (frozenItemDto P)
  .ok { id := release.id, organizationId := release.organizationId,
        sourcePlaylistId := release.sourcePlaylistId,
        sourcePlaylistUpdatedAt := release.sourcePlaylistUpdatedAt,
        playlistName := release.sourcePlaylistName,
        playlistDescription := release.sourcePlaylistDescription,
        digestSha256 := release.digestSha256, items := frozen,
        createdById := release.createdById, createdAt := release.createdAt }

/-- A release reads back under its own identifiers and digest. -/
theorem publishedReleaseDto_head {P : Platform} {stored : PublishedReleaseRow}
    {items : List FrozenReleaseItemRow} {release : PublishedReleaseRecord}
    (reads : publishedReleaseDto P stored items = .ok release) :
    release.id = stored.id ∧ release.organizationId = stored.organizationId ∧
      release.digestSha256 = stored.digestSha256 := by
  unfold publishedReleaseDto at reads
  simp only [bind_ok] at reads
  obtain ⟨_, _, same⟩ := reads
  cases same
  exact ⟨rfl, rfl, rfl⟩

/-- The screens of targets, in the order of `sort()`. -/
def targetScreenIds (targets : List TargetRow) : List String :=
  (targets.map (·.screenId)).insertionSort TextLe

/-- `previousAssignmentId` is left out when it is empty. -/
def releaseAssignmentDto (assignment : ReleaseAssignmentRow) (targets : List TargetRow) :
    ReleaseAssignmentRecord :=
  { id := assignment.id, organizationId := assignment.organizationId,
    releaseId := assignment.releaseId, scheduleId := assignment.scheduleId,
    screenIds := targetScreenIds targets, state := assignment.state,
    schedule := assignment.schedule, digestSha256 := assignment.digestSha256,
    previousAssignmentId := truthyText assignment.previousAssignmentId,
    createdById := assignment.createdById, createdAt := assignment.createdAt }

def releaseCandidateDto (candidate : ReleaseCandidateRow) (targets : List TargetRow)
    (release : PublishedReleaseRecord) (approval : Option ReleaseApprovalRecord)
    (publication : Option ReleaseCandidatePublicationRow) : ReleaseCandidateRecord :=
  { id := candidate.id, organizationId := candidate.organizationId,
    releaseId := candidate.releaseId, releaseDigestSha256 := release.digestSha256,
    sourcePlaylistId := release.sourcePlaylistId, state := candidate.state,
    digestSha256 := candidate.digestSha256, authorUserId := candidate.authorUserId,
    items := release.items, schedule := candidate.schedule,
    screenIds := targetScreenIds targets, policyVersion := candidate.policyVersion,
    expiresAt := candidate.expiresAt, submittedAt := candidate.submittedAt,
    approvedAt := candidate.approvedAt, publishedAt := candidate.publishedAt,
    scheduleId := publication.map (·.scheduleId),
    assignmentId := publication.map (·.assignmentId), approval := approval,
    createdAt := candidate.createdAt }

/-! ## Trusted assignments -/

/-- An assignment with its release, if its digests are those of its content. -/
def verifiedReleaseAssignmentDtos (P : Platform) (db : Database)
    (row : ReleaseAssignmentRow) : Option ActiveOrdinaryRelease :=
  match db.release? row.releaseId row.organizationId with
  | none => none
  | some release => match publishedReleaseDto P release (db.itemsOf release) with
    | .error _ => none
    | .ok release =>
      let assignment := releaseAssignmentDto row (db.targetsOf row)
      if hasValidStoredAssignmentDigest P assignment release then some { release, assignment }
      else none

/-- The target still refers to its screen. -/
def isLive (organizationId : String) (target : TargetRow) : Bool :=
  target.liveScreenId == some target.screenId &&
    target.liveScreenOrganizationId == some organizationId

def hasPublishedAssignmentProvenance (db : Database) (assignment : ReleaseAssignmentRow) : Bool :=
  if !assignment.approvalRequired then true
  else match db.finalPublicationOf assignment with
    | none => false
    | some publication =>
      (db.publishedCandidateOf publication).any (fun candidate => candidate.state == .published) &&
        !(db.targetsOf assignment).isEmpty &&
        (db.targetsOf assignment).all (isLive assignment.organizationId)

/-- What a target refers to, as the JSON text of a triple. -/
def targetSnapshotKey (target : TargetRow) : Json :=
  .arr [.str target.screenId, (target.liveScreenId.map Json.str).getD .null,
    (target.liveScreenOrganizationId.map Json.str).getD .null]

/-- Two sorted lists of texts are the same when one list is a permutation of the other. -/
def sameTargets (previous successor : List TargetRow) : Bool :=
  (previous.map targetSnapshotKey).isPerm (successor.map targetSnapshotKey)

def isValidWithdrawalSuccessor (P : Platform) (db : Database)
    (previous successor : ReleaseAssignmentRow) : Bool :=
  if previous.state != .assigned || successor.state != .withdrawn ||
      successor.previousAssignmentId != some previous.id ||
      successor.organizationId != previous.organizationId ||
      successor.releaseId != previous.releaseId || successor.scheduleId != previous.scheduleId then
    false
  else match verifiedReleaseAssignmentDtos P db previous,
      verifiedReleaseAssignmentDtos P db successor with
    | some previousVerified, some successorVerified =>
      successorVerified.assignment.digestSha256 ==
          assignmentSnapshotDigest P previousVerified.release.digestSha256 .withdrawn
            previousVerified.assignment.schedule previousVerified.assignment.screenIds
            (some previousVerified.assignment.id) &&
        sameTargets (db.targetsOf previous) (db.targetsOf successor)
    | _, _ => false

def hasValidWithdrawalSuccessor (P : Platform) (db : Database)
    (assignment : ReleaseAssignmentRow) : Bool :=
  (db.nextAssignmentsOf assignment).any (isValidWithdrawalSuccessor P db assignment)

/-! ## Selection -/

/-- The tests on a record before the window test. -/
def mayShow (screenId : String) (instant : Int) (assignment : ReleaseAssignmentRecord) : Bool :=
  assignment.state == .assigned && assignment.screenIds.contains screenId &&
    assignment.schedule.enabled && decide (assignment.schedule.startsAt ≤ instant) &&
    beforeEnd assignment.schedule instant

/-- The part of a row in `activeOrdinaryReleases`, where the window test may throw. -/
def selectAssignment (P : Platform) (db : Database) (screenId : String) (instant : Int)
    (row : ReleaseAssignmentRow) : Except String (Option ActiveOrdinaryRelease) :=
  if !hasPublishedAssignmentProvenance db row || hasValidWithdrawalSuccessor P db row then .ok none
  else match verifiedReleaseAssignmentDtos P db row with
    | none => .ok none
    | some verified =>
      if !mayShow screenId instant verified.assignment then .ok none
      else do
        let inside ← matchesScheduleWindow P.zones verified.assignment.schedule instant
        .ok (if inside then some verified else none)

/-- The schedules of the assignments that are for a screen. -/
def targetedScheduleIds (db : Database) (org screenId : String) : List String :=
  (db.assignmentTargets.filter fun target =>
    target.organizationId == org && target.screenId == screenId).flatMap fun target =>
      (db.assignments.filter fun assignment =>
        assignment.id == target.ownerId &&
          assignment.organizationId == target.organizationId).map (·.scheduleId)

/-- The `ASSIGNED` rows of the schedules for a screen. -/
def targetedAssignments (db : Database) (org screenId : String) : List ReleaseAssignmentRow :=
  db.assignments.filter fun assignment =>
    assignment.organizationId == org &&
      (targetedScheduleIds db org screenId).contains assignment.scheduleId &&
      assignment.state == .assigned

/-- `activeOrdinaryReleases`, which throws where a window test does. -/
def activeOrdinaryReleases (P : Platform) (db : Database) (org screenId : String)
    (instant : Int) : Except String (List ActiveOrdinaryRelease) := do
  let selected ← (targetedAssignments db org screenId).mapM
    (selectAssignment P db screenId instant)
  .ok (selected.filterMap id)

/-- The row that a media request names. -/
def namedAssignment (db : Database) (input : MediaDeliveryAuthorizationInput) :
    Option ReleaseAssignmentRow :=
  db.assignments.find? fun assignment =>
    assignment.id == input.assignmentId && assignment.organizationId == input.organizationId

/-- One of the items is the asset of the request, and has not expired. -/
def hasAsset (P : Platform) (input : MediaDeliveryAuthorizationInput)
    (release : PublishedReleaseRecord) : Bool :=
  release.items.any fun item =>
    isAsset input item.asset && expiresLater P item.asset.expiresAt input.instant

/-- The decision on the row that a request names. -/
def authorizeAssignment (P : Platform) (db : Database) (input : MediaDeliveryAuthorizationInput)
    (row : ReleaseAssignmentRow) : Except String Bool :=
  if !hasPublishedAssignmentProvenance db row || hasValidWithdrawalSuccessor P db row then
    .ok false
  else match verifiedReleaseAssignmentDtos P db row with
    | none => .ok false
    | some verified =>
      if verified.assignment.digestSha256 != input.assignmentDigestSha256 ||
          !mayShow input.screenId input.instant verified.assignment then .ok false
      else do
        let inside ← matchesScheduleWindow P.zones verified.assignment.schedule input.instant
        .ok (inside && hasAsset P input verified.release)

def authorizeMediaDelivery (P : Platform) (db : Database)
    (input : MediaDeliveryAuthorizationInput) : Except String Bool :=
  if !Value.isSafeInteger (numberJson input.sizeBytes) || decide (input.sizeBytes < 1) then
    .ok false
  else match namedAssignment db input with
    | none => .ok false
    | some row => authorizeAssignment P db input row

end screengoblin.prisma
