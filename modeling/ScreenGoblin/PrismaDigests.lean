-- The digests that the rows carry, checked again when the rows are read back: no candidate and
-- no assignment that the commands wrote is ever refused for its digest.
import ScreenGoblin.PrismaRuns
import ScreenGoblin.PrismaSelection
import ScreenGoblin.SnapshotDigests

open js collections screengoblin.schedule screengoblin.server

namespace screengoblin.prisma

variable {P : Platform} {db : Database}

/-! ## Reading back -/

theorem targetScreenIds_perm {targets targets' : List TargetRow} (perm : targets.Perm targets') :
    targetScreenIds targets = targetScreenIds targets' := by
  unfold targetScreenIds
  have order : OrderedOn TextLe (targets.map (·.screenId)) :=
    { total := fun a _ b _ => Std.Total.total a b
      trans := fun a _ b _ c _ => IsTrans.trans a b c
      antisymm := fun a _ b _ => Std.Antisymm.antisymm a b }
  exact order.insertionSort_perm (perm.map _)

/-- The release of a sound row, as a query reads it. -/
theorem Sound.readsBack (sound : Sound P db) {releaseId organizationId : String}
    {row : PublishedReleaseRow} (isRelease : db.release? releaseId organizationId = some row) :
    ∃ release, publishedReleaseDto P row (db.itemsOf row) = .ok release ∧
      release.id = releaseId ∧ release.organizationId = organizationId ∧
      release.digestSha256 = row.digestSha256 ∧ hasValidStoredReleaseDigest P release = true := by
  obtain ⟨here, rfl, rfl⟩ := (release?_iff sound.releaseIds).mp isRelease
  obtain ⟨release, dto, valid⟩ := sound.releases row here
  obtain ⟨id, organizationId, digest⟩ := publishedReleaseDto_head dto
  exact ⟨release, dto, id, organizationId, digest, valid⟩

/-- A candidate has its digest again, whatever the order of its targets. -/
theorem CandidateVerifies.dto {candidate : ReleaseCandidateRow} {row : PublishedReleaseRow}
    (verifies : CandidateVerifies P db candidate row) {release : PublishedReleaseRecord}
    (digest : release.digestSha256 = row.digestSha256) {targets : List TargetRow}
    (perm : targets.Perm (db.candidateTargetsOf candidate))
    (approval : Option ReleaseApprovalRecord)
    (publication : Option ReleaseCandidatePublicationRow) :
    hasValidCandidateDigest P (releaseCandidateDto candidate targets release approval publication) =
      true := by
  unfold hasValidCandidateDigest releaseCandidateDto
  simp only [Bool.and_eq_true, beq_iff_eq]
  refine ⟨verifies.policy, ?_⟩
  rw [targetScreenIds_perm perm, digest]
  exact verifies.digest

theorem AssignmentVerifies.dto {assignment : ReleaseAssignmentRow} {row : PublishedReleaseRow}
    (verifies : AssignmentVerifies P db assignment row) {release : PublishedReleaseRecord}
    (id : release.id = assignment.releaseId)
    (organizationId : release.organizationId = assignment.organizationId)
    (digest : release.digestSha256 = row.digestSha256)
    (valid : hasValidStoredReleaseDigest P release = true) {targets : List TargetRow}
    (perm : targets.Perm (db.targetsOf assignment)) :
    hasValidStoredAssignmentDigest P (releaseAssignmentDto assignment targets) release = true := by
  unfold hasValidStoredAssignmentDigest releaseAssignmentDto
  simp only [Bool.and_eq_true, beq_iff_eq]
  refine ⟨⟨⟨organizationId.symm, id.symm⟩, valid⟩, ?_⟩
  rw [targetScreenIds_perm perm, digest, assignmentSnapshotDigest_truthy]
  exact verifies.digest

/-- Each assignment of a sound database passes the digest test of the selection. -/
theorem Sound.verified (sound : Sound P db) {assignment : ReleaseAssignmentRow}
    (here : assignment ∈ db.assignments) :
    ∃ verified, verifiedReleaseAssignmentDtos P db assignment = some verified := by
  obtain ⟨row, verifies⟩ := sound.assignments assignment here
  obtain ⟨release, dto, id, organizationId, digest, valid⟩ := sound.readsBack verifies.isRelease
  unfold verifiedReleaseAssignmentDtos
  rw [verifies.isRelease]
  dsimp only
  rw [dto]
  dsimp only
  rw [if_pos (verifies.dto id organizationId digest valid (List.Perm.refl _))]
  exact ⟨_, rfl⟩

/-! ## No refusal for a digest -/

theorem Sound.readCandidate (sound : Sound P db) {candidate : ReleaseCandidateRow}
    (here : candidate ∈ db.candidates) :
    ∃ record release, readCandidate P db candidate = .ok (record, release) ∧
      record.digestSha256 = candidate.digestSha256 ∧
      hasValidDigests P candidate.digestSha256 record release = true := by
  obtain ⟨row, verifies⟩ := sound.candidates candidate here
  obtain ⟨release, dto, _, _, digest, valid⟩ := sound.readsBack verifies.isRelease
  unfold prisma.readCandidate readRelease
  rw [verifies.isRelease]
  unfold orThrow threwAs
  dsimp only [bind, Except.bind]
  rw [dto]
  refine ⟨_, _, rfl, rfl, ?_⟩
  unfold hasValidDigests
  rw [valid, verifies.dto digest (List.Perm.refl _), Bool.and_true, Bool.and_true, beq_iff_eq]
  rfl

/-- The step does not stop at a stale digest. -/
def NotStale {α : Type} (x : Except Stop α) : Prop := x ≠ .error (.refused .staleDigest)

theorem notStale_bind {α β : Type} {x : Except Stop α} {f : α → Except Stop β}
    (first : NotStale x) (rest : ∀ a, x = .ok a → NotStale (f a)) : NotStale (x >>= f) := by
  cases h : x with
  | error stop =>
    intro stale
    cases stale
    exact first h
  | ok a => exact rest a h

theorem notStale_refuseUnless {test : Bool} {reason : ReleaseCandidateFailureReason}
    (other : test = true ∨ reason ≠ .staleDigest) : NotStale (refuseUnless test reason) := by
  unfold NotStale refuseUnless
  cases test with
  | true => simp
  | false => simpa using other

theorem notStale_throwUnless (test : Bool) (message : String) :
    NotStale (throwUnless test message) := by
  unfold NotStale throwUnless
  cases test <;> simp

theorem notStale_orThrow {α : Type} (message : String) (value : Option α) :
    NotStale (orThrow message value) := by
  unfold NotStale orThrow
  cases value <;> simp

theorem notStale_threwAs {α : Type} (value : Except String α) : NotStale (threwAs value) := by
  unfold NotStale threwAs
  cases value <;> simp

theorem notStale_readCandidate (P : Platform) (db : Database) (candidate : ReleaseCandidateRow) :
    NotStale (readCandidate P db candidate) := by
  unfold readCandidate readRelease
  apply notStale_bind
  · apply notStale_bind (notStale_orThrow _ _)
    intro _ _
    exact notStale_threwAs _
  · intro _ _ never
    cases never

theorem notStale_admitCommand (P : Platform) (db : Database) (org : String)
    (operation : ReleaseOperation) (actorUserId : String)
    (idempotency : ReleaseCandidateIdempotencyInput) (timestamp : Int) :
    NotStale (admitCommand P db org operation actorUserId idempotency timestamp) := by
  unfold admitCommand
  apply notStale_bind (notStale_refuseUnless (.inr (by simp)))
  intro _ _
  unfold replayOrGoOn
  split
  · simp [NotStale]
  · split
    · simp [NotStale]
    · split
      · simp [NotStale]
      · split
        · simp [NotStale]
        · apply notStale_bind
          · unfold verifiedReleaseCandidateReplay
            split
            · simp [NotStale]
            · split
              · simp [NotStale]
              · apply notStale_bind (notStale_readCandidate _ _ _)
                intro _ _
                simp [NotStale]
          · intro replay _
            cases replay <;> simp [NotStale]

/-- A transition of a candidate under its own digest does not stop at the digests. -/
theorem Sound.notStale (sound : Sound P db) {org candidateId : String}
    {candidate : ReleaseCandidateRow} (found : candidate? db org candidateId = some candidate)
    (operation : ReleaseOperation) (actorUserId : String)
    (idempotency : ReleaseCandidateIdempotencyInput) (timestamp : Int) :
    NotStale (admitTransition P db org operation candidateId candidate.digestSha256 actorUserId
      idempotency timestamp) := by
  obtain ⟨record, release, read, _, valid⟩ := sound.readCandidate (candidate?_spec found).1
  unfold admitTransition
  apply notStale_bind (notStale_throwUnless _ _)
  intro _ _
  apply notStale_bind (notStale_admitCommand _ _ _ _ _ _ _)
  intro _ _
  rw [found]
  apply notStale_bind
  · simp [NotStale, foundOr]
  · intro candidate' isCandidate
    rw [foundOr_ok] at isCandidate
    cases isCandidate
    apply notStale_bind (notStale_readCandidate _ _ _)
    intro pair isRead
    rw [read] at isRead
    cases isRead
    apply notStale_bind (notStale_refuseUnless (.inl valid))
    intro _ _ never
    cases never

/-! ## No withdrawal that fails -/

/-- The trigger accepts the withdrawal of the last assignment of a schedule. -/
theorem Sound.isCompleteWithdrawal (sound : Sound P db) {org scheduleId : String}
    (actorUserId : String) (timestamp : Int) {previous : ReleaseAssignmentRow}
    {release : PublishedReleaseRow}
    (found : lastAssignment db org scheduleId = some previous)
    (assigned : previous.state = .assigned)
    (isRelease : db.release? previous.releaseId previous.organizationId = some release) :
    isCompleteWithdrawal (addWithdrawal previous
        (withdrawalRow P db org scheduleId actorUserId timestamp previous release) db) previous
      (withdrawalRow P db org scheduleId actorUserId timestamp previous release) = true := by
  obtain ⟨here, tenant, ofSchedule⟩ := lastAssignment_spec found
  have arrives := withdrawal_arrives sound actorUserId timestamp found assigned isRelease
  obtain ⟨row, good⟩ := sound.assignments previous here
  have same : row = release := by
    have both := good.isRelease
    rw [isRelease] at both
    exact (Option.some.inj both).symm
  subst same
  have old : (addWithdrawal previous
      (withdrawalRow P db org scheduleId actorUserId timestamp previous row) db).targetsOf
        previous = db.targetsOf previous := by
    rw [addWithdrawal_eq]
    exact targetsOf_old (k := 0) sound rfl (fun t member => (arrives.owned t member).1) here
  have new : (addWithdrawal previous
      (withdrawalRow P db org scheduleId actorUserId timestamp previous row) db).targetsOf
        (withdrawalRow P db org scheduleId actorUserId timestamp previous row) =
      copiedTargets (P.freshId db.idsDrawn) (db.targetsOf previous) := by
    rw [addWithdrawal_eq]
    exact targetsOf_new (k := 0) sound rfl arrives.owned
  have expected := (good.expected assigned).2
  have some : ((db.targetsOf previous).map targetSnapshotKey).isEmpty = false := by
    simpa using good.targeted
  have itself : ∀ keys : List Json, keys.all keys.contains = true := by
    intro keys
    rw [List.all_eq_true]
    exact fun key member => List.contains_iff_mem.mpr member
  unfold prisma.isCompleteWithdrawal
  dsimp only
  rw [old, new, copiedTargets_keys, some, expected, assigned, itself]
  simp [withdrawalRow, tenant, ofSchedule]

/-- The digest of a withdrawal is the one that the assignment expects. -/
theorem Sound.withdraws (sound : Sound P db) (timestamp : Int) {org scheduleId : String}
    {actorUserId : String} {previous : ReleaseAssignmentRow}
    (allowed : hasCapability (roleOf db org actorUserId) .releaseWithdraw = true)
    (scheduled : db.schedules.any (fun schedule =>
      schedule.id == scheduleId && schedule.organizationId == org) = true)
    (found : lastAssignment db org scheduleId = some previous)
    (assigned : previous.state = .assigned) :
    ∃ assignment, (withdrawSchedule P timestamp org scheduleId actorUserId db).2 =
        .ok (.withdrawn assignment) ∧
      previous.expectedWithdrawalDigestSha256 = some assignment.digestSha256 := by
  obtain ⟨row, good⟩ := sound.assignments previous (lastAssignment_spec found).1
  have complete := sound.isCompleteWithdrawal actorUserId timestamp found assigned good.isRelease
  let assignment := withdrawalRow P db org scheduleId actorUserId timestamp previous row
  refine ⟨releaseAssignmentDto assignment
    ((addWithdrawal previous assignment db).targetsOf assignment), ?_, (good.expected assigned).2⟩
  unfold withdrawSchedule
  rw [allowed, scheduled, found]
  rw [if_neg (by simp), if_neg (by simp)]
  dsimp only
  rw [if_neg (by simp [assigned]), good.isRelease]
  dsimp only
  rw [if_pos complete]

/-! ## The texts of the columns -/

/-- The `schedule` of a DTO, with the texts that `iso` writes. -/
def ScheduleColumns.texts (P : Platform) (columns : ScheduleColumns) : ScheduleTexts :=
  { name := columns.scheduleName, priority := columns.priority.enumLower,
    startsAt := P.toISOString columns.startsAt, endsAt := columns.endsAt.map P.toISOString,
    timezone := columns.timezone, daysOfWeek := columns.daysOfWeek,
    dailyStartMinutes := columns.dailyStartMinutes, dailyEndMinutes := columns.dailyEndMinutes,
    enabled := columns.enabled }

theorem texts_eq (P : Platform) (columns : ScheduleColumns) :
    columns.texts P = scheduleTexts P columns.schedule := rfl

/-- The digest of the snapshot that the texts of a candidate make. -/
def candidateDigestOfTexts (P : Platform) (candidate : ReleaseCandidateRow)
    (release : PublishedReleaseRow) (targets : List TargetRow) : Option String :=
  (canonicalReleaseCandidateSnapshot P
    { releaseDigestSha256 := release.digestSha256, schedule := candidate.texts P,
      screenIds := targetScreenIds targets,
      expiresAt := P.toISOString candidate.expiresAt }).map fun snapshot => P.sha256 snapshot.json

/-- The digest of the snapshot that the texts of an assignment make. -/
def assignmentDigestOfTexts (P : Platform) (assignment : ReleaseAssignmentRow)
    (release : PublishedReleaseRow) (targets : List TargetRow) : Option String :=
  (canonicalAssignmentSnapshot P
    { releaseDigestSha256 := release.digestSha256, state := assignment.state,
      schedule := assignment.texts P, screenIds := targetScreenIds targets,
      previousAssignmentId := truthyText assignment.previousAssignmentId }).map fun snapshot =>
    P.sha256 snapshot.json

theorem CandidateVerifies.texts (empty : P.dateParse "" = none) {candidate : ReleaseCandidateRow}
    {release : PublishedReleaseRow} (verifies : CandidateVerifies P db candidate release)
    {targets : List TargetRow} (perm : targets.Perm (db.candidateTargetsOf candidate)) :
    candidateDigestOfTexts P candidate release targets = some candidate.digestSha256 := by
  unfold candidateDigestOfTexts
  rw [texts_eq, candidate_digest_of_texts empty, targetScreenIds_perm perm, verifies.digest]

theorem AssignmentVerifies.texts (empty : P.dateParse "" = none)
    {assignment : ReleaseAssignmentRow} {release : PublishedReleaseRow}
    (verifies : AssignmentVerifies P db assignment release) {targets : List TargetRow}
    (perm : targets.Perm (db.targetsOf assignment)) :
    assignmentDigestOfTexts P assignment release targets = some assignment.digestSha256 := by
  unfold assignmentDigestOfTexts
  rw [texts_eq, assignment_digest_of_texts empty, assignmentSnapshotDigest_truthy,
    targetScreenIds_perm perm, verifies.digest]

/-! ## Every state of the store -/

/-- In every state that the store reaches, each candidate and each assignment reads back with the
digests that it carries, in any order of its targets. No transition stops at a stale digest, no
assignment fails the digest test of the selection, and a withdrawal has the digest that was
stored with the publication. The texts that the columns of a row are written as make a snapshot
with the digest of the row. -/
theorem the_rows_of_a_release_verify_again (P : Platform) {db : Database}
    (reached : Reachable P db) :
    (∀ candidate ∈ db.candidates, ∃ row release,
      db.release? candidate.releaseId candidate.organizationId = some row ∧
      publishedReleaseDto P row (db.itemsOf row) = .ok release ∧
      hasValidStoredReleaseDigest P release = true ∧
      ∀ targets, targets.Perm (db.candidateTargetsOf candidate) → ∀ approval publication,
        hasValidCandidateDigest P
          (releaseCandidateDto candidate targets release approval publication) = true) ∧
    (∀ assignment ∈ db.assignments, ∃ row release,
      db.release? assignment.releaseId assignment.organizationId = some row ∧
      publishedReleaseDto P row (db.itemsOf row) = .ok release ∧
      ∀ targets, targets.Perm (db.targetsOf assignment) →
        hasValidStoredAssignmentDigest P (releaseAssignmentDto assignment targets) release = true ∧
        (assignment.state = .assigned → assignment.expectedWithdrawalDigestSha256 =
          some (assignmentSnapshotDigest P row.digestSha256 .withdrawn
            (releaseAssignmentDto assignment targets).schedule
            (releaseAssignmentDto assignment targets).screenIds (some assignment.id)))) ∧
    (∀ org candidateId candidate operation actorUserId idempotency timestamp,
      candidate? db org candidateId = some candidate →
        NotStale (admitTransition P db org operation candidateId candidate.digestSha256
          actorUserId idempotency timestamp)) ∧
    (∀ assignment ∈ db.assignments,
      (verifiedReleaseAssignmentDtos P db assignment).isSome = true) ∧
    (∀ timestamp org scheduleId actorUserId previous,
      hasCapability (roleOf db org actorUserId) .releaseWithdraw = true →
      db.schedules.any (fun schedule =>
        schedule.id == scheduleId && schedule.organizationId == org) = true →
      lastAssignment db org scheduleId = some previous → previous.state = .assigned →
        ∃ assignment, (withdrawSchedule P timestamp org scheduleId actorUserId db).2 =
            .ok (.withdrawn assignment) ∧
          previous.expectedWithdrawalDigestSha256 = some assignment.digestSha256) ∧
    (P.dateParse "" = none →
      (∀ candidate ∈ db.candidates, ∃ row,
        db.release? candidate.releaseId candidate.organizationId = some row ∧
        ∀ targets, targets.Perm (db.candidateTargetsOf candidate) →
          candidateDigestOfTexts P candidate row targets = some candidate.digestSha256) ∧
      (∀ assignment ∈ db.assignments, ∃ row,
        db.release? assignment.releaseId assignment.organizationId = some row ∧
        ∀ targets, targets.Perm (db.targetsOf assignment) →
          assignmentDigestOfTexts P assignment row targets = some assignment.digestSha256)) := by
  have sound := reached.sound
  refine ⟨?_, ?_, ?_, ?_, ?_, ?_⟩
  · intro candidate here
    obtain ⟨row, verifies⟩ := sound.candidates candidate here
    obtain ⟨release, dto, _, _, digest, valid⟩ := sound.readsBack verifies.isRelease
    refine ⟨row, release, verifies.isRelease, dto, valid, ?_⟩
    intro targets perm approval publication
    exact verifies.dto digest perm approval publication
  · intro assignment here
    obtain ⟨row, verifies⟩ := sound.assignments assignment here
    obtain ⟨release, dto, id, organizationId, digest, valid⟩ :=
      sound.readsBack verifies.isRelease
    refine ⟨row, release, verifies.isRelease, dto, ?_⟩
    intro targets perm
    refine ⟨verifies.dto id organizationId digest valid perm, ?_⟩
    intro assigned
    rw [(verifies.expected assigned).2]
    unfold withdrawalDigest releaseAssignmentDto
    dsimp only
    rw [targetScreenIds_perm perm]
  · intro org candidateId candidate operation actorUserId idempotency timestamp found
    exact sound.notStale found operation actorUserId idempotency timestamp
  · intro assignment here
    obtain ⟨verified, valid⟩ := sound.verified here
    rw [valid]
    rfl
  · intro timestamp org scheduleId actorUserId previous allowed scheduled found assigned
    exact sound.withdraws timestamp allowed scheduled found assigned
  · intro empty
    constructor
    · intro candidate here
      obtain ⟨row, verifies⟩ := sound.candidates candidate here
      refine ⟨row, verifies.isRelease, ?_⟩
      intro targets perm
      exact verifies.texts empty perm
    · intro assignment here
      obtain ⟨row, verifies⟩ := sound.assignments assignment here
      refine ⟨row, verifies.isRelease, ?_⟩
      intro targets perm
      exact verifies.texts empty perm

/-! ## A poster on two screens -/

def mallScreens : List String := [uuid 3, uuid 4]

def mallCandidateDigest : String :=
  "0539695068dcac22fe631cd5f4ce33bce59b8e8d4af470a89d1ad6c6a5fd38ca"
def mallAssignmentDigest : String :=
  "0e3bc362d5672405111493a7dfa2488b0d48d83a6bdbc1405588fa250f4e662c"
def mallWithdrawalDigest : String :=
  "687f582d81966986e5e24254c5d6af141325b601f308477f7887e2fc3d5522bf"

/-- The hash on the snapshots of the example. -/
def mall : Platform :=
  { cmsTexts with
    sha256 := fun json =>
      if json = posterSnapshot.json cmsTexts then releaseDigest
      else if json = candidateSnapshotJson cmsTexts releaseDigest workingHours mallScreens
        (mondayAt 24) then mallCandidateDigest
      else if json = assignmentSnapshotJson cmsTexts releaseDigest .assigned workingHours
        mallScreens none then mallAssignmentDigest
      else if json = assignmentSnapshotJson cmsTexts releaseDigest .withdrawn workingHours
        mallScreens (some (uuid 9)) then mallWithdrawalDigest
      else "" }

def posterRow : MediaAssetRow where
  id := uuid 0
  organizationId := "acme"
  name := "Poster"
  kind := .IMAGE
  mimeType := "image/png"
  url := "https://media.example/poster.png"
  storageKey := "organizations/acme/assets/" ++ uuid 0 ++ "/" ++ posterChecksum
  checksumSha256 := posterChecksum
  sizeBytes := 2048
  expiresAt := none
  createdAt := mondayAt 9
  updatedAt := mondayAt 9
  storageKey_some := by decide +kernel

/-- The team, two screens, the poster and a playlist with it. -/
def mallContent : Database :=
  { emptyDatabase with
    users := team
    screens := mallScreens.map fun id => { id := id, organizationId := "acme" }
    media := [posterRow]
    playlists :=
      [{ id := uuid 1, organizationId := "acme", name := "Lobby", description := "",
         items := [{ id := uuid 2, assetId := uuid 0, position := 0, durationSeconds := 15 }],
         createdAt := mondayAt 9, updatedAt := mondayAt 9 }]
    idsDrawn := 5 }

/-- Ann makes and submits the release, Ben approves it, and Ann publishes it. -/
def mallCalls : List (Int × Call) :=
  [(mondayAt 9, .create "acme" { workingHours with
      playlistId := uuid 1, screenIds := mallScreens, expiresAt := mondayAt 24 } "ann"
      ["https://media.example"] (keyOf .create)),
   (mondayAt 9 + 60000, .submit "acme" (uuid 6) mallCandidateDigest "ann" (keyOf .submit)),
   (mondayAt 9 + 60000, .approve "acme" (uuid 6) mallCandidateDigest "ben" (keyOf .approve)),
   (mondayAt 9 + 120000, .publish "acme" (uuid 6) mallCandidateDigest "ann"
     ["https://media.example"] (keyOf .publish))]

/-- The rows after calls, one after the other. -/
def afterCalls (P : Platform) (db : Database) (calls : List (Int × Call)) : Database :=
  calls.foldl (fun db entry => entry.2.perform P entry.1 db) db

theorem Reachable.calls (reached : Reachable P db) (calls : List (Int × Call)) :
    Reachable P (afterCalls P db calls) := by
  induction calls generalizing db with
  | nil => exact reached
  | cons entry rest ih => exact ih (reached.call entry.1 entry.2)

def mallDatabase : Database := afterCalls mall mallContent mallCalls

theorem mall_reached : Reachable mall mallDatabase := by
  apply Reachable.calls
  apply Reachable.elsewhere .empty
  exact ⟨_, _, _, _, _, by simp [emptyDatabase], Nat.zero_le _, rfl⟩

set_option maxRecDepth 10000 in
/-- Both screens show the poster, until one of them is decommissioned. -/
theorem mall_shows :
    mallDatabase.assignments.map (·.state) = [.assigned] ∧
      (deleteScreen "acme" (uuid 4) "ben" mallDatabase).2 = .deleted ∧
      schedulesOf (activeOrdinaryReleases mall mallDatabase "acme" (uuid 3) (mondayAt 10)) =
        [uuid 8] ∧
      schedulesOf (activeOrdinaryReleases mall (deleteScreen "acme" (uuid 4) "ben" mallDatabase).1
        "acme" (uuid 3) (mondayAt 10)) = [] := by
  decide +kernel

theorem the_poster_of_the_mall_verifies_again :
    ∃ assignment ∈ mallDatabase.assignments, assignment.state = .assigned ∧
      (verifiedReleaseAssignmentDtos mall mallDatabase assignment).isSome = true ∧
      ∃ row, mallDatabase.release? assignment.releaseId assignment.organizationId = some row ∧
        assignmentDigestOfTexts mall assignment row (mallDatabase.targetsOf assignment).reverse =
          some assignment.digestSha256 := by
  have some : ∃ assignment ∈ mallDatabase.assignments, assignment.state = .assigned := by
    rw [← List.mem_map, mall_shows.1]
    exact List.mem_singleton_self _
  obtain ⟨assignment, here, assigned⟩ := some
  obtain ⟨_, _, _, verified, _, texts⟩ := the_rows_of_a_release_verify_again mall mall_reached
  obtain ⟨row, isRelease, digests⟩ := (texts (by decide)).2 assignment here
  exact ⟨assignment, here, assigned, verified assignment here, row, isRelease,
    digests _ (List.reverse_perm _)⟩

end screengoblin.prisma
