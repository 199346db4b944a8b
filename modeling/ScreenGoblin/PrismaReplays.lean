-- Replays in the database (apps/api/src/store/prisma.ts, verifiedReleaseCandidateReplay): a
-- repeat is answered by undoing what later commands did to the candidate. The invariant says
-- what a candidate shows in each state, and that undoing gives each recorded response.
import ScreenGoblin.PrismaDigests

open js collections screengoblin.schedule screengoblin.server

namespace screengoblin.prisma

variable {P : Platform} {db after : Database}

/-! ## What a candidate shows -/

/-- The record of a candidate as it is read with its release. -/
def liveCandidate (db : Database) (candidate : ReleaseCandidateRow)
    (release : PublishedReleaseRecord) : ReleaseCandidateRecord :=
  releaseCandidateDto candidate (db.candidateTargetsOf candidate) release
    (db.approvalOf candidate) (db.publicationOf candidate)

/-- The times, the approval and the publication of a candidate go with its state. -/
structure Evidence (db : Database) (candidate : ReleaseCandidateRow) : Prop where
  submittedAt : candidate.submittedAt.isSome = decide (1 ≤ stateRank candidate.state)
  approvedAt : candidate.approvedAt.isSome = decide (2 ≤ stateRank candidate.state)
  publishedAt : candidate.publishedAt.isSome = decide (3 ≤ stateRank candidate.state)
  approval : (db.approvalOf candidate).isSome = decide (2 ≤ stateRank candidate.state)
  publication : (db.publicationOf candidate).isSome = decide (3 ≤ stateRank candidate.state)
  ownDigest : ∀ approval, db.approvalOf candidate = some approval →
    approval.candidateDigestSha256 = candidate.digestSha256

theorem none_of_isSome {α : Type} {value : Option α} {n m : Nat}
    (shown : value.isSome = decide (n ≤ m)) (before : m < n) : value = none := by
  rw [← Option.not_isSome_iff_eq_none, shown, decide_eq_true_eq]
  omega

/-- Right after a command, undoing the later ones changes nothing. -/
theorem operationResponse_own {candidate : ReleaseCandidateRow} (evidence : Evidence db candidate)
    {operation : ReleaseOperation} (state : candidate.state = expectedState operation)
    (release : PublishedReleaseRecord) :
    operationResponse operation (liveCandidate db candidate release) =
      liveCandidate db candidate release := by
  obtain ⟨submittedAt, approvedAt, publishedAt, approval, publication, _⟩ := evidence
  rw [state] at submittedAt approvedAt publishedAt approval publication
  unfold liveCandidate
  cases operation with
  | create =>
    have noSubmission := none_of_isSome submittedAt (by decide)
    have noApproval := none_of_isSome approvedAt (by decide)
    have noPublishing := none_of_isSome publishedAt (by decide)
    have noApprovalRow := none_of_isSome approval (by decide)
    have noPublication := none_of_isSome publication (by decide)
    unfold operationResponse releaseCandidateDto
    simp only [state, noSubmission, noApproval, noPublishing, noApprovalRow, noPublication]
    rfl
  | submit =>
    have noApproval := none_of_isSome approvedAt (by decide)
    have noPublishing := none_of_isSome publishedAt (by decide)
    have noApprovalRow := none_of_isSome approval (by decide)
    have noPublication := none_of_isSome publication (by decide)
    unfold operationResponse releaseCandidateDto
    simp only [state, noApproval, noPublishing, noApprovalRow, noPublication]
    rfl
  | approve =>
    have noPublishing := none_of_isSome publishedAt (by decide)
    have noPublication := none_of_isSome publication (by decide)
    unfold operationResponse releaseCandidateDto
    simp only [state, noPublishing, noPublication]
    rfl
  | publish => rfl

/-- A candidate is read back with its release. -/
theorem Sound.readsCandidate (sound : Sound P db) {candidate : ReleaseCandidateRow}
    (here : candidate ∈ db.candidates) :
    ∃ release, prisma.readCandidate P db candidate =
        .ok (liveCandidate db candidate release, release) ∧
      hasValidDigests P candidate.digestSha256 (liveCandidate db candidate release) release =
        true := by
  obtain ⟨record, release, read, _, valid⟩ := sound.readCandidate here
  obtain ⟨_, _, _, _, isRecord⟩ := readCandidate_spec read
  have live : record = liveCandidate db candidate release := isRecord
  rw [live] at read valid
  exact ⟨release, read, valid⟩

/-! ## Records and candidates -/

/-- Undoing the later commands on the candidate of the response gives the response. -/
structure Answers (P : Platform) (db : Database) (record : ReleaseIdempotencyRecord)
    (response : ReleaseCandidateRecord) (candidate : ReleaseCandidateRow)
    (release : PublishedReleaseRecord) : Prop where
  here : candidate ∈ db.candidates
  id : candidate.id = response.id
  organizationId : candidate.organizationId = record.organizationId
  reached : stateRank (expectedState record.operation) ≤ stateRank candidate.state
  read : readCandidate P db candidate = .ok (liveCandidate db candidate release, release)
  undone : operationResponse record.operation (liveCandidate db candidate release) = response

structure Replayable (P : Platform) (db : Database) : Prop where
  sound : Sound P db
  evidence : ∀ candidate ∈ db.candidates, Evidence db candidate
  approvalsDrawn : ∀ approval ∈ db.approvals, DrawnBefore P db.idsDrawn approval.candidateId
  publicationsDrawn : ∀ publication ∈ db.publications,
    DrawnBefore P db.idsDrawn publication.candidateId
  keys : KeysUnique (fun record => (record.organizationId, record.operation, record.keyHash))
    db.idempotencyRecords
  hashes : ∀ record ∈ db.idempotencyRecords,
    isLowerHex64 record.keyHash = true ∧ isLowerHex64 record.requestDigestSha256 = true
  answers : ∀ record ∈ db.idempotencyRecords, ∀ response, record.response = some response →
    ∃ candidate release, Answers P db record response candidate release

theorem candidate?_iff (unique : KeysUnique ReleaseCandidateRow.id db.candidates)
    {org candidateId : String} {candidate : ReleaseCandidateRow} :
    candidate? db org candidateId = some candidate ↔
      candidate ∈ db.candidates ∧ candidate.id = candidateId ∧
        candidate.organizationId = org := by
  constructor
  · exact candidate?_spec
  · rintro ⟨here, rfl, rfl⟩
    unfold candidate?
    apply unique.find here
    · simp
    · intro other named
      simp only [Bool.and_eq_true, beq_iff_eq] at named
      exact named.1

/-- The candidate is read back as it was: its release, its screens, its approval and its
publication are the same. -/
structure SameReading (db after : Database) (candidate : ReleaseCandidateRow) : Prop where
  release : ∀ row, db.release? candidate.releaseId candidate.organizationId = some row →
    after.release? candidate.releaseId candidate.organizationId = some row ∧
      after.itemsOf row = db.itemsOf row
  screens : targetScreenIds (after.candidateTargetsOf candidate) =
    targetScreenIds (db.candidateTargetsOf candidate)
  approval : after.approvalOf candidate = db.approvalOf candidate
  publication : after.publicationOf candidate = db.publicationOf candidate

theorem SameReading.live {candidate : ReleaseCandidateRow}
    (same : SameReading db after candidate) (release : PublishedReleaseRecord) :
    liveCandidate after candidate release = liveCandidate db candidate release := by
  unfold liveCandidate releaseCandidateDto
  rw [same.screens, same.approval, same.publication]

theorem SameReading.evidence {candidate : ReleaseCandidateRow}
    (same : SameReading db after candidate) (evidence : Evidence db candidate) :
    Evidence after candidate where
  submittedAt := evidence.submittedAt
  approvedAt := evidence.approvedAt
  publishedAt := evidence.publishedAt
  approval := by rw [same.approval]; exact evidence.approval
  publication := by rw [same.publication]; exact evidence.publication
  ownDigest := by rw [same.approval]; exact evidence.ownDigest

/-- A candidate with its release in place is read with it. -/
theorem readCandidate_ok {candidate : ReleaseCandidateRow} {row : PublishedReleaseRow}
    {release : PublishedReleaseRecord}
    (isRelease : db.release? candidate.releaseId candidate.organizationId = some row)
    (dto : publishedReleaseDto P row (db.itemsOf row) = .ok release) :
    readCandidate P db candidate = .ok (liveCandidate db candidate release, release) := by
  unfold readCandidate readRelease
  rw [isRelease]
  unfold orThrow threwAs
  dsimp only [bind, Except.bind]
  rw [dto]
  rfl

/-- The candidate `candidate'` of `after` is `candidate` at a later time. -/
structure Continues (db after : Database) (candidate candidate' : ReleaseCandidateRow) :
    Prop where
  here : candidate' ∈ after.candidates
  id : candidate'.id = candidate.id
  organizationId : candidate'.organizationId = candidate.organizationId
  releaseId : candidate'.releaseId = candidate.releaseId
  release : ∀ row, db.release? candidate.releaseId candidate.organizationId = some row →
    after.release? candidate.releaseId candidate.organizationId = some row ∧
      after.itemsOf row = db.itemsOf row
  further : stateRank candidate.state ≤ stateRank candidate'.state
  undone : ∀ operation, stateRank (expectedState operation) ≤ stateRank candidate.state →
    ∀ release, operationResponse operation (liveCandidate after candidate' release) =
      operationResponse operation (liveCandidate db candidate release)

theorem Answers.continues {record : ReleaseIdempotencyRecord} {response : ReleaseCandidateRecord}
    {candidate candidate' : ReleaseCandidateRow} {release : PublishedReleaseRecord}
    (answers : Answers P db record response candidate release)
    (next : Continues db after candidate candidate') :
    Answers P after record response candidate' release where
  here := next.here
  id := next.id.trans answers.id
  organizationId := next.organizationId.trans answers.organizationId
  reached := answers.reached.trans next.further
  read := by
    obtain ⟨row, isRelease, dto, _⟩ := readCandidate_spec answers.read
    obtain ⟨stays, items⟩ := next.release row isRelease
    apply readCandidate_ok
    · rw [next.releaseId, next.organizationId]
      exact stays
    · rw [items]
      exact dto
  undone := (next.undone record.operation answers.reached release).trans answers.undone

theorem SameReading.continues {candidate : ReleaseCandidateRow}
    (same : SameReading db after candidate) (here : candidate ∈ after.candidates) :
    Continues db after candidate candidate where
  here := here
  id := rfl
  organizationId := rfl
  releaseId := rfl
  release := same.release
  further := Nat.le_refl _
  undone operation _ release := by rw [same.live]

/-! ## Steps that leave the candidates alone -/

/-- A step under which the candidates go on, and no record gets another response. -/
theorem Replayable.step (good : Replayable P db) (sound : Sound P after)
    (evidence : ∀ c ∈ after.candidates, Evidence after c)
    (approvalsDrawn : ∀ approval ∈ after.approvals,
      DrawnBefore P after.idsDrawn approval.candidateId)
    (publicationsDrawn : ∀ publication ∈ after.publications,
      DrawnBefore P after.idsDrawn publication.candidateId)
    (records : after.idempotencyRecords = db.idempotencyRecords)
    (continues : ∀ c ∈ db.candidates, ∃ c', Continues db after c c') : Replayable P after where
  sound := sound
  evidence := evidence
  approvalsDrawn := approvalsDrawn
  publicationsDrawn := publicationsDrawn
  keys := by rw [records]; exact good.keys
  hashes := by rw [records]; exact good.hashes
  answers := by
    rw [records]
    intro record here response kept
    obtain ⟨candidate, release, answers⟩ := good.answers record here response kept
    obtain ⟨candidate', next⟩ := continues candidate answers.here
    exact ⟨candidate', release, answers.continues next⟩

/-- A step that changes no candidate, no approval, no publication and no record. -/
theorem Replayable.quiet (good : Replayable P db) (sound : Sound P after)
    (candidates : after.candidates = db.candidates) (approvals : after.approvals = db.approvals)
    (publications : after.publications = db.publications)
    (drawn : db.idsDrawn ≤ after.idsDrawn)
    (records : after.idempotencyRecords = db.idempotencyRecords)
    (same : ∀ c ∈ db.candidates, SameReading db after c) : Replayable P after := by
  apply good.step sound
  · rw [candidates]
    exact fun c here => (same c here).evidence (good.evidence c here)
  · rw [approvals]
    exact fun approval here => (good.approvalsDrawn approval here).mono drawn
  · rw [publications]
    exact fun publication here => (good.publicationsDrawn publication here).mono drawn
  · exact records
  · intro c here
    exact ⟨c, (same c here).continues (by rw [candidates]; exact here)⟩

theorem approvalOf_congr (approvals : after.approvals = db.approvals)
    (candidate : ReleaseCandidateRow) : after.approvalOf candidate = db.approvalOf candidate := by
  unfold Database.approvalOf
  rw [approvals]

theorem publicationOf_congr (publications : after.publications = db.publications)
    (candidate : ReleaseCandidateRow) :
    after.publicationOf candidate = db.publicationOf candidate := by
  unfold Database.publicationOf
  rw [publications]

theorem Replayable.elsewhere (good : Replayable P db) (other : Elsewhere db after) :
    Replayable P after := by
  obtain ⟨users, screens, media, playlists, idsDrawn, _, more, rfl⟩ := other
  refine good.quiet (good.sound.same ⟨rfl, rfl, rfl, rfl, rfl, rfl, more⟩) rfl rfl rfl more rfl ?_
  intro c _
  exact ⟨fun row found => ⟨found, rfl⟩, rfl, rfl, rfl⟩

theorem Replayable.withoutScreen (good : Replayable P db) (org screenId : String) :
    Replayable P (withoutScreen org screenId db) := by
  refine good.quiet (good.sound.withoutScreen org screenId) rfl rfl rfl (Nat.le_refl _) rfl ?_
  intro c _
  refine ⟨fun row found => ⟨found, rfl⟩, ?_, rfl, rfl⟩
  rw [candidateTargetsOf_withoutScreen, targetScreenIds_detach]

theorem Replayable.withdraw (good : Replayable P db) (timestamp : Int)
    (org scheduleId actorUserId : String) :
    Replayable P (withdrawSchedule P timestamp org scheduleId actorUserId db).1 := by
  have sound := good.sound.withdraw timestamp org scheduleId actorUserId
  have unchanged : ∀ result, (result = (withdrawSchedule P timestamp org scheduleId actorUserId
      db).1) → result.releases = db.releases ∧ result.items = db.items ∧
        result.candidates = db.candidates ∧ result.candidateTargets = db.candidateTargets ∧
        result.approvals = db.approvals ∧ result.publications = db.publications ∧
        result.idempotencyRecords = db.idempotencyRecords ∧ db.idsDrawn ≤ result.idsDrawn := by
    rintro result rfl
    unfold withdrawSchedule
    repeat' split
    all_goals
      try exact ⟨rfl, rfl, rfl, rfl, rfl, rfl, rfl, Nat.le_refl _⟩
    dsimp only
    split
    · exact ⟨rfl, rfl, rfl, rfl, rfl, rfl, rfl, Nat.le_succ _⟩
    · exact ⟨rfl, rfl, rfl, rfl, rfl, rfl, rfl, Nat.le_refl _⟩
  obtain ⟨releases, items, candidates, targets, approvals, publications, records, drawn⟩ :=
    unchanged _ rfl
  refine good.quiet sound candidates approvals publications drawn records ?_
  intro c _
  refine ⟨?_, ?_, approvalOf_congr approvals c, publicationOf_congr publications c⟩
  · intro row found
    unfold Database.release? Database.itemsOf at *
    rw [releases, items]
    exact ⟨found, rfl⟩
  · unfold Database.candidateTargetsOf
    rw [targets]

/-! ## Pruning -/

theorem find_filter_kept {α : Type} {l : List α} {test keep : α → Bool}
    (kept : ∀ a ∈ l, test a = true → keep a = true) :
    (l.filter keep).find? test = l.find? test := by
  rw [← List.head?_filter, ← List.head?_filter, filter_kept kept]

theorem mem_expiredCandidates {org : String} {timestamp : Int} {candidate : ReleaseCandidateRow}
    (expired : candidate ∈ expiredCandidates P db org timestamp) :
    candidate ∈ db.candidates ∧ candidate.organizationId = org ∧
      candidate.state ≠ .published := by
  have sorted := List.mem_of_mem_take expired
  rw [List.mem_insertionSort, List.mem_filter] at sorted
  simp only [Bool.and_eq_true, beq_iff_eq, bne_iff_ne] at sorted
  exact ⟨sorted.1, sorted.2.1.1.1, sorted.2.1.1.2⟩

/-- A candidate that is left is read back as before. -/
theorem sameReading_pruned (sound : Sound P db) (org : String) (timestamp : Int)
    {c : ReleaseCandidateRow}
    (here : c ∈ (pruneExpiredCandidates P org timestamp db).candidates) :
    SameReading db (pruneExpiredCandidates P org timestamp db) c := by
  obtain ⟨_, kept⟩ := List.mem_filter.mp here
  have without := sound.deleteCandidates ((expiredCandidates P db org timestamp).map (·.id))
  constructor
  case release =>
    intro row found
    have used : isUnused org ((expiredCandidates P db org timestamp).map (·.releaseId))
        (deleteCandidates ((expiredCandidates P db org timestamp).map (·.id)) db) row = false :=
      isUnused_candidate without.releaseIds here found
    have isRelease := ((release?_iff sound.releaseIds).mp found).1
    exact ⟨release?_deleteReleases without found used,
      itemsOf_deleteReleases without isRelease used⟩
  case screens =>
    have targets : (deleteCandidates _ db).candidateTargetsOf c = db.candidateTargetsOf c :=
      candidateTargetsOf_deleteCandidates kept
    show targetScreenIds ((deleteCandidates _ db).candidateTargetsOf c) = _
    rw [targets]
  case approval =>
    apply find_filter_kept
    intro approval _ passes
    simp only [Bool.and_eq_true, beq_iff_eq] at passes
    rw [passes.1]
    exact kept
  case publication => rfl

/-- A record that still has its response is the record it was, and its candidate is left. -/
theorem record_of_forgetResponses {org : String} {candidateIds : List String}
    {records : List ReleaseIdempotencyRecord} {record : ReleaseIdempotencyRecord}
    {response : ReleaseCandidateRecord} (here : record ∈ forgetResponses org candidateIds records)
    (kept : record.response = some response) :
    record ∈ records ∧ (record.organizationId = org → record.operation ≠ .publish →
      response.id ∉ candidateIds) := by
  obtain ⟨old, isRecord, rfl⟩ := List.mem_map.mp here
  split at kept
  · cases kept
  · rename_i other
    rw [if_neg other]
    refine ⟨isRecord, ?_⟩
    intro tenant notPublish member
    apply other
    rw [kept]
    simp [tenant, notPublish, member]

theorem keys_forgetResponses {org : String} {candidateIds : List String}
    {records : List ReleaseIdempotencyRecord} :
    (forgetResponses org candidateIds records).map
      (fun record => (record.organizationId, record.operation, record.keyHash)) =
      records.map fun record => (record.organizationId, record.operation, record.keyHash) := by
  unfold forgetResponses
  rw [List.map_map]
  apply List.map_congr_left
  intro record _
  rw [Function.comp_apply]
  split <;> rfl

/-- The candidate of a response goes only with the response. -/
theorem Replayable.prune (good : Replayable P db) (org : String) (timestamp : Int) :
    Replayable P (pruneExpiredCandidates P org timestamp db) where
  sound := good.sound.pruneExpiredCandidates org timestamp
  evidence c here :=
    (sameReading_pruned good.sound org timestamp here).evidence
      (good.evidence c (List.mem_filter.mp here).1)
  approvalsDrawn approval here := good.approvalsDrawn approval (List.mem_filter.mp here).1
  publicationsDrawn := good.publicationsDrawn
  keys := by
    unfold KeysUnique pruneExpiredCandidates
    rw [keys_forgetResponses]
    exact good.keys
  hashes := by
    intro record here
    obtain ⟨old, isRecord, rfl⟩ := List.mem_map.mp here
    have hashes := good.hashes old isRecord
    split
    · exact hashes
    · exact hashes
  answers := by
    intro record here response kept
    obtain ⟨isRecord, apart⟩ := record_of_forgetResponses here kept
    obtain ⟨candidate, release, answers⟩ := good.answers record isRecord response kept
    have left : candidate ∈ (pruneExpiredCandidates P org timestamp db).candidates := by
      refine List.mem_filter.mpr ⟨answers.here, ?_⟩
      rw [Bool.not_eq_true', ← Bool.not_eq_true, List.contains_iff_mem]
      intro member
      obtain ⟨expired, isExpired, same⟩ := List.mem_map.mp member
      obtain ⟨stored, tenant, open'⟩ := mem_expiredCandidates isExpired
      have isCandidate := good.sound.candidateIds.eq stored answers.here same
      rw [isCandidate] at tenant open'
      -- Only a published candidate has a response of `publish`, and it does not expire.
      have notPublish : record.operation ≠ .publish := by
        intro publish
        have reached := answers.reached
        rw [publish] at reached
        cases state : candidate.state with
        | published => exact open' state
        | _ => rw [state] at reached; exact absurd reached (by decide)
      apply apart (answers.organizationId.symm.trans tenant) notPublish
      rw [← answers.id]
      exact member
    exact ⟨candidate, release, answers.continues
      ((sameReading_pruned good.sound org timestamp left).continues left)⟩

/-! ## New rows -/

theorem find_append_other {α : Type} {l : List α} {a : α} {test : α → Bool}
    (other : test a = false) : (l ++ [a]).find? test = l.find? test := by
  rw [List.find?_append]
  simp [other]

theorem Replayable.releaseFor (good : Replayable P db) {org actorUserId : String}
    {timestamp : Int} {snapshot : CanonicalReleaseSnapshot} {release : PublishedReleaseRow}
    {after : Database} (frozen : Frozen P snapshot.items)
    (made : releaseFor P org actorUserId timestamp snapshot db = .ok (release, after)) :
    Replayable P after := by
  have sound := (releaseFor_spec good.sound frozen made).1
  unfold prisma.releaseFor at made
  split at made
  · cases made
    exact good
  · dsimp only at made
    simp only [bind_ok] at made
    obtain ⟨rows, written, same⟩ := made
    cases same
    have owned : ∀ row ∈ rows, row.releaseId = P.freshId db.idsDrawn := fun row member =>
      ((items_read_back frozen.storable (threwAs_ok.mp written)).2.2 row member).1
    refine good.quiet sound rfl rfl rfl (Nat.le_succ _) rfl ?_
    intro c _
    refine ⟨?_, rfl, rfl, rfl⟩
    intro row found
    have isRelease := ((release?_iff good.sound.releaseIds).mp found).1
    exact ⟨release?_addRelease good.sound rfl found,
      itemsOf_addRelease good.sound rfl owned isRelease⟩

/-- A new candidate has neither an approval nor a publication. -/
theorem Replayable.addCandidate (good : Replayable P db) {org : String} {screenIds : List String}
    {candidate : ReleaseCandidateRow} (named : candidate.id = P.freshId db.idsDrawn)
    (draft : candidate.state = .draft) (times : candidate.submittedAt = none ∧
      candidate.approvedAt = none ∧ candidate.publishedAt = none)
    (sound : Sound P (addCandidate org screenIds candidate db)) :
    Replayable P (addCandidate org screenIds candidate db) := by
  have same : ∀ c ∈ db.candidates,
      SameReading db (prisma.addCandidate org screenIds candidate db) c := by
    intro c here
    refine ⟨fun row found => ⟨found, rfl⟩, ?_, rfl, rfl⟩
    rw [candidateTargetsOf_addCandidate good.sound named here]
  apply good.step sound
  · intro c here
    rcases List.mem_append.mp here with old | new
    · exact (same c old).evidence (good.evidence c old)
    · obtain rfl := List.mem_singleton.mp new
      have noApproval : (prisma.addCandidate org screenIds c db).approvalOf c = none := by
        rw [Database.approvalOf, List.find?_eq_none]
        intro approval here passes
        simp only [Bool.and_eq_true, beq_iff_eq] at passes
        exact (good.approvalsDrawn approval here).ne 0 (passes.1.trans named)
      have noPublication : (prisma.addCandidate org screenIds c db).publicationOf c = none := by
        rw [Database.publicationOf, List.find?_eq_none]
        intro publication here passes
        simp only [Bool.and_eq_true, beq_iff_eq] at passes
        exact (good.publicationsDrawn publication here).ne 0 (passes.1.trans named)
      constructor
      · rw [times.1, draft]; rfl
      · rw [times.2.1, draft]; rfl
      · rw [times.2.2, draft]; rfl
      · rw [noApproval, draft]; rfl
      · rw [noPublication, draft]; rfl
      · rw [noApproval]
        intro approval none
        cases none
  · exact fun approval here => (good.approvalsDrawn approval here).mono (Nat.le_succ _)
  · exact fun publication here => (good.publicationsDrawn publication here).mono (Nat.le_succ _)
  · rfl
  · intro c here
    exact ⟨c, (same c here).continues (List.mem_append_left _ here)⟩

/-! ## A change of a candidate -/

section
variable (timestamp : Int) (candidate : ReleaseCandidateRow) (targets : List TargetRow)
  (release : PublishedReleaseRecord) (approval approval' : Option ReleaseApprovalRecord)
  (publication publication' : Option ReleaseCandidatePublicationRow)

theorem undo_submitted :
    operationResponse .create (releaseCandidateDto (submitted timestamp candidate) targets release
      approval publication) =
    operationResponse .create (releaseCandidateDto candidate targets release approval'
      publication') := rfl

theorem undo_approved {operation : ReleaseOperation}
    (earlier : operation = .create ∨ operation = .submit) :
    operationResponse operation (releaseCandidateDto (approved timestamp candidate) targets release
      approval publication) =
    operationResponse operation (releaseCandidateDto candidate targets release approval'
      publication') := by
  rcases earlier with rfl | rfl
  · rfl
  · rfl

theorem undo_published (P : Platform) (db : Database) {operation : ReleaseOperation}
    (earlier : operation ≠ .publish) :
    operationResponse operation (releaseCandidateDto (published P db timestamp candidate) targets
      release approval publication) =
    operationResponse operation (releaseCandidateDto candidate targets release approval
      publication') := by
  cases operation with
  | create => rfl
  | submit => rfl
  | approve => rfl
  | publish => exact absurd rfl earlier

end

/-- What a change of one candidate has to bring. -/
structure Updates (P : Platform) (db after : Database) (candidate : ReleaseCandidateRow)
    (change : ReleaseCandidateRow → ReleaseCandidateRow) : Prop where
  sound : Sound P after
  keeps : KeepsSnapshot change
  candidates : after.candidates =
    changeWhere (fun c => c.id == candidate.id) change db.candidates
  releases : after.releases = db.releases
  items : after.items = db.items
  candidateTargets : after.candidateTargets = db.candidateTargets
  records : after.idempotencyRecords = db.idempotencyRecords
  approvalsDrawn : ∀ approval ∈ after.approvals,
    DrawnBefore P after.idsDrawn approval.candidateId
  publicationsDrawn : ∀ publication ∈ after.publications,
    DrawnBefore P after.idsDrawn publication.candidateId
  others : ∀ c, c.id ≠ candidate.id →
    after.approvalOf c = db.approvalOf c ∧ after.publicationOf c = db.publicationOf c
  evidence : Evidence after (change candidate)
  further : stateRank candidate.state ≤ stateRank (change candidate).state
  undone : ∀ operation, stateRank (expectedState operation) ≤ stateRank candidate.state →
    ∀ targets release, operationResponse operation (releaseCandidateDto (change candidate) targets
        release (after.approvalOf (change candidate)) (after.publicationOf (change candidate))) =
      operationResponse operation (releaseCandidateDto candidate targets release
        (db.approvalOf candidate) (db.publicationOf candidate))

theorem Replayable.update (good : Replayable P db) {candidate : ReleaseCandidateRow}
    {change : ReleaseCandidateRow → ReleaseCandidateRow} (here : candidate ∈ db.candidates)
    (updates : Updates P db after candidate change) : Replayable P after := by
  have release : ∀ (c : ReleaseCandidateRow) row,
      db.release? c.releaseId c.organizationId = some row →
        after.release? c.releaseId c.organizationId = some row ∧
          after.itemsOf row = db.itemsOf row := by
    intro c row found
    unfold Database.release? Database.itemsOf at *
    rw [updates.releases, updates.items]
    exact ⟨found, rfl⟩
  have other : ∀ c, c.id ≠ candidate.id → SameReading db after c := by
    intro c apart
    obtain ⟨approval, publication⟩ := updates.others c apart
    refine ⟨release c, ?_, approval, publication⟩
    unfold Database.candidateTargetsOf
    rw [updates.candidateTargets]
  apply good.step updates.sound
  · intro c' here'
    rw [updates.candidates] at here'
    obtain ⟨c, isCandidate, rfl⟩ := mem_changeWhere.mp here'
    split
    · rename_i same
      have isSame := good.sound.candidateIds.eq isCandidate here (beq_iff_eq.mp same)
      rw [isSame]
      exact updates.evidence
    · rename_i apart
      exact (other c (by simpa using apart)).evidence (good.evidence c isCandidate)
  · exact updates.approvalsDrawn
  · exact updates.publicationsDrawn
  · exact updates.records
  · intro c isCandidate
    by_cases same : c.id = candidate.id
    · have isSame := good.sound.candidateIds.eq isCandidate here same
      rw [isSame]
      refine ⟨change candidate, ?_, updates.keeps.id candidate,
        updates.keeps.organizationId candidate, updates.keeps.releaseId candidate,
        release candidate, updates.further, ?_⟩
      · rw [updates.candidates]
        exact mem_changeWhere.mpr ⟨candidate, here, by simp⟩
      · intro operation earlier release
        have targets : after.candidateTargetsOf (change candidate) =
            db.candidateTargetsOf candidate := by
          unfold Database.candidateTargetsOf
          rw [updates.candidateTargets, updates.keeps.id, updates.keeps.organizationId]
        unfold liveCandidate
        rw [targets]
        exact updates.undone operation earlier _ release
    · refine ⟨c, (other c same).continues ?_⟩
      rw [updates.candidates]
      exact mem_changeWhere.mpr ⟨c, isCandidate, by simp [same]⟩

theorem candidate?_updateCandidate (unique : KeysUnique ReleaseCandidateRow.id db.candidates)
    {org candidateId : String} {candidate : ReleaseCandidateRow}
    (found : candidate? db org candidateId = some candidate)
    {change : ReleaseCandidateRow → ReleaseCandidateRow} (keeps : KeepsSnapshot change)
    (candidates : after.candidates =
      changeWhere (fun c => c.id == candidate.id) change db.candidates) :
    candidate? after org candidateId = some (change candidate) := by
  obtain ⟨here, named, tenant⟩ := candidate?_spec found
  have unique' : KeysUnique ReleaseCandidateRow.id after.candidates := by
    rw [candidates]
    exact unique.changeWhere _ keeps.id
  rw [candidate?_iff unique', candidates, keeps.id, keeps.organizationId]
  exact ⟨mem_changeWhere.mpr ⟨candidate, here, by simp⟩, named, tenant⟩

/-! ## The record of a command -/

/-- No record has the key. -/
def NewKey (db : Database) (org : String) (operation : ReleaseOperation) (keyHash : String) :
    Prop :=
  (org, operation, keyHash) ∉ db.idempotencyRecords.map fun record =>
    (record.organizationId, record.operation, record.keyHash)

theorem NewKey.congr {org keyHash : String} {operation : ReleaseOperation}
    (newKey : NewKey db org operation keyHash)
    (records : after.idempotencyRecords = db.idempotencyRecords) :
    NewKey after org operation keyHash := by
  unfold NewKey
  rw [records]
  exact newKey

theorem admitCommand_newKey {org actorUserId : String} {operation : ReleaseOperation}
    {idempotency : ReleaseCandidateIdempotencyInput} {timestamp : Int}
    (admitted : admitCommand P db org operation actorUserId idempotency timestamp = .ok ()) :
    NewKey db org operation idempotency.keyHash := by
  unfold admitCommand at admitted
  simp only [bind_ok] at admitted
  obtain ⟨_, _, goesOn⟩ := admitted
  unfold replayOrGoOn at goesOn
  intro member
  obtain ⟨record, here, key⟩ := List.mem_map.mp member
  split at goesOn
  · next none =>
    have other := List.find?_eq_none.mp none record here
    simp only [Prod.mk.injEq] at key
    simp [isRecord, key] at other
  · split at goesOn
    · cases goesOn
    · split at goesOn
      · cases goesOn
      · split at goesOn
        · cases goesOn
        · simp only [bind_ok] at goesOn
          obtain ⟨replay, _, never⟩ := goesOn
          split at never <;> cases never

theorem readCandidate_live {candidate : ReleaseCandidateRow} {record : ReleaseCandidateRecord}
    {release : PublishedReleaseRecord}
    (read : readCandidate P db candidate = .ok (record, release)) :
    record = liveCandidate db candidate release := by
  obtain ⟨_, _, _, _, isRecord⟩ := readCandidate_spec read
  exact isRecord

/-- The response of a command that wrote its rows is recorded, and undoing nothing gives it. -/
theorem Replayable.complete {before : Database} (good : Replayable P before)
    (good' : Replayable P after) {org : String} {operation : ReleaseOperation}
    (actorUserId : String) {idempotency : ReleaseCandidateIdempotencyInput} (timestamp : Int)
    {candidateId : String} (hashes : hasCanonicalHashes idempotency = true)
    (newKey : NewKey after org operation idempotency.keyHash)
    (state : ∀ c, candidate? after org candidateId = some c → c.state = expectedState operation) :
    Replayable P (complete P org operation actorUserId idempotency timestamp candidateId before
      after).1 := by
  unfold prisma.complete
  dsimp only
  split
  · exact good
  · next response release read =>
    simp only [bind_ok] at read
    obtain ⟨candidate, found, read⟩ := read
    have isCandidate : candidate? after org candidateId = some candidate := by
      unfold orThrow at found
      split at found
      · next held =>
        cases found
        exact held
      · cases found
    obtain ⟨here, named, tenant⟩ := candidate?_spec isCandidate
    have reached := state candidate isCandidate
    have live := readCandidate_live read
    have same : ∀ c ∈ after.candidates, SameReading after (remember org operation actorUserId
        idempotency timestamp response after) c := by
      intro c _
      exact ⟨fun row found => ⟨found, rfl⟩, rfl, rfl, rfl⟩
    constructor
    case sound => exact good'.sound.same ⟨rfl, rfl, rfl, rfl, rfl, rfl, Nat.le_refl _⟩
    case evidence => exact fun c here => (same c here).evidence (good'.evidence c here)
    case approvalsDrawn => exact good'.approvalsDrawn
    case publicationsDrawn => exact good'.publicationsDrawn
    case keys =>
      apply good'.keys.append
      intro record isRecord key
      apply newKey
      rw [← key]
      exact List.mem_map_of_mem (f := fun record =>
        (record.organizationId, record.operation, record.keyHash)) isRecord
    case hashes =>
      intro record isRecord
      rcases List.mem_append.mp isRecord with old | new
      · exact good'.hashes record old
      · obtain rfl := List.mem_singleton.mp new
        exact Bool.and_eq_true_iff.mp hashes
    case answers =>
      intro record isRecord kept recorded
      rcases List.mem_append.mp isRecord with old | new
      · obtain ⟨c, r, answers⟩ := good'.answers record old kept recorded
        exact ⟨c, r, answers.continues ((same c answers.here).continues answers.here)⟩
      · obtain rfl := List.mem_singleton.mp new
        obtain rfl := Option.some.inj recorded
        refine ⟨candidate, release, here, ?_, tenant, ?_, ?_, ?_⟩
        · rw [live]
          rfl
        · rw [reached]
        · obtain ⟨row, isRelease, dto, _⟩ := readCandidate_spec read
          exact @readCandidate_ok P (remember org operation actorUserId idempotency timestamp
            response after) _ _ _ isRelease dto
        · rw [live]
          exact operationResponse_own (good'.evidence candidate here) reached release

/-! ## The commands -/

theorem Replayable.create (good : Replayable P db) (timestamp : Int) (org : String)
    (data : CandidateInput) (actorUserId : String) (mediaAllowedOrigins : List String)
    (idempotency : ReleaseCandidateIdempotencyInput) :
    Replayable P (createReleaseCandidate P timestamp org data actorUserId mediaAllowedOrigins
      idempotency db).1 := by
  have pruned := good.prune org timestamp
  unfold createReleaseCandidate
  dsimp only
  split
  · exact good
  · next admitted =>
    split
    · exact good
    · exact pruned
    · next after candidateId written =>
      simp only [bind_ok, throwUnless_ok, exists_const] at admitted
      obtain ⟨hashes, _, admittedKey, _⟩ := admitted
      have newKey : NewKey db org .create idempotency.keyHash := admitCommand_newKey admittedKey
      simp only [bind_ok] at written
      obtain ⟨snapshot, prepared, ⟨release, released⟩, found, columns, encoded, same⟩ := written
      cases same
      have frozen := frozen_of_prepared prepared
      obtain ⟨sound', isRelease, digest⟩ := releaseFor_spec pruned.sound frozen found
      have good' := pruned.releaseFor frozen found
      have added : Replayable P (prisma.addCandidate org data.screenIds
          (newCandidateRow P released org data actorUserId timestamp snapshot release columns)
          released) := by
        apply good'.addCandidate rfl rfl ⟨rfl, rfl, rfl⟩
        exact sound'.addCandidate rfl rfl isRelease rfl (newCandidateRow_digest encoded digest)
      have records : released.idempotencyRecords =
          (pruneExpiredCandidates P org timestamp db).idempotencyRecords := by
        unfold prisma.releaseFor at found
        split at found
        · cases found
          rfl
        · dsimp only at found
          simp only [bind_ok] at found
          obtain ⟨_, _, same⟩ := found
          cases same
          rfl
      apply good.complete added
      · exact hashes
      · unfold NewKey prisma.addCandidate
        dsimp only
        rw [records]
        unfold pruneExpiredCandidates
        rw [keys_forgetResponses]
        exact newKey
      · intro c isCandidate
        obtain ⟨here, named, _⟩ := candidate?_spec isCandidate
        have isNew := added.sound.candidateIds.eq here
          (List.mem_append_right _ (List.mem_singleton_self _)) named
        rw [isNew]
        rfl

/-- The checks of a transition leave canonical hashes and a new key. -/
theorem admitTransition_newKey {org candidateId expectedDigestSha256 actorUserId : String}
    {operation : ReleaseOperation} {idempotency : ReleaseCandidateIdempotencyInput}
    {timestamp : Int}
    {admittedCandidate : ReleaseCandidateRow × ReleaseCandidateRecord × PublishedReleaseRecord}
    (admitted : admitTransition P db org operation candidateId expectedDigestSha256 actorUserId
      idempotency timestamp = .ok admittedCandidate) :
    hasCanonicalHashes idempotency = true ∧ NewKey db org operation idempotency.keyHash := by
  unfold admitTransition at admitted
  simp only [bind_ok, throwUnless_ok, exists_const, Bool.and_eq_true] at admitted
  obtain ⟨⟨_, hashes⟩, _, admittedKey, _⟩ := admitted
  exact ⟨hashes, admitCommand_newKey admittedKey⟩

theorem Replayable.submit (good : Replayable P db) (timestamp : Int)
    (org candidateId expectedDigestSha256 actorUserId : String)
    (idempotency : ReleaseCandidateIdempotencyInput) :
    Replayable P (submitReleaseCandidate P timestamp org candidateId expectedDigestSha256
      actorUserId idempotency db).1 := by
  unfold submitReleaseCandidate
  dsimp only
  split
  · exact good
  · next admitted =>
    simp only [bind_ok, refuseUnless_ok, beq_iff_eq, exists_const] at admitted
    obtain ⟨⟨candidate, record, release⟩, transition, _, _, draft⟩ := admitted
    obtain ⟨found, _, _⟩ := admitTransition_spec transition
    obtain ⟨here, rfl, _⟩ := candidate?_spec found
    have evidence := good.evidence candidate here
    have updates : Updates P db (prisma.updateCandidate candidate.id (submitted timestamp) db)
        candidate (submitted timestamp) := by
      refine ⟨good.sound.updateCandidate candidate.id (keepsSnapshot_submitted timestamp),
        keepsSnapshot_submitted timestamp, rfl, rfl, rfl, rfl, rfl, good.approvalsDrawn,
        good.publicationsDrawn, fun c _ => ⟨rfl, rfl⟩, ?_, ?_, ?_⟩
      · obtain ⟨_, approvedAt, publishedAt, approval, publication, ownDigest⟩ := evidence
        rw [draft] at approvedAt publishedAt approval publication
        exact ⟨rfl, approvedAt, publishedAt, approval, publication, ownDigest⟩
      · rw [draft]
        exact Nat.zero_le _
      · intro operation earlier targets release
        rw [draft] at earlier
        cases operation with
        | create => exact undo_submitted ..
        | _ => exact absurd earlier (by decide)
    apply good.complete (good.update here updates)
    · exact (admitTransition_newKey transition).1
    · exact (admitTransition_newKey transition).2.congr rfl
    · intro c isCandidate
      rw [candidate?_updateCandidate good.sound.candidateIds found updates.keeps rfl] at isCandidate
      cases isCandidate
      rfl

theorem Replayable.approve (good : Replayable P db) (timestamp : Int)
    (org candidateId expectedDigestSha256 actorUserId : String)
    (idempotency : ReleaseCandidateIdempotencyInput) :
    Replayable P (approveReleaseCandidate P timestamp org candidateId expectedDigestSha256
      actorUserId idempotency db).1 := by
  unfold approveReleaseCandidate
  dsimp only
  split
  · exact good
  · next approval admitted =>
    simp only [bind_ok, refuseUnless_ok, beq_iff_eq, exists_const, foundOr_ok] at admitted
    obtain ⟨⟨candidate, record, release⟩, transition, _, _, inReview, actor, _, made⟩ := admitted
    cases made
    obtain ⟨found, _, _⟩ := admitTransition_spec transition
    obtain ⟨here, rfl, tenant⟩ := candidate?_spec found
    have evidence := good.evidence candidate here
    have noApproval : db.approvalOf candidate = none := by
      apply none_of_isSome evidence.approval
      rw [inReview]
      decide
    have updates : Updates P db
        { prisma.updateCandidate candidate.id (approved timestamp) db with
          approvals := db.approvals ++
            [approvalRow P db org candidate actorUserId actor timestamp]
          idsDrawn := db.idsDrawn + 1 }
        candidate (approved timestamp) := by
      constructor
      case sound =>
        refine (good.sound.updateCandidate candidate.id (keepsSnapshot_approved timestamp)).same ?_
        exact ⟨rfl, rfl, rfl, rfl, rfl, rfl, Nat.le_succ _⟩
      case keeps => exact keepsSnapshot_approved timestamp
      case candidates => rfl
      case releases => rfl
      case items => rfl
      case candidateTargets => rfl
      case records => rfl
      case approvalsDrawn =>
        intro approval member
        rcases List.mem_append.mp member with old | new
        · exact (good.approvalsDrawn approval old).mono (Nat.le_succ _)
        · obtain rfl := List.mem_singleton.mp new
          exact (good.sound.candidatesDrawn candidate here).mono (Nat.le_succ _)
      case publicationsDrawn =>
        exact fun publication here =>
          (good.publicationsDrawn publication here).mono (Nat.le_succ _)
      case others =>
        intro c apart
        refine ⟨?_, rfl⟩
        apply find_append_other
        simp [approvalRow, Ne.symm apart]
      case evidence =>
        have shown : Database.approvalOf
            { prisma.updateCandidate candidate.id (approved timestamp) db with
              approvals := db.approvals ++
                [approvalRow P db org candidate actorUserId actor timestamp]
              idsDrawn := db.idsDrawn + 1 } (approved timestamp candidate) =
            some (approvalRow P db org candidate actorUserId actor timestamp) := by
          show (db.approvals ++ _).find? _ = _
          rw [List.find?_append]
          have none : db.approvals.find? (fun approval => approval.candidateId == candidate.id &&
              approval.organizationId == candidate.organizationId) = none := noApproval
          rw [show (approved timestamp candidate).id = candidate.id from rfl,
            show (approved timestamp candidate).organizationId = candidate.organizationId from rfl,
            none]
          simp [approvalRow, tenant]
        obtain ⟨submittedAt, _, publishedAt, _, publication, _⟩ := evidence
        rw [inReview] at submittedAt publishedAt publication
        refine ⟨submittedAt, rfl, publishedAt, ?_, publication, ?_⟩
        · rw [shown]
          rfl
        · rw [shown]
          rintro _ ⟨⟩
          rfl
      case further =>
        rw [inReview]
        exact Nat.le_succ 1
      case undone =>
        intro operation earlier targets release
        rw [inReview] at earlier
        apply undo_approved
        cases operation with
        | create => exact Or.inl rfl
        | submit => exact Or.inr rfl
        | _ => exact absurd earlier (by decide)
    apply good.complete (good.update here updates)
    · exact (admitTransition_newKey transition).1
    · exact (admitTransition_newKey transition).2.congr rfl
    · intro c isCandidate
      rw [candidate?_updateCandidate good.sound.candidateIds found updates.keeps rfl] at isCandidate
      cases isCandidate
      rfl

theorem admitPublication_transition {org candidateId expectedDigestSha256 actorUserId : String}
    {mediaAllowedOrigins : List String} {idempotency : ReleaseCandidateIdempotencyInput}
    {timestamp : Int} {candidate : ReleaseCandidateRow} {record : ReleaseCandidateRecord}
    (admitted : admitPublication P db org candidateId expectedDigestSha256 actorUserId
      mediaAllowedOrigins idempotency timestamp = .ok (candidate, record)) :
    ∃ release, admitTransition P db org .publish candidateId expectedDigestSha256 actorUserId
        idempotency timestamp = .ok (candidate, record, release) ∧
      candidate.state = .approved := by
  unfold admitPublication at admitted
  simp only [bind_ok, refuseUnless_ok, beq_iff_eq, exists_const] at admitted
  obtain ⟨⟨c, r, release⟩, transition, _, _, _, isApproved, _, _, _, _, same⟩ := admitted
  cases same
  exact ⟨release, transition, isApproved⟩

theorem Replayable.publish (good : Replayable P db) (timestamp : Int)
    (org candidateId expectedDigestSha256 actorUserId : String)
    (mediaAllowedOrigins : List String) (idempotency : ReleaseCandidateIdempotencyInput) :
    Replayable P (publishReleaseCandidate P timestamp org candidateId expectedDigestSha256
      actorUserId mediaAllowedOrigins idempotency db).1 := by
  unfold publishReleaseCandidate
  split
  · exact good
  · next candidate record admitted =>
    obtain ⟨release, transition, isApproved⟩ := admitPublication_transition admitted
    obtain ⟨found, _, _⟩ := admitTransition_spec transition
    obtain ⟨here, named, tenant⟩ := candidate?_spec found
    have evidence := good.evidence candidate here
    have noPublication : db.publicationOf candidate = none := by
      apply none_of_isSome evidence.publication
      rw [isApproved]
      decide
    have updates : Updates P db
        (addPublication P org actorUserId timestamp candidate record db) candidate
        (published P db timestamp) := by
      constructor
      case sound => exact good.sound.addPublication admitted
      case keeps => exact keepsSnapshot_published P db timestamp
      case candidates => rfl
      case releases => rfl
      case items => rfl
      case candidateTargets => rfl
      case records => rfl
      case approvalsDrawn =>
        exact fun approval here => (good.approvalsDrawn approval here).mono (Nat.le_add_right _ _)
      case publicationsDrawn =>
        intro publication member
        rcases List.mem_append.mp member with old | new
        · exact (good.publicationsDrawn publication old).mono (Nat.le_add_right _ _)
        · obtain rfl := List.mem_singleton.mp new
          exact (good.sound.candidatesDrawn candidate here).mono (Nat.le_add_right _ _)
      case others =>
        intro c apart
        refine ⟨rfl, ?_⟩
        apply find_append_other
        simp [publicationRow, Ne.symm apart]
      case evidence =>
        have shown : (addPublication P org actorUserId timestamp candidate record
            db).publicationOf (published P db timestamp candidate) =
            some (publicationRow P db org candidate.id actorUserId timestamp) := by
          show (db.publications ++ _).find? _ = _
          rw [List.find?_append]
          have none : db.publications.find? (fun publication =>
              publication.candidateId == candidate.id &&
                publication.organizationId == candidate.organizationId) = none := noPublication
          rw [show (published P db timestamp candidate).id = candidate.id from rfl,
            show (published P db timestamp candidate).organizationId =
              candidate.organizationId from rfl, none]
          simp [publicationRow, tenant]
        obtain ⟨submittedAt, approvedAt, _, approval, _, ownDigest⟩ := evidence
        rw [isApproved] at submittedAt approvedAt approval
        refine ⟨submittedAt, approvedAt, rfl, approval, ?_, ownDigest⟩
        rw [shown]
        rfl
      case further =>
        rw [isApproved]
        exact Nat.le_succ 2
      case undone =>
        intro operation earlier targets release
        rw [isApproved] at earlier
        apply undo_published
        rintro rfl
        exact absurd earlier (by decide)
    apply good.complete (good.update here updates)
    · exact (admitTransition_newKey transition).1
    · exact (admitTransition_newKey transition).2.congr rfl
    · intro c isCandidate
      rw [candidate?_updateCandidate good.sound.candidateIds found updates.keeps rfl] at isCandidate
      cases isCandidate
      rfl

theorem Replayable.perform (good : Replayable P db) (timestamp : Int) (c : Call) :
    Replayable P (c.perform P timestamp db) := by
  cases c with
  | create => exact good.create ..
  | submit => exact good.submit ..
  | approve => exact good.approve ..
  | publish => exact good.publish ..
  | withdraw => exact good.withdraw ..
  | deleteScreen org screenId actor =>
    show Replayable P (deleteScreen org screenId actor db).1
    unfold deleteScreen
    repeat' split
    · exact good
    · exact good
    · exact good.withoutScreen org screenId

theorem replayable_empty (P : Platform) : Replayable P emptyDatabase where
  sound := sound_empty P
  evidence := by simp [emptyDatabase]
  approvalsDrawn := by simp [emptyDatabase]
  publicationsDrawn := by simp [emptyDatabase]
  keys := List.nodup_nil
  hashes := by simp [emptyDatabase]
  answers := by simp [emptyDatabase]

theorem Reachable.replayable (reached : Reachable P db) : Replayable P db := by
  induction reached with
  | empty => exact replayable_empty P
  | call _ timestamp c ih => exact ih.perform timestamp c
  | elsewhere _ other ih => exact ih.elsewhere other

/-! ## A repeat -/

/-- The answer of a command on a candidate. -/
def Call.answer (P : Platform) (timestamp : Int) (db : Database) : Call → Option Answer
  | .create org data actor origins idempotency =>
    some (createReleaseCandidate P timestamp org data actor origins idempotency db).2
  | .submit org candidateId digest actor idempotency =>
    some (submitReleaseCandidate P timestamp org candidateId digest actor idempotency db).2
  | .approve org candidateId digest actor idempotency =>
    some (approveReleaseCandidate P timestamp org candidateId digest actor idempotency db).2
  | .publish org candidateId digest actor origins idempotency =>
    some (publishReleaseCandidate P timestamp org candidateId digest actor origins idempotency db).2
  | .withdraw .. | .deleteScreen .. => none

/-- The request of a record again: the same key of the same actor. -/
structure SameRequest (record : ReleaseIdempotencyRecord) (operation : ReleaseOperation)
    (org actorUserId : String) (idempotency : ReleaseCandidateIdempotencyInput) : Prop where
  operation : operation = record.operation
  organizationId : org = record.organizationId
  actorUserId : actorUserId = record.actorUserId
  keyHash : idempotency.keyHash = record.keyHash
  requestDigestSha256 : idempotency.requestDigestSha256 = record.requestDigestSha256

/-- The call repeats the command of a record. The digest that a transition expects is a digest. -/
def Call.Repeats (record : ReleaseIdempotencyRecord) : Call → Prop
  | .create org _ actor _ idempotency => SameRequest record .create org actor idempotency
  | .submit org _ digest actor idempotency =>
    SameRequest record .submit org actor idempotency ∧ isLowerHex64 digest = true
  | .approve org _ digest actor idempotency =>
    SameRequest record .approve org actor idempotency ∧ isLowerHex64 digest = true
  | .publish org _ digest actor _ idempotency =>
    SameRequest record .publish org actor idempotency ∧ isLowerHex64 digest = true
  | .withdraw .. | .deleteScreen .. => False

section
variable {record : ReleaseIdempotencyRecord} {response : ReleaseCandidateRecord}

/-- Undoing the later commands on the candidate as it is now gives the response. -/
theorem Replayable.replays (good : Replayable P db)
    (hex : ∀ value, isLowerHex64 (P.sha256 value) = true)
    (here : record ∈ db.idempotencyRecords) (kept : record.response = some response) :
    ∃ candidate release, candidate? db record.organizationId response.id = some candidate ∧
      readCandidate P db candidate = .ok (liveCandidate db candidate release, release) ∧
      operationResponse record.operation (liveCandidate db candidate release) = response ∧
      verifiedReleaseCandidateReplay P db record.organizationId record.operation response =
        .ok true := by
  obtain ⟨candidate, release, answers⟩ := good.answers record here response kept
  have evidence := good.evidence candidate answers.here
  have found : candidate? db record.organizationId response.id = some candidate :=
    (candidate?_iff good.sound.candidateIds).mpr
      ⟨answers.here, answers.id, answers.organizationId⟩
  refine ⟨candidate, release, found, answers.read, answers.undone, ?_⟩
  obtain ⟨again, read, valid⟩ := good.sound.readsCandidate answers.here
  rw [answers.read] at read
  obtain rfl := (Prod.mk.inj (Except.ok.inj read)).2
  obtain ⟨row, verifies⟩ := good.sound.candidates candidate answers.here
  have digest : response.digestSha256 = candidate.digestSha256 := by
    rw [← answers.undone]
    cases record.operation <;> rfl
  have isDigest : isLowerHex64 response.digestSha256 = true := by
    rw [digest, verifies.digest]
    exact hex _
  have org : response.organizationId = record.organizationId := by
    rw [← answers.undone, ← answers.organizationId]
    cases record.operation <;> rfl
  have reached := answers.reached
  have state : response.state = expectedState record.operation := by
    rw [← answers.undone]
    cases operation : record.operation with
    | publish =>
      rw [operation] at reached
      show candidate.state = .published
      cases state : candidate.state with
      | published => rfl
      | _ => rw [state] at reached; exact absurd reached (by decide)
    | _ => rfl
  have shown : ∀ {α : Type} {value : Option α} {n : Nat},
      value.isSome = decide (n ≤ stateRank candidate.state) →
      n ≤ stateRank (expectedState record.operation) → value.isSome = true := by
    intro α value n isShown before
    rw [isShown, decide_eq_true_eq]
    exact before.trans reached
  unfold verifiedReleaseCandidateReplay
  rw [org, state, isDigest, found]
  dsimp only
  rw [answers.read]
  simp only [bne_self_eq_false, Bool.not_true, Bool.or_self, Bool.false_eq_true, if_false]
  refine congrArg Except.ok ?_
  unfold hasValidDigests hasValidCandidateDigest at valid
  simp only [Bool.and_eq_true, beq_iff_eq] at valid
  obtain ⟨⟨_, _, validDigest⟩, validRelease⟩ := valid
  have isReached : prisma.reached record.operation (liveCandidate db candidate release) = true := by
    unfold prisma.reached
    simp only [Bool.and_eq_true, decide_eq_true_eq]
    refine ⟨⟨reached, ?_⟩, ?_⟩
    · cases operation : record.operation with
      | create => rfl
      | _ => exact shown evidence.submittedAt (by rw [operation]; decide)
    · cases operation : record.operation with
      | create => rfl
      | submit => rfl
      | _ => exact shown evidence.approvedAt (by rw [operation]; decide)
  have approval : (record.operation != .approve && record.operation != .publish ||
      hasOwnApproval (liveCandidate db candidate release)) = true := by
    have own : 2 ≤ stateRank (expectedState record.operation) →
        hasOwnApproval (liveCandidate db candidate release) = true := by
      intro far
      obtain ⟨approval, isApproval⟩ :=
        Option.isSome_iff_exists.mp (shown evidence.approval far)
      unfold hasOwnApproval liveCandidate releaseCandidateDto
      rw [isApproval]
      simp [evidence.ownDigest approval isApproval]
    cases operation : record.operation with
    | create => rfl
    | submit => rfl
    | approve => exact own (by rw [operation]; decide)
    | publish => exact own (by rw [operation]; decide)
  have publication : (record.operation != .publish ||
      (liveCandidate db candidate release).scheduleId.isSome &&
        (liveCandidate db candidate release).assignmentId.isSome &&
        (liveCandidate db candidate release).state == .published) = true := by
    cases operation : record.operation with
    | publish =>
      obtain ⟨publication, isPublication⟩ := Option.isSome_iff_exists.mp
        (shown evidence.publication (by rw [operation]; decide))
      rw [operation, ← answers.undone, operation] at state
      have isPublished : candidate.state = .published := state
      unfold liveCandidate releaseCandidateDto
      rw [isPublication, isPublished]
      rfl
    | _ => rfl
  unfold isReplayOf
  rw [isReached, approval, publication, validRelease, answers.undone]
  have sameDigest : (liveCandidate db candidate release).digestSha256 =
      response.digestSha256 := digest.symm
  simp [sameDigest, ← validDigest]

/-- What a repeat is answered: the response, unless the actor has lost the capability. -/
def repeatAnswer (db : Database) (record : ReleaseIdempotencyRecord)
    (response : ReleaseCandidateRecord) : Answer :=
  .error (if hasCapability (roleOf db record.organizationId record.actorUserId)
    record.operation.capability then .replayed response else .refused .forbidden)

theorem Replayable.admits (good : Replayable P db)
    (hex : ∀ value, isLowerHex64 (P.sha256 value) = true)
    (here : record ∈ db.idempotencyRecords) (kept : record.response = some response)
    {timestamp : Int} (inTime : timestamp < record.expiresAt) {operation : ReleaseOperation}
    {org actorUserId : String} {idempotency : ReleaseCandidateIdempotencyInput}
    (same : SameRequest record operation org actorUserId idempotency) :
    ∃ stop, admitCommand P db org operation actorUserId idempotency timestamp = .error stop ∧
      repeatAnswer db record response = .error stop := by
  obtain ⟨rfl, rfl, rfl, keyHash, requestDigest⟩ := same
  have found : db.idempotencyRecords.find?
      (isRecord record.organizationId record.operation idempotency.keyHash) = some record := by
    apply good.keys.find here
    · simp [isRecord, keyHash]
    · intro other passes
      simp only [isRecord, Bool.and_eq_true, beq_iff_eq] at passes
      rw [passes.1.1, passes.1.2, passes.2, keyHash]
  obtain ⟨_, _, _, _, _, replay⟩ := good.replays hex here kept
  unfold admitCommand repeatAnswer refuseUnless
  cases hasCapability (roleOf db record.organizationId record.actorUserId)
      record.operation.capability with
  | false => exact ⟨_, rfl, rfl⟩
  | true =>
    refine ⟨_, ?_, rfl⟩
    show replayOrGoOn P db record.organizationId record.operation record.actorUserId idempotency
      timestamp = _
    unfold replayOrGoOn
    rw [found]
    dsimp only
    rw [requestDigest, if_neg (by simp), if_neg (by omega), kept]
    dsimp only
    rw [replay]
    rfl

/-- The checks on the hashes of a repeat are those that the recorded command passed. -/
theorem Replayable.canonicalHashes (good : Replayable P db)
    (here : record ∈ db.idempotencyRecords) {operation : ReleaseOperation}
    {org actorUserId : String} {idempotency : ReleaseCandidateIdempotencyInput}
    (same : SameRequest record operation org actorUserId idempotency) :
    hasCanonicalHashes idempotency = true := by
  obtain ⟨keyHash, requestDigest⟩ := good.hashes record here
  unfold hasCanonicalHashes
  rw [same.keyHash, same.requestDigestSha256, keyHash, requestDigest]
  rfl

theorem admitTransition_stop (candidateId : String) {org digest actorUserId : String}
    {operation : ReleaseOperation} {idempotency : ReleaseCandidateIdempotencyInput}
    {timestamp : Int} {stop : Stop} (isDigest : isLowerHex64 digest = true)
    (hashes : hasCanonicalHashes idempotency = true)
    (stops : admitCommand P db org operation actorUserId idempotency timestamp = .error stop) :
    admitTransition P db org operation candidateId digest actorUserId idempotency timestamp =
      .error stop := by
  unfold admitTransition throwUnless
  rw [isDigest, hashes, stops]
  rfl

/-- A repeat in time leaves the rows alone and is answered from the record. -/
theorem Replayable.repeats (good : Replayable P db)
    (hex : ∀ value, isLowerHex64 (P.sha256 value) = true)
    (here : record ∈ db.idempotencyRecords) (kept : record.response = some response)
    {timestamp : Int} (inTime : timestamp < record.expiresAt) {c : Call}
    (again : c.Repeats record) :
    c.perform P timestamp db = db ∧
      c.answer P timestamp db = some (repeatAnswer db record response) := by
  cases c with
  | create org data actor origins idempotency =>
    obtain ⟨stop, stops, answer⟩ := good.admits hex here kept inTime again
    have hashes := good.canonicalHashes here again
    have stopped : createReleaseCandidate P timestamp org data actor origins idempotency db =
        (db, .error stop) := by
      unfold createReleaseCandidate throwUnless
      rw [hashes, stops]
      rfl
    show (createReleaseCandidate P timestamp org data actor origins idempotency db).1 = db ∧
      some (createReleaseCandidate P timestamp org data actor origins idempotency db).2 = _
    rw [stopped, answer]
    exact ⟨rfl, rfl⟩
  | submit org candidateId digest actor idempotency =>
    obtain ⟨stop, stops, answer⟩ := good.admits hex here kept inTime again.1
    have admitted := admitTransition_stop candidateId again.2
      (good.canonicalHashes here again.1) stops
    have stopped : submitReleaseCandidate P timestamp org candidateId digest actor idempotency db =
        (db, .error stop) := by
      unfold submitReleaseCandidate
      rw [admitted]
      rfl
    show (submitReleaseCandidate P timestamp org candidateId digest actor idempotency db).1 = db ∧
      some (submitReleaseCandidate P timestamp org candidateId digest actor idempotency db).2 = _
    rw [stopped, answer]
    exact ⟨rfl, rfl⟩
  | approve org candidateId digest actor idempotency =>
    obtain ⟨stop, stops, answer⟩ := good.admits hex here kept inTime again.1
    have admitted := admitTransition_stop candidateId again.2
      (good.canonicalHashes here again.1) stops
    have stopped : approveReleaseCandidate P timestamp org candidateId digest actor idempotency
        db = (db, .error stop) := by
      unfold approveReleaseCandidate
      rw [admitted]
      rfl
    show (approveReleaseCandidate P timestamp org candidateId digest actor idempotency db).1 = db ∧
      some (approveReleaseCandidate P timestamp org candidateId digest actor idempotency db).2 = _
    rw [stopped, answer]
    exact ⟨rfl, rfl⟩
  | publish org candidateId digest actor origins idempotency =>
    obtain ⟨stop, stops, answer⟩ := good.admits hex here kept inTime again.1
    have admitted := admitTransition_stop candidateId again.2
      (good.canonicalHashes here again.1) stops
    have stopped : publishReleaseCandidate P timestamp org candidateId digest actor origins
        idempotency db = (db, .error stop) := by
      unfold publishReleaseCandidate admitPublication
      rw [admitted]
      rfl
    show (publishReleaseCandidate P timestamp org candidateId digest actor origins idempotency
        db).1 = db ∧
      some (publishReleaseCandidate P timestamp org candidateId digest actor origins idempotency
        db).2 = _
    rw [stopped, answer]
    exact ⟨rfl, rfl⟩
  | withdraw => exact again.elim
  | deleteScreen => exact again.elim

end

/-! ## Runs in which the members stay -/

/-- The states that calls reach while the members of the organizations are the same. -/
inductive Run (P : Platform) (users : List SessionUser) : Database → Prop where
  | start {db : Database} (other : Elsewhere emptyDatabase db) (members : db.users = users) :
    Run P users db
  | call {db : Database} (run : Run P users db) (timestamp : Int) (c : Call) :
    Run P users (c.perform P timestamp db)
  | elsewhere {db after : Database} (run : Run P users db) (other : Elsewhere db after)
      (members : after.users = users) : Run P users after

/-- The actor of a record has the capability of its operation. -/
def Able (db : Database) (record : ReleaseIdempotencyRecord) : Prop :=
  hasCapability (roleOf db record.organizationId record.actorUserId)
    record.operation.capability = true

/-- The members are the same, and each record is of an actor with the capability. -/
structure Members (db after : Database) : Prop where
  users : after.users = db.users
  able : (∀ record ∈ db.idempotencyRecords, Able db record) →
    ∀ record ∈ after.idempotencyRecords, Able db record

theorem Members.refl (db : Database) : Members db db := ⟨rfl, id⟩

theorem admitCommand_able {org actorUserId : String} {operation : ReleaseOperation}
    {idempotency : ReleaseCandidateIdempotencyInput} {timestamp : Int}
    (admitted : admitCommand P db org operation actorUserId idempotency timestamp = .ok ()) :
    hasCapability (roleOf db org actorUserId) operation.capability = true := by
  unfold admitCommand at admitted
  simp only [bind_ok, refuseUnless_ok, exists_const] at admitted
  exact admitted.1

theorem Members.complete (members : Members db after) {org actorUserId : String}
    {operation : ReleaseOperation}
    (able : hasCapability (roleOf db org actorUserId) operation.capability = true)
    (idempotency : ReleaseCandidateIdempotencyInput) (timestamp : Int) (candidateId : String) :
    Members db (complete P org operation actorUserId idempotency timestamp candidateId db
      after).1 := by
  unfold prisma.complete
  dsimp only
  split
  · exact Members.refl db
  · refine ⟨members.users, ?_⟩
    intro before record here
    rcases List.mem_append.mp here with old | new
    · exact members.able before record old
    · obtain rfl := List.mem_singleton.mp new
      exact able

theorem members_prune (org : String) (timestamp : Int) :
    Members db (pruneExpiredCandidates P org timestamp db) := by
  refine ⟨rfl, ?_⟩
  intro before record here
  obtain ⟨old, isRecord, rfl⟩ := List.mem_map.mp here
  have able := before old isRecord
  split
  · exact able
  · exact able

theorem releaseFor_members {org actorUserId : String} {timestamp : Int}
    {snapshot : CanonicalReleaseSnapshot} {release : PublishedReleaseRow}
    (made : releaseFor P org actorUserId timestamp snapshot db = .ok (release, after)) :
    after.users = db.users ∧ after.idempotencyRecords = db.idempotencyRecords := by
  unfold releaseFor at made
  split at made
  · cases made
    exact ⟨rfl, rfl⟩
  · dsimp only at made
    simp only [bind_ok] at made
    obtain ⟨_, _, same⟩ := made
    cases same
    exact ⟨rfl, rfl⟩

theorem admitTransition_able {org candidateId digest actorUserId : String}
    {operation : ReleaseOperation} {idempotency : ReleaseCandidateIdempotencyInput}
    {timestamp : Int}
    {admittedCandidate : ReleaseCandidateRow × ReleaseCandidateRecord × PublishedReleaseRecord}
    (admitted : admitTransition P db org operation candidateId digest actorUserId idempotency
      timestamp = .ok admittedCandidate) :
    hasCapability (roleOf db org actorUserId) operation.capability = true := by
  unfold admitTransition at admitted
  simp only [bind_ok, throwUnless_ok, exists_const] at admitted
  obtain ⟨_, _, command, _⟩ := admitted
  exact admitCommand_able command

theorem members_perform (timestamp : Int) (c : Call) : Members db (c.perform P timestamp db) := by
  cases c with
  | create org data actor origins idempotency =>
    show Members db (createReleaseCandidate P timestamp org data actor origins idempotency db).1
    have pruned : Members db (pruneExpiredCandidates P org timestamp db) :=
      members_prune org timestamp
    unfold createReleaseCandidate
    dsimp only
    split
    · exact Members.refl db
    · next admitted =>
      split
      · exact Members.refl db
      · exact pruned
      · next after candidateId written =>
        simp only [bind_ok, throwUnless_ok, exists_const] at admitted
        obtain ⟨_, _, command, _⟩ := admitted
        simp only [bind_ok] at written
        obtain ⟨_, _, ⟨_, released⟩, found, _, _, same⟩ := written
        cases same
        obtain ⟨users, records⟩ := releaseFor_members found
        apply Members.complete _ (admitCommand_able command)
        refine ⟨users, ?_⟩
        intro before record here
        apply pruned.able before
        rw [← records]
        exact here
  | submit org candidateId digest actor idempotency =>
    show Members db (submitReleaseCandidate P timestamp org candidateId digest actor idempotency
      db).1
    unfold submitReleaseCandidate
    dsimp only
    split
    · exact Members.refl db
    · next admitted =>
      simp only [bind_ok] at admitted
      obtain ⟨_, transition, _⟩ := admitted
      have submitted : Members db (updateCandidate candidateId (submitted timestamp) db) :=
        ⟨rfl, id⟩
      exact submitted.complete (admitTransition_able transition) ..
  | approve org candidateId digest actor idempotency =>
    show Members db (approveReleaseCandidate P timestamp org candidateId digest actor idempotency
      db).1
    unfold approveReleaseCandidate
    dsimp only
    split
    · exact Members.refl db
    · next approval admitted =>
      simp only [bind_ok] at admitted
      obtain ⟨_, transition, _⟩ := admitted
      have able := admitTransition_able transition
      generalize made : ({ updateCandidate candidateId (approved timestamp) db with
        approvals := db.approvals ++ [approval], idsDrawn := db.idsDrawn + 1 } : Database) = after
      have approved : Members db after := by
        rw [← made]
        exact ⟨rfl, id⟩
      exact approved.complete able ..
  | publish org candidateId digest actor origins idempotency =>
    show Members db (publishReleaseCandidate P timestamp org candidateId digest actor origins
      idempotency db).1
    unfold publishReleaseCandidate
    split
    · exact Members.refl db
    · next candidate record admitted =>
      obtain ⟨_, transition, _⟩ := admitPublication_transition admitted
      have published : Members db (addPublication P org actor timestamp candidate record db) :=
        ⟨rfl, id⟩
      exact published.complete (admitTransition_able transition) ..
  | withdraw org scheduleId actor =>
    show Members db (withdrawSchedule P timestamp org scheduleId actor db).1
    unfold withdrawSchedule
    repeat' split
    all_goals
      try exact Members.refl db
    dsimp only
    split
    · exact ⟨rfl, id⟩
    · exact Members.refl db
  | deleteScreen org screenId actor =>
    show Members db (deleteScreen org screenId actor db).1
    unfold deleteScreen
    repeat' split
    · exact Members.refl db
    · exact Members.refl db
    · exact ⟨rfl, id⟩

theorem able_congr (users : after.users = db.users) (record : ReleaseIdempotencyRecord) :
    Able after record ↔ Able db record := by
  unfold Able roleOf lockReleaseActor
  rw [users]

/-- While the members stay, each recorded actor keeps the capability. -/
theorem Run.able {users : List SessionUser} (run : Run P users db) :
    db.users = users ∧ ∀ record ∈ db.idempotencyRecords, Able db record := by
  induction run with
  | start other members =>
    obtain ⟨_, _, _, _, _, _, _, rfl⟩ := other
    refine ⟨members, ?_⟩
    intro record none
    cases none
  | @call before _ timestamp c ih =>
    obtain ⟨members, able⟩ := ih
    have next : Members before (c.perform P timestamp before) := members_perform timestamp c
    refine ⟨next.users.trans members, ?_⟩
    intro record here
    rw [able_congr next.users]
    exact next.able able record here
  | elsewhere _ other members ih =>
    obtain ⟨before, able⟩ := ih
    have same := members.trans before.symm
    obtain ⟨_, _, _, _, _, _, _, rfl⟩ := other
    refine ⟨members, ?_⟩
    intro record here
    rw [able_congr same]
    exact able record here

/-- Whatever became of a candidate since, undoing the later commands gives each response that is
still recorded. A repeat in time leaves the rows alone and is answered with the response, unless
the actor has lost the capability, and never so while the members stay. -/
theorem a_repeat_is_answered_with_the_recorded_response {P : Platform}
    (hex : ∀ value, isLowerHex64 (P.sha256 value) = true) {db : Database}
    (reached : Reachable P db) {record : ReleaseIdempotencyRecord}
    (here : record ∈ db.idempotencyRecords) {response : ReleaseCandidateRecord}
    (kept : record.response = some response) :
    (∃ candidate release, candidate? db record.organizationId response.id = some candidate ∧
      readCandidate P db candidate = .ok (liveCandidate db candidate release, release) ∧
      operationResponse record.operation (liveCandidate db candidate release) = response ∧
      verifiedReleaseCandidateReplay P db record.organizationId record.operation response =
        .ok true) ∧
    (∀ timestamp (c : Call), timestamp < record.expiresAt → c.Repeats record →
      c.perform P timestamp db = db ∧
        c.answer P timestamp db = some (repeatAnswer db record response)) ∧
    (∀ users, Run P users db → ∀ timestamp (c : Call), timestamp < record.expiresAt →
      c.Repeats record → c.answer P timestamp db = some (.error (.replayed response))) := by
  have good := reached.replayable
  refine ⟨good.replays hex here kept, ?_, ?_⟩
  · intro timestamp c inTime again
    exact good.repeats hex here kept inTime again
  · intro users run timestamp c inTime again
    have able : Able db record := run.able.2 record here
    unfold Able at able
    rw [(good.repeats hex here kept inTime again).2, repeatAnswer, able]
    rfl

/-! ## The draft of the mall again -/

/-- The platform of the mall with a hash of 64 digits for every value. -/
def hexMall : Platform :=
  { mall with
    sha256 := fun json =>
      let digest := mall.sha256 json
      if isLowerHex64 digest then digest else posterChecksum }

theorem hexMall_hex (value : Json) : isLowerHex64 (hexMall.sha256 value) = true := by
  show isLowerHex64 (if isLowerHex64 (mall.sha256 value) then mall.sha256 value
    else posterChecksum) = true
  split
  · assumption
  · decide

theorem Run.calls {users : List SessionUser} (run : Run P users db) (calls : List (Int × Call)) :
    Run P users (afterCalls P db calls) := by
  induction calls generalizing db with
  | nil => exact run
  | cons entry rest ih => exact ih (run.call entry.1 entry.2)

/-- The poster is published, and one of its screens is decommissioned. -/
def changedMall : Database :=
  afterCalls hexMall mallContent
    (mallCalls ++ [(mondayAt 9 + 120000, .deleteScreen "acme" (uuid 4) "ben")])

/-- The request for the draft again. -/
def draftAgain : Call :=
  .create "acme" { workingHours with
    playlistId := uuid 1, screenIds := mallScreens, expiresAt := mondayAt 24 } "ann"
    ["https://media.example"] (keyOf .create)

def recordsDraft (record : ReleaseIdempotencyRecord) : Bool :=
  record.operation == .create && record.organizationId == "acme" &&
    record.actorUserId == "ann" && record.keyHash == (keyOf .create).keyHash &&
    record.requestDigestSha256 == (keyOf .create).requestDigestSha256 &&
    decide (mondayAt 9 + 120000 < record.expiresAt) &&
    record.response.any (·.state == .draft)

set_option maxRecDepth 10000 in
theorem changedMall_published :
    changedMall.candidates.map (·.state) = [.published] ∧
      changedMall.idempotencyRecords.any recordsDraft = true := by
  decide +kernel

theorem the_draft_of_the_mall_is_answered_again :
    ∃ response : ReleaseCandidateRecord, response.state = .draft ∧
      draftAgain.answer hexMall (mondayAt 9 + 120000) changedMall =
        some (.error (.replayed response)) := by
  have content : Elsewhere emptyDatabase mallContent :=
    ⟨_, _, _, _, _, by simp [emptyDatabase], Nat.zero_le _, rfl⟩
  have reached : Reachable hexMall changedMall :=
    Reachable.calls (.elsewhere .empty content) _
  have run : Run hexMall team changedMall := Run.calls (.start content rfl) _
  obtain ⟨record, here, isDraft⟩ := List.any_eq_true.mp changedMall_published.2
  unfold recordsDraft at isDraft
  simp only [Bool.and_eq_true, beq_iff_eq, decide_eq_true_eq, Option.any_eq_true] at isDraft
  obtain ⟨⟨⟨⟨⟨⟨operation, org⟩, actor⟩, keyHash⟩, digest⟩, inTime⟩, response, kept, draft⟩ :=
    isDraft
  have again : draftAgain.Repeats record :=
    ⟨operation.symm, org.symm, actor.symm, keyHash.symm, digest.symm⟩
  exact ⟨response, draft, (a_repeat_is_answered_with_the_recorded_response hexMall_hex reached here
    kept).2.2 team run _ draftAgain inTime again⟩

end screengoblin.prisma
