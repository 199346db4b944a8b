-- Which assignments a screen gets from the database. A row is tested on its own: by its
-- provenance, its digests, its window, and by the withdrawals that name it. No query orders
-- the rows of a schedule, so the latest row has no say over the older ones.
import ScreenGoblin.PrismaRows
import ScreenGoblin.ReleaseLaws

open js collections screengoblin.schedule screengoblin.server

namespace screengoblin.prisma

section
variable (P : Platform) (db : Database)

/-! ## What a row shows on its own -/

/-- The row passes its own tests for a screen at an instant. Its withdrawals are left out. -/
def opensFor (screenId : String) (instant : Int) (row : ReleaseAssignmentRow) : Bool :=
  hasPublishedAssignmentProvenance db row &&
    (verifiedReleaseAssignmentDtos P db row).any fun verified =>
      mayShow screenId instant verified.assignment &&
        passed (matchesScheduleWindow P.zones verified.assignment.schedule instant)

/-- The row and its release are what a media request says. -/
def answers (input : MediaDeliveryAuthorizationInput) (row : ReleaseAssignmentRow) : Bool :=
  (verifiedReleaseAssignmentDtos P db row).any fun verified =>
    verified.assignment.digestSha256 == input.assignmentDigestSha256 &&
      hasAsset P input verified.release

def hasAcceptedSize (input : MediaDeliveryAuthorizationInput) : Bool :=
  Value.isSafeInteger (numberJson input.sizeBytes) && !decide (input.sizeBytes < 1)

end

variable {P : Platform} {db : Database}

theorem opensFor_iff {screenId : String} {instant : Int} {row : ReleaseAssignmentRow}
    {verified : ActiveOrdinaryRelease}
    (valid : verifiedReleaseAssignmentDtos P db row = some verified) :
    opensFor P db screenId instant row = true ↔
      hasPublishedAssignmentProvenance db row = true ∧
        mayShow screenId instant verified.assignment = true ∧
        matchesScheduleWindow P.zones verified.assignment.schedule instant = .ok true := by
  unfold opensFor
  rw [valid, Option.any_some, Bool.and_eq_true, Bool.and_eq_true, passed_eq_true]

theorem opensFor_verified {screenId : String} {instant : Int} {row : ReleaseAssignmentRow}
    (opens : opensFor P db screenId instant row = true) :
    ∃ verified, verifiedReleaseAssignmentDtos P db row = some verified := by
  unfold opensFor at opens
  rw [Bool.and_eq_true, Option.any_eq_true] at opens
  obtain ⟨_, verified, valid, _⟩ := opens
  exact ⟨verified, valid⟩

/-- A verified record is the record of its row. -/
theorem verified_spec {row : ReleaseAssignmentRow} {verified : ActiveOrdinaryRelease}
    (valid : verifiedReleaseAssignmentDtos P db row = some verified) :
    verified.assignment = releaseAssignmentDto row (db.targetsOf row) ∧
      hasValidStoredAssignmentDigest P verified.assignment verified.release = true := by
  unfold verifiedReleaseAssignmentDtos at valid
  cases found : db.release? row.releaseId row.organizationId with
  | none => rw [found] at valid; cases valid
  | some release =>
    cases made : publishedReleaseDto P release (db.itemsOf release) with
    | error message => simp [found, made] at valid
    | ok record =>
      simp only [found, made, Option.ite_none_right_eq_some, Option.some.injEq] at valid
      obtain ⟨digest, rfl⟩ := valid
      exact ⟨rfl, digest⟩

/-- A row is selected exactly when it passes its own tests and was not validly withdrawn. -/
theorem selectAssignment_some {screenId : String} {instant : Int} {row : ReleaseAssignmentRow}
    {chosen : ActiveOrdinaryRelease} :
    selectAssignment P db screenId instant row = .ok (some chosen) ↔
      opensFor P db screenId instant row = true ∧
        hasValidWithdrawalSuccessor P db row = false ∧
        verifiedReleaseAssignmentDtos P db row = some chosen := by
  cases valid : verifiedReleaseAssignmentDtos P db row with
  | none =>
    constructor
    · intro selected
      unfold selectAssignment at selected
      rw [valid] at selected
      split at selected <;> cases selected
    · rintro ⟨_, _, never⟩
      cases never
  | some verified =>
    rw [opensFor_iff valid]
    unfold selectAssignment
    rw [valid]
    dsimp only
    by_cases trusted : hasPublishedAssignmentProvenance db row = true ∧
        hasValidWithdrawalSuccessor P db row = false
    · obtain ⟨provenance, standing⟩ := trusted
      by_cases shows : mayShow screenId instant verified.assignment = true
      · cases window : matchesScheduleWindow P.zones verified.assignment.schedule instant with
        | error message => simp [provenance, standing, shows, bind, Except.bind]
        | ok inside => cases inside <;> simp [provenance, standing, shows, bind, Except.bind]
      · simp [provenance, standing, shows]
    · have refused : (!hasPublishedAssignmentProvenance db row ||
          hasValidWithdrawalSuccessor P db row) = true := by
        rw [not_and_or] at trusted
        rcases trusted with provenance | withdrawn
        · simp [provenance]
        · simp [Bool.eq_true_of_not_eq_false withdrawn]
      rw [if_pos refused]
      constructor
      · intro never
        cases never
      · rintro ⟨⟨provenance, _⟩, standing, _⟩
        exact absurd ⟨provenance, standing⟩ trusted

/-- A row for the screen is among the rows that the queries find. -/
theorem mayShow_targeted {org screenId : String} {instant : Int} {row : ReleaseAssignmentRow}
    (here : row ∈ db.assignments) (ofOrg : row.organizationId = org)
    (shows : mayShow screenId instant (releaseAssignmentDto row (db.targetsOf row)) = true) :
    row ∈ targetedAssignments db org screenId := by
  unfold mayShow releaseAssignmentDto targetScreenIds at shows
  simp only [Bool.and_eq_true, beq_iff_eq, List.contains_iff_mem, List.mem_insertionSort,
    List.mem_map] at shows
  obtain ⟨⟨⟨⟨assigned, target, isTarget, same⟩, _⟩, _⟩, _⟩ := shows
  unfold Database.targetsOf at isTarget
  simp only [List.mem_filter, Bool.and_eq_true, beq_iff_eq] at isTarget
  obtain ⟨stored, owner, tenant⟩ := isTarget
  unfold targetedAssignments targetedScheduleIds
  simp only [List.mem_filter, Bool.and_eq_true, beq_iff_eq, List.contains_iff_mem,
    List.mem_flatMap, List.mem_map]
  refine ⟨here, ⟨ofOrg, target, ⟨stored, tenant.trans ofOrg, same⟩, row, ⟨here, ?_⟩, rfl⟩, assigned⟩
  exact ⟨owner.symm, tenant.symm⟩

theorem opensFor_targeted {org screenId : String} {instant : Int} {row : ReleaseAssignmentRow}
    (here : row ∈ db.assignments) (ofOrg : row.organizationId = org)
    (opens : opensFor P db screenId instant row = true) :
    row ∈ targetedAssignments db org screenId := by
  obtain ⟨verified, valid⟩ := opensFor_verified opens
  obtain ⟨_, shows, _⟩ := (opensFor_iff valid).mp opens
  rw [(verified_spec valid).1] at shows
  exact mayShow_targeted here ofOrg shows

/-- What a call returns, row by row. -/
theorem activeOrdinaryReleases_mem {org screenId : String} {instant : Int}
    {list : List ActiveOrdinaryRelease}
    (returned : activeOrdinaryReleases P db org screenId instant = .ok list)
    (chosen : ActiveOrdinaryRelease) :
    chosen ∈ list ↔ ∃ row ∈ db.assignments, row.organizationId = org ∧
      opensFor P db screenId instant row = true ∧ hasValidWithdrawalSuccessor P db row = false ∧
      verifiedReleaseAssignmentDtos P db row = some chosen := by
  unfold activeOrdinaryReleases at returned
  cases each : (targetedAssignments db org screenId).mapM
      (selectAssignment P db screenId instant) with
  | error message => rw [each] at returned; cases returned
  | ok selected =>
    rw [each] at returned
    cases returned
    simp only [List.mem_filterMap, id_eq, exists_eq_right]
    constructor
    · intro isSelected
      obtain ⟨row, isTargeted, made⟩ := mapM_ok_mem each isSelected
      unfold targetedAssignments at isTargeted
      simp only [List.mem_filter, Bool.and_eq_true, beq_iff_eq] at isTargeted
      exact ⟨row, isTargeted.1, isTargeted.2.1.1, selectAssignment_some.mp made⟩
    · rintro ⟨row, here, ofOrg, opens, standing, valid⟩
      obtain ⟨result, isResult, made⟩ := mapM_ok_result each (opensFor_targeted here ofOrg opens)
      rw [selectAssignment_some.mpr ⟨opens, standing, valid⟩] at made
      cases made
      exact isResult

/-- A request for the asset of a row is granted exactly when the row is open for the screen and
was not validly withdrawn. -/
theorem authorizeMediaDelivery_true {input : MediaDeliveryAuthorizationInput}
    {row : ReleaseAssignmentRow} (named : namedAssignment db input = some row) :
    authorizeMediaDelivery P db input = .ok true ↔
      hasAcceptedSize input = true ∧ answers P db input row = true ∧
        opensFor P db input.screenId input.instant row = true ∧
        hasValidWithdrawalSuccessor P db row = false := by
  unfold authorizeMediaDelivery hasAcceptedSize
  rw [named]
  dsimp only
  by_cases size : (!Value.isSafeInteger (numberJson input.sizeBytes) ||
      decide (input.sizeBytes < 1)) = true
  · rw [if_pos size]
    have refused : (Value.isSafeInteger (numberJson input.sizeBytes) &&
        !decide (input.sizeBytes < 1)) = false := by
      simpa [Bool.or_eq_true, imp_iff_not_or] using size
    simp [refused]
  · rw [if_neg size]
    have accepted : (Value.isSafeInteger (numberJson input.sizeBytes) &&
        !decide (input.sizeBytes < 1)) = true := by
      simpa [not_or] using size
    rw [accepted]
    unfold authorizeAssignment answers
    cases valid : verifiedReleaseAssignmentDtos P db row with
    | none => simp
    | some verified =>
      rw [opensFor_iff valid]
      cases provenance : hasPublishedAssignmentProvenance db row with
      | false => simp
      | true =>
        cases withdrawn : hasValidWithdrawalSuccessor P db row with
        | true => simp
        | false =>
          by_cases digest : verified.assignment.digestSha256 = input.assignmentDigestSha256
          · by_cases shows : mayShow input.screenId input.instant verified.assignment = true
            · cases window : matchesScheduleWindow P.zones verified.assignment.schedule
                  input.instant with
              | error message => simp [digest, shows, window, bind, Except.bind]
              | ok inside =>
                cases inside <;> simp [digest, shows, window, bind, Except.bind]
            · simp [digest, shows]
          · simp [digest]

/-! ## What the stored rows say -/

/-- The row and its release have the digests of their content, taken anew. -/
structure DigestsMatch (P : Platform) (db : Database) (row : ReleaseAssignmentRow)
    (stored : PublishedReleaseRow) (release : PublishedReleaseRecord) : Prop where
  isRelease : db.release? row.releaseId row.organizationId = some stored
  reads : publishedReleaseDto P stored (db.itemsOf stored) = .ok release
  release : stored.digestSha256 =
    releaseSnapshotDigest P (canonicalStoredReleaseSnapshot release)
  digest : row.digestSha256 = assignmentSnapshotDigest P stored.digestSha256 row.state row.schedule
    (targetScreenIds (db.targetsOf row)) row.previousAssignmentId

/-- An intact row that a screen may show at an instant, by its own columns and targets. -/
structure OpenFor (P : Platform) (db : Database) (screenId : String) (instant : Int)
    (row : ReleaseAssignmentRow) (stored : PublishedReleaseRow)
    (release : PublishedReleaseRecord) : Prop extends DigestsMatch P db row stored release where
  assigned : row.state = .assigned
  provenance : hasPublishedAssignmentProvenance db row = true
  targeted : ∃ target ∈ db.targetsOf row, target.screenId = screenId
  enabled : row.enabled = true
  started : row.startsAt ≤ instant
  notEnded : ∀ endsAt, row.endsAt = some endsAt → instant < endsAt
  window : matchesScheduleWindow P.zones row.schedule instant = .ok true

/-- The second row is the complete withdrawal of the first one: it has the digest of its own
content and of the withdrawal of the first row, and the same targets. -/
structure WithdrawnBy (P : Platform) (db : Database) (stored : PublishedReleaseRow)
    (row successor : ReleaseAssignmentRow) : Prop where
  withdrawn : successor.state = .withdrawn
  follows : successor.previousAssignmentId = some row.id
  organizationId : successor.organizationId = row.organizationId
  releaseId : successor.releaseId = row.releaseId
  scheduleId : successor.scheduleId = row.scheduleId
  digest : successor.digestSha256 = assignmentSnapshotDigest P stored.digestSha256 .withdrawn
    successor.schedule (targetScreenIds (db.targetsOf successor)) (some row.id)
  expected : successor.digestSha256 = assignmentSnapshotDigest P stored.digestSha256 .withdrawn
    row.schedule (targetScreenIds (db.targetsOf row)) (some row.id)
  targets : ((db.targetsOf row).map targetSnapshotKey).Perm
    ((db.targetsOf successor).map targetSnapshotKey)

/-- An empty identifier counts as none in a digest. -/
theorem assignmentSnapshotDigest_truthy (digest : String) (state : AssignmentState)
    (schedule : FrozenScheduleSnapshot) (screenIds : List String) (previousId : Option String) :
    assignmentSnapshotDigest P digest state schedule screenIds (truthyText previousId) =
      assignmentSnapshotDigest P digest state schedule screenIds previousId := by
  unfold assignmentSnapshotDigest assignmentSnapshotJson
  have idem : truthyText (truthyText previousId) = truthyText previousId := by
    unfold truthyText
    rw [Option.filter_filter]
    simp
  rw [idem]

theorem release?_named {releaseId organizationId : String} {stored : PublishedReleaseRow}
    (found : db.release? releaseId organizationId = some stored) :
    stored.id = releaseId ∧ stored.organizationId = organizationId := by
  have named := List.find?_some found
  simpa [Bool.and_eq_true, beq_iff_eq] using named

/-- A row is trusted exactly when its digests are those of its content. -/
theorem verified_iff {row : ReleaseAssignmentRow} {verified : ActiveOrdinaryRelease} :
    verifiedReleaseAssignmentDtos P db row = some verified ↔
      verified.assignment = releaseAssignmentDto row (db.targetsOf row) ∧
        ∃ stored, DigestsMatch P db row stored verified.release := by
  unfold verifiedReleaseAssignmentDtos
  cases found : db.release? row.releaseId row.organizationId with
  | none =>
    constructor
    · intro never
      cases never
    · rintro ⟨_, stored, digests⟩
      rw [digests.isRelease] at found
      cases found
  | some stored =>
    cases reads : publishedReleaseDto P stored (db.itemsOf stored) with
    | error message =>
      constructor
      · intro never
        simp [reads] at never
      · rintro ⟨_, stored', digests⟩
        have same := digests.isRelease
        rw [found] at same
        cases same
        rw [digests.reads] at reads
        cases reads
    | ok release =>
      obtain ⟨id, organizationId⟩ := release?_named found
      obtain ⟨id', organizationId', digest'⟩ := publishedReleaseDto_head reads
      have tested : hasValidStoredAssignmentDigest P (releaseAssignmentDto row (db.targetsOf row))
          release = true ↔ DigestsMatch P db row stored release := by
        unfold hasValidStoredAssignmentDigest hasValidStoredReleaseDigest releaseAssignmentDto
        simp only [Bool.and_eq_true, beq_iff_eq, assignmentSnapshotDigest_truthy, digest']
        constructor
        · rintro ⟨⟨_, valid⟩, digest⟩
          exact ⟨found, reads, valid, digest⟩
        · intro digests
          exact ⟨⟨⟨by rw [organizationId', organizationId], by rw [id', id]⟩, digests.release⟩,
            digests.digest⟩
      simp only [reads, Option.ite_none_right_eq_some, Option.some.injEq, tested]
      constructor
      · rintro ⟨digests, rfl⟩
        exact ⟨rfl, stored, digests⟩
      · obtain ⟨release', assignment⟩ := verified
        rintro ⟨rfl, stored', digests⟩
        have same := digests.isRelease
        rw [found] at same
        cases same
        have again := digests.reads
        rw [reads] at again
        cases again
        exact ⟨digests, rfl⟩

theorem DigestsMatch.verified {row : ReleaseAssignmentRow} {stored : PublishedReleaseRow}
    {release : PublishedReleaseRecord} (digests : DigestsMatch P db row stored release) :
    verifiedReleaseAssignmentDtos P db row =
      some { release, assignment := releaseAssignmentDto row (db.targetsOf row) } :=
  verified_iff.mpr ⟨rfl, stored, digests⟩

/-- The record of a row passes the tests before the window exactly when its columns do. -/
theorem mayShow_iff {screenId : String} {instant : Int} {row : ReleaseAssignmentRow} :
    mayShow screenId instant (releaseAssignmentDto row (db.targetsOf row)) = true ↔
      row.state = .assigned ∧ (∃ target ∈ db.targetsOf row, target.screenId = screenId) ∧
        row.enabled = true ∧ row.startsAt ≤ instant ∧
        ∀ endsAt, row.endsAt = some endsAt → instant < endsAt := by
  unfold mayShow beforeEnd releaseAssignmentDto targetScreenIds ScheduleColumns.schedule
  simp only [Bool.and_eq_true, beq_iff_eq, List.contains_iff_mem, List.mem_insertionSort,
    List.mem_map, decide_eq_true_eq, Option.all_eq_true, and_assoc]

/-- A row passes its own tests exactly when it is an intact row that is open for the screen. -/
theorem opensFor_iff_open {screenId : String} {instant : Int} {row : ReleaseAssignmentRow} :
    opensFor P db screenId instant row = true ↔
      ∃ stored release, OpenFor P db screenId instant row stored release := by
  constructor
  · intro opens
    obtain ⟨verified, valid⟩ := opensFor_verified opens
    obtain ⟨provenance, shows, window⟩ := (opensFor_iff valid).mp opens
    obtain ⟨record, stored, digests⟩ := verified_iff.mp valid
    rw [record] at shows window
    obtain ⟨assigned, targeted, enabled, started, notEnded⟩ := mayShow_iff.mp shows
    exact ⟨stored, verified.release, digests, assigned, provenance, targeted, enabled, started,
      notEnded, window⟩
  · rintro ⟨stored, release, isOpen⟩
    refine (opensFor_iff isOpen.verified).mpr ⟨isOpen.provenance, mayShow_iff.mpr ?_, isOpen.window⟩
    exact ⟨isOpen.assigned, isOpen.targeted, isOpen.enabled, isOpen.started, isOpen.notEnded⟩

/-- A successor of an intact row is valid exactly when it is the withdrawal of the row. -/
theorem isValidWithdrawalSuccessor_iff {row successor : ReleaseAssignmentRow}
    {stored : PublishedReleaseRow} {release : PublishedReleaseRecord}
    (digests : DigestsMatch P db row stored release) (assigned : row.state = .assigned) :
    isValidWithdrawalSuccessor P db row successor = true ↔
      WithdrawnBy P db stored row successor := by
  obtain ⟨_, _, sameDigest⟩ := publishedReleaseDto_head digests.reads
  unfold isValidWithdrawalSuccessor sameTargets
  rw [digests.verified]
  constructor
  · intro valid
    split at valid
    · cases valid
    · next fields =>
      simp only [Bool.or_eq_true, bne_iff_ne, ne_eq, not_or, Decidable.not_not] at fields
      obtain ⟨⟨⟨⟨⟨_, withdrawn⟩, follows⟩, organizationId⟩, releaseId⟩, scheduleId⟩ := fields
      cases verified : verifiedReleaseAssignmentDtos P db successor with
      | none =>
        rw [verified] at valid
        cases valid
      | some verified' =>
        simp only [verified, Bool.and_eq_true, beq_iff_eq, List.isPerm_iff] at valid
        obtain ⟨record, stored', digests'⟩ := verified_iff.mp verified
        have same := digests'.isRelease
        rw [releaseId, organizationId, digests.isRelease] at same
        cases same
        have own := digests'.digest
        rw [withdrawn, follows] at own
        refine ⟨withdrawn, follows, organizationId, releaseId, scheduleId, own, ?_, valid.2⟩
        rw [record, sameDigest] at valid
        exact valid.1
  · intro withdraws
    have digests' : DigestsMatch P db successor stored release :=
      { isRelease := by
          rw [withdraws.releaseId, withdraws.organizationId]
          exact digests.isRelease
        reads := digests.reads
        release := digests.release
        digest := by
          rw [withdraws.withdrawn, withdraws.follows]
          exact withdraws.digest }
    rw [digests'.verified, if_neg]
    · simp only [Bool.and_eq_true, beq_iff_eq, List.isPerm_iff, sameDigest]
      exact ⟨withdraws.expected, withdraws.targets⟩
    · simp [assigned, withdraws.withdrawn, withdraws.follows, withdraws.organizationId,
        withdraws.releaseId, withdraws.scheduleId]

theorem hasValidWithdrawalSuccessor_iff {row : ReleaseAssignmentRow}
    {stored : PublishedReleaseRow} {release : PublishedReleaseRecord}
    (digests : DigestsMatch P db row stored release) (assigned : row.state = .assigned) :
    hasValidWithdrawalSuccessor P db row = true ↔
      ∃ successor ∈ db.assignments, WithdrawnBy P db stored row successor := by
  unfold hasValidWithdrawalSuccessor Database.nextAssignmentsOf
  simp only [List.any_eq_true, List.mem_filter, Bool.and_eq_true, beq_iff_eq,
    isValidWithdrawalSuccessor_iff digests assigned]
  constructor
  · rintro ⟨successor, ⟨here, _⟩, withdraws⟩
    exact ⟨successor, here, withdraws⟩
  · rintro ⟨successor, here, withdraws⟩
    exact ⟨successor, ⟨here, withdraws.follows, withdraws.organizationId⟩, withdraws⟩

/-! ## The latest assignment of a schedule -/

/-- No row of the schedule is newer. -/
structure IsLatest (db : Database) (org scheduleId : String) (latest : ReleaseAssignmentRow) :
    Prop where
  stored : latest ∈ db.assignments
  tenant : latest.organizationId = org
  schedule : latest.scheduleId = scheduleId
  newest : ∀ row ∈ db.assignments, row.organizationId = org → row.scheduleId = scheduleId →
    row.createdAt ≤ latest.createdAt

/-- The row is not a digest-valid `ASSIGNED` row. -/
def IsBroken (P : Platform) (db : Database) (row : ReleaseAssignmentRow) : Prop :=
  ¬(row.state = .assigned ∧ (verifiedReleaseAssignmentDtos P db row).isSome = true)

def LatestIsBroken (P : Platform) (db : Database) (org scheduleId : String) : Prop :=
  ∃ latest, IsLatest db org scheduleId latest ∧ IsBroken P db latest

/-- A broken row is open for no screen. -/
theorem OpenFor.ne {screenId : String} {instant : Int} {row latest : ReleaseAssignmentRow}
    {stored : PublishedReleaseRow} {release : PublishedReleaseRecord}
    (isOpen : OpenFor P db screenId instant row stored release) (broken : IsBroken P db latest) :
    row ≠ latest := by
  rintro rfl
  apply broken
  refine ⟨isOpen.assigned, ?_⟩
  rw [isOpen.verified]
  rfl

/-- A screen gets a row of the schedule exactly when some row of it is open for the screen and no
row withdraws it. -/
theorem shown_iff {org screenId scheduleId : String} {instant : Int}
    {list : List ActiveOrdinaryRelease}
    (returned : activeOrdinaryReleases P db org screenId instant = .ok list) :
    (∃ chosen ∈ list, chosen.assignment.scheduleId = scheduleId) ↔
      ∃ row ∈ db.assignments, row.organizationId = org ∧ row.scheduleId = scheduleId ∧
        ∃ stored release, OpenFor P db screenId instant row stored release ∧
          ¬∃ successor ∈ db.assignments, WithdrawnBy P db stored row successor := by
  constructor
  · rintro ⟨chosen, isChosen, ofSchedule⟩
    obtain ⟨row, here, ofOrg, opens, standing, valid⟩ :=
      (activeOrdinaryReleases_mem returned chosen).mp isChosen
    obtain ⟨stored, release, isOpen⟩ := opensFor_iff_open.mp opens
    rw [(verified_spec valid).1] at ofSchedule
    refine ⟨row, here, ofOrg, ofSchedule, stored, release, isOpen, ?_⟩
    rw [← hasValidWithdrawalSuccessor_iff isOpen.toDigestsMatch isOpen.assigned, standing]
    exact Bool.false_ne_true
  · rintro ⟨row, here, ofOrg, ofSchedule, stored, release, isOpen, standing⟩
    rw [← hasValidWithdrawalSuccessor_iff isOpen.toDigestsMatch isOpen.assigned] at standing
    refine ⟨_, (activeOrdinaryReleases_mem returned _).mpr ⟨row, here, ofOrg, ?_,
      Bool.eq_false_of_not_eq_true standing, isOpen.verified⟩, ofSchedule⟩
    exact opensFor_iff_open.mpr ⟨stored, release, isOpen⟩

theorem namedAssignment_org {input : MediaDeliveryAuthorizationInput} {row : ReleaseAssignmentRow}
    (named : namedAssignment db input = some row) :
    row.organizationId = input.organizationId := by
  have found := List.find?_some named
  simp only [Bool.and_eq_true, beq_iff_eq] at found
  exact found.2

/-- The request names the digest of the row and an asset of its release. -/
structure AsksFor (P : Platform) (input : MediaDeliveryAuthorizationInput)
    (row : ReleaseAssignmentRow) (release : PublishedReleaseRecord) : Prop where
  size : hasAcceptedSize input = true
  digest : row.digestSha256 = input.assignmentDigestSha256
  asset : hasAsset P input release = true

theorem granted_iff {input : MediaDeliveryAuthorizationInput} {row : ReleaseAssignmentRow}
    (named : namedAssignment db input = some row) :
    authorizeMediaDelivery P db input = .ok true ↔
      ∃ stored release, OpenFor P db input.screenId input.instant row stored release ∧
        AsksFor P input row release ∧
        ¬∃ successor ∈ db.assignments, WithdrawnBy P db stored row successor := by
  rw [authorizeMediaDelivery_true named]
  constructor
  · rintro ⟨size, answered, opens, standing⟩
    obtain ⟨stored, release, isOpen⟩ := opensFor_iff_open.mp opens
    unfold answers at answered
    rw [isOpen.verified, Option.any_some, Bool.and_eq_true, beq_iff_eq] at answered
    refine ⟨stored, release, isOpen, ⟨size, answered.1, answered.2⟩, ?_⟩
    rw [← hasValidWithdrawalSuccessor_iff isOpen.toDigestsMatch isOpen.assigned, standing]
    exact Bool.false_ne_true
  · rintro ⟨stored, release, isOpen, asks, standing⟩
    rw [← hasValidWithdrawalSuccessor_iff isOpen.toDigestsMatch isOpen.assigned] at standing
    refine ⟨asks.size, ?_, opensFor_iff_open.mpr ⟨stored, release, isOpen⟩,
      Bool.eq_false_of_not_eq_true standing⟩
    unfold answers
    rw [isOpen.verified, Option.any_some, Bool.and_eq_true, beq_iff_eq]
    exact ⟨asks.digest, asks.asset⟩

/-- No older row of the schedule follows another one. -/
def OnlyLatestFollows (db : Database) (org scheduleId : String) (latest : ReleaseAssignmentRow) :
    Prop :=
  ∀ row ∈ db.assignments, row.organizationId = org → row.scheduleId = scheduleId →
    row ≠ latest → row.previousAssignmentId = none

/-- Then the latest row is the only one that can withdraw a row of the schedule. -/
theorem withdrawn_by_latest {org scheduleId : String} {latest row : ReleaseAssignmentRow}
    (isLatest : IsLatest db org scheduleId latest)
    (only : OnlyLatestFollows db org scheduleId latest) (ofOrg : row.organizationId = org)
    (ofSchedule : row.scheduleId = scheduleId) {stored : PublishedReleaseRow} :
    (∃ successor ∈ db.assignments, WithdrawnBy P db stored row successor) ↔
      WithdrawnBy P db stored row latest := by
  constructor
  · rintro ⟨successor, here, withdraws⟩
    by_cases newest : successor = latest
    · rw [← newest]
      exact withdraws
    · have first := only successor here (withdraws.organizationId.trans ofOrg)
        (withdraws.scheduleId.trans ofSchedule) newest
      rw [withdraws.follows] at first
      cases first
  · intro withdraws
    exact ⟨latest, isLatest.stored, withdraws⟩

/-- When the latest row of a schedule is broken, the schedule gives a screen nothing exactly when
each older row that is open for the screen has its complete withdrawal among the rows. A request
for an older row is refused exactly when the row is not open, is not what the request names, or
has its withdrawal. Where no older row follows another one, the withdrawal is the latest row. -/
theorem a_broken_latest_row_hides_its_schedule_iff_the_older_rows_are_withdrawn (P : Platform)
    (db : Database) (org scheduleId : String) (latest : ReleaseAssignmentRow)
    (isLatest : IsLatest db org scheduleId latest) (broken : IsBroken P db latest) :
    (∀ screenId instant list, activeOrdinaryReleases P db org screenId instant = .ok list →
      ((∀ chosen ∈ list, chosen.assignment.scheduleId ≠ scheduleId) ↔
        ∀ row ∈ db.assignments, row.organizationId = org → row.scheduleId = scheduleId →
          row ≠ latest → ∀ stored release, OpenFor P db screenId instant row stored release →
            ∃ successor ∈ db.assignments, WithdrawnBy P db stored row successor)) ∧
    (∀ input row, input.organizationId = org → namedAssignment db input = some row →
      row.scheduleId = scheduleId →
      (authorizeMediaDelivery P db input ≠ .ok true ↔
        (row ≠ latest → ∀ stored release,
          OpenFor P db input.screenId input.instant row stored release →
            AsksFor P input row release →
              ∃ successor ∈ db.assignments, WithdrawnBy P db stored row successor))) ∧
    (OnlyLatestFollows db org scheduleId latest →
      (∀ screenId instant list, activeOrdinaryReleases P db org screenId instant = .ok list →
        ((∀ chosen ∈ list, chosen.assignment.scheduleId ≠ scheduleId) ↔
          ∀ row ∈ db.assignments, row.organizationId = org → row.scheduleId = scheduleId →
            row ≠ latest → ∀ stored release, OpenFor P db screenId instant row stored release →
              WithdrawnBy P db stored row latest)) ∧
      (∀ input row, input.organizationId = org → namedAssignment db input = some row →
        row.scheduleId = scheduleId →
        (authorizeMediaDelivery P db input ≠ .ok true ↔
          (row ≠ latest → ∀ stored release,
            OpenFor P db input.screenId input.instant row stored release →
              AsksFor P input row release → WithdrawnBy P db stored row latest)))) := by
  have lists : ∀ screenId instant list,
      activeOrdinaryReleases P db org screenId instant = .ok list →
      ((∀ chosen ∈ list, chosen.assignment.scheduleId ≠ scheduleId) ↔
        ∀ row ∈ db.assignments, row.organizationId = org → row.scheduleId = scheduleId →
          row ≠ latest → ∀ stored release, OpenFor P db screenId instant row stored release →
            ∃ successor ∈ db.assignments, WithdrawnBy P db stored row successor) := by
    intro screenId instant list returned
    have shown : (∃ chosen ∈ list, chosen.assignment.scheduleId = scheduleId) ↔ _ :=
      shown_iff returned
    constructor
    · intro dark row here ofOrg ofSchedule _ stored release isOpen
      by_contra standing
      obtain ⟨chosen, isChosen, same⟩ :=
        shown.mpr ⟨row, here, ofOrg, ofSchedule, stored, release, isOpen, standing⟩
      exact dark chosen isChosen same
    · intro withdrawn chosen isChosen same
      obtain ⟨row, here, ofOrg, ofSchedule, stored, release, isOpen, standing⟩ :=
        shown.mp ⟨chosen, isChosen, same⟩
      exact standing (withdrawn row here ofOrg ofSchedule (isOpen.ne broken) stored release isOpen)
  have requests : ∀ input row, input.organizationId = org →
      namedAssignment db input = some row → row.scheduleId = scheduleId →
      (authorizeMediaDelivery P db input ≠ .ok true ↔
        (row ≠ latest → ∀ stored release,
          OpenFor P db input.screenId input.instant row stored release →
            AsksFor P input row release →
              ∃ successor ∈ db.assignments, WithdrawnBy P db stored row successor)) := by
    intro input row _ named _
    rw [ne_eq, granted_iff named]
    constructor
    · intro refused _ stored release isOpen asks
      by_contra standing
      exact refused ⟨stored, release, isOpen, asks, standing⟩
    · rintro withdrawn ⟨stored, release, isOpen, asks, standing⟩
      exact standing (withdrawn (isOpen.ne broken) stored release isOpen asks)
  refine ⟨lists, requests, ?_⟩
  intro only
  constructor
  · intro screenId instant list returned
    rw [lists screenId instant list returned]
    constructor
    · intro withdrawn row here ofOrg ofSchedule older stored release isOpen
      rw [← withdrawn_by_latest isLatest only ofOrg ofSchedule]
      exact withdrawn row here ofOrg ofSchedule older stored release isOpen
    · intro withdrawn row here ofOrg ofSchedule older stored release isOpen
      rw [withdrawn_by_latest isLatest only ofOrg ofSchedule]
      exact withdrawn row here ofOrg ofSchedule older stored release isOpen
  · intro input row ofOrg named ofSchedule
    have tenant : row.organizationId = org := (namedAssignment_org named).trans ofOrg
    rw [requests input row ofOrg named ofSchedule]
    simp only [withdrawn_by_latest isLatest only tenant ofSchedule]


/-! ## A withdrawal whose digest was altered -/

def posterItemRow : FrozenReleaseItemRow :=
  { releaseId := uuid 4, organizationId := "acme", sourcePlaylistItemId := posterItem.id,
    sourceAssetId := posterItem.asset.id, assetName := posterItem.asset.name, assetKind := .IMAGE,
    assetMimeType := posterItem.asset.mimeType, assetUrl := posterItem.asset.url,
    assetStorageKey := "organizations/acme/assets/" ++ uuid 0 ++ "/" ++ posterChecksum,
    assetChecksumSha256 := posterChecksum, assetSizeBytes := 2048,
    assetCreatedAt := mondayAt 9, assetExpiresAt := none, position := 0, durationSeconds := 15 }

def posterReleaseRow : PublishedReleaseRow :=
  { id := uuid 4, organizationId := "acme", sourcePlaylistId := uuid 1,
    sourcePlaylistName := "Lobby", sourcePlaylistDescription := "",
    sourcePlaylistUpdatedAt := mondayAt 9, digestSha256 := releaseDigest, createdById := "ann",
    createdAt := mondayAt 9 }

def posterCandidateRow : ReleaseCandidateRow :=
  { workingColumns with
    id := uuid 5, organizationId := "acme", releaseId := uuid 4, state := .published,
    digestSha256 := candidateDigest, authorUserId := "ann",
    policyVersion := 1, expiresAt := mondayAt 24, submittedAt := some (mondayAt 9 + 60000),
    approvedAt := some (mondayAt 9 + 60000), publishedAt := some (mondayAt 9 + 120000),
    publicationId := some (uuid 9), createdAt := mondayAt 9 }

def posterPublicationRow : ReleaseCandidatePublicationRow :=
  { id := uuid 9, organizationId := "acme", candidateId := uuid 5, scheduleId := uuid 7,
    assignmentId := uuid 8, publisherUserId := "ann", publishedAt := mondayAt 9 + 120000 }

/-- The digest of the withdrawal of the poster. -/
def posterWithdrawalDigest : String :=
  "f20507063acc6c0601e67944dad88d58868f6dbd4c20020f215fafd83bfdcc84"

def posterAssignmentRow : ReleaseAssignmentRow :=
  { workingColumns with
    id := uuid 8, organizationId := "acme", releaseId := uuid 4, scheduleId := uuid 7,
    state := .assigned, digestSha256 := assignmentDigest, previousAssignmentId := none,
    createdById := "ann", approvalRequired := true,
    candidatePublicationId := some (uuid 9),
    expectedWithdrawalDigestSha256 := some posterWithdrawalDigest,
    createdAt := mondayAt 9 + 120000 }

/-- Its digest is the one of the assignment, and not of a withdrawal. -/
def alteredWithdrawalRow : ReleaseAssignmentRow :=
  { posterAssignmentRow with
    id := uuid 10, state := .withdrawn, previousAssignmentId := some (uuid 8),
    approvalRequired := true, candidatePublicationId := none,
    expectedWithdrawalDigestSha256 := none, createdAt := mondayAt 9 + 180000 }

def lobbyTarget (ownerId : String) : TargetRow :=
  { ownerId, organizationId := "acme", screenId := uuid 3, liveScreenId := some (uuid 3),
    liveScreenOrganizationId := some "acme" }

def alteredWithdrawal : Database :=
  { users := [], screens := [{ id := uuid 3, organizationId := "acme" }], media := [],
    playlists := [], schedules := [], releases := [posterReleaseRow], items := [posterItemRow],
    candidates := [posterCandidateRow], candidateTargets := [lobbyTarget (uuid 5)],
    approvals := [], publications := [posterPublicationRow],
    assignments := [posterAssignmentRow, alteredWithdrawalRow],
    assignmentTargets := [lobbyTarget (uuid 8), lobbyTarget (uuid 10)], idempotencyRecords := [],
    idsDrawn := 11 }

def schedulesOf : Except String (List ActiveOrdinaryRelease) → List String
  | .ok list => list.map (·.assignment.scheduleId)
  | .error _ => []

set_option maxRecDepth 10000 in
/-- The withdrawal is the latest row of its schedule and its digest is not of its content. The
assignment before it is shown again. -/
theorem an_altered_withdrawal_brings_the_poster_back :
    LatestIsBroken cms alteredWithdrawal "acme" (uuid 7) ∧
      ¬∀ screenId instant list,
        activeOrdinaryReleases cms alteredWithdrawal "acme" screenId instant = .ok list →
          ∀ chosen ∈ list, chosen.assignment.scheduleId ≠ uuid 7 := by
  constructor
  · have newest : ∀ row ∈ alteredWithdrawal.assignments,
        row.createdAt ≤ alteredWithdrawalRow.createdAt := by decide
    refine ⟨alteredWithdrawalRow, ⟨by simp [alteredWithdrawal], rfl, rfl, ?_⟩, ?_⟩
    · intro row here _ _
      exact newest row here
    · rintro ⟨assigned, _⟩
      cases assigned
  · intro dark
    have shown : uuid 7 ∈ schedulesOf (activeOrdinaryReleases cms alteredWithdrawal "acme" (uuid 3)
        (mondayAt 10)) := by decide +kernel
    cases returned : activeOrdinaryReleases cms alteredWithdrawal "acme" (uuid 3)
        (mondayAt 10) with
    | error message =>
      rw [returned] at shown
      cases shown
    | ok list =>
      rw [returned] at shown
      obtain ⟨chosen, isChosen, same⟩ := List.mem_map.mp shown
      exact dark (uuid 3) (mondayAt 10) list returned chosen isChosen same

/-! ## A withdrawal that counts -/

def posterWithdrawalRow : ReleaseAssignmentRow :=
  { alteredWithdrawalRow with digestSha256 := posterWithdrawalDigest }

def withdrawnPoster : Database :=
  { alteredWithdrawal with assignments := [posterAssignmentRow, posterWithdrawalRow] }

/-- The hash of `cms`, and the one of the withdrawal. -/
def withdrawals : Platform :=
  { cms with
    sha256 := fun json =>
      if json = assignmentSnapshotJson cmsTexts releaseDigest .withdrawn workingHours [uuid 3]
        (some (uuid 8)) then posterWithdrawalDigest
      else cms.sha256 json }

/-- The lobby asks for the poster at ten. -/
def posterRequest : MediaDeliveryAuthorizationInput :=
  { organizationId := "acme", screenId := uuid 3, assignmentId := uuid 8,
    assignmentDigestSha256 := assignmentDigest, assetId := posterItemRow.sourceAssetId,
    storageKey := posterItemRow.assetStorageKey,
    checksumSha256 := posterItemRow.assetChecksumSha256, sizeBytes := 2048,
    instant := mondayAt 10 }

set_option maxRecDepth 10000 in
theorem withdrawnPoster_tests :
    opensFor withdrawals withdrawnPoster (uuid 3) (mondayAt 10) posterAssignmentRow = true ∧
      isValidWithdrawalSuccessor withdrawals withdrawnPoster posterAssignmentRow
        posterWithdrawalRow = true ∧
      answers withdrawals withdrawnPoster posterRequest posterAssignmentRow = true ∧
      (activeOrdinaryReleases withdrawals withdrawnPoster "acme" (uuid 3)
        (mondayAt 10)).toBool = true := by
  decide +kernel

/-- The poster is open for the lobby at ten, and the latest row is its withdrawal. The lobby gets
nothing of the schedule, and no poster. -/
theorem the_withdrawn_poster_stays_dark :
    (∃ stored release,
      OpenFor withdrawals withdrawnPoster (uuid 3) (mondayAt 10) posterAssignmentRow stored
        release ∧
      WithdrawnBy withdrawals withdrawnPoster stored posterAssignmentRow posterWithdrawalRow) ∧
    (∃ list,
      activeOrdinaryReleases withdrawals withdrawnPoster "acme" (uuid 3) (mondayAt 10) = .ok list ∧
      ∀ chosen ∈ list, chosen.assignment.scheduleId ≠ uuid 7) ∧
    authorizeMediaDelivery withdrawals withdrawnPoster posterRequest ≠ .ok true := by
  obtain ⟨opens, valid, _, returns⟩ := withdrawnPoster_tests
  obtain ⟨stored, release, isOpen⟩ := opensFor_iff_open.mp opens
  have withdraws := (isValidWithdrawalSuccessor_iff isOpen.toDigestsMatch isOpen.assigned).mp valid
  have newest : ∀ row ∈ withdrawnPoster.assignments,
      row.createdAt ≤ posterWithdrawalRow.createdAt := by decide
  have isLatest : IsLatest withdrawnPoster "acme" (uuid 7) posterWithdrawalRow :=
    ⟨by simp [withdrawnPoster], rfl, rfl, fun row here _ _ => newest row here⟩
  have broken : IsBroken withdrawals withdrawnPoster posterWithdrawalRow := by
    rintro ⟨assigned, _⟩
    cases assigned
  have older : ∀ row ∈ withdrawnPoster.assignments, row ≠ posterWithdrawalRow →
      row = posterAssignmentRow := by
    intro row here notLatest
    simpa [withdrawnPoster, notLatest] using here
  have only : OnlyLatestFollows withdrawnPoster "acme" (uuid 7) posterWithdrawalRow := by
    intro row here _ _ notLatest
    rw [older row here notLatest]
    rfl
  -- the release of an open row is the one that its release identifier names
  have withdrawn : ∀ row ∈ withdrawnPoster.assignments, row ≠ posterWithdrawalRow →
      ∀ stored release, OpenFor withdrawals withdrawnPoster (uuid 3) (mondayAt 10) row stored
        release → WithdrawnBy withdrawals withdrawnPoster stored row posterWithdrawalRow := by
    intro row here notLatest stored' release' isOpen'
    cases older row here notLatest
    have same := isOpen'.isRelease
    rw [isOpen.isRelease] at same
    cases same
    exact withdraws
  obtain ⟨_, _, byLatest⟩ :=
    a_broken_latest_row_hides_its_schedule_iff_the_older_rows_are_withdrawn withdrawals
      withdrawnPoster "acme" (uuid 7) posterWithdrawalRow isLatest broken
  obtain ⟨lists, requests⟩ := byLatest only
  refine ⟨⟨stored, release, isOpen, withdraws⟩, ?_, ?_⟩
  · cases returned : activeOrdinaryReleases withdrawals withdrawnPoster "acme" (uuid 3)
        (mondayAt 10) with
    | error message =>
      rw [returned] at returns
      cases returns
    | ok list =>
      refine ⟨list, rfl, (lists _ _ list returned).mpr ?_⟩
      intro row here _ _ notLatest stored release isOpen
      exact withdrawn row here notLatest stored release isOpen
  · have named : namedAssignment withdrawnPoster posterRequest = some posterAssignmentRow := rfl
    refine (requests posterRequest posterAssignmentRow rfl named rfl).mpr ?_
    intro notLatest stored release isOpen _
    exact withdrawn posterAssignmentRow (by simp [withdrawnPoster]) notLatest stored release isOpen

end screengoblin.prisma
