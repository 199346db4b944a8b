-- Each command keeps the rows sound: it adds rows that verify, and it takes away or changes no
-- row that another row is read back with.
import ScreenGoblin.PrismaSnapshots

open js collections screengoblin.schedule screengoblin.server

namespace screengoblin.prisma

variable {P : Platform} {db : Database}

/-! ## Rows with a new owner -/

/-- A search among rows that belong to older ones finds no row of a new owner, and a search for
a new owner finds its rows alone. -/
theorem filter_old {α : Type} (owner : α → String) {old new : List α} {test : α → Bool}
    {n : Nat} {ownerId : String} (drawn : DrawnBefore P n ownerId)
    (owned : ∀ row ∈ new, owner row = P.freshId (n + k))
    (byOwner : ∀ row, test row = true → owner row = ownerId) :
    (old ++ new).filter test = old.filter test := by
  have none : new.filter test = [] := by
    rw [List.filter_eq_nil_iff]
    intro row member passes
    apply drawn.ne k
    rw [← byOwner row passes]
    exact owned row member
  rw [List.filter_append, none, List.append_nil]

theorem filter_new {α : Type} (owner : α → String) {old new : List α} {test : α → Bool}
    {n : Nat} (drawn : ∀ row ∈ old, DrawnBefore P n (owner row))
    (passes : ∀ row ∈ new, test row = true)
    (byOwner : ∀ row, test row = true → owner row = P.freshId (n + k)) :
    (old ++ new).filter test = new := by
  have none : old.filter test = [] := by
    rw [List.filter_eq_nil_iff]
    intro row member isNew
    exact (drawn row member).ne k (byOwner row isNew)
  rw [List.filter_append, none, List.nil_append, List.filter_eq_self]
  exact passes

/-! ## A new release -/

def addRelease (release : PublishedReleaseRow) (rows : List FrozenReleaseItemRow)
    (db : Database) : Database :=
  { db with releases := db.releases ++ [release], items := db.items ++ rows
            idsDrawn := db.idsDrawn + 1 }

section
variable {release : PublishedReleaseRow} {rows : List FrozenReleaseItemRow}

theorem releaseIds_addRelease (sound : Sound P db) (named : release.id = P.freshId db.idsDrawn) :
    KeysUnique PublishedReleaseRow.id (addRelease release rows db).releases := by
  apply sound.releaseIds.append
  intro other here
  rw [named]
  exact (sound.releasesDrawn other here).ne 0

theorem itemsOf_addRelease (sound : Sound P db) (named : release.id = P.freshId db.idsDrawn)
    (owned : ∀ row ∈ rows, row.releaseId = release.id) {r : PublishedReleaseRow}
    (here : r ∈ db.releases) : (addRelease release rows db).itemsOf r = db.itemsOf r := by
  have owned' : ∀ row ∈ rows, row.releaseId = P.freshId (db.idsDrawn + 0) := by
    intro row member
    rw [owned row member, named]
    rfl
  unfold Database.itemsOf addRelease
  dsimp only
  rw [filter_old FrozenReleaseItemRow.releaseId (sound.releasesDrawn r here) owned']
  intro row passes
  simp only [Bool.and_eq_true, beq_iff_eq] at passes
  exact passes.1

theorem release?_addRelease (sound : Sound P db) (named : release.id = P.freshId db.idsDrawn)
    {releaseId org : String} {r : PublishedReleaseRow}
    (found : db.release? releaseId org = some r) :
    (addRelease release rows db).release? releaseId org = some r :=
  release?_stays sound.releaseIds (releaseIds_addRelease sound named) found
    (List.mem_append_left _ ((release?_iff sound.releaseIds).mp found).1)

theorem Sound.addRelease (sound : Sound P db) (named : release.id = P.freshId db.idsDrawn)
    (owned : ∀ row ∈ rows, row.releaseId = release.id)
    (verifies : ReleaseVerifies P (addRelease release rows db) release) :
    Sound P (addRelease release rows db) := by
  have items : ∀ r ∈ db.releases,
      (prisma.addRelease release rows db).itemsOf r = db.itemsOf r :=
    fun r here => itemsOf_addRelease sound named owned here
  have stays : ∀ {releaseId org r}, db.release? releaseId org = some r →
      (prisma.addRelease release rows db).release? releaseId org = some r :=
    fun found => release?_addRelease sound named found
  constructor
  case releaseIds => exact releaseIds_addRelease sound named
  case candidateIds => exact sound.candidateIds
  case assignmentIds => exact sound.assignmentIds
  case releasesDrawn =>
    intro r hr
    rcases List.mem_append.mp hr with old | new
    · exact (sound.releasesDrawn r old).mono (Nat.le_succ _)
    · rw [List.mem_singleton.mp new, named]
      exact drawn_fresh P (Nat.lt_succ_self _)
  case itemsDrawn =>
    intro row member
    rcases List.mem_append.mp member with old | new
    · exact (sound.itemsDrawn row old).mono (Nat.le_succ _)
    · rw [owned row new, named]
      exact drawn_fresh P (Nat.lt_succ_self _)
  case candidatesDrawn => exact fun c hc => (sound.candidatesDrawn c hc).mono (Nat.le_succ _)
  case candidateTargetsDrawn =>
    exact fun t ht => (sound.candidateTargetsDrawn t ht).mono (Nat.le_succ _)
  case assignmentsDrawn => exact fun a ha => (sound.assignmentsDrawn a ha).mono (Nat.le_succ _)
  case assignmentTargetsDrawn =>
    exact fun t ht => (sound.assignmentTargetsDrawn t ht).mono (Nat.le_succ _)
  case releases =>
    intro r hr
    rcases List.mem_append.mp hr with old | new
    · exact (sound.releases r old).congr (items r old)
    · rw [List.mem_singleton.mp new]
      exact verifies
  case candidates =>
    intro c hc
    obtain ⟨r, good⟩ := sound.candidates c hc
    exact ⟨r, good.congr (stays good.isRelease) rfl⟩
  case assignments =>
    intro a ha
    obtain ⟨r, good⟩ := sound.assignments a ha
    exact ⟨r, good.congr (stays good.isRelease) id rfl⟩
  case withdrawals =>
    intro a ha previousId named
    obtain ⟨previous, here, isPrevious, withdraws⟩ := sound.withdrawals a ha previousId named
    exact ⟨previous, here, isPrevious, withdraws.congr withdraws.targets⟩

end

/-- The rows of a snapshot read back as its items, in order. -/
theorem items_read_back {org releaseId : String} {items : List FrozenReleaseItem}
    {rows : List FrozenReleaseItemRow} (storable : ∀ item ∈ items, Storable P item.asset)
    (made : items.mapM (frozenItemRow P org releaseId) = .ok rows) :
    rows.mapM (frozenItemDto P) = .ok items ∧
      rows.map (·.position) = items.map (·.position) ∧
      ∀ row ∈ rows, row.releaseId = releaseId ∧ row.organizationId = org := by
  rw [mapM_ok_iff] at made ⊢
  induction made with
  | nil => simp
  | @cons item row rest others isRow _ ih =>
    obtain ⟨read, positions, owned⟩ := ih fun later member => storable later (by simp [member])
    obtain ⟨release, tenant, position⟩ := frozenItemRow_fields isRow
    refine ⟨.cons (frozenItemDto_row (storable item (by simp)) isRow) read, ?_, ?_⟩
    · simp [position, positions]
    · intro other member
      rcases List.mem_cons.mp member with rfl | member
      · exact ⟨release, tenant⟩
      · exact owned other member

theorem publishedReleaseDto_ok (release : PublishedReleaseRow)
    {rows : List FrozenReleaseItemRow} {items : List FrozenReleaseItem}
    (read : rows.mapM (frozenItemDto P) = .ok items) :
    ∃ record, publishedReleaseDto P release rows = .ok record ∧
      record.digestSha256 = release.digestSha256 ∧
      canonicalStoredReleaseSnapshot record =
        { sourcePlaylistId := release.sourcePlaylistId,
          sourcePlaylistUpdatedAt := release.sourcePlaylistUpdatedAt,
          playlistName := release.sourcePlaylistName,
          playlistDescription := release.sourcePlaylistDescription, items := items } := by
  unfold publishedReleaseDto
  rw [read]
  exact ⟨_, rfl, rfl, rfl⟩

/-- A new release is the snapshot that it was made of. -/
theorem newRelease_verifies (sound : Sound P db) {org actorUserId : String} {timestamp : Int}
    {snapshot : CanonicalReleaseSnapshot} {rows : List FrozenReleaseItemRow}
    (frozen : Frozen P snapshot.items)
    (made : snapshot.items.mapM (frozenItemRow P org (P.freshId db.idsDrawn)) = .ok rows) :
    ReleaseVerifies P
      (addRelease (newReleaseRow P db org actorUserId timestamp snapshot) rows db)
      (newReleaseRow P db org actorUserId timestamp snapshot) := by
  obtain ⟨read, positions, owned⟩ := items_read_back frozen.storable made
  have ofRelease : (db.items ++ rows).filter (fun item =>
      item.releaseId == P.freshId db.idsDrawn && item.organizationId == org) = rows := by
    apply filter_new (k := 0) FrozenReleaseItemRow.releaseId sound.itemsDrawn
    · intro row member
      obtain ⟨release, tenant⟩ := owned row member
      simp [release, tenant]
    · intro row passes
      simp only [Bool.and_eq_true, beq_iff_eq] at passes
      exact passes.1
  have ordered : rows.Pairwise fun a b => a.position ≤ b.position := by
    have sorted : (snapshot.items.map (·.position)).Pairwise (· ≤ ·) :=
      List.pairwise_map.mpr frozen.ordered
    rw [← positions] at sorted
    exact List.pairwise_map.mp sorted
  have items : (addRelease (newReleaseRow P db org actorUserId timestamp snapshot) rows
      db).itemsOf (newReleaseRow P db org actorUserId timestamp snapshot) = rows := by
    show List.insertionSort _ ((db.items ++ rows).filter fun item =>
      item.releaseId == P.freshId db.idsDrawn && item.organizationId == org) = rows
    rw [ofRelease]
    exact ordered.insertionSort_eq
  obtain ⟨record, dto, digest, content⟩ := publishedReleaseDto_ok
    (newReleaseRow P db org actorUserId timestamp snapshot) read
  refine ⟨record, ?_, ?_⟩
  · rw [items]
    exact dto
  · unfold hasValidStoredReleaseDigest
    rw [content, digest, beq_iff_eq]
    rfl

theorem releaseFor_spec (sound : Sound P db) {org actorUserId : String} {timestamp : Int}
    {snapshot : CanonicalReleaseSnapshot} {release : PublishedReleaseRow} {after : Database}
    (frozen : Frozen P snapshot.items)
    (made : releaseFor P org actorUserId timestamp snapshot db = .ok (release, after)) :
    Sound P after ∧ after.release? release.id org = some release ∧
      release.digestSha256 = releaseSnapshotDigest P snapshot := by
  unfold releaseFor at made
  cases found : db.releases.find? fun release =>
      release.organizationId == org &&
        release.digestSha256 == releaseSnapshotDigest P snapshot with
  | some held =>
    rw [found] at made
    cases made
    have named := List.find?_some found
    simp only [Bool.and_eq_true, beq_iff_eq] at named
    refine ⟨sound, ?_, named.2⟩
    rw [release?_iff sound.releaseIds]
    exact ⟨List.mem_of_find?_eq_some found, rfl, named.1⟩
  | none =>
    rw [found] at made
    dsimp only at made
    simp only [bind_ok] at made
    obtain ⟨rows, written, same⟩ := made
    cases same
    have each : snapshot.items.mapM (frozenItemRow P org (P.freshId db.idsDrawn)) = .ok rows :=
      threwAs_ok.mp written
    have owned := (items_read_back frozen.storable each).2.2
    have sound' : Sound P (prisma.addRelease
        (newReleaseRow P db org actorUserId timestamp snapshot) rows db) :=
      sound.addRelease rfl (fun row member => (owned row member).1)
        (newRelease_verifies sound frozen each)
    refine ⟨sound', ?_, rfl⟩
    have here : newReleaseRow P db org actorUserId timestamp snapshot ∈
        (prisma.addRelease (newReleaseRow P db org actorUserId timestamp snapshot)
          rows db).releases := List.mem_append_right _ (List.mem_singleton_self _)
    exact (release?_iff sound'.releaseIds).mpr ⟨here, rfl, rfl⟩

/-! ## A new candidate, and a change of a candidate -/

theorem liveTargets_screens (org ownerId : String) (screenIds : List String) :
    (liveTargets org ownerId screenIds).map (·.screenId) = screenIds := by
  simp [liveTargets, Function.comp_def]

theorem targetScreenIds_liveTargets (org ownerId : String) (screenIds : List String) :
    targetScreenIds (liveTargets org ownerId screenIds) = screenIds.insertionSort TextLe := by
  unfold targetScreenIds
  rw [liveTargets_screens]

theorem canonicalScreenIds_sorted (screenIds : List String) :
    (canonicalScreenIds screenIds).insertionSort TextLe = canonicalScreenIds screenIds :=
  (List.pairwise_insertionSort TextLe screenIds.dedup).insertionSort_eq

theorem candidateTargetsOf_addCandidate (sound : Sound P db) {org : String}
    {screenIds : List String} {candidate : ReleaseCandidateRow}
    (named : candidate.id = P.freshId db.idsDrawn) {c : ReleaseCandidateRow}
    (here : c ∈ db.candidates) :
    (addCandidate org screenIds candidate db).candidateTargetsOf c = db.candidateTargetsOf c := by
  apply filter_old (k := 0) TargetRow.ownerId (sound.candidatesDrawn c here)
  · intro target member
    obtain ⟨screenId, _, rfl⟩ := List.mem_map.mp member
    exact named
  · intro target passes
    simp only [Bool.and_eq_true, beq_iff_eq] at passes
    exact passes.1

theorem Sound.addCandidate (sound : Sound P db) {org : String} {screenIds : List String}
    {candidate : ReleaseCandidateRow} {release : PublishedReleaseRow}
    (named : candidate.id = P.freshId db.idsDrawn) (tenant : candidate.organizationId = org)
    (isRelease : db.release? candidate.releaseId org = some release)
    (policy : candidate.policyVersion = 1)
    (digest : candidate.digestSha256 = releaseCandidateDigest P release.digestSha256
      candidate.schedule (canonicalScreenIds screenIds) candidate.expiresAt) :
    Sound P (addCandidate org screenIds candidate db) := by
  have owned : ∀ target ∈ liveTargets org candidate.id (canonicalScreenIds screenIds),
      target.ownerId = P.freshId (db.idsDrawn + 0) := by
    intro target member
    obtain ⟨screenId, _, rfl⟩ := List.mem_map.mp member
    exact named
  have old : ∀ c ∈ db.candidates,
      (prisma.addCandidate org screenIds candidate db).candidateTargetsOf c =
        db.candidateTargetsOf c :=
    fun c here => candidateTargetsOf_addCandidate sound named here
  have new : (prisma.addCandidate org screenIds candidate db).candidateTargetsOf candidate =
      liveTargets org candidate.id (canonicalScreenIds screenIds) := by
    apply filter_new (k := 0) TargetRow.ownerId sound.candidateTargetsDrawn
    · intro target member
      obtain ⟨screenId, _, rfl⟩ := List.mem_map.mp member
      simp [tenant]
    · intro target passes
      simp only [Bool.and_eq_true, beq_iff_eq] at passes
      rw [passes.1, named]
      rfl
  constructor
  case releaseIds => exact sound.releaseIds
  case candidateIds =>
    apply sound.candidateIds.append
    intro other here
    rw [named]
    exact (sound.candidatesDrawn other here).ne 0
  case assignmentIds => exact sound.assignmentIds
  case releasesDrawn => exact fun r hr => (sound.releasesDrawn r hr).mono (Nat.le_succ _)
  case itemsDrawn => exact fun i hi => (sound.itemsDrawn i hi).mono (Nat.le_succ _)
  case candidatesDrawn =>
    intro c hc
    rcases List.mem_append.mp hc with hc | hc
    · exact (sound.candidatesDrawn c hc).mono (Nat.le_succ _)
    · rw [List.mem_singleton.mp hc, named]
      exact drawn_fresh P (Nat.lt_succ_self _)
  case candidateTargetsDrawn =>
    intro t ht
    rcases List.mem_append.mp ht with ht | ht
    · exact (sound.candidateTargetsDrawn t ht).mono (Nat.le_succ _)
    · rw [owned t ht]
      exact drawn_fresh P (Nat.lt_succ_self _)
  case assignmentsDrawn => exact fun a ha => (sound.assignmentsDrawn a ha).mono (Nat.le_succ _)
  case assignmentTargetsDrawn =>
    exact fun t ht => (sound.assignmentTargetsDrawn t ht).mono (Nat.le_succ _)
  case releases => exact fun r hr => (sound.releases r hr).congr rfl
  case candidates =>
    intro c hc
    rcases List.mem_append.mp hc with hc | hc
    · obtain ⟨r, good⟩ := sound.candidates c hc
      refine ⟨r, good.congr good.isRelease ?_⟩
      rw [old c hc]
    · rw [List.mem_singleton.mp hc]
      refine ⟨release, ?_, policy, ?_⟩
      · rw [tenant]
        exact isRelease
      · rw [new, targetScreenIds_liveTargets, canonicalScreenIds_sorted]
        exact digest
  case assignments =>
    intro a ha
    obtain ⟨r, good⟩ := sound.assignments a ha
    exact ⟨r, good.congr good.isRelease id rfl⟩
  case withdrawals =>
    intro a ha previousId named
    obtain ⟨previous, here, isPrevious, withdraws⟩ := sound.withdrawals a ha previousId named
    exact ⟨previous, here, isPrevious, withdraws.congr withdraws.targets⟩

/-- The change of a candidate leaves its snapshot alone. -/
structure KeepsSnapshot (change : ReleaseCandidateRow → ReleaseCandidateRow) : Prop where
  id : ∀ c, (change c).id = c.id
  organizationId : ∀ c, (change c).organizationId = c.organizationId
  releaseId : ∀ c, (change c).releaseId = c.releaseId
  digest : ∀ c, (change c).digestSha256 = c.digestSha256
  schedule : ∀ c, (change c).schedule = c.schedule
  policy : ∀ c, (change c).policyVersion = c.policyVersion
  expiresAt : ∀ c, (change c).expiresAt = c.expiresAt

theorem keepsSnapshot_submitted (timestamp : Int) : KeepsSnapshot (submitted timestamp) := by
  constructor <;> exact fun _ => rfl

theorem keepsSnapshot_approved (timestamp : Int) : KeepsSnapshot (approved timestamp) := by
  constructor <;> exact fun _ => rfl

theorem keepsSnapshot_published (P : Platform) (db : Database) (timestamp : Int) :
    KeepsSnapshot (published P db timestamp) := by
  constructor <;> exact fun _ => rfl

theorem Sound.updateCandidate (sound : Sound P db) (candidateId : String)
    {change : ReleaseCandidateRow → ReleaseCandidateRow} (keeps : KeepsSnapshot change) :
    Sound P (updateCandidate candidateId change db) := by
  constructor
  case candidateIds => exact sound.candidateIds.changeWhere _ keeps.id
  case candidatesDrawn =>
    intro c hc
    rcases mem_changeWhere.mp hc with ⟨b, hb, rfl⟩
    split
    · rw [keeps.id]
      exact sound.candidatesDrawn b hb
    · exact sound.candidatesDrawn b hb
  case candidates =>
    intro c hc
    rcases mem_changeWhere.mp hc with ⟨b, hb, rfl⟩
    obtain ⟨r, good⟩ := sound.candidates b hb
    refine ⟨r, ?_⟩
    split
    · refine ⟨?_, ?_, ?_⟩
      · rw [keeps.releaseId, keeps.organizationId]
        exact good.isRelease
      · rw [keeps.policy]
        exact good.policy
      · have targets : (prisma.updateCandidate candidateId change db).candidateTargetsOf
            (change b) = db.candidateTargetsOf b := by
          unfold Database.candidateTargetsOf
          rw [keeps.id, keeps.organizationId]
          rfl
        rw [keeps.digest, keeps.schedule, keeps.expiresAt, targets]
        exact good.digest
    · exact good.congr good.isRelease rfl
  case assignments =>
    intro a ha
    obtain ⟨r, good⟩ := sound.assignments a ha
    exact ⟨r, good.congr good.isRelease id rfl⟩
  case withdrawals =>
    intro a ha previousId named
    obtain ⟨previous, here, isPrevious, withdraws⟩ := sound.withdrawals a ha previousId named
    exact ⟨previous, here, isPrevious, withdraws.congr withdraws.targets⟩
  case releases => exact fun r hr => (sound.releases r hr).congr rfl
  case releaseIds => exact sound.releaseIds
  case assignmentIds => exact sound.assignmentIds
  case releasesDrawn => exact sound.releasesDrawn
  case itemsDrawn => exact sound.itemsDrawn
  case candidateTargetsDrawn => exact sound.candidateTargetsDrawn
  case assignmentsDrawn => exact sound.assignmentsDrawn
  case assignmentTargetsDrawn => exact sound.assignmentTargetsDrawn

/-! ## A new assignment -/

/-- An assignment with its targets, after `drawn` identifiers. -/
def addAssignment (assignment : ReleaseAssignmentRow) (targets : List TargetRow) (drawn : Nat)
    (db : Database) : Database :=
  { db with
    assignments := db.assignments ++ [assignment]
    assignmentTargets := db.assignmentTargets ++ targets
    idsDrawn := db.idsDrawn + drawn }

section
variable {assignment : ReleaseAssignmentRow} {targets : List TargetRow} {k drawn : Nat}

theorem targetsOf_old (sound : Sound P db) (named : assignment.id = P.freshId (db.idsDrawn + k))
    (owned : ∀ target ∈ targets, target.ownerId = assignment.id) {a : ReleaseAssignmentRow}
    (here : a ∈ db.assignments) :
    (addAssignment assignment targets drawn db).targetsOf a = db.targetsOf a := by
  apply filter_old (k := k) TargetRow.ownerId (sound.assignmentsDrawn a here)
  · intro target member
    rw [owned target member]
    exact named
  · intro target passes
    simp only [Bool.and_eq_true, beq_iff_eq] at passes
    exact passes.1

theorem targetsOf_new (sound : Sound P db) (named : assignment.id = P.freshId (db.idsDrawn + k))
    (owned : ∀ target ∈ targets,
      target.ownerId = assignment.id ∧ target.organizationId = assignment.organizationId) :
    (addAssignment assignment targets drawn db).targetsOf assignment = targets := by
  apply filter_new (k := k) TargetRow.ownerId sound.assignmentTargetsDrawn
  · intro target member
    simp [owned target member]
  · intro target passes
    simp only [Bool.and_eq_true, beq_iff_eq] at passes
    rw [passes.1]
    exact named

/-- What a new assignment has to bring. -/
structure Arrives (P : Platform) (db : Database) (assignment : ReleaseAssignmentRow)
    (targets : List TargetRow) (release : PublishedReleaseRow) : Prop where
  owned : ∀ target ∈ targets,
    target.ownerId = assignment.id ∧ target.organizationId = assignment.organizationId
  isRelease : db.release? assignment.releaseId assignment.organizationId = some release
  targeted : targets ≠ []
  digest : assignment.digestSha256 = assignmentSnapshotDigest P release.digestSha256
    assignment.state assignment.schedule (targetScreenIds targets)
    assignment.previousAssignmentId
  expected : assignment.state = .assigned → assignment.previousAssignmentId = none ∧
    assignment.expectedWithdrawalDigestSha256 = some (assignmentSnapshotDigest P
      release.digestSha256 .withdrawn assignment.schedule (targetScreenIds targets)
      (some assignment.id))
  withdraws : ∀ previousId, assignment.previousAssignmentId = some previousId →
    ∃ previous ∈ db.assignments, previous.id = previousId ∧ previous.state = .assigned ∧
      assignment.state = .withdrawn ∧ assignment.organizationId = previous.organizationId ∧
      assignment.releaseId = previous.releaseId ∧ assignment.scheduleId = previous.scheduleId ∧
      assignment.toScheduleColumns = previous.toScheduleColumns ∧
      targets.map targetSnapshotKey = (db.targetsOf previous).map targetSnapshotKey

theorem Sound.addAssignment (sound : Sound P db)
    (named : assignment.id = P.freshId (db.idsDrawn + k)) (inTime : k < drawn)
    {release : PublishedReleaseRow} (arrives : Arrives P db assignment targets release) :
    Sound P (addAssignment assignment targets drawn db) := by
  have old : ∀ a ∈ db.assignments,
      (prisma.addAssignment assignment targets drawn db).targetsOf a = db.targetsOf a :=
    fun a here => targetsOf_old sound named (fun t member => (arrives.owned t member).1) here
  have new : (prisma.addAssignment assignment targets drawn db).targetsOf assignment = targets :=
    targetsOf_new sound named arrives.owned
  have more : db.idsDrawn ≤ db.idsDrawn + drawn := Nat.le_add_right _ _
  have isDrawn : DrawnBefore P (db.idsDrawn + drawn) assignment.id := by
    rw [named]
    exact drawn_fresh P (by omega)
  constructor
  case releaseIds => exact sound.releaseIds
  case candidateIds => exact sound.candidateIds
  case assignmentIds =>
    apply sound.assignmentIds.append
    intro other here
    rw [named]
    exact (sound.assignmentsDrawn other here).ne k
  case releasesDrawn => exact fun r hr => (sound.releasesDrawn r hr).mono more
  case itemsDrawn => exact fun i hi => (sound.itemsDrawn i hi).mono more
  case candidatesDrawn => exact fun c hc => (sound.candidatesDrawn c hc).mono more
  case candidateTargetsDrawn => exact fun t ht => (sound.candidateTargetsDrawn t ht).mono more
  case assignmentsDrawn =>
    intro a ha
    rcases List.mem_append.mp ha with ha | ha
    · exact (sound.assignmentsDrawn a ha).mono more
    · rw [List.mem_singleton.mp ha]
      exact isDrawn
  case assignmentTargetsDrawn =>
    intro t ht
    rcases List.mem_append.mp ht with ht | ht
    · exact (sound.assignmentTargetsDrawn t ht).mono more
    · rw [(arrives.owned t ht).1]
      exact isDrawn
  case releases => exact fun r hr => (sound.releases r hr).congr rfl
  case candidates =>
    intro c hc
    obtain ⟨r, good⟩ := sound.candidates c hc
    exact ⟨r, good.congr good.isRelease rfl⟩
  case assignments =>
    intro a ha
    rcases List.mem_append.mp ha with ha | ha
    · obtain ⟨r, good⟩ := sound.assignments a ha
      refine ⟨r, good.congr good.isRelease ?_ ?_⟩
      · rw [old a ha]
        exact id
      · rw [old a ha]
    · rw [List.mem_singleton.mp ha]
      refine ⟨release, arrives.isRelease, ?_, ?_, ?_⟩
      · rw [new]
        exact arrives.targeted
      · rw [new]
        exact arrives.digest
      · unfold withdrawalDigest releaseAssignmentDto
        rw [new]
        exact arrives.expected
  case withdrawals =>
    intro a ha previousId isNext
    rcases List.mem_append.mp ha with ha | ha
    · obtain ⟨previous, here, isPrevious, withdraws⟩ := sound.withdrawals a ha previousId isNext
      refine ⟨previous, List.mem_append_left _ here, isPrevious, withdraws.congr ?_⟩
      rw [old a ha, old previous here]
      exact withdraws.targets
    · rw [List.mem_singleton.mp ha] at isNext ⊢
      obtain ⟨previous, here, isPrevious, assigned, withdrawn, tenant, releaseId, scheduleId,
        schedule, same⟩ := arrives.withdraws previousId isNext
      refine ⟨previous, List.mem_append_left _ here, isPrevious, assigned, withdrawn, tenant,
        releaseId, scheduleId, schedule, ?_⟩
      rw [new, old previous here]
      exact same

end

/-! ## Rows that go -/

/-- A search is not misled by taking away rows that it does not find. -/
theorem filter_kept {α : Type} {l : List α} {test keep : α → Bool}
    (kept : ∀ a ∈ l, test a = true → keep a = true) :
    (l.filter keep).filter test = l.filter test := by
  rw [List.filter_filter]
  apply List.filter_congr
  intro a member
  cases passes : test a with
  | false => rfl
  | true => rw [kept a member passes]; rfl

theorem candidateTargetsOf_deleteCandidates {candidateIds : List String}
    {c : ReleaseCandidateRow} (kept : (!candidateIds.contains c.id) = true) :
    (deleteCandidates candidateIds db).candidateTargetsOf c = db.candidateTargetsOf c := by
  apply filter_kept
  intro target _ passes
  simp only [Bool.and_eq_true, beq_iff_eq] at passes
  rw [passes.1]
  exact kept

theorem Sound.deleteCandidates (sound : Sound P db) (candidateIds : List String) :
    Sound P (deleteCandidates candidateIds db) := by
  constructor
  case releaseIds => exact sound.releaseIds
  case candidateIds => exact sound.candidateIds.filter _
  case assignmentIds => exact sound.assignmentIds
  case releasesDrawn => exact sound.releasesDrawn
  case itemsDrawn => exact sound.itemsDrawn
  case candidatesDrawn => exact fun c hc => sound.candidatesDrawn c (List.mem_filter.mp hc).1
  case candidateTargetsDrawn =>
    exact fun t ht => sound.candidateTargetsDrawn t (List.mem_filter.mp ht).1
  case assignmentsDrawn => exact sound.assignmentsDrawn
  case assignmentTargetsDrawn => exact sound.assignmentTargetsDrawn
  case releases => exact fun r hr => (sound.releases r hr).congr rfl
  case candidates =>
    intro c hc
    obtain ⟨here, kept⟩ := List.mem_filter.mp hc
    obtain ⟨r, good⟩ := sound.candidates c here
    refine ⟨r, good.congr good.isRelease ?_⟩
    rw [candidateTargetsOf_deleteCandidates kept]
  case assignments =>
    intro a ha
    obtain ⟨r, good⟩ := sound.assignments a ha
    exact ⟨r, good.congr good.isRelease id rfl⟩
  case withdrawals =>
    intro a ha previousId isNext
    obtain ⟨previous, here, isPrevious, withdraws⟩ := sound.withdrawals a ha previousId isNext
    exact ⟨previous, here, isPrevious, withdraws.congr withdraws.targets⟩

section
variable {unused : PublishedReleaseRow → Bool}

theorem release?_deleteReleases (sound : Sound P db) {releaseId org : String}
    {r : PublishedReleaseRow} (found : db.release? releaseId org = some r)
    (used : unused r = false) :
    (deleteReleases unused db).release? releaseId org = some r := by
  refine release?_stays sound.releaseIds (sound.releaseIds.filter _) found
    (List.mem_filter.mpr ⟨?_, by simp [used]⟩)
  exact ((release?_iff sound.releaseIds).mp found).1

theorem itemsOf_deleteReleases (sound : Sound P db) {r : PublishedReleaseRow}
    (hr : r ∈ db.releases) (used : unused r = false) :
    (deleteReleases unused db).itemsOf r = db.itemsOf r := by
  unfold Database.itemsOf deleteReleases
  dsimp only
  rw [filter_kept]
  intro item _ passes
  simp only [Bool.and_eq_true, beq_iff_eq] at passes
  simp only [Bool.not_eq_true', List.any_eq_false, Bool.and_eq_true, beq_iff_eq, not_and]
  intro other here isUnused same
  have isOther : other = r := sound.releaseIds.eq here hr (same.symm.trans passes.1)
  rw [isOther, used] at isUnused
  cases isUnused

theorem Sound.deleteReleases (sound : Sound P db)
    (noCandidate : ∀ c ∈ db.candidates, ∀ r, db.release? c.releaseId c.organizationId = some r →
      unused r = false)
    (noAssignment : ∀ a ∈ db.assignments, ∀ r,
      db.release? a.releaseId a.organizationId = some r → unused r = false) :
    Sound P (deleteReleases unused db) := by
  have stays : ∀ {releaseId org r}, db.release? releaseId org = some r → unused r = false →
      (prisma.deleteReleases unused db).release? releaseId org = some r :=
    fun found used => release?_deleteReleases sound found used
  constructor
  case releaseIds => exact sound.releaseIds.filter _
  case candidateIds => exact sound.candidateIds
  case assignmentIds => exact sound.assignmentIds
  case releasesDrawn => exact fun r hr => sound.releasesDrawn r (List.mem_filter.mp hr).1
  case itemsDrawn => exact fun i hi => sound.itemsDrawn i (List.mem_filter.mp hi).1
  case candidatesDrawn => exact sound.candidatesDrawn
  case candidateTargetsDrawn => exact sound.candidateTargetsDrawn
  case assignmentsDrawn => exact sound.assignmentsDrawn
  case assignmentTargetsDrawn => exact sound.assignmentTargetsDrawn
  case releases =>
    intro r hr
    obtain ⟨here, used⟩ := List.mem_filter.mp hr
    exact (sound.releases r here).congr (itemsOf_deleteReleases sound here (by simpa using used))
  case candidates =>
    intro c hc
    obtain ⟨r, good⟩ := sound.candidates c hc
    exact ⟨r, good.congr (stays good.isRelease (noCandidate c hc r good.isRelease)) rfl⟩
  case assignments =>
    intro a ha
    obtain ⟨r, good⟩ := sound.assignments a ha
    exact ⟨r, good.congr (stays good.isRelease (noAssignment a ha r good.isRelease)) id rfl⟩
  case withdrawals =>
    intro a ha previousId isNext
    obtain ⟨previous, here, isPrevious, withdraws⟩ := sound.withdrawals a ha previousId isNext
    exact ⟨previous, here, isPrevious, withdraws.congr withdraws.targets⟩

end

/-- The release of a candidate or of an assignment is in use. -/
theorem isUnused_candidate (unique : KeysUnique PublishedReleaseRow.id db.releases) {org : String}
    {releaseIds : List String} {c : ReleaseCandidateRow} (here : c ∈ db.candidates)
    {r : PublishedReleaseRow} (found : db.release? c.releaseId c.organizationId = some r) :
    isUnused org releaseIds db r = false := by
  obtain ⟨_, same, tenant⟩ := (release?_iff unique).mp found
  have used : db.candidates.any (fun candidate => candidate.releaseId == r.id &&
      candidate.organizationId == r.organizationId) = true := by
    rw [List.any_eq_true]
    exact ⟨c, here, by simp [same, tenant]⟩
  simp [isUnused, used]

theorem isUnused_assignment (unique : KeysUnique PublishedReleaseRow.id db.releases) {org : String}
    {releaseIds : List String} {a : ReleaseAssignmentRow} (here : a ∈ db.assignments)
    {r : PublishedReleaseRow} (found : db.release? a.releaseId a.organizationId = some r) :
    isUnused org releaseIds db r = false := by
  obtain ⟨_, same, tenant⟩ := (release?_iff unique).mp found
  have used : db.assignments.any (fun assignment => assignment.releaseId == r.id &&
      assignment.organizationId == r.organizationId) = true := by
    rw [List.any_eq_true]
    exact ⟨a, here, by simp [same, tenant]⟩
  simp [isUnused, used]

theorem Sound.pruneExpiredCandidates (sound : Sound P db) (org : String) (timestamp : Int) :
    Sound P (pruneExpiredCandidates P org timestamp db) := by
  have without := sound.deleteCandidates ((expiredCandidates P db org timestamp).map (·.id))
  have pruned : Sound P (prisma.deleteReleases (isUnused org
      ((expiredCandidates P db org timestamp).map (·.releaseId))
      (prisma.deleteCandidates ((expiredCandidates P db org timestamp).map (·.id)) db))
      (prisma.deleteCandidates ((expiredCandidates P db org timestamp).map (·.id)) db)) := by
    apply without.deleteReleases
    · intro c hc r found
      exact isUnused_candidate without.releaseIds hc found
    · intro a ha r found
      exact isUnused_assignment without.releaseIds ha found
  exact pruned.same ⟨rfl, rfl, rfl, rfl, rfl, rfl, Nat.le_refl _⟩

/-! ## Screens that go -/

theorem detach_fields (org screenId : String) (target : TargetRow) :
    (detach org screenId target).ownerId = target.ownerId ∧
      (detach org screenId target).organizationId = target.organizationId ∧
      (detach org screenId target).screenId = target.screenId := by
  unfold detach
  split <;> exact ⟨rfl, rfl, rfl⟩

/-- A search by owner finds the same targets, detached. -/
theorem filter_detach (org screenId : String) {targets : List TargetRow} {ownerId tenant : String} :
    (targets.map (detach org screenId)).filter (fun target =>
        target.ownerId == ownerId && target.organizationId == tenant) =
      (targets.filter fun target =>
          target.ownerId == ownerId && target.organizationId == tenant).map
        (detach org screenId) := by
  rw [List.filter_map]
  congr 1
  apply List.filter_congr
  intro target _
  simp only [Function.comp_apply, detach_fields]

theorem targetsOf_withoutScreen (org screenId : String) (assignment : ReleaseAssignmentRow) :
    (withoutScreen org screenId db).targetsOf assignment =
      (db.targetsOf assignment).map (detach org screenId) :=
  filter_detach org screenId

theorem candidateTargetsOf_withoutScreen (org screenId : String)
    (candidate : ReleaseCandidateRow) :
    (withoutScreen org screenId db).candidateTargetsOf candidate =
      (db.candidateTargetsOf candidate).map (detach org screenId) :=
  filter_detach org screenId

theorem targetScreenIds_detach (org screenId : String) (targets : List TargetRow) :
    targetScreenIds (targets.map (detach org screenId)) = targetScreenIds targets := by
  unfold targetScreenIds
  rw [List.map_map]
  congr 2
  funext target
  exact (detach_fields org screenId target).2.2

/-- What a detached target refers to depends only on what the target referred to. -/
theorem targetSnapshotKey_detach {org screenId : String} {t t' : TargetRow}
    (same : targetSnapshotKey t = targetSnapshotKey t') :
    targetSnapshotKey (detach org screenId t) = targetSnapshotKey (detach org screenId t') := by
  unfold targetSnapshotKey at same
  simp only [Json.arr.injEq, List.cons.injEq, Json.str.injEq, and_true] at same
  obtain ⟨screen, live, tenant⟩ := same
  have live' : t.liveScreenId = t'.liveScreenId := by
    cases h : t.liveScreenId <;> cases h' : t'.liveScreenId <;> simp_all
  have tenant' : t.liveScreenOrganizationId = t'.liveScreenOrganizationId := by
    cases h : t.liveScreenOrganizationId <;> cases h' : t'.liveScreenOrganizationId <;> simp_all
  unfold targetSnapshotKey detach
  rw [live', tenant']
  split
  · simp [screen]
  · simp [screen, live', tenant']

theorem targetSnapshotKeys_detach {org screenId : String} {targets targets' : List TargetRow}
    (same : targets.map targetSnapshotKey = targets'.map targetSnapshotKey) :
    (targets.map (detach org screenId)).map targetSnapshotKey =
      (targets'.map (detach org screenId)).map targetSnapshotKey := by
  induction targets generalizing targets' with
  | nil =>
    cases targets' with
    | nil => rfl
    | cons _ _ => cases same
  | cons t rest ih =>
    cases targets' with
    | nil => cases same
    | cons t' rest' =>
      simp only [List.map_cons, List.cons.injEq] at same
      simp only [List.map_cons, List.cons.injEq]
      exact ⟨targetSnapshotKey_detach same.1, ih same.2⟩

theorem Sound.withoutScreen (sound : Sound P db) (org screenId : String) :
    Sound P (withoutScreen org screenId db) := by
  constructor
  case releaseIds => exact sound.releaseIds
  case candidateIds => exact sound.candidateIds
  case assignmentIds => exact sound.assignmentIds
  case releasesDrawn => exact sound.releasesDrawn
  case itemsDrawn => exact sound.itemsDrawn
  case candidatesDrawn => exact sound.candidatesDrawn
  case candidateTargetsDrawn =>
    intro t ht
    obtain ⟨b, hb, rfl⟩ := List.mem_map.mp ht
    rw [(detach_fields org screenId b).1]
    exact sound.candidateTargetsDrawn b hb
  case assignmentsDrawn => exact sound.assignmentsDrawn
  case assignmentTargetsDrawn =>
    intro t ht
    obtain ⟨b, hb, rfl⟩ := List.mem_map.mp ht
    rw [(detach_fields org screenId b).1]
    exact sound.assignmentTargetsDrawn b hb
  case releases => exact fun r hr => (sound.releases r hr).congr rfl
  case candidates =>
    intro c hc
    obtain ⟨r, good⟩ := sound.candidates c hc
    refine ⟨r, good.congr good.isRelease ?_⟩
    rw [candidateTargetsOf_withoutScreen, targetScreenIds_detach]
  case assignments =>
    intro a ha
    obtain ⟨r, good⟩ := sound.assignments a ha
    refine ⟨r, good.congr good.isRelease ?_ ?_⟩
    · rw [targetsOf_withoutScreen, List.map_eq_nil_iff]
      exact id
    · rw [targetsOf_withoutScreen, targetScreenIds_detach]
  case withdrawals =>
    intro a ha previousId isNext
    obtain ⟨previous, here, isPrevious, withdraws⟩ := sound.withdrawals a ha previousId isNext
    refine ⟨previous, here, isPrevious, withdraws.congr ?_⟩
    rw [targetsOf_withoutScreen, targetsOf_withoutScreen]
    exact targetSnapshotKeys_detach withdraws.targets

/-! ## The commands -/

theorem Sound.complete {before after : Database} (sound : Sound P before)
    (sound' : Sound P after) (org : String) (operation : ReleaseOperation) (actorUserId : String)
    (idempotency : ReleaseCandidateIdempotencyInput) (timestamp : Int) (candidateId : String) :
    Sound P (complete P org operation actorUserId idempotency timestamp candidateId before
      after).1 := by
  unfold prisma.complete
  dsimp only
  split
  · exact sound
  · exact sound'.same ⟨rfl, rfl, rfl, rfl, rfl, rfl, Nat.le_refl _⟩

/-- The columns decode to the schedule that the digest of a new candidate was taken of. -/
theorem newCandidateRow_digest {org actorUserId : String} {data : CandidateInput}
    {timestamp : Int} {snapshot : CanonicalReleaseSnapshot} {release : PublishedReleaseRow}
    {columns : ScheduleColumns}
    (encoded : threwAs (scheduleColumns P (canonicalSchedule data.toFrozenScheduleSnapshot)) =
      .ok columns)
    (digest : release.digestSha256 = releaseSnapshotDigest P snapshot) :
    (newCandidateRow P db org data actorUserId timestamp snapshot release columns).digestSha256 =
      releaseCandidateDigest P release.digestSha256 columns.schedule
        (canonicalScreenIds data.screenIds) data.expiresAt := by
  rw [schedule_of_columns (threwAs_ok.mp encoded), digest]
  rfl

theorem Sound.create (sound : Sound P db) (timestamp : Int) (org : String)
    (data : CandidateInput) (actorUserId : String) (mediaAllowedOrigins : List String)
    (idempotency : ReleaseCandidateIdempotencyInput) :
    Sound P (createReleaseCandidate P timestamp org data actorUserId mediaAllowedOrigins
      idempotency db).1 := by
  have pruned := sound.pruneExpiredCandidates org timestamp
  unfold createReleaseCandidate
  dsimp only
  split
  · exact sound
  · split
    · exact sound
    · exact pruned
    · next after candidateId written =>
      simp only [bind_ok] at written
      obtain ⟨snapshot, prepared, ⟨release, released⟩, found, columns, encoded, same⟩ := written
      cases same
      obtain ⟨sound', isRelease, digest⟩ := releaseFor_spec pruned
        (frozen_of_prepared prepared) found
      refine sound.complete (sound'.addCandidate rfl rfl isRelease rfl ?_) ..
      exact newCandidateRow_digest encoded digest

/-- The candidate of a transition, as it was read. -/
theorem admitTransition_spec {org candidateId expectedDigestSha256 actorUserId : String}
    {operation : ReleaseOperation} {idempotency : ReleaseCandidateIdempotencyInput}
    {timestamp : Int} {candidate : ReleaseCandidateRow} {record : ReleaseCandidateRecord}
    {release : PublishedReleaseRecord}
    (admitted : admitTransition P db org operation candidateId expectedDigestSha256 actorUserId
      idempotency timestamp = .ok (candidate, record, release)) :
    candidate? db org candidateId = some candidate ∧
      readCandidate P db candidate = .ok (record, release) ∧
      hasValidDigests P expectedDigestSha256 record release = true := by
  unfold admitTransition at admitted
  simp only [bind_ok, throwUnless_ok, foundOr_ok, refuseUnless_ok, exists_const] at admitted
  obtain ⟨_, _, _, c, found, ⟨r, rel⟩, read, valid, same⟩ := admitted
  cases same
  exact ⟨found, read, valid⟩

/-- A candidate reads back from its row, its release and its targets. -/
theorem readCandidate_spec {candidate : ReleaseCandidateRow} {record : ReleaseCandidateRecord}
    {release : PublishedReleaseRecord}
    (read : readCandidate P db candidate = .ok (record, release)) :
    ∃ row, db.release? candidate.releaseId candidate.organizationId = some row ∧
      publishedReleaseDto P row (db.itemsOf row) = .ok release ∧
      release.digestSha256 = row.digestSha256 ∧
      record = releaseCandidateDto candidate (db.candidateTargetsOf candidate) release
        (db.approvalOf candidate) (db.publicationOf candidate) := by
  unfold readCandidate readRelease at read
  simp only [bind_ok] at read
  obtain ⟨made, ⟨row, found, dto⟩, same⟩ := read
  cases same
  unfold orThrow at found
  cases held : db.release? candidate.releaseId candidate.organizationId with
  | none => rw [held] at found; cases found
  | some row' =>
    rw [held] at found
    cases found
    rw [threwAs_ok] at dto
    exact ⟨row, rfl, dto, (publishedReleaseDto_head dto).2.2, rfl⟩

theorem candidate?_spec {org candidateId : String} {candidate : ReleaseCandidateRow}
    (found : candidate? db org candidateId = some candidate) :
    candidate ∈ db.candidates ∧ candidate.id = candidateId ∧ candidate.organizationId = org := by
  have named := List.find?_some found
  simp only [Bool.and_eq_true, beq_iff_eq] at named
  exact ⟨List.mem_of_find?_eq_some found, named⟩

theorem Sound.submit (sound : Sound P db) (timestamp : Int)
    (org candidateId expectedDigestSha256 actorUserId : String)
    (idempotency : ReleaseCandidateIdempotencyInput) :
    Sound P (submitReleaseCandidate P timestamp org candidateId expectedDigestSha256 actorUserId
      idempotency db).1 := by
  unfold submitReleaseCandidate
  dsimp only
  split
  · exact sound
  · exact sound.complete (sound.updateCandidate candidateId (keepsSnapshot_submitted timestamp)) ..

theorem Sound.approve (sound : Sound P db) (timestamp : Int)
    (org candidateId expectedDigestSha256 actorUserId : String)
    (idempotency : ReleaseCandidateIdempotencyInput) :
    Sound P (approveReleaseCandidate P timestamp org candidateId expectedDigestSha256 actorUserId
      idempotency db).1 := by
  unfold approveReleaseCandidate
  dsimp only
  split
  · exact sound
  · refine sound.complete (Sound.same (sound.updateCandidate candidateId
      (keepsSnapshot_approved timestamp)) ?_) ..
    exact ⟨rfl, rfl, rfl, rfl, rfl, rfl, Nat.le_succ _⟩

/-- What a publication is admitted with. -/
theorem admitPublication_spec {org candidateId expectedDigestSha256 actorUserId : String}
    {mediaAllowedOrigins : List String} {idempotency : ReleaseCandidateIdempotencyInput}
    {timestamp : Int} {candidate : ReleaseCandidateRow} {record : ReleaseCandidateRecord}
    (admitted : admitPublication P db org candidateId expectedDigestSha256 actorUserId
      mediaAllowedOrigins idempotency timestamp = .ok (candidate, record)) :
    candidate? db org candidateId = some candidate ∧
      (∃ release, readCandidate P db candidate = .ok (record, release)) ∧
      (db.candidateTargetsOf candidate).isEmpty = false := by
  unfold admitPublication at admitted
  simp only [bind_ok] at admitted
  obtain ⟨⟨c, r, rel⟩, transition, _, _, _, _, _, _, _, _, _, _, _, targeted, same⟩ := admitted
  cases same
  obtain ⟨found, read, _⟩ := admitTransition_spec transition
  refine ⟨found, ⟨rel, read⟩, ?_⟩
  simp only [refuseUnless_ok, Bool.and_eq_true, Bool.not_eq_true'] at targeted
  exact targeted.1

/-- The rows of an admitted publication. -/
theorem Sound.addPublication (sound : Sound P db) {timestamp : Int}
    {org candidateId expectedDigestSha256 actorUserId : String}
    {mediaAllowedOrigins : List String} {idempotency : ReleaseCandidateIdempotencyInput}
    {candidate : ReleaseCandidateRow} {record : ReleaseCandidateRecord}
    (admitted : admitPublication P db org candidateId expectedDigestSha256 actorUserId
      mediaAllowedOrigins idempotency timestamp = .ok (candidate, record)) :
    Sound P (addPublication P org actorUserId timestamp candidate record db) := by
  obtain ⟨found, ⟨release, read⟩, targeted⟩ := admitPublication_spec admitted
  obtain ⟨_, _, tenant⟩ := candidate?_spec found
  obtain ⟨row, isRelease, _, digest, isRecord⟩ := readCandidate_spec read
  have releaseDigest : record.releaseDigestSha256 = row.digestSha256 := by
    rw [isRecord]
    exact digest
  have schedule : record.schedule = candidate.schedule := by
    rw [isRecord]
    rfl
  have screens : record.screenIds = targetScreenIds (liveTargets org (assignmentIdOf P db)
      ((db.candidateTargetsOf candidate).map (·.screenId))) := by
    rw [isRecord, targetScreenIds_liveTargets]
    rfl
  have updated := sound.updateCandidate candidate.id (keepsSnapshot_published P db timestamp)
  have arrives : Arrives P
      (prisma.updateCandidate candidate.id (published P db timestamp) db)
      (publishedAssignment P db org actorUserId timestamp candidate record)
      (liveTargets org (assignmentIdOf P db)
        ((db.candidateTargetsOf candidate).map (·.screenId))) row := by
    constructor
    case owned =>
      intro target member
      obtain ⟨screenId, _, rfl⟩ := List.mem_map.mp member
      exact ⟨rfl, rfl⟩
    case isRelease =>
      show db.release? candidate.releaseId org = some row
      rw [← tenant]
      exact isRelease
    case targeted =>
      unfold liveTargets
      rw [List.isEmpty_eq_false_iff] at targeted
      simpa using targeted
    case digest =>
      unfold publishedAssignment
      dsimp only
      rw [releaseDigest, schedule, screens]
    case expected =>
      intro _
      refine ⟨rfl, ?_⟩
      unfold publishedAssignment
      dsimp only
      rw [releaseDigest, schedule, screens]
    case withdraws =>
      intro previousId isNext
      cases isNext
  have added := updated.addAssignment (k := 1) rfl (by omega : 1 < 3) arrives
  apply added.same
  exact ⟨rfl, rfl, rfl, rfl, rfl, rfl, Nat.le_refl _⟩

theorem Sound.publish (sound : Sound P db) (timestamp : Int)
    (org candidateId expectedDigestSha256 actorUserId : String)
    (mediaAllowedOrigins : List String) (idempotency : ReleaseCandidateIdempotencyInput) :
    Sound P (publishReleaseCandidate P timestamp org candidateId expectedDigestSha256 actorUserId
      mediaAllowedOrigins idempotency db).1 := by
  unfold publishReleaseCandidate
  split
  · exact sound
  · next candidate record admitted => exact sound.complete (sound.addPublication admitted) ..

/-- A withdrawal copies the targets of the assignment before it. -/
theorem copiedTargets_keys (ownerId : String) (targets : List TargetRow) :
    (copiedTargets ownerId targets).map targetSnapshotKey = targets.map targetSnapshotKey := by
  simp [copiedTargets, targetSnapshotKey, Function.comp_def]

theorem targetScreenIds_copied (ownerId : String) (targets : List TargetRow) :
    targetScreenIds (copiedTargets ownerId targets) = targetScreenIds targets := by
  simp [copiedTargets, targetScreenIds, Function.comp_def]

theorem lastAssignment_spec {org scheduleId : String} {previous : ReleaseAssignmentRow}
    (found : lastAssignment db org scheduleId = some previous) :
    previous ∈ db.assignments ∧ previous.organizationId = org ∧
      previous.scheduleId = scheduleId := by
  have named := List.find?_some found
  simp only [Bool.and_eq_true, beq_iff_eq] at named
  exact ⟨List.mem_of_find?_eq_some found, named.1⟩

theorem withdrawal_arrives (sound : Sound P db) {org scheduleId : String}
    (actorUserId : String) (timestamp : Int) {previous : ReleaseAssignmentRow}
    {release : PublishedReleaseRow}
    (found : lastAssignment db org scheduleId = some previous)
    (assigned : previous.state = .assigned)
    (isRelease : db.release? previous.releaseId previous.organizationId = some release) :
    Arrives P db (withdrawalRow P db org scheduleId actorUserId timestamp previous release)
      (copiedTargets (P.freshId db.idsDrawn) (db.targetsOf previous)) release := by
  obtain ⟨here, tenant, ofSchedule⟩ := lastAssignment_spec found
  obtain ⟨_, good⟩ := sound.assignments previous here
  constructor
  case owned =>
    intro target member
    obtain ⟨old, isTarget, rfl⟩ := List.mem_map.mp member
    have owner := (List.mem_filter.mp isTarget).2
    simp only [Bool.and_eq_true, beq_iff_eq] at owner
    exact ⟨rfl, owner.2.trans tenant⟩
  case isRelease =>
    show db.release? previous.releaseId org = some release
    rw [← tenant]
    exact isRelease
  case targeted =>
    unfold copiedTargets
    simpa using good.targeted
  case digest =>
    rw [targetScreenIds_copied]
    rfl
  case expected =>
    intro never
    cases never
  case withdraws =>
    intro previousId isNext
    cases isNext
    exact ⟨previous, here, rfl, assigned, rfl, tenant.symm, rfl, ofSchedule.symm, rfl,
      copiedTargets_keys _ _⟩

theorem addWithdrawal_eq (previous assignment : ReleaseAssignmentRow) (db : Database) :
    addWithdrawal previous assignment db =
      addAssignment assignment (copiedTargets assignment.id (db.targetsOf previous)) 1 db := rfl

theorem Sound.withdraw (sound : Sound P db) (timestamp : Int)
    (org scheduleId actorUserId : String) :
    Sound P (withdrawSchedule P timestamp org scheduleId actorUserId db).1 := by
  unfold withdrawSchedule
  split
  · exact sound
  · split
    · exact sound
    · split
      · exact sound
      · next previous found =>
        split
        · exact sound
        · next standing =>
          split
          · exact sound
          · next release isRelease =>
            dsimp only
            split
            · have assigned : previous.state = .assigned := by
                cases state : previous.state with
                | assigned => rfl
                | withdrawn => exact absurd state standing
              exact sound.addAssignment (k := 0) rfl (Nat.lt_succ_self 0)
                (withdrawal_arrives sound actorUserId timestamp found assigned isRelease)
            · exact sound

theorem Sound.perform (sound : Sound P db) (timestamp : Int) (c : Call) :
    Sound P (c.perform P timestamp db) := by
  cases c with
  | create => exact sound.create ..
  | submit => exact sound.submit ..
  | approve => exact sound.approve ..
  | publish => exact sound.publish ..
  | withdraw => exact sound.withdraw ..
  | deleteScreen org screenId actor =>
    show Sound P (deleteScreen org screenId actor db).1
    unfold deleteScreen
    repeat' split
    · exact sound
    · exact sound
    · exact sound.withoutScreen org screenId

/-- Every state that the store can reach is sound. -/
theorem Reachable.sound (reached : Reachable P db) : Sound P db := by
  induction reached with
  | empty => exact sound_empty P
  | call _ timestamp c ih => exact ih.perform timestamp c
  | elsewhere _ other ih =>
    obtain ⟨users, screens, media, playlists, idsDrawn, _, more, rfl⟩ := other
    exact ih.same ⟨rfl, rfl, rfl, rfl, rfl, rfl, more⟩

end screengoblin.prisma
