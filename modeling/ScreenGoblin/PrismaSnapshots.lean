-- What the rows of a release say when they are read back. Each release, candidate and assignment
-- that the commands write has the digests of its own content, in every state that they reach.
import ScreenGoblin.PrismaCommands

open js collections screengoblin.schedule screengoblin.server

namespace screengoblin.prisma

variable {P : Platform}

/-! ## An item in a row -/

/-- What the columns of an item can hold. -/
structure Storable (P : Platform) (asset : FrozenReleaseAsset) : Prop where
  key : ∃ storageKey, asset.storageKey = some storageKey
  size : Value.isSafeInteger (numberJson asset.sizeBytes) = true
  expiry : ∀ text, asset.expiresAt = some text → text ≠ "" ∧ ∃ t, text = P.toISOString t

theorem isSafeInteger_whole {q : Rat} (safe : Value.isSafeInteger (numberJson q) = true) :
    q.den = 1 := by
  unfold numberJson Value.isSafeInteger at safe
  simp only [Bool.and_eq_true, beq_iff_eq] at safe
  exact safe.1.1

theorem cast_num {q : Rat} (whole : q.den = 1) : (q.num : Rat) = q := by
  apply Rat.ext
  · rfl
  · exact whole.symm

theorem dateColumn_back {asset : FrozenReleaseAsset} (storable : Storable P asset)
    {column : Option Int} (made : dateColumn P asset.expiresAt = .ok column) :
    column.map P.toISOString = asset.expiresAt := by
  unfold dateColumn at made
  cases expiry : asset.expiresAt with
  | none =>
    rw [expiry] at made
    cases made
    rfl
  | some text =>
    obtain ⟨full, t, rfl⟩ := storable.expiry text expiry
    have kept : truthyText (some (P.toISOString t)) = some (P.toISOString t) := by
      simp [truthyText, full]
    rw [expiry, kept] at made
    simp [Functor.map, Except.map] at made
    rw [← made]
    rfl

/-- The row of an item reads back as the item. -/
theorem frozenItemDto_row {org releaseId : String} {item : FrozenReleaseItem}
    {row : FrozenReleaseItemRow} (storable : Storable P item.asset)
    (made : frozenItemRow P org releaseId item = .ok row) : frozenItemDto P row = .ok item := by
  obtain ⟨storageKey, key⟩ := storable.key
  have whole := isSafeInteger_whole storable.size
  unfold frozenItemRow storageKeyColumn bigInt at made
  rw [key, if_pos whole] at made
  cases column : dateColumn P item.asset.expiresAt with
  | error message => simp [column, bind, Except.bind] at made
  | ok expiresAt =>
    simp only [column, bind, Except.bind, Except.ok.injEq] at made
    rw [← made]
    have size :
        safeInteger item.asset.sizeBytes.num "assetSizeBytes" = .ok item.asset.sizeBytes := by
      unfold safeInteger
      rw [cast_num whole, if_pos storable.size]
    unfold frozenItemDto
    dsimp only
    rw [size, dateColumn_back storable column, ← key, enumLower_kindColumn]
    rfl

theorem frozenItemRow_fields {org releaseId : String} {item : FrozenReleaseItem}
    {row : FrozenReleaseItemRow} (made : frozenItemRow P org releaseId item = .ok row) :
    row.releaseId = releaseId ∧ row.organizationId = org ∧ row.position = item.position := by
  unfold frozenItemRow at made
  simp only [bind_ok] at made
  obtain ⟨_, _, _, _, _, _, same⟩ := made
  cases same
  exact ⟨rfl, rfl, rfl⟩

/-- A medium freezes to what the columns can hold. -/
theorem storable_freeze {asset : MediaAssetRow} {record : MediaRecord}
    (made : mediaDto P asset = .ok record) : Storable P (freezeAsset record) := by
  unfold mediaDto safeInteger at made
  by_cases safe : Value.isSafeInteger (numberJson (asset.sizeBytes : Rat)) = true
  · rw [if_pos safe] at made
    cases made
    refine ⟨⟨asset.storageKey, ?_⟩, safe, ?_⟩
    · simp [freezeAsset, truthyText, asset.storageKey_some]
    · intro text named
      unfold freezeAsset truthyText at named
      dsimp only at named
      rw [Option.filter_eq_some_iff, Option.map_eq_some_iff] at named
      obtain ⟨⟨t, _, same⟩, full⟩ := named
      exact ⟨by simpa using full, t, same.symm⟩
  · rw [if_neg safe] at made
    cases made

/-! ## The items of a snapshot, in order -/

/-- The items keep their positions, which are new ones. -/
theorem freezeItems_positions {assets : List MediaRecord} {positions : List Int}
    {items : List PlaylistItem} {frozen : List FrozenReleaseItem}
    (made : freezeItems assets positions items = .ok frozen) :
    frozen.map (·.position) = items.map (·.position) ∧
      (items.map (·.position)).Nodup ∧ ∀ item ∈ items, item.position ∉ positions := by
  induction items generalizing positions frozen with
  | nil =>
    cases made
    simp
  | cons first rest ih =>
    unfold freezeItems at made
    split at made
    · cases made
    · next newPosition =>
      split at made
      · cases made
      · simp only [bind_ok] at made
        obtain ⟨others, madeOthers, same⟩ := made
        cases same
        obtain ⟨kept, unique, fresh⟩ := ih madeOthers
        refine ⟨by simp [kept], ?_, ?_⟩
        · rw [List.map_cons, List.nodup_cons]
          refine ⟨?_, unique⟩
          intro taken
          obtain ⟨item, member, same⟩ := List.mem_map.mp taken
          exact fresh item member (by simp [same])
        · intro item member
          rcases List.mem_cons.mp member with rfl | member
          · simpa using newPosition
          · exact fun seen => fresh item member (List.mem_cons_of_mem _ seen)

/-- Two orders that agree on the pairs of a list sort it in the same way. -/
theorem insertionSort_congr {α : Type} {r r' : α → α → Prop} [DecidableRel r] [DecidableRel r']
    {l : List α} (same : l.Pairwise fun a b => r a b ↔ r' a b) :
    l.insertionSort r = l.insertionSort r' := by
  induction l with
  | nil => rfl
  | cons a rest ih =>
    obtain ⟨first, others⟩ := List.pairwise_cons.mp same
    rw [List.insertionSort_cons, List.insertionSort_cons, ih others]
    have inserted : ∀ sorted : List α, (∀ b ∈ sorted, r a b ↔ r' a b) →
        sorted.orderedInsert r a = sorted.orderedInsert r' a := by
      intro sorted
      induction sorted with
      | nil => intro _; rfl
      | cons b later ihLater =>
        intro agree
        unfold List.orderedInsert
        rw [ihLater fun c hc => agree c (List.mem_cons_of_mem _ hc)]
        by_cases before : r a b
        · rw [if_pos before, if_pos ((agree b List.mem_cons_self).mp before)]
        · have after : ¬r' a b := fun h => before ((agree b List.mem_cons_self).mpr h)
          rw [if_neg before, if_neg after]
    apply inserted
    intro b hb
    exact first b ((List.mem_insertionSort r').mp hb)

theorem itemLe_of_positions {a b : PlaylistItem} (apart : a.position ≠ b.position) :
    itemLe P a b = true ↔ a.position ≤ b.position := by
  unfold itemLe
  rcases lt_or_gt_of_ne apart with less | more
  · rw [compare_lt_iff_lt.mpr less]
    simp [Ordering.then, less.le]
  · rw [compare_gt_iff_gt.mpr more]
    simp [Ordering.then, more]

/-- With no position twice, the items are sorted by position alone. -/
theorem sorted_positions {items : List PlaylistItem}
    (unique : ((items.insertionSort (itemLe P · ·)).map (·.position)).Nodup) :
    (items.insertionSort (itemLe P · ·)).Pairwise fun a b => a.position ≤ b.position := by
  have perm := List.perm_insertionSort (itemLe P · ·) items
  have apart : (items.map (·.position)).Nodup := (perm.map _).nodup_iff.mp unique
  have byPosition : items.insertionSort (itemLe P · ·) =
      items.insertionSort fun a b => a.position ≤ b.position := by
    apply insertionSort_congr
    rw [List.Nodup, List.pairwise_map] at apart
    exact apart.imp fun ne => itemLe_of_positions ne
  rw [byPosition]
  have total : Std.Total fun a b : PlaylistItem => a.position ≤ b.position :=
    ⟨fun a b => le_total a.position b.position⟩
  have trans : IsTrans PlaylistItem fun a b => a.position ≤ b.position :=
    ⟨fun _ _ _ => le_trans⟩
  exact List.pairwise_insertionSort _ items

/-- The snapshot of a playlist with media of the database: its items fit into columns, in the
order of their positions. -/
structure Frozen (P : Platform) (items : List FrozenReleaseItem) : Prop where
  storable : ∀ item ∈ items, Storable P item.asset
  ordered : items.Pairwise fun a b => a.position ≤ b.position

theorem frozen_of_prepared {db : Database} {org : String} {data : CandidateInput}
    {mediaAllowedOrigins : List String} {timestamp : Int} {snapshot : CanonicalReleaseSnapshot}
    (prepared : prepareCandidate P db org data mediaAllowedOrigins timestamp = .ok snapshot) :
    Frozen P snapshot.items := by
  unfold prepareCandidate at prepared
  simp only [bind_ok, refuseUnless_ok, foundOr_ok, exists_const] at prepared
  obtain ⟨_, _, _, playlist, _, _, assets, read, _, _, taken⟩ := prepared
  cases frozen : canonicalReleaseSnapshot P
      { playlist with items := playlist.items.insertionSort (itemLe P · ·) } assets with
  | error reason =>
    rw [frozen] at taken
    cases taken
  | ok made =>
    rw [frozen] at taken
    cases taken
    unfold canonicalReleaseSnapshot at frozen
    dsimp only at frozen
    split at frozen
    · cases frozen
    · simp only [bind_ok] at frozen
      obtain ⟨items, madeItems, same⟩ := frozen
      cases same
      obtain ⟨kept, unique, _⟩ := freezeItems_positions madeItems
      constructor
      · intro item member
        obtain ⟨asset, listed, isFrozen⟩ := freezeItems_mem madeItems item member
        rw [isFrozen]
        obtain ⟨row, _, isRecord⟩ := mapM_ok_mem (threwAs_ok.mp read) listed
        exact storable_freeze isRecord
      · have sorted := sorted_positions unique
        have positions : (items.map (·.position)).Pairwise (· ≤ ·) := by
          rw [kept, List.pairwise_map]
          exact sorted
        exact List.pairwise_map.mp positions

/-! ## Rows that verify -/

/-- One of the first `n` identifiers. -/
def DrawnBefore (P : Platform) (n : Nat) (identifier : String) : Prop :=
  ∃ k, k < n ∧ P.freshId k = identifier

theorem DrawnBefore.mono {n m : Nat} {identifier : String} (drawn : DrawnBefore P n identifier)
    (more : n ≤ m) : DrawnBefore P m identifier := by
  obtain ⟨k, before, same⟩ := drawn
  exact ⟨k, by omega, same⟩

theorem DrawnBefore.ne {n : Nat} {identifier : String} (drawn : DrawnBefore P n identifier)
    (k : Nat) : identifier ≠ P.freshId (n + k) := by
  obtain ⟨j, before, rfl⟩ := drawn
  intro same
  have := P.freshId_injective same
  omega

theorem drawn_fresh (P : Platform) {n k : Nat} (before : k < n) :
    DrawnBefore P n (P.freshId k) := ⟨k, before, rfl⟩

/-- The release reads back with the digest of its content. -/
def ReleaseVerifies (P : Platform) (db : Database) (release : PublishedReleaseRow) : Prop :=
  ∃ record, publishedReleaseDto P release (db.itemsOf release) = .ok record ∧
    hasValidStoredReleaseDigest P record = true

/-- The candidate has the digest of its release, its schedule and its targets. -/
structure CandidateVerifies (P : Platform) (db : Database) (candidate : ReleaseCandidateRow)
    (release : PublishedReleaseRow) : Prop where
  isRelease : db.release? candidate.releaseId candidate.organizationId = some release
  policy : candidate.policyVersion = 1
  digest : candidate.digestSha256 = releaseCandidateDigest P release.digestSha256
    candidate.schedule (targetScreenIds (db.candidateTargetsOf candidate)) candidate.expiresAt

/-- The assignment has the digest of its release, its schedule and its targets. An assigned one
expects the digest of its withdrawal. -/
structure AssignmentVerifies (P : Platform) (db : Database) (assignment : ReleaseAssignmentRow)
    (release : PublishedReleaseRow) : Prop where
  isRelease : db.release? assignment.releaseId assignment.organizationId = some release
  targeted : db.targetsOf assignment ≠ []
  digest : assignment.digestSha256 = assignmentSnapshotDigest P release.digestSha256
    assignment.state assignment.schedule (targetScreenIds (db.targetsOf assignment))
    assignment.previousAssignmentId
  expected : assignment.state = .assigned → assignment.previousAssignmentId = none ∧
    assignment.expectedWithdrawalDigestSha256 = some (withdrawalDigest P db release assignment)

/-- The second assignment is a withdrawal of the first one, with the same targets. -/
structure Withdraws (db : Database) (previous assignment : ReleaseAssignmentRow) : Prop where
  assigned : previous.state = .assigned
  withdrawn : assignment.state = .withdrawn
  organizationId : assignment.organizationId = previous.organizationId
  releaseId : assignment.releaseId = previous.releaseId
  scheduleId : assignment.scheduleId = previous.scheduleId
  schedule : assignment.toScheduleColumns = previous.toScheduleColumns
  targets : (db.targetsOf assignment).map targetSnapshotKey =
    (db.targetsOf previous).map targetSnapshotKey

structure Sound (P : Platform) (db : Database) : Prop where
  releaseIds : KeysUnique PublishedReleaseRow.id db.releases
  candidateIds : KeysUnique ReleaseCandidateRow.id db.candidates
  assignmentIds : KeysUnique ReleaseAssignmentRow.id db.assignments
  releasesDrawn : ∀ release ∈ db.releases, DrawnBefore P db.idsDrawn release.id
  itemsDrawn : ∀ item ∈ db.items, DrawnBefore P db.idsDrawn item.releaseId
  candidatesDrawn : ∀ candidate ∈ db.candidates, DrawnBefore P db.idsDrawn candidate.id
  candidateTargetsDrawn : ∀ target ∈ db.candidateTargets, DrawnBefore P db.idsDrawn target.ownerId
  assignmentsDrawn : ∀ assignment ∈ db.assignments, DrawnBefore P db.idsDrawn assignment.id
  assignmentTargetsDrawn : ∀ target ∈ db.assignmentTargets,
    DrawnBefore P db.idsDrawn target.ownerId
  releases : ∀ release ∈ db.releases, ReleaseVerifies P db release
  candidates : ∀ candidate ∈ db.candidates, ∃ release, CandidateVerifies P db candidate release
  assignments : ∀ assignment ∈ db.assignments,
    ∃ release, AssignmentVerifies P db assignment release
  withdrawals : ∀ assignment ∈ db.assignments, ∀ previousId,
    assignment.previousAssignmentId = some previousId →
      ∃ previous ∈ db.assignments, previous.id = previousId ∧ Withdraws db previous assignment

variable {db after : Database}

theorem sound_empty (P : Platform) : Sound P emptyDatabase where
  releaseIds := List.nodup_nil
  candidateIds := List.nodup_nil
  assignmentIds := List.nodup_nil
  releasesDrawn := by simp [emptyDatabase]
  itemsDrawn := by simp [emptyDatabase]
  candidatesDrawn := by simp [emptyDatabase]
  candidateTargetsDrawn := by simp [emptyDatabase]
  assignmentsDrawn := by simp [emptyDatabase]
  assignmentTargetsDrawn := by simp [emptyDatabase]
  releases := by simp [emptyDatabase]
  candidates := by simp [emptyDatabase]
  assignments := by simp [emptyDatabase]
  withdrawals := by simp [emptyDatabase]

theorem release?_iff (unique : KeysUnique PublishedReleaseRow.id db.releases)
    {releaseId organizationId : String} {release : PublishedReleaseRow} :
    db.release? releaseId organizationId = some release ↔
      release ∈ db.releases ∧ release.id = releaseId ∧ release.organizationId = organizationId := by
  unfold Database.release?
  constructor
  · intro found
    have named := List.find?_some found
    simp only [Bool.and_eq_true, beq_iff_eq] at named
    exact ⟨List.mem_of_find?_eq_some found, named⟩
  · rintro ⟨here, rfl, rfl⟩
    apply unique.find here
    · simp
    · intro other named
      simp only [Bool.and_eq_true, beq_iff_eq] at named
      exact named.1

/-- The release of a row is still the release of the row, as long as it is there. -/
theorem release?_stays (unique : KeysUnique PublishedReleaseRow.id db.releases)
    (unique' : KeysUnique PublishedReleaseRow.id after.releases)
    {releaseId organizationId : String} {release : PublishedReleaseRow}
    (found : db.release? releaseId organizationId = some release)
    (here : release ∈ after.releases) :
    after.release? releaseId organizationId = some release := by
  rw [release?_iff unique] at found
  rw [release?_iff unique']
  exact ⟨here, found.2⟩

theorem ReleaseVerifies.congr {release : PublishedReleaseRow}
    (verifies : ReleaseVerifies P db release) (items : after.itemsOf release = db.itemsOf release) :
    ReleaseVerifies P after release := by
  unfold ReleaseVerifies
  rw [items]
  exact verifies

theorem CandidateVerifies.congr {candidate : ReleaseCandidateRow} {release : PublishedReleaseRow}
    (verifies : CandidateVerifies P db candidate release)
    (isRelease : after.release? candidate.releaseId candidate.organizationId = some release)
    (targets : targetScreenIds (after.candidateTargetsOf candidate) =
      targetScreenIds (db.candidateTargetsOf candidate)) :
    CandidateVerifies P after candidate release where
  isRelease := isRelease
  policy := verifies.policy
  digest := by rw [targets]; exact verifies.digest

theorem withdrawalDigest_congr {release : PublishedReleaseRow} {previous : ReleaseAssignmentRow}
    (targets : targetScreenIds (after.targetsOf previous) =
      targetScreenIds (db.targetsOf previous)) :
    withdrawalDigest P after release previous = withdrawalDigest P db release previous := by
  unfold withdrawalDigest releaseAssignmentDto
  dsimp only
  rw [targets]

theorem AssignmentVerifies.congr {assignment : ReleaseAssignmentRow}
    {release : PublishedReleaseRow} (verifies : AssignmentVerifies P db assignment release)
    (isRelease : after.release? assignment.releaseId assignment.organizationId = some release)
    (some : after.targetsOf assignment = [] → db.targetsOf assignment = [])
    (targets : targetScreenIds (after.targetsOf assignment) =
      targetScreenIds (db.targetsOf assignment)) :
    AssignmentVerifies P after assignment release where
  isRelease := isRelease
  targeted := fun none => verifies.targeted (some none)
  digest := by rw [targets]; exact verifies.digest
  expected := by rw [withdrawalDigest_congr targets]; exact verifies.expected

theorem Withdraws.congr {previous assignment : ReleaseAssignmentRow}
    (withdraws : Withdraws db previous assignment)
    (targets : (after.targetsOf assignment).map targetSnapshotKey =
      (after.targetsOf previous).map targetSnapshotKey) :
    Withdraws after previous assignment :=
  { withdraws with targets := targets }

/-- The tables of the releases are the same, and identifiers are only drawn. -/
structure SameTables (db after : Database) : Prop where
  releases : after.releases = db.releases
  items : after.items = db.items
  candidates : after.candidates = db.candidates
  candidateTargets : after.candidateTargets = db.candidateTargets
  assignments : after.assignments = db.assignments
  assignmentTargets : after.assignmentTargets = db.assignmentTargets
  idsDrawn : db.idsDrawn ≤ after.idsDrawn

theorem SameTables.release? (same : SameTables db after) (releaseId organizationId : String) :
    after.release? releaseId organizationId = db.release? releaseId organizationId := by
  unfold Database.release?
  rw [same.releases]

theorem SameTables.itemsOf (same : SameTables db after) (release : PublishedReleaseRow) :
    after.itemsOf release = db.itemsOf release := by
  unfold Database.itemsOf
  rw [same.items]

theorem SameTables.candidateTargetsOf (same : SameTables db after)
    (candidate : ReleaseCandidateRow) :
    after.candidateTargetsOf candidate = db.candidateTargetsOf candidate := by
  unfold Database.candidateTargetsOf
  rw [same.candidateTargets]

theorem SameTables.targetsOf (same : SameTables db after) (assignment : ReleaseAssignmentRow) :
    after.targetsOf assignment = db.targetsOf assignment := by
  unfold Database.targetsOf
  rw [same.assignmentTargets]

theorem Sound.same (sound : Sound P db) (same : SameTables db after) : Sound P after where
  releaseIds := by rw [same.releases]; exact sound.releaseIds
  candidateIds := by rw [same.candidates]; exact sound.candidateIds
  assignmentIds := by rw [same.assignments]; exact sound.assignmentIds
  releasesDrawn := by
    rw [same.releases]
    exact fun r hr => (sound.releasesDrawn r hr).mono same.idsDrawn
  itemsDrawn := by
    rw [same.items]
    exact fun i hi => (sound.itemsDrawn i hi).mono same.idsDrawn
  candidatesDrawn := by
    rw [same.candidates]
    exact fun c hc => (sound.candidatesDrawn c hc).mono same.idsDrawn
  candidateTargetsDrawn := by
    rw [same.candidateTargets]
    exact fun t ht => (sound.candidateTargetsDrawn t ht).mono same.idsDrawn
  assignmentsDrawn := by
    rw [same.assignments]
    exact fun a ha => (sound.assignmentsDrawn a ha).mono same.idsDrawn
  assignmentTargetsDrawn := by
    rw [same.assignmentTargets]
    exact fun t ht => (sound.assignmentTargetsDrawn t ht).mono same.idsDrawn
  releases := by
    rw [same.releases]
    exact fun r hr => (sound.releases r hr).congr (same.itemsOf r)
  candidates := by
    rw [same.candidates]
    intro c hc
    obtain ⟨release, verifies⟩ := sound.candidates c hc
    refine ⟨release, verifies.congr ?_ ?_⟩
    · rw [same.release?]
      exact verifies.isRelease
    · rw [same.candidateTargetsOf]
  assignments := by
    rw [same.assignments]
    intro a ha
    obtain ⟨release, verifies⟩ := sound.assignments a ha
    refine ⟨release, verifies.congr ?_ ?_ ?_⟩
    · rw [same.release?]
      exact verifies.isRelease
    · rw [same.targetsOf]
      exact id
    · rw [same.targetsOf]
  withdrawals := by
    rw [same.assignments]
    intro a ha previousId named
    obtain ⟨previous, here, isPrevious, withdraws⟩ := sound.withdrawals a ha previousId named
    refine ⟨previous, here, isPrevious, withdraws.congr ?_⟩
    rw [same.targetsOf, same.targetsOf]
    exact withdraws.targets

end screengoblin.prisma
