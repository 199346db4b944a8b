-- The table of the release candidates (migration 20260915190000_release_approval_foundation): its
-- CHECK constraints and its history trigger, with columns that may be NULL. Both compare the times
-- of the steps without a test for NULL, so a row can come into a state without its times.
import Mathlib.Data.List.Induction
import ScreenGoblin.PrismaRows
import ScreenGoblin.ThreeValued

open js collections screengoblin.schedule screengoblin.server sql

namespace screengoblin.prisma

/-! ## Constraints -/

def stateIs (row : ReleaseCandidateRow) (state : ReleaseCandidateState) : Truth :=
  known (row.state == state)

/-- `ReleaseCandidate_state_timestamps` -/
def stateTimestamps (row : ReleaseCandidateRow) : Truth :=
  let createdAt := some row.createdAt
  let expiresAt := some row.expiresAt
  ((stateIs row .draft).and ((isNull row.submittedAt).and ((isNull row.approvedAt).and
      (isNull row.publishedAt)))).or
  (((stateIs row .inReview).and ((le createdAt row.submittedAt).and
      ((lt row.submittedAt expiresAt).and ((isNull row.approvedAt).and
        (isNull row.publishedAt))))).or
  (((stateIs row .approved).and ((le createdAt row.submittedAt).and
      ((le row.submittedAt row.approvedAt).and ((lt row.approvedAt expiresAt).and
        (isNull row.publishedAt))))).or
  ((stateIs row .published).and ((le createdAt row.submittedAt).and
      ((le row.submittedAt row.approvedAt).and ((le row.approvedAt row.publishedAt).and
        (lt row.publishedAt expiresAt)))))))

/-- The constraints of the table by their names, less the prefix `ReleaseCandidate_`. -/
def constraints (row : ReleaseCandidateRow) : List (String × Truth) :=
  let start := row.dailyStartMinutes
  let stop := row.dailyEndMinutes
  [("digest_format", known (isLowerHex64 row.digestSha256)),
   ("policy", known (row.policyVersion == 1)),
   ("expiry", (lt (some row.createdAt) (some row.expiresAt)).and
     (le (some row.expiresAt) (some (row.createdAt + 604800000)))),
   ("window", (isNull row.endsAt).or (lt (some row.startsAt) row.endsAt)),
   ("priority", known (row.priority != .EMERGENCY)),
   ("days", known (row.daysOfWeek.all fun day => decide (0 ≤ day) && decide (day ≤ 6))),
   ("daily", ((isNull start).or (between start (some 0) (some 1439))).and
     (((isNull stop).or (between stop (some 1) (some 1440))).and
       ((isNull start).or ((isNull stop).or (lt start stop))))),
   ("state_timestamps", stateTimestamps row),
   ("publication_state", eq (stateIs row .published) (isNotNull row.publicationId))]

def checkConstraints (row : ReleaseCandidateRow) : Except String Unit :=
  match (constraints row).find? fun constraint => !passes constraint.2 with
  | some constraint => .error ("ReleaseCandidate_" ++ constraint.1)
  | none => .ok ()

/-! ## The trigger -/

/-- The columns that no update may change. -/
structure SnapshotColumns extends ScheduleColumns where
  organizationId : String
  releaseId : String
  digestSha256 : String
  authorUserId : String
  policyVersion : Nat
  expiresAt : Int
  createdAt : Int
  deriving DecidableEq

def snapshotColumns (row : ReleaseCandidateRow) : SnapshotColumns :=
  { toScheduleColumns := row.toScheduleColumns, organizationId := row.organizationId,
    releaseId := row.releaseId, digestSha256 := row.digestSha256, authorUserId := row.authorUserId,
    policyVersion := row.policyVersion, expiresAt := row.expiresAt, createdAt := row.createdAt }

def transition (old new : ReleaseCandidateRow) : Truth :=
  ((stateIs old .draft).and ((stateIs new .inReview).and ((isNull old.publicationId).and
      ((isNull new.publicationId).and ((isNull old.submittedAt).and
        ((isNotNull new.submittedAt).and ((isNull new.approvedAt).and
          (isNull new.publishedAt)))))))).or
  (((stateIs old .inReview).and ((stateIs new .approved).and ((isNull old.publicationId).and
      ((isNull new.publicationId).and ((eq new.submittedAt old.submittedAt).and
        ((isNotNull new.approvedAt).and (isNull new.publishedAt))))))).or
  ((stateIs old .approved).and ((stateIs new .published).and ((isNull old.publicationId).and
      ((isNotNull new.publicationId).and ((eq new.submittedAt old.submittedAt).and
        ((eq new.approvedAt old.approvedAt).and (isNotNull new.publishedAt))))))))

/-- An approval that is evidence for an approved row. -/
def isEvidence (row : ReleaseCandidateRow) (approval : ReleaseApprovalRecord) : Truth :=
  (known (approval.candidateId == row.id)).and
    ((known (approval.organizationId == row.organizationId)).and
      ((known (approval.candidateDigestSha256 == row.digestSha256)).and
        (eq (some approval.approvedAt) row.approvedAt)))

/-- `guard_release_candidate_history` before an update. -/
def guardReleaseCandidateHistory (approvals : List ReleaseApprovalRecord)
    (old new : ReleaseCandidateRow) : Except String Unit :=
  if snapshotColumns new ≠ snapshotColumns old then
    .error "ReleaseCandidate snapshot is immutable"
  else if holds (transition old new).not then .error "Invalid ReleaseCandidate transition"
  else if new.state = .approved ∧
      !approvals.any (fun approval => holds (isEvidence new approval)) then
    .error "Approved state requires matching approval evidence"
  else .ok ()

/-! ## Statements -/

/-- A statement on the table. An update may change any row to any other one, and reads the
approvals of its time. -/
inductive Statement where
  | insert (rows : List ReleaseCandidateRow)
  | update (approvals : List ReleaseApprovalRecord)
      (change : ReleaseCandidateRow → Option ReleaseCandidateRow)

def insertRow (row : ReleaseCandidateRow) : Except String ReleaseCandidateRow := do
  checkConstraints row
  .ok row

def updateRow (approvals : List ReleaseApprovalRecord)
    (change : ReleaseCandidateRow → Option ReleaseCandidateRow) (old : ReleaseCandidateRow) :
    Except String ReleaseCandidateRow :=
  match change old with
  | none => .ok old
  | some new => do
    guardReleaseCandidateHistory approvals old new
    checkConstraints new
    .ok new

/-- A statement writes all its rows or none. -/
def execute (table : List ReleaseCandidateRow) : Statement →
    Except String (List ReleaseCandidateRow)
  | .insert rows => do
    let inserted ← rows.mapM insertRow
    .ok (table ++ inserted)
  | .update approvals change => table.mapM (updateRow approvals change)

/-- The table after statements that were all accepted. -/
def executeAll (statements : List Statement) : Except String (List ReleaseCandidateRow) :=
  statements.foldlM execute []

/-! ## Evidence times -/

/-- The times of the steps that were taken, in order and before the expiry, and no other. -/
def EvidenceTimes (row : ReleaseCandidateRow) : Prop :=
  match row.state with
  | .draft => row.submittedAt = none ∧ row.approvedAt = none ∧ row.publishedAt = none
  | .inReview => ∃ submittedAt, row.submittedAt = some submittedAt ∧
      row.createdAt ≤ submittedAt ∧ submittedAt < row.expiresAt ∧
      row.approvedAt = none ∧ row.publishedAt = none
  | .approved => ∃ submittedAt approvedAt, row.submittedAt = some submittedAt ∧
      row.approvedAt = some approvedAt ∧ row.createdAt ≤ submittedAt ∧
      submittedAt ≤ approvedAt ∧ approvedAt < row.expiresAt ∧ row.publishedAt = none
  | .published => ∃ submittedAt approvedAt publishedAt, row.submittedAt = some submittedAt ∧
      row.approvedAt = some approvedAt ∧ row.publishedAt = some publishedAt ∧
      row.createdAt ≤ submittedAt ∧ submittedAt ≤ approvedAt ∧ approvedAt ≤ publishedAt ∧
      publishedAt < row.expiresAt

/-- The row names the time of each step that its state stands for. -/
structure NamesTimes (row : ReleaseCandidateRow) : Prop where
  submitted : row.state ≠ .draft → row.submittedAt.isSome
  approved : row.state = .approved ∨ row.state = .published → row.approvedAt.isSome
  published : row.state = .published → row.publishedAt.isSome

/-- The update does not set a time to NULL. -/
structure KeepsTimes (old new : ReleaseCandidateRow) : Prop where
  submitted : old.submittedAt.isSome → new.submittedAt.isSome
  approved : old.approvedAt.isSome → new.approvedAt.isSome

/-- No row is written without a time that the constraint compares. -/
def WritesTimes (table : List ReleaseCandidateRow) : Statement → Prop
  | .insert rows => ∀ row ∈ rows, NamesTimes row
  | .update _ change => ∀ old ∈ table, ∀ new, change old = some new → KeepsTimes old new

section evidence

variable {row old new : ReleaseCandidateRow}

theorem stateTimestamps_of_check (accepted : checkConstraints row = .ok ()) :
    passes (stateTimestamps row) = true := by
  unfold checkConstraints at accepted
  split at accepted
  · cases accepted
  · rename_i none
    rw [List.find?_eq_none] at none
    simpa using none ("state_timestamps", stateTimestamps row) (by simp [constraints])

/-- The constraint on the times, where a time that is NULL is compared with nothing. -/
theorem passes_stateTimestamps :
    passes (stateTimestamps row) = true ↔ match row.state with
      | .draft => row.submittedAt = none ∧ row.approvedAt = none ∧ row.publishedAt = none
      | .inReview => (∀ t, row.submittedAt = some t → row.createdAt ≤ t ∧ t < row.expiresAt) ∧
          row.approvedAt = none ∧ row.publishedAt = none
      | .approved => (∀ t, row.submittedAt = some t → row.createdAt ≤ t) ∧
          (∀ t u, row.submittedAt = some t → row.approvedAt = some u → t ≤ u) ∧
          (∀ t, row.approvedAt = some t → t < row.expiresAt) ∧ row.publishedAt = none
      | .published => (∀ t, row.submittedAt = some t → row.createdAt ≤ t) ∧
          (∀ t u, row.submittedAt = some t → row.approvedAt = some u → t ≤ u) ∧
          (∀ t u, row.approvedAt = some t → row.publishedAt = some u → t ≤ u) ∧
          ∀ t, row.publishedAt = some t → t < row.expiresAt := by
  unfold stateTimestamps stateIs
  cases row.state <;> simp <;> grind

/-- A row that passes the constraint has its evidence unless a time is missing. -/
theorem evidence_iff_namesTimes (accepted : checkConstraints row = .ok ()) :
    EvidenceTimes row ↔ NamesTimes row := by
  have times := passes_stateTimestamps.mp (stateTimestamps_of_check accepted)
  unfold EvidenceTimes
  cases state : row.state with
  | draft =>
    rw [state] at times
    constructor
    · intro _
      exact ⟨by simp [state], by simp [state], by simp [state]⟩
    · intro _
      exact times
  | inReview =>
    rw [state] at times
    obtain ⟨ordered, noApproval, noPublication⟩ := times
    constructor
    · rintro ⟨t, submitted, _⟩
      exact ⟨by simp [submitted], by simp [state], by simp [state]⟩
    · intro names
      obtain ⟨t, submitted⟩ := Option.isSome_iff_exists.mp (names.submitted (by simp [state]))
      exact ⟨t, submitted, (ordered t submitted).1, (ordered t submitted).2, noApproval,
        noPublication⟩
  | approved =>
    rw [state] at times
    obtain ⟨created, ordered, unexpired, noPublication⟩ := times
    constructor
    · rintro ⟨t, u, submitted, approved, _⟩
      exact ⟨by simp [submitted], by simp [approved], by simp [state]⟩
    · intro names
      obtain ⟨t, submitted⟩ := Option.isSome_iff_exists.mp (names.submitted (by simp [state]))
      obtain ⟨u, approved⟩ := Option.isSome_iff_exists.mp (names.approved (by simp [state]))
      exact ⟨t, u, submitted, approved, created t submitted, ordered t u submitted approved,
        unexpired u approved, noPublication⟩
  | published =>
    rw [state] at times
    obtain ⟨created, ordered, later, unexpired⟩ := times
    constructor
    · rintro ⟨t, u, v, submitted, approved, published, _⟩
      exact ⟨by simp [submitted], by simp [approved], by simp [published]⟩
    · intro names
      obtain ⟨t, submitted⟩ := Option.isSome_iff_exists.mp (names.submitted (by simp [state]))
      obtain ⟨u, approved⟩ := Option.isSome_iff_exists.mp (names.approved (by simp [state]))
      obtain ⟨v, published⟩ := Option.isSome_iff_exists.mp (names.published state)
      exact ⟨t, u, v, submitted, approved, published, created t submitted,
        ordered t u submitted approved, later u v approved published, unexpired v published⟩

/-- What the trigger lets an update do: one step, where the time of this step is set. -/
theorem passes_transition (accepted : passes (transition old new) = true) :
    (old.state = .draft ∧ new.state = .inReview ∧ new.submittedAt.isSome = true) ∨
    (old.state = .inReview ∧ new.state = .approved ∧ new.approvedAt.isSome = true) ∨
    (old.state = .approved ∧ new.state = .published ∧ new.publishedAt.isSome = true) := by
  unfold transition stateIs at accepted
  simp only [passes_or, passes_and, passes_known, passes_isNotNull, Bool.or_eq_true,
    Bool.and_eq_true, beq_iff_eq] at accepted
  rcases accepted with ⟨draft, inReview, _, _, _, submitted, _⟩ |
    ⟨inReview, approved, _, _, _, named, _⟩ | ⟨approved, published, _, _, _, _, named⟩
  · exact Or.inl ⟨draft, inReview, submitted⟩
  · exact Or.inr (Or.inl ⟨inReview, approved, named⟩)
  · exact Or.inr (Or.inr ⟨approved, published, named⟩)

theorem transition_of_guard {approvals : List ReleaseApprovalRecord}
    (accepted : guardReleaseCandidateHistory approvals old new = .ok ()) :
    passes (transition old new) = true := by
  unfold guardReleaseCandidateHistory at accepted
  split at accepted
  · cases accepted
  split at accepted
  · cases accepted
  · rename_i _ kept
    rw [holds_not, Bool.not_eq_true, Bool.not_eq_false'] at kept
    exact kept

/-- An accepted update of a row with evidence leaves the evidence unless it erases a time. -/
theorem namesTimes_iff_keepsTimes (evidence : EvidenceTimes old)
    (moves : passes (transition old new) = true) : NamesTimes new ↔ KeepsTimes old new := by
  rcases passes_transition moves with ⟨draft, inReview, named⟩ | ⟨inReview, approved, named⟩ |
    ⟨approved, published, named⟩
  · unfold EvidenceTimes at evidence
    rw [draft] at evidence
    obtain ⟨noSubmission, noApproval, _⟩ := evidence
    constructor
    · intro _
      exact ⟨by simp [noSubmission], by simp [noApproval]⟩
    · intro _
      exact ⟨fun _ => named, by simp [inReview], by simp [inReview]⟩
  · unfold EvidenceTimes at evidence
    rw [inReview] at evidence
    obtain ⟨t, submitted, _, _, noApproval, _⟩ := evidence
    constructor
    · intro names
      exact ⟨fun _ => names.submitted (by simp [approved]), by simp [noApproval]⟩
    · intro keeps
      exact ⟨fun _ => keeps.submitted (by simp [submitted]), fun _ => named, by simp [approved]⟩
  · unfold EvidenceTimes at evidence
    rw [approved] at evidence
    obtain ⟨t, u, submitted, isApproved, _⟩ := evidence
    constructor
    · intro names
      exact ⟨fun _ => names.submitted (by simp [published]),
        fun _ => names.approved (Or.inr published)⟩
    · intro keeps
      exact ⟨fun _ => keeps.submitted (by simp [submitted]),
        fun _ => keeps.approved (by simp [isApproved]), fun _ => named⟩

theorem insertRow_ok : insertRow row = .ok new ↔ checkConstraints row = .ok () ∧ new = row := by
  unfold insertRow
  rw [bind_ok]
  constructor
  · rintro ⟨_, accepted, same⟩
    exact ⟨accepted, (Except.ok.inj same).symm⟩
  · rintro ⟨accepted, same⟩
    exact ⟨(), accepted, by rw [same]⟩

theorem evidence_insert {table rows next : List ReleaseCandidateRow}
    (evidence : ∀ row ∈ table, EvidenceTimes row)
    (accepted : execute table (.insert rows) = .ok next) :
    (∀ row ∈ next, EvidenceTimes row) ↔ WritesTimes table (.insert rows) := by
  obtain ⟨inserted, made, same⟩ := bind_ok.mp accepted
  cases same
  constructor
  · intro good row isRow
    obtain ⟨new, member, written⟩ := mapM_ok_result made isRow
    obtain ⟨checked, rfl⟩ := insertRow_ok.mp written
    exact (evidence_iff_namesTimes checked).mp (good new (List.mem_append_right _ member))
  · intro writes row member
    rcases List.mem_append.mp member with old | new
    · exact evidence row old
    · obtain ⟨source, isRow, written⟩ := mapM_ok_mem made new
      obtain ⟨checked, rfl⟩ := insertRow_ok.mp written
      exact (evidence_iff_namesTimes checked).mpr (writes row isRow)

/-- What an accepted update of one row does to its evidence. -/
theorem evidence_updateRow {approvals : List ReleaseApprovalRecord}
    {change : ReleaseCandidateRow → Option ReleaseCandidateRow} (evidence : EvidenceTimes old)
    (written : updateRow approvals change old = .ok row) :
    EvidenceTimes row ↔ ∀ new, change old = some new → KeepsTimes old new := by
  unfold updateRow at written
  cases changed : change old with
  | none =>
    rw [changed] at written
    cases written
    simp [evidence]
  | some new =>
    rw [changed] at written
    obtain ⟨_, guarded, checked⟩ := bind_ok.mp written
    obtain ⟨_, checked, same⟩ := bind_ok.mp checked
    cases same
    rw [evidence_iff_namesTimes checked,
      namesTimes_iff_keepsTimes evidence (transition_of_guard guarded)]
    simp

theorem evidence_update {table next : List ReleaseCandidateRow}
    {approvals : List ReleaseApprovalRecord}
    {change : ReleaseCandidateRow → Option ReleaseCandidateRow}
    (evidence : ∀ row ∈ table, EvidenceTimes row)
    (accepted : execute table (.update approvals change) = .ok next) :
    (∀ row ∈ next, EvidenceTimes row) ↔ WritesTimes table (.update approvals change) := by
  constructor
  · intro good old isRow
    obtain ⟨new, member, written⟩ := mapM_ok_result accepted isRow
    exact (evidence_updateRow (evidence old isRow) written).mp (good new member)
  · intro writes row member
    obtain ⟨old, isRow, written⟩ := mapM_ok_mem accepted member
    exact (evidence_updateRow (evidence old isRow) written).mpr (writes old isRow)

/-- An accepted statement leaves evidence in every row exactly if it writes no row without a time
that is compared. -/
theorem evidence_execute {table next : List ReleaseCandidateRow} {statement : Statement}
    (evidence : ∀ row ∈ table, EvidenceTimes row) (accepted : execute table statement = .ok next) :
    (∀ row ∈ next, EvidenceTimes row) ↔ WritesTimes table statement := by
  cases statement with
  | insert rows => exact evidence_insert evidence accepted
  | update approvals change => exact evidence_update evidence accepted

end evidence

/-! ## Runs -/

theorem executeAll_snoc (done : List Statement) (statement : Statement) :
    executeAll (done ++ [statement]) = (do
      let table ← executeAll done
      execute table statement) := by
  unfold executeAll
  rw [List.foldlM_append]
  simp

/-- Every table that accepted statements lead to has its evidence times exactly if none of them
writes a row without a time that the constraints compare. -/
theorem evidence_times_hold_while_every_time_is_written (statements : List Statement) :
    (∀ done table, done <+: statements → executeAll done = .ok table →
      ∀ row ∈ table, EvidenceTimes row) ↔
    ∀ done statement table next, done ++ [statement] <+: statements →
      executeAll done = .ok table → execute table statement = .ok next →
        WritesTimes table statement := by
  constructor
  · intro evidence done statement table next isPrefix reached accepted
    have whole : executeAll (done ++ [statement]) = .ok next := by
      rw [executeAll_snoc]
      exact bind_ok.mpr ⟨table, reached, accepted⟩
    have before : done <+: statements := (List.prefix_append done [statement]).trans isPrefix
    exact (evidence_execute (evidence done table before reached) accepted).mp
      (evidence _ next isPrefix whole)
  · intro writes done
    -- by induction on the statements, the last one first
    induction done using List.reverseRecOn with
    | nil =>
      intro table _ reached
      cases reached
      intro row member
      cases member
    | append_singleton done statement ih =>
      intro next isPrefix reached
      rw [executeAll_snoc] at reached
      obtain ⟨table, before, accepted⟩ := bind_ok.mp reached
      have good := ih table ((List.prefix_append done [statement]).trans isPrefix) before
      exact (evidence_execute good accepted).mpr
        (writes done statement table next isPrefix before accepted)

/-! ## A candidate in review that was never submitted -/

def unsubmitted : ReleaseCandidateRow :=
  { workingColumns with
    id := uuid 8, organizationId := "acme", releaseId := uuid 5, state := .inReview,
    digestSha256 := candidateDigest, authorUserId := "ann", policyVersion := 1,
    expiresAt := mondayAt 24, submittedAt := none, approvedAt := none, publishedAt := none,
    publicationId := none, createdAt := mondayAt 9 }

theorem unsubmitted_passes : checkConstraints unsubmitted = .ok () := by
  have none : ((constraints unsubmitted).find? fun constraint => !passes constraint.2).isNone :=
    by decide +kernel
  unfold checkConstraints
  rw [Option.isNone_iff_eq_none.mp none]

/-- The constraint compares the missing time with the other times, and lets the row pass. -/
theorem a_candidate_in_review_without_a_submission_is_inserted :
    executeAll [.insert [unsubmitted]] = .ok [unsubmitted] ∧ ¬EvidenceTimes unsubmitted := by
  constructor
  · have written : insertRow unsubmitted = .ok unsubmitted :=
      insertRow_ok.mpr ⟨unsubmitted_passes, rfl⟩
    have inserted : execute [] (.insert [unsubmitted]) = .ok [unsubmitted] :=
      bind_ok.mpr ⟨[unsubmitted], mapM_ok_iff.mpr (.cons written .nil), rfl⟩
    exact (executeAll_snoc [] _).trans (bind_ok.mpr ⟨[], rfl, inserted⟩)
  · rintro ⟨_, submitted, _⟩
    cases submitted

end screengoblin.prisma
