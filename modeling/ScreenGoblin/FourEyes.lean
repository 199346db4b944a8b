-- The four eyes of a release: what a screen is shown was approved by a second person, in
-- exactly the form in which it was published. The invariant `FourEyes` ties the candidates,
-- the releases and the assignments together, and every operation of the store keeps it.
import ScreenGoblin.ReleaseSteps

open js collections screengoblin.schedule

namespace screengoblin.server

/-! ## The invariant -/

/-- A second person has approved the candidate, under the digest it has. -/
def ApprovedByAnother (c : ReleaseCandidateRecord) : Prop :=
  ∃ approval, c.approval = some approval ∧ approval.candidateId = c.id ∧
    approval.approverUserId ≠ c.authorUserId ∧ approval.candidateDigestSha256 = c.digestSha256

/-- The assignment is the publication of the candidate. -/
structure ComesFrom (a : ReleaseAssignmentRecord) (c : ReleaseCandidateRecord) : Prop where
  published : c.state = .published
  organization : a.organizationId = c.organizationId
  assignment : c.assignmentId = some a.id
  scheduleId : c.scheduleId = some a.scheduleId
  release : a.releaseId = c.releaseId
  schedule : a.schedule = c.schedule
  screens : a.screenIds = c.screenIds

structure CandidateOk (P : Platform) (releases : List PublishedReleaseRecord)
    (c : ReleaseCandidateRecord) : Prop where
  valid : hasValidCandidateDigest P c = true
  release : ∃ r ∈ releases, r.id = c.releaseId ∧ r.organizationId = c.organizationId ∧
    r.digestSha256 = c.releaseDigestSha256
  frozen : ∃ snapshot, releaseSnapshotDigest P snapshot = c.releaseDigestSha256 ∧
    snapshot.items = c.items
  approval : c.state = .approved ∨ c.state = .published → ApprovedByAnother c
  unassigned : c.state ≠ .published → c.assignmentId = none
  assigned : c.state = .published → c.scheduleId.isSome = true ∧ c.assignmentId.isSome = true

structure FourEyes (P : Platform) (s : MemoryStore) : Prop where
  candidateIds : KeysUnique ReleaseCandidateRecord.id s.releaseCandidates
  releaseIds : KeysUnique PublishedReleaseRecord.id s.releases
  candidatesDrawn : ∀ c ∈ s.releaseCandidates, Drawn P s c.id
  releasesDrawn : ∀ r ∈ s.releases, Drawn P s r.id
  candidates : ∀ c ∈ s.releaseCandidates, CandidateOk P s.releases c
  releases : ∀ r ∈ s.releases, hasValidStoredReleaseDigest P r = true
  assignmentsDrawn : ∀ c ∈ s.releaseCandidates, ∀ x, c.assignmentId = some x → Drawn P s x
  oneCandidate : ∀ c ∈ s.releaseCandidates, ∀ c' ∈ s.releaseCandidates, ∀ x,
    c.assignmentId = some x → c'.assignmentId = some x → c = c'
  assigned : ∀ a ∈ s.releaseAssignments, a.state = .assigned →
    ∃ c ∈ s.releaseCandidates, ComesFrom a c

theorem fourEyes_seeded (P : Platform) (users : List SessionUser) :
    FourEyes P (.seeded users) where
  candidateIds := List.nodup_nil
  releaseIds := List.nodup_nil
  candidatesDrawn := by simp [MemoryStore.seeded]
  releasesDrawn := by simp [MemoryStore.seeded]
  candidates := by simp [MemoryStore.seeded]
  releases := by simp [MemoryStore.seeded]
  assignmentsDrawn := by simp [MemoryStore.seeded]
  oneCandidate := by simp [MemoryStore.seeded]
  assigned := by simp [MemoryStore.seeded]

/-! ## Steps that keep the invariant -/

section
variable {P : Platform} {s s' : MemoryStore}

/-- The invariant speaks about three collections and the drawn identifiers only. -/
theorem FourEyes.congr (h : FourEyes P s) (releases : s'.releases = s.releases)
    (assignments : s'.releaseAssignments = s.releaseAssignments)
    (candidates : s'.releaseCandidates = s.releaseCandidates)
    (more : s.idsDrawn ≤ s'.idsDrawn) : FourEyes P s' where
  candidateIds := by rw [candidates]; exact h.candidateIds
  releaseIds := by rw [releases]; exact h.releaseIds
  candidatesDrawn := by
    rw [candidates]
    intro c hc
    exact (h.candidatesDrawn c hc).mono more
  releasesDrawn := by
    rw [releases]
    intro r hr
    exact (h.releasesDrawn r hr).mono more
  candidates := by rw [candidates, releases]; exact h.candidates
  releases := by rw [releases]; exact h.releases
  assignmentsDrawn := by
    rw [candidates]
    intro c hc x hx
    exact (h.assignmentsDrawn c hc x hx).mono more
  oneCandidate := by rw [candidates]; exact h.oneCandidate
  assigned := by rw [assignments, candidates]; exact h.assigned

theorem FourEyes.same (h : FourEyes P s) (same : SameReleases s s') : FourEyes P s' :=
  h.congr same.releases same.releaseAssignments same.releaseCandidates same.idsDrawn

theorem mem_expiredCandidates {org : String} {timestamp : Int} {c : ReleaseCandidateRecord}
    (h : c ∈ expiredCandidates P s org timestamp) :
    c ∈ s.releaseCandidates ∧ c.organizationId = org ∧ c.state ≠ .published ∧
      c.expiresAt ≤ timestamp - RELEASE_CANDIDATE_RESPONSE_RETENTION_MS := by
  unfold expiredCandidates at h
  have h := List.mem_of_mem_take h
  simp only [List.mem_insertionSort, List.mem_filter, Bool.and_eq_true, beq_iff_eq, bne_iff_ne,
    decide_eq_true_eq] at h
  exact ⟨h.1, h.2.1.1, h.2.1.2, h.2.2⟩

/-- What the pruning leaves: a candidate that is published, or that has not long expired. -/
theorem pruned_keeps (h : FourEyes P s) {org : String} {timestamp : Int}
    {c : ReleaseCandidateRecord} (hc : c ∈ s.releaseCandidates)
    (kept : c.state = .published ∨
      timestamp - RELEASE_CANDIDATE_RESPONSE_RETENTION_MS < c.expiresAt) :
    c ∈ (pruneExpiredCandidates P org timestamp s).releaseCandidates := by
  unfold pruneExpiredCandidates
  simp only [List.mem_filter, Bool.not_eq_true', List.contains_eq_mem, decide_eq_false_iff_not,
    List.mem_map, not_exists, not_and]
  refine ⟨hc, ?_⟩
  intro e he same
  obtain ⟨stored, _, unpublished, expired⟩ := mem_expiredCandidates he
  have : e = c := h.candidateIds.eq stored hc same
  subst this
  rcases kept with isPublished | recent
  · exact unpublished isPublished
  · omega

theorem pruned_sublist {org : String} {timestamp : Int} {c : ReleaseCandidateRecord}
    (hc : c ∈ (pruneExpiredCandidates P org timestamp s).releaseCandidates) :
    c ∈ s.releaseCandidates := by
  unfold pruneExpiredCandidates at hc
  exact (List.mem_filter.mp hc).1

theorem FourEyes.pruned (h : FourEyes P s) (org : String) (timestamp : Int) :
    FourEyes P (pruneExpiredCandidates P org timestamp s) where
  candidateIds := h.candidateIds.filter _
  releaseIds := h.releaseIds.filter _
  candidatesDrawn c hc := h.candidatesDrawn c (pruned_sublist hc)
  releasesDrawn r hr := h.releasesDrawn r (List.mem_filter.mp hr).1
  candidates := by
    intro c hc
    have ok := h.candidates c (pruned_sublist hc)
    obtain ⟨r, hr, same, organization, digest⟩ := ok.release
    -- a release stays as long as one of the kept candidates names it
    have stays : r ∈ (pruneExpiredCandidates P org timestamp s).releases := by
      refine List.mem_filter.mpr ⟨hr, ?_⟩
      have named : (pruneExpiredCandidates P org timestamp s).releaseCandidates.any
          (fun candidate => candidate.releaseId == r.id) = true :=
        List.any_eq_true.mpr ⟨c, hc, by simp [same]⟩
      simp only [pruneExpiredCandidates] at named
      simp only [named, Bool.or_true, Bool.true_or]
    exact { ok with release := ⟨r, stays, same, organization, digest⟩ }
  releases r hr := h.releases r (List.mem_filter.mp hr).1
  assignmentsDrawn c hc := h.assignmentsDrawn c (pruned_sublist hc)
  oneCandidate c hc c' hc' := h.oneCandidate c (pruned_sublist hc) c' (pruned_sublist hc')
  assigned := by
    intro a ha isAssigned
    obtain ⟨c, hc, comes⟩ := h.assigned a ha isAssigned
    exact ⟨c, pruned_keeps h hc (.inl comes.published), comes⟩

theorem CandidateOk.mono {releases releases' : List PublishedReleaseRecord}
    {c : ReleaseCandidateRecord} (ok : CandidateOk P releases c)
    (more : ∀ r ∈ releases, r ∈ releases') : CandidateOk P releases' c := by
  obtain ⟨r, hr, names⟩ := ok.release
  exact { ok with release := ⟨r, more r hr, names⟩ }

/-- The release of a new candidate is one of the store, or carries a fresh identifier. -/
theorem releaseFor_spec (h : FourEyes P s) (org actor : String) (timestamp : Int)
    (snapshot : CanonicalReleaseSnapshot) :
    (releaseFor P s org actor timestamp snapshot).organizationId = org ∧
      (releaseFor P s org actor timestamp snapshot).digestSha256 =
        releaseSnapshotDigest P snapshot ∧
      hasValidStoredReleaseDigest P (releaseFor P s org actor timestamp snapshot) = true ∧
      (releaseFor P s org actor timestamp snapshot ∈ s.releases ∨
        (releaseFor P s org actor timestamp snapshot).id = P.freshId (s.idsDrawn + 0)) := by
  unfold releaseFor
  dsimp only
  split
  · next release found =>
    have stored := List.mem_of_find?_eq_some found
    have test := List.find?_some found
    simp only [Bool.and_eq_true, beq_iff_eq] at test
    exact ⟨test.1, test.2, h.releases release stored, .inl stored⟩
  · refine ⟨rfl, rfl, ?_, .inr rfl⟩
    simp [hasValidStoredReleaseDigest, canonicalStoredReleaseSnapshot]

theorem newCandidate_ok (h : FourEyes P s) (org : String) (data : CandidateInput)
    (actor : String) (timestamp : Int) (snapshot : CanonicalReleaseSnapshot)
    {releases : List PublishedReleaseRecord}
    (stored : releaseFor P s org actor timestamp snapshot ∈ releases) :
    CandidateOk P releases (newCandidate P s org data actor timestamp snapshot) where
  valid := by
    simp only [hasValidCandidateDigest, newCandidate, releaseCandidateDigest_canonical,
      beq_self_eq_true, Bool.and_self]
  release := by
    obtain ⟨organization, digest, _⟩ := releaseFor_spec h org actor timestamp snapshot
    exact ⟨_, stored, rfl, organization, digest⟩
  frozen := ⟨snapshot, rfl, rfl⟩
  approval := by simp [newCandidate]
  unassigned _ := rfl
  assigned := by simp [newCandidate]

theorem FourEyes.added (h : FourEyes P s) (org : String) (data : CandidateInput)
    (actor : String) (timestamp : Int) (snapshot : CanonicalReleaseSnapshot) :
    FourEyes P (addCandidate P org data actor timestamp snapshot s) := by
  obtain ⟨organization, digest, valid, origin⟩ := releaseFor_spec h org actor timestamp snapshot
  have more : s.idsDrawn ≤ (addCandidate P org data actor timestamp snapshot s).idsDrawn :=
    Nat.le_add_right _ _
  have drawn (k : Nat) (hk : k < 2) : Drawn P
      (addCandidate P org data actor timestamp snapshot s) (P.freshId (s.idsDrawn + k)) :=
    ⟨s.idsDrawn + k, by simp only [addCandidate]; omega, rfl⟩
  have releases : ∀ r ∈ (addCandidate P org data actor timestamp snapshot s).releases,
      r ∈ s.releases ∨ r = releaseFor P s org actor timestamp snapshot := by
    intro r hr
    simp only [addCandidate] at hr
    split at hr
    · exact .inl hr
    · simpa using hr
  have oldReleases : ∀ r ∈ s.releases,
      r ∈ (addCandidate P org data actor timestamp snapshot s).releases := by
    intro r hr
    simp only [addCandidate]
    split
    · exact hr
    · simp [hr]
  have newRelease : releaseFor P s org actor timestamp snapshot ∈
      (addCandidate P org data actor timestamp snapshot s).releases := by
    simp only [addCandidate]
    split
    · assumption
    · simp
  have candidates : ∀ c ∈ (addCandidate P org data actor timestamp snapshot s).releaseCandidates,
      c ∈ s.releaseCandidates ∨ c = newCandidate P s org data actor timestamp snapshot := by
    intro c hc
    simpa [addCandidate] using hc
  exact
    { candidateIds := by
        apply h.candidateIds.append
        intro c hc
        exact (h.candidatesDrawn c hc).ne 1
      releaseIds := by
        simp only [addCandidate]
        split
        · exact h.releaseIds
        · next isNew =>
          apply h.releaseIds.append
          intro r hr
          rcases origin with stored | fresh
          · exact absurd stored isNew
          · rw [fresh]
            exact (h.releasesDrawn r hr).ne 0
      candidatesDrawn := by
        intro c hc
        rcases candidates c hc with old | rfl
        · exact (h.candidatesDrawn c old).mono more
        · exact drawn 1 (by omega)
      releasesDrawn := by
        intro r hr
        rcases releases r hr with old | rfl
        · exact (h.releasesDrawn r old).mono more
        · rcases origin with stored | fresh
          · exact (h.releasesDrawn _ stored).mono more
          · rw [fresh]
            exact drawn 0 (by omega)
      candidates := by
        intro c hc
        rcases candidates c hc with old | rfl
        · exact (h.candidates c old).mono oldReleases
        · exact newCandidate_ok h org data actor timestamp snapshot newRelease
      releases := by
        intro r hr
        rcases releases r hr with old | rfl
        · exact h.releases r old
        · exact valid
      assignmentsDrawn := by
        intro c hc x hx
        rcases candidates c hc with old | rfl
        · exact (h.assignmentsDrawn c old x hx).mono more
        · cases hx
      oneCandidate := by
        intro c hc c' hc' x hx hx'
        rcases candidates c hc with old | rfl
        · rcases candidates c' hc' with old' | rfl
          · exact h.oneCandidate c old c' old' x hx hx'
          · cases hx'
        · cases hx
      assigned := by
        intro a ha isAssigned
        obtain ⟨c, hc, comes⟩ := h.assigned a ha isAssigned
        exact ⟨c, by simp [addCandidate, hc], comes⟩ }

/-! ## Transitions of a candidate -/

theorem Eligible.mem {org candidateId : String} {timestamp : Int} {c : ReleaseCandidateRecord}
    (h : Eligible P s org candidateId timestamp c) :
    c ∈ s.releaseCandidates ∧ c.organizationId = org ∧ c.id = candidateId := by
  have test := List.find?_some h.found
  simp only [isCandidate, Bool.and_eq_true, beq_iff_eq] at test
  exact ⟨List.mem_of_find?_eq_some h.found, test.1, test.2⟩

/-- What no transition changes: who a candidate is, and what its digest covers. -/
structure SameForm (c' c : ReleaseCandidateRecord) : Prop where
  id : c'.id = c.id
  organization : c'.organizationId = c.organizationId
  digest : c'.digestSha256 = c.digestSha256
  expiry : c'.expiresAt = c.expiresAt

/-- A change of one open candidate that keeps its form. If the change assigns it, the
assignment has a fresh identifier. -/
structure Transition (P : Platform) (s s' : MemoryStore) (c c' : ReleaseCandidateRecord) :
    Prop where
  stored : c ∈ s.releaseCandidates
  open_ : c.state ≠ .published
  form : SameForm c' c
  ok : CandidateOk P s.releases c'
  fresh : ∀ x, c'.assignmentId = some x →
    x = P.freshId (s.idsDrawn + 1) ∧ s.idsDrawn + 1 < s'.idsDrawn
  changed : ∀ d ∈ s'.releaseCandidates, d = c' ∨ (d ∈ s.releaseCandidates ∧ d.id ≠ c.id)
  present : c' ∈ s'.releaseCandidates
  others : ∀ d ∈ s.releaseCandidates, d ≠ c → d ∈ s'.releaseCandidates
  candidateIds : KeysUnique ReleaseCandidateRecord.id s'.releaseCandidates
  releases : s'.releases = s.releases
  more : s.idsDrawn ≤ s'.idsDrawn

/-- The change of an eligible candidate in its place. -/
theorem transition_of_update (h : FourEyes P s) {org candidateId : String} {timestamp : Int}
    {c : ReleaseCandidateRecord} (eligible : Eligible P s org candidateId timestamp c)
    (open_ : c.state ≠ .published) (change : ReleaseCandidateRecord → ReleaseCandidateRecord)
    (keeps : ∀ d, SameForm (change d) d) (ok : CandidateOk P s.releases (change c))
    (candidates : s'.releaseCandidates =
      updateFirst (isCandidate org candidateId) change s.releaseCandidates)
    (releases : s'.releases = s.releases) (more : s.idsDrawn ≤ s'.idsDrawn)
    (fresh : ∀ x, (change c).assignmentId = some x →
      x = P.freshId (s.idsDrawn + 1) ∧ s.idsDrawn + 1 < s'.idsDrawn) :
    Transition P s s' c (change c) where
  stored := eligible.mem.1
  open_ := open_
  form := keeps c
  ok := ok
  fresh := fresh
  changed := by
    rw [candidates]
    intro d hd
    exact mem_updateFirst_of_unique h.candidateIds (fun d => (keeps d).id) eligible.found hd
  present := by rw [candidates]; exact updated_mem eligible.found
  others := by
    rw [candidates]
    intro d hd other
    exact others_mem eligible.found hd other
  candidateIds := by
    rw [candidates]
    exact h.candidateIds.updateFirst _ change fun d => (keeps d).id
  releases := releases
  more := more

/-- A transition keeps the invariant, when each new assignment comes from the candidate. -/
theorem FourEyes.transition (h : FourEyes P s) {c c' : ReleaseCandidateRecord}
    (t : Transition P s s' c c')
    (assignments : ∀ a ∈ s'.releaseAssignments, a.state = .assigned →
      a ∈ s.releaseAssignments ∨ ComesFrom a c') : FourEyes P s' where
  candidateIds := t.candidateIds
  releaseIds := by rw [t.releases]; exact h.releaseIds
  candidatesDrawn := by
    intro d hd
    rcases t.changed d hd with rfl | ⟨old, _⟩
    · rw [t.form.id]
      exact (h.candidatesDrawn c t.stored).mono t.more
    · exact (h.candidatesDrawn d old).mono t.more
  releasesDrawn := by
    rw [t.releases]
    intro r hr
    exact (h.releasesDrawn r hr).mono t.more
  candidates := by
    rw [t.releases]
    intro d hd
    rcases t.changed d hd with rfl | ⟨old, _⟩
    · exact t.ok
    · exact h.candidates d old
  releases := by rw [t.releases]; exact h.releases
  assignmentsDrawn := by
    intro d hd x hx
    rcases t.changed d hd with rfl | ⟨old, _⟩
    · obtain ⟨rfl, before⟩ := t.fresh x hx
      exact ⟨_, before, rfl⟩
    · exact (h.assignmentsDrawn d old x hx).mono t.more
  oneCandidate := by
    intro d hd d' hd' x hx hx'
    rcases t.changed d hd with rfl | ⟨old, _⟩
    · rcases t.changed d' hd' with rfl | ⟨old', _⟩
      · rfl
      · exact absurd (t.fresh x hx).1 ((h.assignmentsDrawn d' old' x hx').ne 1)
    · rcases t.changed d' hd' with rfl | ⟨old', _⟩
      · exact absurd (t.fresh x hx').1 ((h.assignmentsDrawn d old x hx).ne 1)
      · exact h.oneCandidate d old d' old' x hx hx'
  assigned := by
    intro a ha isAssigned
    rcases assignments a ha isAssigned with old | new
    · obtain ⟨d, hd, comes⟩ := h.assigned a old isAssigned
      -- the candidate of an assignment is published, so it is not the one that changes
      have other : d ≠ c := by
        intro same
        exact t.open_ (same ▸ comes.published)
      exact ⟨d, t.others d hd other, comes⟩
    · exact ⟨c', t.present, new⟩

def nextState : ReleaseCandidateState → ReleaseCandidateState
  | .draft => .inReview
  | .inReview => .approved
  | .approved | .published => .published

/-- A completed submit, approve or publish moves its candidate one state on. -/
theorem Completes.transition (h : FourEyes P s) {timestamp : Int} {c : Command}
    {after : MemoryStore} {candidate : ReleaseCandidateRecord}
    (change : Completes P timestamp s c candidate after) (notCreate : c.operation ≠ .create) :
    ∃ d, Transition P s after d candidate ∧ candidate.state = nextState d.state := by
  cases change with
  | create => exact absurd rfl notCreate
  | submit org candidateId digest actor idempotency d eligible author draft =>
    have ok := h.candidates d eligible.mem.1
    have open_ : d.state ≠ .published := by simp [draft]
    refine ⟨d, transition_of_update h eligible open_ (submitted timestamp)
      (fun _ => ⟨rfl, rfl, rfl, rfl⟩) ?_ rfl rfl (Nat.le_refl _) ?_, by simp [submitted, draft, nextState]⟩
    · exact { valid := ok.valid, release := ok.release, frozen := ok.frozen,
              approval := by simp [submitted], unassigned := fun _ => ok.unassigned open_,
              assigned := by simp [submitted] }
    · intro x hx
      simp [submitted, ok.unassigned open_] at hx
  | approve org candidateId digest actor idempotency d user eligible other inReview current =>
    have ok := h.candidates d eligible.mem.1
    have open_ : d.state ≠ .published := by simp [inReview]
    refine ⟨d, transition_of_update h eligible open_ (approved P s org actor user timestamp)
      (fun _ => ⟨rfl, rfl, rfl, rfl⟩) ?_ rfl rfl (Nat.le_succ _) ?_, by simp [approved, inReview, nextState]⟩
    · exact { valid := ok.valid, release := ok.release, frozen := ok.frozen,
              approval := fun _ => ⟨_, rfl, rfl, Ne.symm other, rfl⟩,
              unassigned := fun _ => ok.unassigned open_, assigned := by simp [approved] }
    · intro x hx
      simp [approved, ok.unassigned open_] at hx
  | publish org candidateId digest actor origins idempotency d approval release eligible
      wasApproved own sameDigest current frozen =>
    have ok := h.candidates d eligible.mem.1
    have open_ : d.state ≠ .published := by simp [wasApproved]
    refine ⟨d, transition_of_update h eligible open_ (published P s timestamp)
      (fun _ => ⟨rfl, rfl, rfl, rfl⟩) ?_ rfl rfl (Nat.le_add_right _ _) ?_,
      by simp [published, wasApproved, nextState]⟩
    · exact { valid := ok.valid, release := ok.release, frozen := ok.frozen,
              approval := fun _ => ok.approval (.inl wasApproved),
              unassigned := by simp [published], assigned := fun _ => ⟨rfl, rfl⟩ }
    · intro x hx
      cases hx
      exact ⟨rfl, Nat.lt_succ_self _⟩

/-- Only a publication adds an assignment, and the assignment comes from its candidate. -/
theorem Completes.assignments {timestamp : Int} {c : Command} {after : MemoryStore}
    {candidate : ReleaseCandidateRecord} (change : Completes P timestamp s c candidate after) :
    ∀ a ∈ after.releaseAssignments, a.state = .assigned →
      a ∈ s.releaseAssignments ∨ ComesFrom a candidate := by
  intro a ha isAssigned
  cases change with
  | create | submit | approve => exact .inl ha
  | publish org candidateId digest actor origins idempotency d approval release eligible
      wasApproved own sameDigest current frozen =>
    simp only [addPublication, List.mem_append, List.mem_singleton] at ha
    rcases ha with old | rfl
    · exact .inl old
    · have named := List.find?_some frozen
      simp only [Bool.and_eq_true, beq_iff_eq] at named
      exact .inr ⟨rfl, eligible.mem.2.1.symm, rfl, rfl, named.2, rfl, rfl⟩

theorem FourEyes.completed (h : FourEyes P s) {timestamp : Int} {c : Command}
    {after : MemoryStore} {candidate : ReleaseCandidateRecord}
    (change : Completes P timestamp s c candidate after) : FourEyes P after := by
  by_cases isCreate : c.operation = .create
  · cases change with
    | create org data actor origins idempotency snapshot unexpired prepared =>
      exact (h.pruned org timestamp).added org data actor timestamp snapshot
    | submit | approve | publish => cases isCreate
  · obtain ⟨d, t, _⟩ := change.transition h isCreate
    exact h.transition t change.assignments

theorem FourEyes.perform (h : FourEyes P s) (timestamp : Int) (c : Command) :
    FourEyes P (c.perform P timestamp s).1 := by
  have ends := perform_ends P timestamp c s
  generalize c.perform P timestamp s = outcome at ends ⊢
  cases ends with
  | stops stop => exact h
  | prunes stop isCreate => exact h.pruned c.org timestamp
  | completes candidate after admitted change =>
    exact (h.completed change).congr rfl rfl rfl (Nat.le_refl _)

theorem FourEyes.withdrawn (h : FourEyes P s) (timestamp : Int) (org scheduleId actor : String) :
    FourEyes P (withdrawSchedule P timestamp org scheduleId actor s).1 := by
  unfold withdrawSchedule
  dsimp only
  repeat' split
  all_goals try exact h
  exact
    { candidateIds := h.candidateIds
      releaseIds := h.releaseIds
      candidatesDrawn := fun c hc => (h.candidatesDrawn c hc).mono (Nat.le_succ _)
      releasesDrawn := fun r hr => (h.releasesDrawn r hr).mono (Nat.le_succ _)
      candidates := h.candidates
      releases := h.releases
      assignmentsDrawn := fun c hc x hx => (h.assignmentsDrawn c hc x hx).mono (Nat.le_succ _)
      oneCandidate := h.oneCandidate
      assigned := by
        intro a ha isAssigned
        simp only [List.mem_append, List.mem_singleton] at ha
        rcases ha with old | rfl
        · exact h.assigned a old isAssigned
        · cases isAssigned }

theorem FourEyes.after (h : FourEyes P s) (event : Event) (allowed : event.Allowed s) :
    FourEyes P (event.after P s) := by
  cases event with
  | command timestamp c => exact h.perform timestamp c
  | withdraw timestamp org scheduleId actor => exact h.withdrawn timestamp org scheduleId actor
  | call timestamp c => exact h.same (c.perform_same P timestamp s)
  | elsewhere after => exact h.same allowed

/-- The invariant holds after every run. -/
theorem Run.fourEyes {past : Past} (run : Run P past s) : FourEyes P s := by
  induction run with
  | seeded users => exact fourEyes_seeded P users
  | step _ event allowed ih => exact ih.after event allowed

end

end screengoblin.server
