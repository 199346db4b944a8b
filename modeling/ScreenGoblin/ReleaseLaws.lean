-- The laws of the releases over whole runs of the store: each candidate goes through its
-- states in order and is published at most once, and a screen is shown only what a second
-- person has approved.
import ScreenGoblin.FourEyes

open js collections screengoblin.schedule

namespace screengoblin.server

/-! ## The states of a candidate over a run -/

/-- The state of the candidate with this identifier, if it is in the store. -/
def stateOf (s : MemoryStore) (candidateId : String) : Option ReleaseCandidateState :=
  (s.releaseCandidates.find? fun c => c.id == candidateId).map (·.state)

/-- A state is noted when the candidate is there and was not in this state before. -/
def noteState (candidateId : String) (history : List ReleaseCandidateState) (s : MemoryStore) :
    List ReleaseCandidateState :=
  match stateOf s candidateId with
  | none => history
  | some state => if history.getLast? = some state then history else history ++ [state]

/-- The states that a candidate goes through in the stores of a run. -/
def stateHistory (candidateId : String) (stores : List MemoryStore) :
    List ReleaseCandidateState :=
  stores.foldl (noteState candidateId) []

def storesOf (past : Past) (s : MemoryStore) : List MemoryStore := past.map Prod.fst ++ [s]

/-- The step of a run that publishes the candidate. -/
def publishes (P : Platform) (candidateId : String) (entry : MemoryStore × Event) : Bool :=
  stateOf entry.1 candidateId != some .published &&
    stateOf (entry.2.after P entry.1) candidateId == some .published

section
variable {P : Platform} {s : MemoryStore}

theorem stateOf_mem (h : FourEyes P s) {c : ReleaseCandidateRecord}
    (hc : c ∈ s.releaseCandidates) : stateOf s c.id = some c.state := by
  have found : s.releaseCandidates.find? (fun d => d.id == c.id) = some c := by
    apply h.candidateIds.find hc
    · simp
    · intro d same
      simpa using same
  simp [stateOf, found]

theorem stateOf_some {candidateId : String} {state : ReleaseCandidateState}
    (h : stateOf s candidateId = some state) :
    ∃ c ∈ s.releaseCandidates, c.id = candidateId ∧ c.state = state := by
  unfold stateOf at h
  obtain ⟨c, found, same⟩ := Option.map_eq_some_iff.mp h
  have named := List.find?_some found
  exact ⟨c, List.mem_of_find?_eq_some found, by simpa using named, same⟩

/-- Where a candidate after an operation comes from: it was there, it is new, or it has moved
one state on. -/
theorem candidate_origin (h : FourEyes P s) {event : Event} (allowed : event.Allowed s)
    {d : ReleaseCandidateRecord} (hd : d ∈ (event.after P s).releaseCandidates) :
    d ∈ s.releaseCandidates ∨ (d.state = .draft ∧ ¬ Drawn P s d.id) ∨
      ∃ c ∈ s.releaseCandidates, c.id = d.id ∧ d.state = nextState c.state := by
  cases event with
  | command timestamp c =>
    simp only [Event.after] at hd
    have ends := perform_ends P timestamp c s
    generalize c.perform P timestamp s = outcome at ends hd
    cases ends with
    | stops stop => exact .inl hd
    | prunes stop isCreate => exact .inl (pruned_sublist hd)
    | completes candidate after admitted change =>
      by_cases isCreate : c.operation = .create
      · cases change with
        | create org data actor origins idempotency snapshot unexpired prepared =>
          simp only [complete, compactExpiredIdempotencyResponses, rememberReleaseCandidate,
            addCandidate, List.mem_append, List.mem_singleton] at hd
          rcases hd with old | rfl
          · exact .inl (pruned_sublist old)
          · exact .inr (.inl ⟨rfl, not_drawn P s 1⟩)
        | submit | approve | publish => cases isCreate
      · obtain ⟨c, t, moved⟩ := change.transition h isCreate
        rcases t.changed d hd with rfl | ⟨old, _⟩
        · exact .inr (.inr ⟨c, t.stored, t.form.id.symm, moved⟩)
        · exact .inl old
  | withdraw timestamp org scheduleId actor =>
    left
    unfold Event.after withdrawSchedule at hd
    dsimp only at hd
    repeat' split at hd
    all_goals exact hd
  | call timestamp c =>
    left
    rw [← (c.perform_same P timestamp s).releaseCandidates]
    exact hd
  | elsewhere after =>
    left
    rw [← (show SameReleases s after from allowed).releaseCandidates]
    exact hd

/-- A published candidate stays as it is. -/
theorem published_stays (h : FourEyes P s) {event : Event} (allowed : event.Allowed s)
    {c : ReleaseCandidateRecord} (hc : c ∈ s.releaseCandidates)
    (isPublished : c.state = .published) : c ∈ (event.after P s).releaseCandidates := by
  cases event with
  | command timestamp command =>
    simp only [Event.after]
    have ends := perform_ends P timestamp command s
    generalize command.perform P timestamp s = outcome at ends ⊢
    cases ends with
    | stops stop => exact hc
    | prunes stop isCreate => exact pruned_keeps h hc (.inl isPublished)
    | completes candidate after admitted change =>
      by_cases isCreate : command.operation = .create
      · cases change with
        | create org data actor origins idempotency snapshot unexpired prepared =>
          exact List.mem_append_left _ (pruned_keeps h hc (.inl isPublished))
        | submit | approve | publish => cases isCreate
      · obtain ⟨d, t, _⟩ := change.transition h isCreate
        apply t.others c hc
        intro same
        exact t.open_ (same ▸ isPublished)
  | withdraw timestamp org scheduleId actor =>
    unfold Event.after withdrawSchedule
    dsimp only
    repeat' split
    all_goals exact hc
  | call timestamp call =>
    rw [Event.after, (call.perform_same P timestamp s).releaseCandidates]
    exact hc
  | elsewhere after =>
    rw [Event.after, (show SameReleases s after from allowed).releaseCandidates]
    exact hc

/-! ### The history is a prefix of the four states -/

def statesUpTo : ReleaseCandidateState → List ReleaseCandidateState
  | .draft => [.draft]
  | .inReview => [.draft, .inReview]
  | .approved => [.draft, .inReview, .approved]
  | .published => [.draft, .inReview, .approved, .published]

structure HistoryOk (P : Platform) (s : MemoryStore) (candidateId : String)
    (history : List ReleaseCandidateState) : Prop where
  inOrder : history <+: [.draft, .inReview, .approved, .published]
  fresh : ¬ Drawn P s candidateId → history = []
  present : ∀ state, stateOf s candidateId = some state → history = statesUpTo state

theorem statesUpTo_inOrder (state : ReleaseCandidateState) :
    statesUpTo state <+: [.draft, .inReview, .approved, .published] := by
  cases state <;> decide

theorem statesUpTo_last (state : ReleaseCandidateState) :
    (statesUpTo state).getLast? = some state := by
  cases state <;> rfl

theorem HistoryOk.of_present {s : MemoryStore} {candidateId : String}
    {state : ReleaseCandidateState} (h : FourEyes P s)
    (now : stateOf s candidateId = some state) :
    HistoryOk P s candidateId (statesUpTo state) where
  inOrder := statesUpTo_inOrder state
  fresh := by
    intro notDrawn
    obtain ⟨c, hc, same, _⟩ := stateOf_some now
    exact absurd (same ▸ h.candidatesDrawn c hc) notDrawn
  present := by
    intro state' now'
    rw [now] at now'
    cases now'
    rfl

theorem noteState_present {s : MemoryStore} {candidateId : String}
    {state : ReleaseCandidateState} (now : stateOf s candidateId = some state) :
    noteState candidateId (statesUpTo state) s = statesUpTo state := by
  simp [noteState, now, statesUpTo_last]

/-- A candidate that moves one state on adds this state to its history. -/
theorem noteState_next {s : MemoryStore} {candidateId : String} {state : ReleaseCandidateState}
    (now : stateOf s candidateId = some (nextState state)) :
    noteState candidateId (statesUpTo state) s = statesUpTo (nextState state) := by
  unfold noteState
  rw [now]
  cases state <;> rfl

theorem drawn_mono (h : FourEyes P s) {event : Event} (allowed : event.Allowed s) :
    s.idsDrawn ≤ (event.after P s).idsDrawn := by
  cases event with
  | command timestamp c =>
    simp only [Event.after]
    have ends := perform_ends P timestamp c s
    generalize c.perform P timestamp s = outcome at ends ⊢
    cases ends with
    | stops stop => exact Nat.le_refl _
    | prunes stop isCreate => exact Nat.le_refl _
    | completes candidate after admitted change =>
      by_cases isCreate : c.operation = .create
      · cases change with
        | create => exact Nat.le_add_right _ _
        | submit | approve | publish => cases isCreate
      · obtain ⟨d, t, _⟩ := change.transition h isCreate
        exact t.more
  | withdraw timestamp org scheduleId actor =>
    unfold Event.after withdrawSchedule
    dsimp only
    repeat' split
    all_goals first | exact Nat.le_refl _ | exact Nat.le_succ _
  | call timestamp c => exact (c.perform_same P timestamp s).idsDrawn
  | elsewhere after => exact (show SameReleases s after from allowed).idsDrawn

theorem HistoryOk.step (h : FourEyes P s) {candidateId : String}
    {history : List ReleaseCandidateState} (ok : HistoryOk P s candidateId history)
    {event : Event} (allowed : event.Allowed s) :
    HistoryOk P (event.after P s) candidateId
      (noteState candidateId history (event.after P s)) := by
  cases now : stateOf (event.after P s) candidateId with
  | none =>
    have unchanged : noteState candidateId history (event.after P s) = history := by
      simp [noteState, now]
    rw [unchanged]
    exact
      { inOrder := ok.inOrder
        fresh := by
          intro notDrawn
          apply ok.fresh
          intro drawn
          exact notDrawn (drawn.mono (drawn_mono h allowed))
        present := by simp [now] }
  | some state =>
    obtain ⟨d, hd, rfl, rfl⟩ := stateOf_some now
    have whole : noteState d.id history (event.after P s) = statesUpTo d.state := by
      rcases candidate_origin h allowed hd with old | ⟨draft, new⟩ | ⟨c, hc, same, moved⟩
      · rw [ok.present d.state (stateOf_mem h old)]
        exact noteState_present now
      · rw [ok.fresh new]
        simp [noteState, now, draft, statesUpTo]
      · rw [ok.present c.state (same ▸ stateOf_mem h hc), moved]
        exact noteState_next (moved ▸ now)
    rw [whole]
    exact .of_present (h.after event allowed) now

theorem Run.historyOk {past : Past} (run : Run P past s) (candidateId : String) :
    HistoryOk P s candidateId (stateHistory candidateId (storesOf past s)) := by
  induction run with
  | seeded users =>
    exact
      { inOrder := by simp [stateHistory, storesOf, noteState, stateOf, MemoryStore.seeded]
        fresh := by simp [stateHistory, storesOf, noteState, stateOf, MemoryStore.seeded]
        present := by simp [stateOf, MemoryStore.seeded] }
  | @step past s run event allowed ih =>
    have grown : stateHistory candidateId (storesOf (past ++ [(s, event)]) (event.after P s)) =
        noteState candidateId (stateHistory candidateId (storesOf past s)) (event.after P s) := by
      simp [stateHistory, storesOf]
    rw [grown]
    exact ih.step run.fourEyes allowed

/-! ### One publication -/

theorem published_for_good (h : FourEyes P s) {event : Event} (allowed : event.Allowed s)
    {candidateId : String} (was : stateOf s candidateId = some .published) :
    stateOf (event.after P s) candidateId = some .published := by
  obtain ⟨c, hc, rfl, isPublished⟩ := stateOf_some was
  have stays := published_stays h allowed hc isPublished
  rw [stateOf_mem (h.after event allowed) stays, isPublished]

/-- A run has published a candidate once if it is published now, and never before. -/
theorem Run.publications {past : Past} (run : Run P past s) (candidateId : String) :
    (past.filter (publishes P candidateId)).length =
      if stateOf s candidateId = some .published then 1 else 0 := by
  induction run with
  | seeded users => simp [stateOf, MemoryStore.seeded]
  | @step past s run event allowed ih =>
    rw [List.filter_append, List.length_append, ih]
    by_cases was : stateOf s candidateId = some .published
    · have still := published_for_good run.fourEyes allowed was
      simp [publishes, was, still]
    · by_cases now : stateOf (event.after P s) candidateId = some .published
      · simp [publishes, was, now]
      · simp [publishes, was, now]

/-! ## What a publication rests on -/

/-- The step that publishes a candidate finds its approver still as the approval has it. -/
theorem publication_is_current (h : FourEyes P s) {event : Event} (allowed : event.Allowed s)
    {d : ReleaseCandidateRecord} (hd : d ∈ (event.after P s).releaseCandidates)
    (isPublished : d.state = .published) (wasNot : stateOf s d.id ≠ some .published) :
    ∃ approval, d.approval = some approval ∧
      approvalIsCurrent s d.organizationId approval = true := by
  have notOld : d ∉ s.releaseCandidates := by
    intro old
    exact wasNot (isPublished ▸ stateOf_mem h old)
  cases event with
  | command timestamp c =>
    simp only [Event.after] at hd
    have ends := perform_ends P timestamp c s
    generalize c.perform P timestamp s = outcome at ends hd
    cases ends with
    | stops stop => exact absurd hd notOld
    | prunes stop isCreate => exact absurd (pruned_sublist hd) notOld
    | completes candidate after admitted change =>
      by_cases isCreate : c.operation = .create
      · cases change with
        | create org data actor origins idempotency snapshot unexpired prepared =>
          simp only [complete, compactExpiredIdempotencyResponses, rememberReleaseCandidate,
            addCandidate, List.mem_append, List.mem_singleton] at hd
          rcases hd with old | rfl
          · exact absurd (pruned_sublist old) notOld
          · cases isPublished
        | submit | approve | publish => cases isCreate
      · obtain ⟨d', t, _⟩ := change.transition h isCreate
        rcases t.changed d hd with rfl | ⟨old, _⟩
        · cases change with
          | create => exact absurd rfl isCreate
          | submit | approve => cases isPublished
          | publish org candidateId digest actor origins idempotency c approval release eligible
              wasApproved own sameDigest current frozen =>
            refine ⟨approval, own, ?_⟩
            rw [show (published P s timestamp c).organizationId = org from eligible.mem.2.1]
            exact current
        · exact absurd old notOld
  | withdraw timestamp org scheduleId actor =>
    unfold Event.after withdrawSchedule at hd
    dsimp only at hd
    repeat' split at hd
    all_goals exact absurd hd notOld
  | call timestamp c =>
    rw [Event.after, (c.perform_same P timestamp s).releaseCandidates] at hd
    exact absurd hd notOld
  | elsewhere after =>
    rw [Event.after, (show SameReleases s after from allowed).releaseCandidates] at hd
    exact absurd hd notOld

/-! ## What a screen is shown -/

theorem latestAssignment_mem {scheduleId : String} {a : ReleaseAssignmentRecord}
    (h : latestAssignment s scheduleId = some a) : a ∈ s.releaseAssignments := by
  unfold latestAssignment at h
  exact List.mem_reverse.mp (List.mem_of_find?_eq_some h)

/-- A shown release is in the store with its assignment, and both digests are right. -/
theorem shown_spec {org screenId : String} {instant : Int} {shown : ActiveOrdinaryRelease}
    (h : shown ∈ activeOrdinaryReleases P s org screenId instant) :
    shown.assignment ∈ s.releaseAssignments ∧ shown.assignment.state = .assigned ∧
      shown.release ∈ s.releases ∧
      hasValidStoredAssignmentDigest P shown.assignment shown.release = true := by
  unfold activeOrdinaryReleases at h
  obtain ⟨schedule, _, found⟩ := List.mem_filterMap.mp h
  unfold activeReleaseOf at found
  split at found
  · cases found
  · split at found
    · cases found
    · next assignment latest =>
      split at found
      · next active =>
        simp only [Bool.and_eq_true, beq_iff_eq] at active
        split at found
        · cases found
        · next release hrelease =>
          split at found
          · next valid =>
            cases found
            exact ⟨latestAssignment_mem latest, active.1.1.2,
              List.mem_of_find?_eq_some hrelease, valid⟩
          · cases found
      · cases found

/-- The candidate of an assignment is the only one that names it. -/
structure Publication (P : Platform) (s : MemoryStore) (a : ReleaseAssignmentRecord)
    (c : ReleaseCandidateRecord) : Prop where
  stored : c ∈ s.releaseCandidates
  comes : ComesFrom a c
  only : ∀ c' ∈ s.releaseCandidates, c'.assignmentId = some a.id → c' = c
  approved : ApprovedByAnother c
  digest : c.digestSha256 = releaseCandidateDigest P c.releaseDigestSha256 c.schedule c.screenIds
    c.expiresAt

theorem FourEyes.publication (h : FourEyes P s) {a : ReleaseAssignmentRecord}
    (ha : a ∈ s.releaseAssignments) (isAssigned : a.state = .assigned) :
    ∃ c, Publication P s a c := by
  obtain ⟨c, hc, comes⟩ := h.assigned a ha isAssigned
  have ok := h.candidates c hc
  have valid := ok.valid
  simp only [hasValidCandidateDigest, Bool.and_eq_true, beq_iff_eq] at valid
  refine ⟨c, hc, comes, ?_, ok.approval (.inr comes.published), valid.2⟩
  intro c' hc' same
  exact h.oneCandidate c' hc' c hc a.id same comes.assignment

/-- The release of an approved candidate has the digest that was approved. Unless the digests of the
approved snapshot and of this release collide, it has the items that were approved. -/
theorem FourEyes.shown (h : FourEyes P s) {org screenId : String} {instant : Int}
    {shown : ActiveOrdinaryRelease}
    (isShown : shown ∈ activeOrdinaryReleases P s org screenId instant) :
    ∃ c, Publication P s shown.assignment c ∧
      shown.release.digestSha256 = c.releaseDigestSha256 ∧
      shown.release.digestSha256 =
        releaseSnapshotDigest P (canonicalStoredReleaseSnapshot shown.release) ∧
      ∃ approved, releaseSnapshotDigest P approved = c.releaseDigestSha256 ∧
        approved.items = c.items ∧
        (DigestsApart P [approved, canonicalStoredReleaseSnapshot shown.release] →
          shown.release.items = c.items) := by
  obtain ⟨stored, isAssigned, release, valid⟩ := shown_spec isShown
  obtain ⟨c, publication⟩ := h.publication stored isAssigned
  have ok := h.candidates c publication.stored
  obtain ⟨r, hr, sameId, _, digest⟩ := ok.release
  simp only [hasValidStoredAssignmentDigest, hasValidStoredReleaseDigest, Bool.and_eq_true,
    beq_iff_eq] at valid
  obtain ⟨⟨⟨_, releaseId⟩, releaseDigest⟩, _⟩ := valid
  have same : r = shown.release := by
    apply h.releaseIds.eq hr release
    rw [sameId, ← publication.comes.release, releaseId]
  subst same
  obtain ⟨approved, frozenDigest, items⟩ := ok.frozen
  refine ⟨c, publication, digest, releaseDigest, approved, frozenDigest, items, ?_⟩
  intro apart
  have sameDigest : releaseSnapshotDigest P approved =
      releaseSnapshotDigest P (canonicalStoredReleaseSnapshot shown.release) := by
    rw [frozenDigest, ← digest, releaseDigest]
  have sameSnapshot := apart approved (by simp) _ (by simp) sameDigest
  rw [← items, sameSnapshot]
  rfl

/-- Over every run of the store: an assignment comes from one published candidate that a second
person has approved under its own digest; a candidate goes through its four states in order and
is published at most once; a publication finds the epochs of the approver as they were at the
approval; and a screen is shown no other release. -/
theorem a_release_has_four_eyes {past : Past} (run : Run P past s) :
    (∀ a ∈ s.releaseAssignments, a.state = .assigned → ∃ c, Publication P s a c) ∧
    (∀ candidateId,
      stateHistory candidateId (storesOf past s) <+: [.draft, .inReview, .approved, .published] ∧
      (past.filter (publishes P candidateId)).length ≤ 1) ∧
    (∀ event : Event, event.Allowed s → ∀ c ∈ (event.after P s).releaseCandidates,
      c.state = .published → stateOf s c.id ≠ some .published →
      ∃ approval, c.approval = some approval ∧
        approvalIsCurrent s c.organizationId approval = true) ∧
    (∀ org screenId instant, ∀ shown ∈ activeOrdinaryReleases P s org screenId instant,
      ∃ c, Publication P s shown.assignment c ∧
        shown.release.digestSha256 = c.releaseDigestSha256 ∧
        shown.release.digestSha256 =
          releaseSnapshotDigest P (canonicalStoredReleaseSnapshot shown.release) ∧
        ∃ approved, releaseSnapshotDigest P approved = c.releaseDigestSha256 ∧
          approved.items = c.items ∧
          (DigestsApart P [approved, canonicalStoredReleaseSnapshot shown.release] →
            shown.release.items = c.items)) := by
  have invariant := run.fourEyes
  refine ⟨?_, ?_, ?_, ?_⟩
  · intro a ha isAssigned
    exact invariant.publication ha isAssigned
  · intro candidateId
    refine ⟨(run.historyOk candidateId).inOrder, ?_⟩
    rw [run.publications candidateId]
    split <;> omega
  · intro event allowed c hc isPublished wasNot
    exact publication_is_current invariant allowed hc isPublished wasNot
  · intro org screenId instant shown isShown
    exact invariant.shown isShown

end

/-! ## A content management system with one poster -/

/-- A two-digit number in base 16. -/
def hexPair (n : Nat) : List Char := [Nat.digitChar (n / 16), Nat.digitChar (n % 16)]

/-- The identifiers of this example: UUIDs for the first 256 draws. -/
def uuid (n : Nat) : String :=
  String.ofList ("5c3e9a10-7b24-4d6f-9e81-2f0a6b7c8d".toList ++
    (if n < 256 then hexPair n else List.replicate n '0'))

theorem hexDigit_injective : ∀ a < 16, ∀ b < 16, Nat.digitChar a = Nat.digitChar b → a = b := by
  decide

theorem uuid_injective : Function.Injective uuid := by
  intro a b same
  have tails := List.append_cancel_left (String.ofList_injective same)
  split at tails <;> split at tails
  · simp only [hexPair, List.cons.injEq, and_true] at tails
    have high := hexDigit_injective _ (by omega) _ (by omega) tails.1
    have low := hexDigit_injective _ (by omega) _ (by omega) tails.2
    omega
  · have := congrArg List.length tails
    simp [hexPair] at this
    omega
  · have := congrArg List.length tails
    simp [hexPair] at this
    omega
  · simpa using congrArg List.length tails

/-- The canonical texts of the instants of this example. -/
def instantTexts : List (Int × String) :=
  [(mondayAt 0 - 345600000, "2026-01-01T00:00:00.000Z"),
   (mondayAt 9, "2026-01-05T09:00:00.000Z"),
   (mondayAt 9 + 60000, "2026-01-05T09:01:00.000Z"),
   (mondayAt 9 + 120000, "2026-01-05T09:02:00.000Z"),
   (mondayAt 24, "2026-01-06T00:00:00.000Z")]

/-- Any other instant gets a text of its own, by counting. -/
def countedText (t : Int) : String :=
  String.ofList ((if 0 ≤ t then '+' else '-') :: List.replicate t.natAbs '0')

def countedInstant (text : String) : Option Int :=
  match text.toList with
  | '+' :: digits => some digits.length
  | '-' :: digits => some (-digits.length)
  | _ => none

def isoText (t : Int) : String :=
  match instantTexts.find? fun entry => entry.1 == t with
  | some entry => entry.2
  | none => countedText t

def isoInstant (text : String) : Option Int :=
  match instantTexts.find? fun entry => entry.2 == text with
  | some entry => some entry.1
  | none => countedInstant text

theorem countedInstant_countedText (t : Int) : countedInstant (countedText t) = some t := by
  unfold countedInstant countedText
  by_cases positive : 0 ≤ t
  · have counted : ((List.replicate t.natAbs '0').length : Int) = t := by
      rw [List.length_replicate]
      omega
    simp only [positive, if_true, String.toList_ofList, counted]
  · have counted : -((List.replicate t.natAbs '0').length : Int) = t := by
      rw [List.length_replicate]
      omega
    simp only [positive, if_false, String.toList_ofList, counted]

theorem isoInstant_isoText (t : Int) : isoInstant (isoText t) = some t := by
  unfold isoText
  split
  · next entry found =>
    have listed : entry ∈ instantTexts := List.mem_of_find?_eq_some found
    have same : entry.1 = t := by simpa using List.find?_some found
    have back : ∀ e ∈ instantTexts, isoInstant e.2 = some e.1 := by decide
    rw [back entry listed, same]
  · have unlisted : instantTexts.find? (fun entry => entry.2 == countedText t) = none := by
      rw [List.find?_eq_none]
      intro entry listed equal
      have digit : ∀ e ∈ instantTexts, e.2.toList.head? = some '2' := by decide
      have first := digit entry listed
      rw [beq_iff_eq.mp equal] at first
      unfold countedText at first
      split at first <;> simp at first
    unfold isoInstant
    rw [unlisted]
    exact countedInstant_countedText t

def posterChecksum : String := "293b9207228b7854bc3ccb2959ebea1583e066d41983124a5b381d6fdf6575f8"
def releaseDigest : String := "04d5af9dc6ed892d486abf0062c6020e227ffc555361b132e7e7f6da9f1237d7"
def candidateDigest : String := "bce0884035c1aee713213c60ee56958d2d8e4257802e2f5cfdd75179e8c56b60"
def assignmentDigest : String := "6506903675daf08ab44fd740ba5db51db1d1019622a3b320fb545599da5aeeb5"

/-- The runtime without its hash. -/
def cmsTexts : Platform where
  freshId := uuid
  freshId_injective := uuid_injective
  sha256 _ := ""
  toISOString := isoText
  dateParse := isoInstant
  dateParse_toISOString := isoInstant_isoText
  localeCompare := compare
  parseUrl text :=
    if text == "https://media.example/poster.png" then
      some { protocol := "https:", username := "", password := "", hostname := "media.example"
             origin := "https://media.example", search := "", hash := "" }
    else none
  zones := onlyUTC

def posterItem : FrozenReleaseItem :=
  { id := uuid 2, position := 0, durationSeconds := 15
    asset := { id := uuid 0, name := "Poster", kind := .image, mimeType := "image/png",
               url := "https://media.example/poster.png",
               storageKey := some ("organizations/acme/assets/" ++ uuid 0 ++ "/" ++ posterChecksum),
               checksumSha256 := posterChecksum, sizeBytes := 2048, createdAt := mondayAt 9,
               expiresAt := none } }

def posterSnapshot : CanonicalReleaseSnapshot :=
  { sourcePlaylistId := uuid 1, sourcePlaylistUpdatedAt := mondayAt 9, playlistName := "Lobby",
    playlistDescription := "", items := [posterItem] }

def workingHours : FrozenScheduleSnapshot := mondays (some 480) (some 1080)

/-- The hash on the three snapshots of the example. -/
def cms : Platform :=
  { cmsTexts with
    sha256 := fun json =>
      if json = posterSnapshot.json cmsTexts then releaseDigest
      else if json = candidateSnapshotJson cmsTexts releaseDigest workingHours [uuid 3]
        (mondayAt 24) then candidateDigest
      else if json = assignmentSnapshotJson cmsTexts releaseDigest .assigned workingHours [uuid 3]
        none then assignmentDigest
      else "" }

def member (id : String) (role : Role) : SessionUser :=
  { id, passwordHash := "", organizationId := "acme", role, authenticationEpoch := 0,
    authorizationEpoch := 0, membershipId := none, bootstrapPasswordExpiresAt := none,
    disabledAt := none }

def team : List SessionUser := [member "ann" .publisher, member "ben" .admin, member "vic" .viewer]

def keyOf : ReleaseOperation → ReleaseCandidateIdempotencyInput
  | .create =>
    { keyHash := "f35356db796107aaa051327658949af87340410d0187ced29cf4e6802b78dd1c"
      requestDigestSha256 := "42eeb664df2e56f412c649533bcc335f0751b0879b2636f90b8c168955fc2558" }
  | .submit =>
    { keyHash := "c5d57f1f4beb84fbb1dbc03c9aec6ddbf95987384427f092623c5fa1a0c90716"
      requestDigestSha256 := "b221c6b18166ec151a37535d7c415a0d052e9bb1f52d66bbc1332651cf95b0c8" }
  | .approve =>
    { keyHash := "58d56d66759fa3ae1291c95199d26dfbdd2d0b27983cb59ac35fdfb1f70e6824"
      requestDigestSha256 := "4dd92f08add9ef6cfed71d493636ee49e978db769f98e05c562023f100f56788" }
  | .publish =>
    { keyHash := "b0d108b57e0837182710cfce2ec375b5896b5588011bdd9ceba31258d9df69a6"
      requestDigestSha256 := "9730be0bb6edd22fb97b475b5795c2b433edcf7d951b6d4e7a1ecb8d4c0dfa69" }

/-- The call that makes the release of the poster. -/
def createPosterAs (actor : String) : Command :=
  .create "acme" { workingHours with playlistId := uuid 1, screenIds := [uuid 3],
                                     expiresAt := mondayAt 24 }
    actor ["https://media.example"] (keyOf .create)

def createPoster : Command := createPosterAs "ann"

def setUp : List Event :=
  [.call (mondayAt 9) (.createMediaAndAudit "acme"
     { name := "Poster", kind := .image, mimeType := "image/png",
       url := "https://media.example/poster.png", checksumSha256 := posterChecksum,
       sizeBytes := 2048, expiresAt := none } "ann"),
   .call (mondayAt 9) (.createPlaylistAndAudit "acme"
     { name := "Lobby", description := "",
       items := [{ assetId := uuid 0, position := 0, durationSeconds := 15 }] } "ann"),
   .call (mondayAt 9) (.createScreenAndAudit "acme"
     { name := "Lobby", location := "Door", locationId := none, orientation := .landscape,
       resolution := "1920x1080", tags := [] } "ben")]

/-- Ann makes and submits the release, Ben approves it, and Ann publishes it. -/
def fourCommands : List Event :=
  [.command (mondayAt 9) createPoster,
   .command (mondayAt 9 + 60000) (.submit "acme" (uuid 5) candidateDigest "ann" (keyOf .submit)),
   .command (mondayAt 9 + 60000) (.approve "acme" (uuid 5) candidateDigest "ben" (keyOf .approve)),
   .command (mondayAt 9 + 120000) (.publish "acme" (uuid 5) candidateDigest "ann"
     ["https://media.example"] (keyOf .publish))]

/-- The past and the store after events of a run. -/
def pastOf (P : Platform) : Past → MemoryStore → List Event → Past × MemoryStore
  | past, s, [] => (past, s)
  | past, s, event :: rest => pastOf P (past ++ [(s, event)]) (event.after P s) rest

/-- Events that name their operation are always allowed. -/
def Event.named : Event → Bool
  | .elsewhere _ => false
  | _ => true

theorem run_of_events (P : Platform) (events : List Event) (named : events.all Event.named = true)
    {past : Past} {s : MemoryStore} (run : Run P past s) :
    Run P (pastOf P past s events).1 (pastOf P past s events).2 := by
  induction events generalizing past s with
  | nil => exact run
  | cons event rest ih =>
    simp only [List.all_cons, Bool.and_eq_true] at named
    apply ih named.2
    apply run.step
    cases event with
    | elsewhere after => cases named.1
    | _ => trivial

def lobbyRun : Past × MemoryStore :=
  pastOf cms [] (.seeded team) (setUp ++ fourCommands)

theorem lobbyRun_is_run : Run cms lobbyRun.1 lobbyRun.2 :=
  run_of_events cms (setUp ++ fourCommands) rfl (.seeded team)

/-- The poster is the only snapshot of the example with its digest. -/
theorem posterSnapshot_of_digest {snapshot : CanonicalReleaseSnapshot}
    (digest : releaseSnapshotDigest cms snapshot = releaseDigest) : snapshot = posterSnapshot := by
  have other : candidateDigest ≠ releaseDigest ∧ assignmentDigest ≠ releaseDigest ∧
      "" ≠ releaseDigest := by decide
  have hash : ∀ json, json ≠ posterSnapshot.json cmsTexts → cms.sha256 json ≠ releaseDigest := by
    intro json apart
    unfold cms
    dsimp only
    rw [if_neg apart]
    split
    · exact other.1
    · split
      · exact other.2.1
      · exact other.2.2
  apply CanonicalReleaseSnapshot.json_injective cms
  by_contra apart
  exact hash (snapshot.json cms) apart digest

set_option maxRecDepth 10000 in
/-- The lobby shows the items that were approved. -/
theorem the_poster_has_four_eyes :
    ∃ shown ∈ activeOrdinaryReleases cms lobbyRun.2 "acme" (uuid 3) (mondayAt 10),
      ∃ c, Publication cms lobbyRun.2 shown.assignment c ∧
        shown.release.digestSha256 = c.releaseDigestSha256 ∧
        shown.release.items = c.items := by
  have shows : (activeOrdinaryReleases cms lobbyRun.2 "acme" (uuid 3) (mondayAt 10)).map
      (·.release.digestSha256) = [releaseDigest] := by decide +kernel
  have member : releaseDigest ∈ (activeOrdinaryReleases cms lobbyRun.2 "acme" (uuid 3)
      (mondayAt 10)).map (·.release.digestSha256) := by simp [shows]
  obtain ⟨shown, isShown, isPoster⟩ := List.mem_map.mp member
  obtain ⟨_, _, _, screens⟩ := a_release_has_four_eyes lobbyRun_is_run
  obtain ⟨c, publication, digest, content, approved, frozen, _, items⟩ :=
    screens "acme" (uuid 3) (mondayAt 10) shown isShown
  refine ⟨shown, isShown, c, publication, digest, items ?_⟩
  have isPosterSnapshot : ∀ snapshot ∈ [approved, canonicalStoredReleaseSnapshot shown.release],
      snapshot = posterSnapshot := by
    intro snapshot listed
    apply posterSnapshot_of_digest
    rw [← isPoster]
    rcases List.mem_pair.mp listed with rfl | rfl
    · rw [frozen, digest]
    · exact content.symm
  intro a ha b hb _
  rw [isPosterSnapshot a ha, isPosterSnapshot b hb]

end screengoblin.server
