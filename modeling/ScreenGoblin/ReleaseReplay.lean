-- The idempotency keys of the release commands: a command takes effect once under its key,
-- and a repeat in time gets the recorded answer, for as long as the record lasts. The
-- invariant pairs each record with the command that made it and with a live candidate.
import ScreenGoblin.ReleaseLaws
import Mathlib.Data.List.MinMax

open js collections screengoblin.schedule

namespace screengoblin.server

/-! ## The completed commands of a run -/

/-- A command that completed, with the candidate of its answer. -/
structure Completion where
  timestamp : Int
  command : Command
  candidate : ReleaseCandidateRecord

/-- The key of a command: its organization, its operation and the hash of its key. -/
def Command.key (c : Command) : String × ReleaseOperation × String :=
  (c.org, c.operation, c.idempotency.keyHash)

def completion (P : Platform) (entry : MemoryStore × Event) : Option Completion :=
  match entry.2 with
  | .command timestamp c =>
    match (c.perform P timestamp entry.1).2 with
    | .ok candidate => some { timestamp, command := c, candidate }
    | .error _ => none
  | _ => none

def completions (P : Platform) (past : Past) : List Completion := past.filterMap (completion P)

/-- The clock readings of the commands of a run. -/
def commandTimes (past : Past) : List Int :=
  past.filterMap fun entry => match entry.2 with
    | .command timestamp _ => some timestamp
    | _ => none

def Completion.expiresAt (x : Completion) : Int :=
  x.timestamp + RELEASE_CANDIDATE_RESPONSE_RETENTION_MS

/-- The record that the completed command leaves. -/
def Completion.record (x : Completion) : ReleaseIdempotencyRecord :=
  { organizationId := x.command.org, operation := x.command.operation,
    keyHash := x.command.idempotency.keyHash, actorUserId := x.command.actorUserId,
    requestDigestSha256 := x.command.idempotency.requestDigestSha256, expiresAt := x.expiresAt,
    response := some x.candidate }

/-! ## The invariant -/

/-- The record of a completed command, which may lose its response once it has expired. -/
def RecordOf (latest : Int) (x : Completion) (record : ReleaseIdempotencyRecord) : Prop :=
  record = x.record ∨ (record = { x.record with response := none } ∧ x.expiresAt ≤ latest)

/-- The candidate of a completed command is still in the store, at least as far as the command
took it, and will not be pruned before the record expires. -/
structure Live (s : MemoryStore) (x : Completion) (live : ReleaseCandidateRecord) : Prop where
  stored : live ∈ s.releaseCandidates
  form : SameForm x.candidate live
  lasting : live.state = .published ∨ x.timestamp < live.expiresAt
  wasApproved : x.command.operation = .approve → live.state = .approved ∨ live.state = .published
  wasPublished : x.command.operation = .publish → live.state = .published

structure Answered (x : Completion) : Prop where
  organization : x.candidate.organizationId = x.command.org
  state : x.candidate.state = expectedState x.command.operation

structure RecordsOk (P : Platform) (past : Past) (latest : Int) (s : MemoryStore) : Prop where
  records : List.Forall₂ (RecordOf latest) (completions P past)
    s.releaseCandidateIdempotencyRecords
  keys : ((completions P past).map fun x => x.command.key).Nodup
  answered : ∀ x ∈ completions P past, Answered x
  live : ∀ x ∈ completions P past, latest < x.expiresAt → ∃ live, Live s x live

section
variable {P : Platform} {s : MemoryStore} {latest : Int}

theorem RecordOf.matches_iff {x : Completion} {record : ReleaseIdempotencyRecord}
    (h : RecordOf latest x record) (org : String) (operation : ReleaseOperation)
    (keyHash : String) :
    isRecord org operation keyHash record = true ↔ x.command.key = (org, operation, keyHash) := by
  rcases h with rfl | ⟨rfl, _⟩ <;>
    simp [isRecord, Completion.record, Command.key, and_assoc]

/-- The record under a key is the one of the completed command with this key. -/
theorem find_record {xs : List Completion} {records : List ReleaseIdempotencyRecord}
    (paired : List.Forall₂ (RecordOf latest) xs records)
    (keys : (xs.map fun x => x.command.key).Nodup) {x : Completion} (hx : x ∈ xs) :
    ∃ record, records.find? (isRecord x.command.org x.command.operation
      x.command.idempotency.keyHash) = some record ∧ RecordOf latest x record := by
  induction paired with
  | nil => cases hx
  | @cons y record ys rest first _ ih =>
    rw [List.map_cons, List.nodup_cons] at keys
    have test := first.matches_iff x.command.org x.command.operation x.command.idempotency.keyHash
    rcases List.mem_cons.mp hx with rfl | later
    · exact ⟨record, by rw [List.find?_cons, test.mpr rfl], first⟩
    · have other : y.command.key ≠ x.command.key := by
        intro same
        exact keys.1 (same ▸ List.mem_map_of_mem later)
      obtain ⟨found, hfound, pair⟩ := ih keys.2 later
      refine ⟨found, ?_, pair⟩
      have no : isRecord x.command.org x.command.operation x.command.idempotency.keyHash record =
          false := by
        rw [Bool.eq_false_iff]
        intro yes
        exact other (test.mp yes)
      rw [List.find?_cons, no]
      exact hfound

/-- A key without a record has no completed command. -/
theorem no_record {xs : List Completion} {records : List ReleaseIdempotencyRecord}
    (paired : List.Forall₂ (RecordOf latest) xs records) {c : Command}
    (newKey : records.find? (isRecord c.org c.operation c.idempotency.keyHash) = none) :
    c.key ∉ xs.map fun x => x.command.key := by
  induction paired with
  | nil => simp
  | @cons y record ys rest first _ ih =>
    rw [List.find?_eq_none] at newKey
    have restKey : rest.find? (isRecord c.org c.operation c.idempotency.keyHash) = none :=
      List.find?_eq_none.mpr fun r hr => newKey r (List.mem_cons_of_mem _ hr)
    rw [List.map_cons, List.mem_cons, not_or]
    refine ⟨?_, ih restKey⟩
    intro same
    exact newKey record List.mem_cons_self
      ((first.matches_iff c.org c.operation c.idempotency.keyHash).mpr same.symm)

/-- A recorded candidate that lives can be replayed. -/
theorem Live.replayable (h : FourEyes P s) {x : Completion} {live : ReleaseCandidateRecord}
    (alive : Live s x live) (answered : Answered x) :
    replayable P s x.command.org x.command.operation x.candidate = true := by
  have ok := h.candidates live alive.stored
  have organization : live.organizationId = x.command.org := by
    rw [← alive.form.organization, answered.organization]
  have found : s.releaseCandidates.find? (isCandidate x.command.org x.candidate.id) =
      some live := by
    apply h.candidateIds.find alive.stored
    · simp [isCandidate, organization, alive.form.id]
    · intro d same
      simp only [isCandidate, Bool.and_eq_true, beq_iff_eq] at same
      rw [same.2, alive.form.id]
  have own (isApproved : live.state = .approved ∨ live.state = .published) :
      hasOwnApproval live = true := by
    obtain ⟨approval, isThere, _, _, digest⟩ := ok.approval isApproved
    simp [hasOwnApproval, isThere, digest]
  unfold server.replayable
  rw [found]
  simp only [answered.organization, answered.state, alive.form.digest, ok.valid]
  cases operation : x.command.operation with
  | create | submit => simp
  | approve => simp [own (alive.wasApproved operation)]
  | publish =>
    have isPublished := alive.wasPublished operation
    simp [own (.inr isPublished), isPublished, ok.assigned isPublished]

/-! ## Steps that keep the invariant -/

theorem Live.pruned (h : FourEyes P s) {x : Completion} {live : ReleaseCandidateRecord}
    (alive : Live s x live) {timestamp : Int} (inTime : timestamp < x.expiresAt) (org : String) :
    Live (pruneExpiredCandidates P org timestamp s) x live := by
  refine { alive with stored := pruned_keeps h alive.stored ?_ }
  rcases alive.lasting with isPublished | unexpired
  · exact .inl isPublished
  · right
    unfold Completion.expiresAt at inTime
    omega

/-- A candidate that moves on stays the candidate of its records. -/
theorem Live.transition {s' : MemoryStore} {x : Completion} {live c c' : ReleaseCandidateRecord}
    (alive : Live s x live) (t : Transition P s s' c c') (moved : c'.state = nextState c.state) :
    ∃ live', Live s' x live' := by
  by_cases same : live = c
  · subst same
    have lasting : x.timestamp < live.expiresAt := by
      rcases alive.lasting with isPublished | unexpired
      · exact absurd isPublished t.open_
      · exact unexpired
    refine ⟨c', t.present, ?_, .inr (t.form.expiry ▸ lasting), ?_, ?_⟩
    · exact
        { id := alive.form.id.trans t.form.id.symm
          organization := alive.form.organization.trans t.form.organization.symm
          digest := alive.form.digest.trans t.form.digest.symm
          expiry := alive.form.expiry.trans t.form.expiry.symm }
    · intro isApprove
      rcases alive.wasApproved isApprove with isApproved | isPublished
      · exact .inr (by rw [moved, isApproved]; rfl)
      · exact absurd isPublished t.open_
    · intro isPublish
      exact absurd (alive.wasPublished isPublish) t.open_
  · exact ⟨live, { alive with stored := t.others live alive.stored same }⟩

theorem mem_compactableRecords {timestamp : Int} {record : ReleaseIdempotencyRecord}
    (h : record ∈ compactableRecords P s timestamp) : record.expiresAt ≤ timestamp := by
  unfold compactableRecords at h
  have h := List.mem_of_mem_take h
  simp only [List.mem_insertionSort, List.mem_filter, Bool.and_eq_true, decide_eq_true_eq] at h
  exact h.2.2

/-- The compaction at the end of a command only takes responses that have expired. -/
theorem RecordOf.compacted {x : Completion} {record : ReleaseIdempotencyRecord}
    (h : RecordOf latest x record) {timestamp : Int} (read : timestamp ≤ latest) :
    RecordOf latest x (if record ∈ compactableRecords P s timestamp then
      { record with response := none } else record) := by
  split
  · next compactable =>
    have expired := mem_compactableRecords compactable
    rcases h with rfl | ⟨rfl, gone⟩
    · exact .inr ⟨rfl, Int.le_trans expired read⟩
    · exact .inr ⟨rfl, gone⟩
  · exact h

theorem completions_append (past : Past) (entry : MemoryStore × Event) :
    completions P (past ++ [entry]) = completions P past ++ (completion P entry).toList := by
  unfold completions
  rw [List.filterMap_append]
  cases h : completion P entry <;> simp [h]

/-- An operation that completes no command, and that neither changes a record nor prunes a
candidate whose record is in time. -/
theorem RecordsOk.unanswered {past : Past} {s' : MemoryStore} (h : RecordsOk P past latest s)
    {entry : MemoryStore × Event} (none : completion P entry = none)
    (records : s'.releaseCandidateIdempotencyRecords = s.releaseCandidateIdempotencyRecords)
    (live : ∀ x ∈ completions P past, latest < x.expiresAt → ∀ d, Live s x d → Live s' x d) :
    RecordsOk P (past ++ [entry]) latest s' := by
  have same : completions P (past ++ [entry]) = completions P past := by
    rw [completions_append, none]
    simp
  exact
    { records := by rw [same, records]; exact h.records
      keys := by rw [same]; exact h.keys
      answered := by rw [same]; exact h.answered
      live := by
        rw [same]
        intro x hx inTime
        obtain ⟨d, alive⟩ := h.live x hx inTime
        exact ⟨d, live x hx inTime d alive⟩ }

/-- What a completed command answers with: a candidate in the state of its operation, which
lives in the store after it. -/
theorem Completes.answer (h : FourEyes P s) {timestamp : Int} {c : Command}
    {candidate : ReleaseCandidateRecord} {after : MemoryStore}
    (change : Completes P timestamp s c candidate after) :
    Answered { timestamp, command := c, candidate } ∧
      Live after { timestamp, command := c, candidate } candidate := by
  have here : SameForm candidate candidate := ⟨rfl, rfl, rfl, rfl⟩
  by_cases isCreate : c.operation = .create
  · cases change with
    | create org data actor origins idempotency snapshot unexpired prepared =>
      exact ⟨⟨rfl, rfl⟩, by simp [addCandidate], here, .inr unexpired, by simp [Command.operation],
        by simp [Command.operation]⟩
    | submit | approve | publish => cases isCreate
  · obtain ⟨d, t, moved⟩ := change.transition h isCreate
    cases change with
    | create => exact absurd rfl isCreate
    | submit org candidateId digest actor idempotency d eligible author draft =>
      exact ⟨⟨eligible.mem.2.1, rfl⟩, t.present, here, .inr eligible.unexpired,
        by simp [Command.operation], by simp [Command.operation]⟩
    | approve org candidateId digest actor idempotency d user eligible other inReview current =>
      exact ⟨⟨eligible.mem.2.1, rfl⟩, t.present, here, .inr eligible.unexpired,
        fun _ => .inl rfl, by simp [Command.operation]⟩
    | publish org candidateId digest actor origins idempotency d approval release eligible
        wasApproved own sameDigest current frozen =>
      exact ⟨⟨eligible.mem.2.1, rfl⟩, t.present, here, .inr eligible.unexpired,
        by simp [Command.operation], fun _ => rfl⟩

/-- A candidate with a record in time lives on after a completed command. -/
theorem Completes.live (h : FourEyes P s) {timestamp : Int} {c : Command}
    {candidate : ReleaseCandidateRecord} {after : MemoryStore}
    (change : Completes P timestamp s c candidate after) {x : Completion}
    (inTime : timestamp < x.expiresAt) {d : ReleaseCandidateRecord} (alive : Live s x d) :
    ∃ d', Live after x d' := by
  by_cases isCreate : c.operation = .create
  · cases change with
    | create org data actor origins idempotency snapshot unexpired prepared =>
      have kept := alive.pruned h inTime org
      exact ⟨d, { kept with stored := List.mem_append_left _ kept.stored }⟩
    | submit | approve | publish => cases isCreate
  · obtain ⟨e, t, moved⟩ := change.transition h isCreate
    exact alive.transition t moved

theorem RecordsOk.completed {past : Past} (ok : RecordsOk P past latest s) (h : FourEyes P s)
    {timestamp : Int} (read : timestamp ≤ latest) {c : Command}
    {candidate : ReleaseCandidateRecord} {after : MemoryStore} (admitted : Admitted s c)
    (change : Completes P timestamp s c candidate after)
    (performed : c.perform P timestamp s =
      complete P c.org c.operation c.actorUserId c.idempotency timestamp candidate after) :
    RecordsOk P (past ++ [(s, .command timestamp c)]) latest
      (complete P c.org c.operation c.actorUserId c.idempotency timestamp candidate after).1 := by
  have answers : completion P (s, .command timestamp c) =
      some { timestamp, command := c, candidate } := by
    simp only [completion, performed, complete]
  obtain ⟨answered, alive⟩ := change.answer h
  have sameRecords : after.releaseCandidateIdempotencyRecords =
      s.releaseCandidateIdempotencyRecords := by
    cases change <;> rfl
  have all : completions P (past ++ [(s, .command timestamp c)]) =
      completions P past ++ [{ timestamp, command := c, candidate }] := by
    rw [completions_append, answers]
    rfl
  exact
    { records := by
        rw [all]
        simp only [complete, compactExpiredIdempotencyResponses, rememberReleaseCandidate,
          sameRecords]
        rw [List.forall₂_map_right_iff]
        have own : List.Forall₂ (RecordOf latest) [{ timestamp, command := c, candidate }]
            [Completion.record { timestamp, command := c, candidate }] := .cons (.inl rfl) .nil
        apply (List.rel_append ok.records own).imp
        intro x record pair
        exact RecordOf.compacted pair read
      keys := by
        rw [all, List.map_append, List.nodup_append]
        refine ⟨ok.keys, by simp, ?_⟩
        intro k hk k' hk' same
        simp only [List.map_cons, List.map_nil, List.mem_singleton] at hk'
        rw [hk'] at same
        exact no_record ok.records admitted.newKey (same ▸ hk)
      answered := by
        rw [all]
        intro x hx
        rcases List.mem_append.mp hx with old | new
        · exact ok.answered x old
        · rw [List.mem_singleton.mp new]
          exact answered
      live := by
        rw [all]
        intro x hx inTime
        rcases List.mem_append.mp hx with old | new
        · obtain ⟨d, alive⟩ := ok.live x old inTime
          obtain ⟨d', alive'⟩ := change.live h (Int.lt_of_le_of_lt read inTime) alive
          exact ⟨d', { alive' with }⟩
        · rw [List.mem_singleton.mp new]
          exact ⟨candidate, { alive with }⟩ }

theorem RecordsOk.step {past : Past} (ok : RecordsOk P past latest s) (h : FourEyes P s)
    {event : Event} (allowed : event.Allowed s)
    (read : ∀ t ∈ commandTimes [(s, event)], t ≤ latest) :
    RecordsOk P (past ++ [(s, event)]) latest (event.after P s) := by
  cases event with
  | command timestamp c =>
    have read : timestamp ≤ latest := read timestamp (by simp [commandTimes])
    have ends := perform_ends P timestamp c s
    generalize performed : c.perform P timestamp s = outcome at ends
    have stopped (stop : Stop) (s' : MemoryStore) (answer : outcome = (s', .error stop)) :
        completion P (s, .command timestamp c) = none := by
      simp only [completion, performed, answer]
    rw [Event.after, performed]
    cases ends with
    | stops stop => exact ok.unanswered (stopped stop s rfl) rfl fun x hx _ d alive => alive
    | prunes stop isCreate =>
      refine ok.unanswered (stopped stop _ rfl) ?_ ?_
      · rfl
      · intro x hx inTime d alive
        exact alive.pruned h (Int.lt_of_le_of_lt read inTime) c.org
    | completes candidate after admitted change =>
      exact ok.completed h read admitted change performed
  | withdraw timestamp org scheduleId actor =>
    have same : (withdrawSchedule P timestamp org scheduleId actor s).1.releaseCandidates =
        s.releaseCandidates ∧
        (withdrawSchedule P timestamp org scheduleId
          actor s).1.releaseCandidateIdempotencyRecords =
        s.releaseCandidateIdempotencyRecords := by
      unfold withdrawSchedule
      dsimp only
      repeat' split
      all_goals exact ⟨rfl, rfl⟩
    apply ok.unanswered rfl same.2
    intro x hx _ d alive
    exact { alive with stored := same.1 ▸ alive.stored }
  | call timestamp c =>
    have same := c.perform_same P timestamp s
    apply ok.unanswered rfl same.records
    intro x hx _ d alive
    exact { alive with stored := same.releaseCandidates ▸ alive.stored }
  | elsewhere after =>
    have same : SameReleases s after := allowed
    apply ok.unanswered rfl same.records
    intro x hx _ d alive
    exact { alive with stored := same.releaseCandidates ▸ alive.stored }

/-- The invariant holds after every run, at a time that no command has read past. -/
theorem Run.recordsOk {past : Past} (run : Run P past s)
    (read : ∀ t ∈ commandTimes past, t ≤ latest) : RecordsOk P past latest s := by
  induction run with
  | seeded users =>
    exact ⟨.nil, List.nodup_nil, by simp [completions], by simp [completions]⟩
  | @step past s run event allowed ih =>
    have split : commandTimes (past ++ [(s, event)]) =
        commandTimes past ++ commandTimes [(s, event)] := List.filterMap_append
    rw [split] at read
    apply (ih fun t ht => read t (List.mem_append_left _ ht)).step run.fourEyes allowed
    intro t ht
    exact read t (List.mem_append_right _ ht)

/-! ## Repeats -/

theorem replay_stops {c : Command} {timestamp : Int} {stop : Stop}
    (canonical : c.hasCanonicalInput = true)
    (h : admitCommand P s c.org c.operation c.actorUserId c.idempotency timestamp =
      .error stop) : c.perform P timestamp s = (s, .error stop) := by
  cases c <;>
    simp only [Command.hasCanonicalInput, Command.operation, Command.org, Command.actorUserId,
      Command.idempotency] at canonical h <;>
    simp [Command.perform, createReleaseCandidate, submitReleaseCandidate,
      approveReleaseCandidate, publishReleaseCandidate, admitPublication, admitTransition,
      throwUnless, canonical, h, bind, Except.bind]

/-- A command without the capability is refused before its key is looked at. -/
theorem incapable_is_forbidden {c : Command} (timestamp : Int)
    (canonical : c.hasCanonicalInput = true)
    (incapable : mayCommand s c.org c.actorUserId c.operation = false) :
    c.perform P timestamp s = (s, .error (.refused .forbidden)) := by
  apply replay_stops canonical
  simp [admitCommand, incapable, refuseUnless, bind, Except.bind]

/-- How a repeat of a completed command ends. -/
def repeatAnswer (x : Completion) (c : Command) (timestamp : Int) : Stop :=
  if c.actorUserId ≠ x.command.actorUserId ∨
      c.idempotency.requestDigestSha256 ≠ x.command.idempotency.requestDigestSha256 then
    .refused .idempotencyKeyReused
  else if x.expiresAt ≤ timestamp then .refused .idempotencyKeyExpired
  else .replayed x.candidate

theorem a_repeat_changes_nothing {past : Past} (ok : RecordsOk P past latest s)
    (h : FourEyes P s) {x : Completion} (hx : x ∈ completions P past) {c : Command}
    (sameKey : c.key = x.command.key) (canonical : c.hasCanonicalInput = true)
    (capable : mayCommand s c.org c.actorUserId c.operation = true) :
    c.perform P latest s = (s, .error (repeatAnswer x c latest)) := by
  apply replay_stops canonical
  simp only [Command.key, Prod.mk.injEq] at sameKey
  obtain ⟨sameOrg, sameOperation, sameHash⟩ := sameKey
  obtain ⟨record, found, pair⟩ := find_record ok.records ok.keys hx
  rw [← sameOrg, ← sameOperation, ← sameHash] at found
  have named : record.actorUserId = x.command.actorUserId ∧
      record.requestDigestSha256 = x.command.idempotency.requestDigestSha256 ∧
      record.expiresAt = x.expiresAt := by
    rcases pair with rfl | ⟨rfl, _⟩ <;> exact ⟨rfl, rfl, rfl⟩
  obtain ⟨actor, digest, expiry⟩ := named
  simp only [admitCommand, refuseUnless, capable, if_true, bind, Except.bind,
    releaseCandidateReplay, found, actor, digest, expiry]
  unfold repeatAnswer
  by_cases sameActor : c.actorUserId = x.command.actorUserId
  · by_cases sameDigest : c.idempotency.requestDigestSha256 =
        x.command.idempotency.requestDigestSha256
    · by_cases expired : x.expiresAt ≤ latest
      · simp [sameActor, sameDigest, expired]
      · -- the record is in time, so it still has its response and its candidate still lives
        have response : record.response = some x.candidate := by
          rcases pair with rfl | ⟨_, gone⟩
          · rfl
          · exact absurd gone expired
        obtain ⟨live, alive⟩ := ok.live x hx (by omega)
        have replays := alive.replayable h (ok.answered x hx)
        rw [← sameOrg, ← sameOperation] at replays
        simp [sameActor, sameDigest, expired, response, replays]
    · simp [sameActor, sameDigest, Ne.symm sameDigest]
  · simp [sameActor, Ne.symm sameActor]

/-- A command that stops leaves the store as it is, but for the pruning of a create. -/
theorem a_stopped_command_has_no_effect (timestamp : Int) (c : Command) (stop : Stop)
    (h : (c.perform P timestamp s).2 = .error stop) :
    (c.perform P timestamp s).1 = s ∨ (c.operation = .create ∧
      (c.perform P timestamp s).1 = pruneExpiredCandidates P c.org timestamp s) := by
  have ends := perform_ends P timestamp c s
  generalize c.perform P timestamp s = outcome at ends h ⊢
  cases ends with
  | stops stop => exact .inl rfl
  | prunes stop isCreate => exact .inr ⟨isCreate, rfl⟩
  | completes candidate after admitted change => cases h

/-- Over every run of the store: no two completed commands share a key, and a command that does
not complete has no effect but the pruning of a create. A repeat of a completed command changes
nothing; it is refused for another actor or another request, refused after the record has
expired, and else answered with the recorded candidate. An actor who may not give the command is
refused before that. -/
theorem a_command_takes_effect_once {past : Past} (run : Run P past s) :
    ((completions P past).map fun x => x.command.key).Nodup ∧
    (∀ timestamp (c : Command) stop, (c.perform P timestamp s).2 = .error stop →
      (c.perform P timestamp s).1 = s ∨ (c.operation = .create ∧
        (c.perform P timestamp s).1 = pruneExpiredCandidates P c.org timestamp s)) ∧
    ∀ timestamp, (∀ t ∈ commandTimes past, t ≤ timestamp) →
      ∀ x ∈ completions P past, ∀ c : Command, c.key = x.command.key →
        c.hasCanonicalInput = true →
        c.perform P timestamp s =
          (s, .error (if mayCommand s c.org c.actorUserId c.operation then
            repeatAnswer x c timestamp else .refused .forbidden)) := by
  refine ⟨?_, a_stopped_command_has_no_effect, ?_⟩
  · have bounded : ∃ latest, ∀ t ∈ commandTimes past, t ≤ latest := by
      refine ⟨(commandTimes past).foldr max 0, ?_⟩
      intro t ht
      exact List.le_max_of_le' 0 ht (Int.le_refl t)
    obtain ⟨latest, read⟩ := bounded
    exact (run.recordsOk read).keys
  · intro timestamp read x hx c sameKey canonical
    by_cases capable : mayCommand s c.org c.actorUserId c.operation = true
    · rw [if_pos capable]
      exact a_repeat_changes_nothing (run.recordsOk read) run.fourEyes hx sameKey canonical capable
    · rw [if_neg capable]
      exact incapable_is_forbidden timestamp canonical (by simpa using capable)

end

/-! ## The key of the poster -/

def draftEvents : List Event := setUp ++ [.command (mondayAt 9) createPoster]

def draftRun : Past × MemoryStore := pastOf cms [] (.seeded team) draftEvents

theorem draftRun_is_run : Run cms draftRun.1 draftRun.2 :=
  run_of_events cms draftEvents rfl (.seeded team)

set_option maxRecDepth 10000 in
theorem draftRun_completions :
    (completions cms draftRun.1).map (fun x => (x.timestamp, x.command)) =
      [(mondayAt 9, createPoster)] ∧ commandTimes draftRun.1 = [mondayAt 9] ∧
      mayCommand draftRun.2 "acme" "ann" .create = true ∧
      mayCommand draftRun.2 "acme" "vic" .create = false := by
  decide +kernel

theorem draftRun_completion : ∃ x ∈ completions cms draftRun.1,
    x.timestamp = mondayAt 9 ∧ x.command = createPoster := by
  have listed : (mondayAt 9, createPoster) ∈
      (completions cms draftRun.1).map fun x => (x.timestamp, x.command) := by
    rw [draftRun_completions.1]
    exact List.mem_singleton_self _
  obtain ⟨x, hx, same⟩ := List.mem_map.mp listed
  exact ⟨x, hx, congrArg Prod.fst same, congrArg Prod.snd same⟩

set_option maxRecDepth 10000 in
theorem createPoster_canonical : createPoster.hasCanonicalInput = true := by
  decide +kernel

/-- Ann's second call within the month gets the draft of the first. -/
theorem the_poster_is_made_once : ∃ candidate,
    createPoster.perform cms (mondayAt 10) draftRun.2 =
      (draftRun.2, .error (.replayed candidate)) := by
  obtain ⟨x, hx, time, command⟩ := draftRun_completion
  obtain ⟨_, _, repeats⟩ := a_command_takes_effect_once draftRun_is_run
  have read : ∀ t ∈ commandTimes draftRun.1, t ≤ mondayAt 10 := by
    rw [draftRun_completions.2.1]
    decide
  have answer := repeats (mondayAt 10) read x hx createPoster (by rw [command])
    createPoster_canonical
  have capable : mayCommand draftRun.2 createPoster.org createPoster.actorUserId
      createPoster.operation = true := draftRun_completions.2.2.1
  refine ⟨x.candidate, ?_⟩
  rw [answer, if_pos capable]
  have inTime : ¬ x.expiresAt ≤ mondayAt 10 := by
    unfold Completion.expiresAt
    rw [time]
    decide
  simp [repeatAnswer, command, inTime]

/-- Another actor who may not create is not told that the key is used. -/
theorem a_viewer_is_not_told_of_the_key :
    ¬ ∀ (P : Platform) (past : Past) (s : MemoryStore), Run P past s →
      ∀ timestamp, (∀ t ∈ commandTimes past, t ≤ timestamp) →
        ∀ x ∈ completions P past, ∀ c : Command, c.key = x.command.key →
          c.hasCanonicalInput = true → c.actorUserId ≠ x.command.actorUserId →
          c.perform P timestamp s = (s, .error (.refused .idempotencyKeyReused)) := by
  intro claimed
  obtain ⟨x, hx, time, command⟩ := draftRun_completion
  have read : ∀ t ∈ commandTimes draftRun.1, t ≤ mondayAt 10 := by
    rw [draftRun_completions.2.1]
    decide
  have reused := claimed cms draftRun.1 draftRun.2 draftRun_is_run (mondayAt 10) read x hx
    (createPosterAs "vic") (by rw [command]; rfl) createPoster_canonical
    (by rw [command]; decide)
  have canonical : (createPosterAs "vic").hasCanonicalInput = true := createPoster_canonical
  have forbidden : (createPosterAs "vic").perform cms (mondayAt 10) draftRun.2 =
      (draftRun.2, .error (.refused .forbidden)) :=
    incapable_is_forbidden (mondayAt 10) canonical draftRun_completions.2.2.2
  rw [forbidden] at reused
  simp at reused

end screengoblin.server
