-- What one command on a release candidate can do to the store, and the runs of the store.
-- A completed command makes one of four changes. A command that ends in any other way leaves
-- the store as it was, but for the pruning that a refused create may have done.
import ScreenGoblin.StoreOperations

open js collections screengoblin.schedule

namespace screengoblin.server

/-! ## Checks that pass -/

theorem bind_ok {ε α β : Type} {x : Except ε α} {f : α → Except ε β} {b : β} :
    (x >>= f) = .ok b ↔ ∃ a, x = .ok a ∧ f a = .ok b := by
  cases x <;> simp [bind, Except.bind]

@[simp]
theorem refuseUnless_ok (test : Bool) (reason : ReleaseCandidateFailureReason) (u : Unit) :
    refuseUnless test reason = .ok u ↔ test = true := by
  cases test <;> simp [refuseUnless]

@[simp]
theorem throwUnless_ok (test : Bool) (message : String) (u : Unit) :
    throwUnless test message = .ok u ↔ test = true := by
  cases test <;> simp [throwUnless]

@[simp]
theorem foundOr_ok {α : Type} (reason : ReleaseCandidateFailureReason) (value : Option α)
    (a : α) : foundOr reason value = .ok a ↔ value = some a := by
  cases value <;> simp [foundOr]

theorem releaseCandidateReplay_ok {P : Platform} {s : MemoryStore} {org : String}
    {operation : ReleaseOperation} {actorUserId : String}
    {idempotency : ReleaseCandidateIdempotencyInput} {timestamp : Int} {u : Unit} :
    releaseCandidateReplay P s org operation actorUserId idempotency timestamp = .ok u ↔
      s.releaseCandidateIdempotencyRecords.find?
        (isRecord org operation idempotency.keyHash) = none := by
  unfold releaseCandidateReplay
  constructor
  · intro h
    split at h
    · assumption
    · repeat' split at h
      all_goals cases h
  · intro h
    rw [h]

/-! ## Frozen items -/

/-- Each frozen item holds one of the assets. -/
theorem freezeItems_mem {assets : List MediaRecord} {positions : List Int}
    {items : List PlaylistItem} {frozen : List FrozenReleaseItem}
    (made : freezeItems assets positions items = .ok frozen) :
    ∀ item ∈ frozen, ∃ asset ∈ assets, item.asset = freezeAsset asset := by
  induction items generalizing positions frozen with
  | nil =>
    cases made
    simp
  | cons first rest ih =>
    unfold freezeItems at made
    split at made
    · cases made
    · split at made
      · cases made
      · next asset found =>
        simp only [bind_ok] at made
        obtain ⟨others, madeOthers, same⟩ := made
        cases same
        intro item member
        rcases List.mem_cons.mp member with rfl | member
        · exact ⟨asset, List.mem_reverse.mp (List.mem_of_find?_eq_some found), rfl⟩
        · exact ih madeOthers item member

/-! ## The calls of the four commands -/

inductive Command where
  | create (org : String) (data : CandidateInput) (actorUserId : String)
      (mediaAllowedOrigins : List String) (idempotency : ReleaseCandidateIdempotencyInput)
  | submit (org candidateId expectedDigestSha256 actorUserId : String)
      (idempotency : ReleaseCandidateIdempotencyInput)
  | approve (org candidateId expectedDigestSha256 actorUserId : String)
      (idempotency : ReleaseCandidateIdempotencyInput)
  | publish (org candidateId expectedDigestSha256 actorUserId : String)
      (mediaAllowedOrigins : List String) (idempotency : ReleaseCandidateIdempotencyInput)
  deriving DecidableEq

namespace Command

def operation : Command → ReleaseOperation
  | .create .. => .create
  | .submit .. => .submit
  | .approve .. => .approve
  | .publish .. => .publish

def org : Command → String
  | .create org .. | .submit org .. | .approve org .. | .publish org .. => org

def actorUserId : Command → String
  | .create _ _ actor _ _ => actor
  | .submit _ _ _ actor _ => actor
  | .approve _ _ _ actor _ => actor
  | .publish _ _ _ actor _ _ => actor

def idempotency : Command → ReleaseCandidateIdempotencyInput
  | .create _ _ _ _ idempotency => idempotency
  | .submit _ _ _ _ idempotency => idempotency
  | .approve _ _ _ _ idempotency => idempotency
  | .publish _ _ _ _ _ idempotency => idempotency

/-- The hashes of the call have the form that the command asks for. -/
def hasCanonicalInput : Command → Bool
  | .create _ _ _ _ idempotency => hasCanonicalHashes idempotency
  | .submit _ _ digest _ idempotency => isLowerHex64 digest && hasCanonicalHashes idempotency
  | .approve _ _ digest _ idempotency => isLowerHex64 digest && hasCanonicalHashes idempotency
  | .publish _ _ digest _ _ idempotency => isLowerHex64 digest && hasCanonicalHashes idempotency

def perform (P : Platform) (timestamp : Int) : Command → MemoryStore → MemoryStore × Answer
  | .create org data actor origins idempotency =>
    createReleaseCandidate P timestamp org data actor origins idempotency
  | .submit org candidateId digest actor idempotency =>
    submitReleaseCandidate P timestamp org candidateId digest actor idempotency
  | .approve org candidateId digest actor idempotency =>
    approveReleaseCandidate P timestamp org candidateId digest actor idempotency
  | .publish org candidateId digest actor origins idempotency =>
    publishReleaseCandidate P timestamp org candidateId digest actor origins idempotency

end Command

/-! ## What a completed command does -/

/-- A candidate that a transition may change at `timestamp`. -/
structure Eligible (P : Platform) (s : MemoryStore) (org candidateId : String)
    (timestamp : Int) (candidate : ReleaseCandidateRecord) : Prop where
  found : s.releaseCandidates.find? (isCandidate org candidateId) = some candidate
  valid : hasValidCandidateDigest P candidate = true
  unexpired : timestamp < candidate.expiresAt

/-- The change that a completed command makes, with the candidate of its answer. -/
inductive Completes (P : Platform) (timestamp : Int) (s : MemoryStore) :
    Command → ReleaseCandidateRecord → MemoryStore → Prop where
  | create (org data actor origins idempotency snapshot)
    (unexpired : timestamp < data.expiresAt)
    (prepared : prepareCandidate P (pruneExpiredCandidates P org timestamp s) org data origins
      timestamp = .ok snapshot) :
    Completes P timestamp s (.create org data actor origins idempotency)
      (newCandidate P (pruneExpiredCandidates P org timestamp s) org data actor timestamp snapshot)
      (addCandidate P org data actor timestamp snapshot
        (pruneExpiredCandidates P org timestamp s))
  | submit (org candidateId digest actor idempotency candidate)
    (eligible : Eligible P s org candidateId timestamp candidate)
    (author : candidate.authorUserId = actor) (draft : candidate.state = .draft) :
    Completes P timestamp s (.submit org candidateId digest actor idempotency)
      (submitted timestamp candidate) (updateCandidate org candidateId (submitted timestamp) s)
  | approve (org candidateId digest actor idempotency candidate user)
    (eligible : Eligible P s org candidateId timestamp candidate)
    (other : candidate.authorUserId ≠ actor) (inReview : candidate.state = .inReview)
    (current : candidateActor s org actor = some user) :
    Completes P timestamp s (.approve org candidateId digest actor idempotency)
      (approved P s org actor user timestamp candidate)
      { updateCandidate org candidateId (approved P s org actor user timestamp) s with
        idsDrawn := s.idsDrawn + 1 }
  | publish (org candidateId digest actor origins idempotency candidate approval release)
    (eligible : Eligible P s org candidateId timestamp candidate)
    (wasApproved : candidate.state = .approved) (own : candidate.approval = some approval)
    (sameDigest : approval.candidateDigestSha256 = candidate.digestSha256)
    (current : approvalIsCurrent s org approval = true)
    (frozen : s.releases.find? (fun record =>
      record.organizationId == org && record.id == candidate.releaseId) = some release) :
    Completes P timestamp s (.publish org candidateId digest actor origins idempotency)
      (published P s timestamp candidate)
      (addPublication P org candidateId actor timestamp candidate release s)

/-- What a command that completes has passed first. -/
structure Admitted (s : MemoryStore) (c : Command) : Prop where
  canonical : c.hasCanonicalInput = true
  capable : mayCommand s c.org c.actorUserId c.operation = true
  newKey : s.releaseCandidateIdempotencyRecords.find?
    (isRecord c.org c.operation c.idempotency.keyHash) = none

theorem admitCommand_ok {P : Platform} {s : MemoryStore} {org : String}
    {operation : ReleaseOperation} {actor : String}
    {idempotency : ReleaseCandidateIdempotencyInput} {timestamp : Int} {u : Unit} :
    admitCommand P s org operation actor idempotency timestamp = .ok u ↔
      mayCommand s org actor operation = true ∧
      s.releaseCandidateIdempotencyRecords.find? (isRecord org operation idempotency.keyHash) =
        none := by
  unfold admitCommand
  simp only [bind_ok, refuseUnless_ok, releaseCandidateReplay_ok, exists_const]

theorem admitTransition_ok {P : Platform} {s : MemoryStore} {org : String}
    {operation : ReleaseOperation} {candidateId digest actor : String}
    {idempotency : ReleaseCandidateIdempotencyInput} {timestamp : Int}
    {candidate : ReleaseCandidateRecord}
    (h : admitTransition P s org operation candidateId digest actor idempotency timestamp =
      .ok candidate) :
    (isLowerHex64 digest && hasCanonicalHashes idempotency) = true ∧
      (mayCommand s org actor operation = true ∧
        s.releaseCandidateIdempotencyRecords.find?
          (isRecord org operation idempotency.keyHash) = none) ∧
      Eligible P s org candidateId timestamp candidate := by
  unfold admitTransition at h
  simp only [bind_ok, throwUnless_ok, refuseUnless_ok, foundOr_ok, admitCommand_ok,
    Except.ok.injEq, exists_const] at h
  obtain ⟨canonical, admitted, found, hfound, digests, unexpired, same⟩ := h
  subst same
  simp only [Bool.and_eq_true, decide_eq_true_eq] at digests unexpired
  exact ⟨canonical, admitted, hfound, digests.2, unexpired⟩

/-- The three ends of a command: it stops, it stops after the pruning of a create, or it
completes with one change and one record. -/
inductive Ends (P : Platform) (timestamp : Int) (c : Command) (s : MemoryStore) :
    MemoryStore × Answer → Prop where
  | stops (stop : Stop) : Ends P timestamp c s (s, .error stop)
  | prunes (stop : Stop) (isCreate : c.operation = .create) :
    Ends P timestamp c s (pruneExpiredCandidates P c.org timestamp s, .error stop)
  | completes (candidate : ReleaseCandidateRecord) (after : MemoryStore)
    (admitted : Admitted s c) (change : Completes P timestamp s c candidate after) :
    Ends P timestamp c s
      (complete P c.org c.operation c.actorUserId c.idempotency timestamp candidate after)

theorem createReleaseCandidate_ends (P : Platform) (timestamp : Int) (org : String)
    (data : CandidateInput) (actor : String) (origins : List String)
    (idempotency : ReleaseCandidateIdempotencyInput) (s : MemoryStore) :
    Ends P timestamp (.create org data actor origins idempotency) s
      (createReleaseCandidate P timestamp org data actor origins idempotency s) := by
  unfold createReleaseCandidate
  dsimp only
  split
  · exact .stops _
  · next admitted =>
    simp only [bind_ok, throwUnless_ok, admitCommand_ok, refuseUnless_ok, exists_const,
      Bool.and_eq_true, decide_eq_true_eq] at admitted
    obtain ⟨canonical, ⟨capable, newKey⟩, unexpired, _⟩ := admitted
    cases prepared : prepareCandidate P (pruneExpiredCandidates P org timestamp s) org data origins
        timestamp with
    | error stop => exact .prunes stop rfl
    | ok snapshot =>
      exact .completes _ _ ⟨canonical, capable, newKey⟩
        (.create org data actor origins idempotency snapshot unexpired prepared)

theorem submitReleaseCandidate_ends (P : Platform) (timestamp : Int)
    (org candidateId digest actor : String) (idempotency : ReleaseCandidateIdempotencyInput)
    (s : MemoryStore) :
    Ends P timestamp (.submit org candidateId digest actor idempotency) s
      (submitReleaseCandidate P timestamp org candidateId digest actor idempotency s) := by
  unfold submitReleaseCandidate
  dsimp only
  split
  · exact .stops _
  · next candidate admitted =>
    simp only [bind_ok, refuseUnless_ok, exists_const, Except.ok.injEq, beq_iff_eq] at admitted
    obtain ⟨found, transition, author, draft, same⟩ := admitted
    subst same
    obtain ⟨canonical, ⟨capable, newKey⟩, eligible⟩ := admitTransition_ok transition
    exact .completes _ _ ⟨canonical, capable, newKey⟩
      (.submit org candidateId digest actor idempotency found eligible author draft)

theorem approveReleaseCandidate_ends (P : Platform) (timestamp : Int)
    (org candidateId digest actor : String) (idempotency : ReleaseCandidateIdempotencyInput)
    (s : MemoryStore) :
    Ends P timestamp (.approve org candidateId digest actor idempotency) s
      (approveReleaseCandidate P timestamp org candidateId digest actor idempotency s) := by
  unfold approveReleaseCandidate
  dsimp only
  split
  · exact .stops _
  · next candidate user admitted =>
    simp only [bind_ok, refuseUnless_ok, foundOr_ok, exists_const, Except.ok.injEq, beq_iff_eq,
      bne_iff_ne, Prod.mk.injEq] at admitted
    obtain ⟨found, transition, other, inReview, current, isCurrent, same, sameUser⟩ := admitted
    subst same sameUser
    obtain ⟨canonical, ⟨capable, newKey⟩, eligible⟩ := admitTransition_ok transition
    exact .completes _ _ ⟨canonical, capable, newKey⟩
      (.approve org candidateId digest actor idempotency found current eligible other inReview
        isCurrent)

theorem publishReleaseCandidate_ends (P : Platform) (timestamp : Int)
    (org candidateId digest actor : String) (origins : List String)
    (idempotency : ReleaseCandidateIdempotencyInput) (s : MemoryStore) :
    Ends P timestamp (.publish org candidateId digest actor origins idempotency) s
      (publishReleaseCandidate P timestamp org candidateId digest actor origins idempotency
        s) := by
  unfold publishReleaseCandidate
  split
  · exact .stops _
  · next candidate release admitted =>
    unfold admitPublication at admitted
    simp only [bind_ok, refuseUnless_ok, foundOr_ok, exists_const, Except.ok.injEq, beq_iff_eq,
      Prod.mk.injEq] at admitted
    obtain ⟨found, transition, wasApproved, approval, own, sameDigest, current, record, frozen,
      digests, _, _, _, same, sameRelease⟩ := admitted
    subst same sameRelease
    obtain ⟨canonical, ⟨capable, newKey⟩, eligible⟩ := admitTransition_ok transition
    exact .completes _ _ ⟨canonical, capable, newKey⟩
      (.publish org candidateId digest actor origins idempotency found approval record eligible
        wasApproved own sameDigest current frozen)

theorem perform_ends (P : Platform) (timestamp : Int) (c : Command) (s : MemoryStore) :
    Ends P timestamp c s (c.perform P timestamp s) := by
  cases c with
  | create org data actor origins idempotency =>
    exact createReleaseCandidate_ends P timestamp org data actor origins idempotency s
  | submit org candidateId digest actor idempotency =>
    exact submitReleaseCandidate_ends P timestamp org candidateId digest actor idempotency s
  | approve org candidateId digest actor idempotency =>
    exact approveReleaseCandidate_ends P timestamp org candidateId digest actor idempotency s
  | publish org candidateId digest actor origins idempotency =>
    exact publishReleaseCandidate_ends P timestamp org candidateId digest actor origins
      idempotency s

/-! ## Runs of the store -/

/-- The operations of the store on users, media, playlists, schedules and screens. -/
inductive StoreCall where
  | rotateUserPassword (userId passwordHash : String)
  | rotateBootstrapPassword (userId organizationId : String) (input : BootstrapRotation)
  | disableUser (userId : String)
  | changeMembershipRole (organizationId userId : String) (role : Role)
  | removeMembership (organizationId userId : String)
  | createMedia (org : String) (data : MediaInput)
  | createMediaAndAudit (org : String) (data : MediaInput) (actorUserId : String)
  | deleteMedia (org assetId : String)
  | deleteMediaAndAudit (org assetId actorUserId : String)
  | createPlaylist (org : String) (data : PlaylistInput)
  | createPlaylistAndAudit (org : String) (data : PlaylistInput) (actorUserId : String)
  | deletePlaylist (org playlistId : String)
  | deletePlaylistAndAudit (org playlistId actorUserId : String)
  | createSchedule (org : String) (data : ScheduleInput)
  | deleteSchedule (org scheduleId : String)
  | createScreen (org : String) (data : ScreenInput)
  | createScreenAndAudit (org : String) (data : ScreenInput) (actorUserId : String)
  | deleteScreen (org screenId : String)
  | deleteScreenAndAudit (org screenId actorUserId : String)

def StoreCall.perform (P : Platform) (timestamp : Int) (s : MemoryStore) :
    StoreCall → MemoryStore
  | .rotateUserPassword userId hash => (server.rotateUserPassword timestamp userId hash s).1
  | .rotateBootstrapPassword userId org input =>
    (server.rotateBootstrapPassword timestamp userId org input s).1
  | .disableUser userId => (server.disableUser timestamp userId s).1
  | .changeMembershipRole org userId role =>
    (server.changeMembershipRole timestamp org userId role s).1
  | .removeMembership org userId => (server.removeMembership timestamp org userId s).1
  | .createMedia org data => (server.createMedia P timestamp org data s).1
  | .createMediaAndAudit org data actor => (server.createMediaAndAudit P timestamp org data actor s).1
  | .deleteMedia org assetId => (server.deleteMedia org assetId s).1
  | .deleteMediaAndAudit org assetId actor => (server.deleteMediaAndAudit org assetId actor s).1
  | .createPlaylist org data => (server.createPlaylist P timestamp org data s).1
  | .createPlaylistAndAudit org data actor =>
    (server.createPlaylistAndAudit P timestamp org data actor s).1
  | .deletePlaylist org playlistId => (server.deletePlaylist org playlistId s).1
  | .deletePlaylistAndAudit org playlistId actor =>
    (server.deletePlaylistAndAudit org playlistId actor s).1
  | .createSchedule org data => (server.createSchedule P timestamp org data s).1
  | .deleteSchedule org scheduleId => (server.deleteSchedule org scheduleId s).1
  | .createScreen org data => (server.createScreen P timestamp org data s).1
  | .createScreenAndAudit org data actor =>
    (server.createScreenAndAudit P timestamp org data actor s).1
  | .deleteScreen org screenId => (server.deleteScreen org screenId s).1
  | .deleteScreenAndAudit org screenId actor =>
    (server.deleteScreenAndAudit timestamp org screenId actor s).1

/-- The collections of the releases are the same in two stores. -/
structure SameReleases (s s' : MemoryStore) : Prop where
  releases : s'.releases = s.releases
  releaseAssignments : s'.releaseAssignments = s.releaseAssignments
  releaseCandidates : s'.releaseCandidates = s.releaseCandidates
  records : s'.releaseCandidateIdempotencyRecords = s.releaseCandidateIdempotencyRecords
  idsDrawn : s.idsDrawn ≤ s'.idsDrawn

theorem SameReleases.refl (s : MemoryStore) : SameReleases s s :=
  ⟨rfl, rfl, rfl, rfl, Nat.le_refl _⟩

theorem audited_same {α : Type} {org actor : String} {roles : List Role}
    {operation : MemoryStore → MemoryStore × Except String α} {s : MemoryStore}
    (same : SameReleases s (operation s).1) :
    SameReleases s (audited org actor roles operation s).1 := by
  unfold audited
  split
  · exact same
  · exact .refl s

theorem rotateUserPassword_same (timestamp : Int) (userId hash : String) (s : MemoryStore) :
    SameReleases s (rotateUserPassword timestamp userId hash s).1 := by
  unfold rotateUserPassword
  split <;> exact ⟨rfl, rfl, rfl, rfl, Nat.le_refl _⟩

theorem rotateBootstrapPassword_same (timestamp : Int) (userId org : String)
    (input : BootstrapRotation) (s : MemoryStore) :
    SameReleases s (rotateBootstrapPassword timestamp userId org input s).1 := by
  unfold rotateBootstrapPassword
  repeat' split
  all_goals exact ⟨rfl, rfl, rfl, rfl, Nat.le_refl _⟩

theorem disableUser_same (timestamp : Int) (userId : String) (s : MemoryStore) :
    SameReleases s (disableUser timestamp userId s).1 := by
  unfold disableUser
  repeat' split
  all_goals exact ⟨rfl, rfl, rfl, rfl, Nat.le_refl _⟩

theorem changeMembershipRole_same (timestamp : Int) (org userId : String) (role : Role)
    (s : MemoryStore) : SameReleases s (changeMembershipRole timestamp org userId role s).1 := by
  unfold changeMembershipRole
  repeat' split
  all_goals exact ⟨rfl, rfl, rfl, rfl, Nat.le_refl _⟩

theorem removeMembership_same (timestamp : Int) (org userId : String) (s : MemoryStore) :
    SameReleases s (removeMembership timestamp org userId s).1 := by
  unfold removeMembership
  repeat' split
  all_goals exact ⟨rfl, rfl, rfl, rfl, Nat.le_refl _⟩

theorem deleteScreenAndAudit_same (timestamp : Int) (org screenId actor : String)
    (s : MemoryStore) : SameReleases s (deleteScreenAndAudit timestamp org screenId actor s).1 := by
  unfold deleteScreenAndAudit
  repeat' split
  all_goals exact ⟨rfl, rfl, rfl, rfl, Nat.le_refl _⟩

theorem createMedia_same (P : Platform) (timestamp : Int) (org : String) (data : MediaInput)
    (s : MemoryStore) : SameReleases s (createMedia P timestamp org data s).1 := by
  unfold createMedia
  dsimp only
  split <;> exact ⟨rfl, rfl, rfl, rfl, Nat.le_succ _⟩

theorem deleteMedia_same (org assetId : String) (s : MemoryStore) :
    SameReleases s (deleteMedia org assetId s).1 := by
  unfold deleteMedia
  repeat' split
  all_goals exact ⟨rfl, rfl, rfl, rfl, Nat.le_refl _⟩

theorem createPlaylist_same (P : Platform) (timestamp : Int) (org : String)
    (data : PlaylistInput) (s : MemoryStore) :
    SameReleases s (createPlaylist P timestamp org data s).1 :=
  ⟨rfl, rfl, rfl, rfl, by simp only [createPlaylist]; omega⟩

theorem deletePlaylist_same (org playlistId : String) (s : MemoryStore) :
    SameReleases s (deletePlaylist org playlistId s).1 := by
  unfold deletePlaylist
  repeat' split
  all_goals exact ⟨rfl, rfl, rfl, rfl, Nat.le_refl _⟩

theorem createScreen_same (P : Platform) (timestamp : Int) (org : String) (data : ScreenInput)
    (s : MemoryStore) : SameReleases s (createScreen P timestamp org data s).1 :=
  ⟨rfl, rfl, rfl, rfl, Nat.le_succ _⟩

/-- None of these operations touches a release. -/
theorem StoreCall.perform_same (P : Platform) (timestamp : Int) (s : MemoryStore)
    (call : StoreCall) : SameReleases s (call.perform P timestamp s) := by
  cases call with
  | rotateUserPassword userId hash => exact rotateUserPassword_same timestamp userId hash s
  | rotateBootstrapPassword userId org input =>
    exact rotateBootstrapPassword_same timestamp userId org input s
  | disableUser userId => exact disableUser_same timestamp userId s
  | changeMembershipRole org userId role => exact changeMembershipRole_same timestamp org userId role s
  | removeMembership org userId => exact removeMembership_same timestamp org userId s
  | createMedia org data => exact createMedia_same P timestamp org data s
  | createMediaAndAudit org data actor =>
    exact audited_same (createMedia_same P timestamp org data s)
  | deleteMedia org assetId => exact deleteMedia_same org assetId s
  | deleteMediaAndAudit org assetId actor => exact audited_same (deleteMedia_same org assetId s)
  | createPlaylist org data => exact createPlaylist_same P timestamp org data s
  | createPlaylistAndAudit org data actor =>
    apply audited_same
    split
    · exact createPlaylist_same P timestamp org data s
    · exact .refl s
  | deletePlaylist org playlistId => exact deletePlaylist_same org playlistId s
  | deletePlaylistAndAudit org playlistId actor =>
    exact audited_same (deletePlaylist_same org playlistId s)
  | createSchedule org data => exact ⟨rfl, rfl, rfl, rfl, Nat.le_succ _⟩
  | deleteSchedule org scheduleId => exact ⟨rfl, rfl, rfl, rfl, Nat.le_refl _⟩
  | createScreen org data => exact createScreen_same P timestamp org data s
  | createScreenAndAudit org data actor =>
    apply audited_same
    repeat' split
    · exact createScreen_same P timestamp org _ s
    · exact .refl s
    · exact createScreen_same P timestamp org _ s
  | deleteScreen org screenId => exact ⟨rfl, rfl, rfl, rfl, Nat.le_refl _⟩
  | deleteScreenAndAudit org screenId actor =>
    exact deleteScreenAndAudit_same timestamp org screenId actor s

/-- One operation of a run. `elsewhere` is any operation on the other collections, such as a
pairing, a heartbeat or a new user, with the store after it. -/
inductive Event where
  | command (timestamp : Int) (c : Command)
  | withdraw (timestamp : Int) (org scheduleId actorUserId : String)
  | call (timestamp : Int) (c : StoreCall)
  | elsewhere (after : MemoryStore)

def Event.Allowed (s : MemoryStore) : Event → Prop
  | .elsewhere after => SameReleases s after
  | _ => True

def Event.after (P : Platform) (s : MemoryStore) : Event → MemoryStore
  | .command timestamp c => (c.perform P timestamp s).1
  | .withdraw timestamp org scheduleId actor =>
    (withdrawSchedule P timestamp org scheduleId actor s).1
  | .call timestamp c => c.perform P timestamp s
  | .elsewhere s' => s'

/-- The past of a run: each event, with the store before it. -/
abbrev Past := List (MemoryStore × Event)

/-- The runs from a store that holds users and nothing else. -/
inductive Run (P : Platform) : Past → MemoryStore → Prop where
  | seeded (users : List SessionUser) : Run P [] (.seeded users)
  | step {past : Past} {s : MemoryStore} (run : Run P past s) (event : Event)
    (allowed : event.Allowed s) : Run P (past ++ [(s, event)]) (event.after P s)

end screengoblin.server
