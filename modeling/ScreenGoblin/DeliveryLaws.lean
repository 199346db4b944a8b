-- The selection of releases for a manifest and the authorization of a delivery make the same
-- decision, over whole runs of the store, as long as each expiry of a medium orders as a text
-- the way it does as an instant. So each capability of a manifest is good when it is issued.
import ScreenGoblin.ManifestRoute
import ScreenGoblin.ContentReferences

open js collections screengoblin.schedule

namespace screengoblin.server

/-! ## The agreement -/

/-- The instants whose canonical texts have a year of four digits. -/
def CanonicalInstant (t : Int) : Prop := -62167219200000 ≤ t ∧ t < 253402300800000

/-- The selected release answers for the triple of an authorization: it has the assignment and
its digest, and the asset occurs among its items and has not expired. -/
structure Delivers (P : Platform) (input : MediaDeliveryAuthorizationInput)
    (shown : ActiveOrdinaryRelease) : Prop where
  assignment : shown.assignment.id = input.assignmentId
  digest : shown.assignment.digestSha256 = input.assignmentDigestSha256
  asset : ∃ item ∈ shown.release.items, isAsset input item.asset = true ∧
    item.asset.policy.expired P input.instant = false

/-- Authorization accepts what selection shows, and the capabilities of every manifest verify
and are authorized at the instant of the manifest. -/
structure DeliveryAgrees (P : Platform) (s : MemoryStore) : Prop where
  authorizes : ∀ input, CanonicalInstant input.instant → ∀ releases,
    selectReleases P s input.organizationId input.screenId input.instant = .ok releases →
    (authorizeMediaDelivery P s input = .ok true ↔ ∃ shown ∈ releases, Delivers P input shown)
  issues : ∀ R config emergencies screen credentialKeyId requestChallengeId t manifest,
    CanonicalInstant t →
    unsignedManifest P R config emergencies s screen credentialKeyId requestChallengeId t =
      .ok manifest →
    ∀ item ∈ manifest.items, ∀ token, item.asset.mediaCapability = some token →
    ∃ claims, verifyMediaCapability P R.toTokenRuntime token config.mediaDeliverySecret t =
        some claims ∧
      authorizeMediaDelivery P s (claims.input t) = .ok true

/-! ## The condition on the expiries -/

/-- As a text, the expiry is later than the canonical text of an instant exactly when the
instant it stands for is later. Every canonical text orders so. -/
def OrdersAsText (P : Platform) (expiresAt : Option String) : Prop :=
  ∀ text expiry, truthyText expiresAt = some text → P.dateParse text = some expiry →
    ∀ t, CanonicalInstant t → (textIsLater text (P.toISOString t) = true ↔ t < expiry)

/-- A medium that the operation creates has such an expiry, or none. -/
def ContentEvent.Dated (P : Platform) : ContentEvent → Prop
  | .call _ (.createMedia _ data _) => OrdersAsText P data.expiresAt
  | _ => True

/-! ## The invariant -/

/-- A frozen asset with the storage key of its identity, of a size and kind that are supported. -/
structure Deliverable (P : Platform) (org : String) (asset : FrozenReleaseAsset) : Prop where
  key : ∃ storageKey, asset.storageKey = some storageKey ∧
    mediaStorageKey org asset.id asset.checksumSha256 = .ok storageKey
  supported : asset.policy.supported = true
  dated : OrdersAsText P asset.expiresAt
  parsed : ∀ text, truthyText asset.expiresAt = some text → ∃ expiry, P.dateParse text = some expiry

structure Stored (P : Platform) (asset : MediaRecord) : Prop where
  key : ∃ storageKey, asset.storageKey = some storageKey ∧
    mediaStorageKey asset.organizationId asset.id asset.checksumSha256 = .ok storageKey
  dated : OrdersAsText P asset.expiresAt

structure Delivery (P : Platform) (s : MemoryStore) : Prop where
  media : ∀ asset ∈ s.media, Stored P asset
  releases : ∀ release ∈ s.releases, ∀ item ∈ release.items,
    Deliverable P release.organizationId item.asset
  assignmentIds : KeysUnique ReleaseAssignmentRecord.id s.releaseAssignments
  assignmentsDrawn : ∀ a ∈ s.releaseAssignments, Drawn P s a.id
  scheduled : ∀ a ∈ s.releaseAssignments, ∃ schedule ∈ s.schedules,
    schedule.id = a.scheduleId ∧ schedule.organizationId = a.organizationId ∧
      schedule.releaseId.isSome = true

section
variable {P : Platform} {s s' : MemoryStore}

theorem delivery_seeded (P : Platform) (users : List SessionUser) :
    Delivery P (.seeded users) where
  media := by simp [MemoryStore.seeded]
  releases := by simp [MemoryStore.seeded]
  assignmentIds := List.nodup_nil
  assignmentsDrawn := by simp [MemoryStore.seeded]
  scheduled := by simp [MemoryStore.seeded]

/-- What the invariant asks of the collections after an operation that publishes nothing. -/
theorem Delivery.congr (h : Delivery P s) (media : ∀ asset ∈ s'.media, Stored P asset)
    (releases : ∀ release ∈ s'.releases, release ∈ s.releases)
    (assignments : s'.releaseAssignments = s.releaseAssignments)
    (schedules : s'.schedules = s.schedules) (more : s.idsDrawn ≤ s'.idsDrawn) :
    Delivery P s' where
  media := media
  releases r hr := h.releases r (releases r hr)
  assignmentIds := by rw [assignments]; exact h.assignmentIds
  assignmentsDrawn := by
    rw [assignments]
    intro a ha
    exact (h.assignmentsDrawn a ha).mono more
  scheduled := by rw [assignments, schedules]; exact h.scheduled

/-! ## Operations on the content -/

/-- The schedules stay, and each medium was there, or the operation has created it. -/
def ContentCall.KeepsMedia (c : ContentCall) (s s' : MemoryStore) : Prop :=
  s'.schedules = s.schedules ∧
    ∀ asset ∈ s'.media, asset ∈ s.media ∨
      ∃ org data actor storageKey, c = .createMedia org data actor ∧
        asset.expiresAt = data.expiresAt ∧ asset.storageKey = some storageKey ∧
        mediaStorageKey asset.organizationId asset.id asset.checksumSha256 = .ok storageKey

theorem keepsMedia_same {c : ContentCall} (schedules : s'.schedules = s.schedules)
    (media : s'.media = s.media) : c.KeepsMedia s s' := by
  refine ⟨schedules, ?_⟩
  intro asset ha
  rw [media] at ha
  exact .inl ha

theorem ContentCall.perform_keepsMedia (P : Platform) (timestamp : Int) (s : MemoryStore)
    (c : ContentCall) : c.KeepsMedia s (c.perform P timestamp s) := by
  have unchanged : c.KeepsMedia s s := keepsMedia_same rfl rfl
  cases c with
  | createLocation org name actor =>
    apply audited_keeps unchanged
    split
    · exact unchanged
    · exact keepsMedia_same rfl rfl
  | updateLocation org locationId name actor =>
    apply audited_keeps unchanged
    repeat' split
    all_goals exact keepsMedia_same rfl rfl
  | deleteLocation org locationId actor =>
    apply audited_keeps unchanged
    repeat' split
    all_goals exact keepsMedia_same rfl rfl
  | createScreen org data actor =>
    apply audited_keeps unchanged
    repeat' split
    all_goals exact keepsMedia_same rfl rfl
  | updateScreen org screenId patch actor =>
    apply audited_keeps unchanged
    repeat' split
    all_goals exact keepsMedia_same rfl rfl
  | deleteScreen org screenId actor =>
    unfold perform deleteScreenAndAudit
    dsimp only
    split
    · exact unchanged
    · split
      · exact unchanged
      · exact keepsMedia_same rfl rfl
  | createMedia org data actor =>
    apply audited_keeps unchanged
    unfold server.createMedia
    dsimp only
    split
    · exact keepsMedia_same rfl rfl
    · next storageKey made =>
      refine ⟨rfl, ?_⟩
      intro asset ha
      rcases List.mem_append.mp ha with old | new
      · exact .inl old
      · rw [List.mem_singleton.mp new]
        exact .inr ⟨org, data, actor, storageKey, rfl, rfl, rfl, made⟩
  | deleteMedia org assetId actor =>
    apply audited_keeps unchanged
    unfold server.deleteMedia
    split
    · exact unchanged
    · split
      · exact unchanged
      · exact ⟨rfl, fun asset ha => .inl (List.mem_filter.mp ha).1⟩
  | createPlaylist org data actor =>
    apply audited_keeps unchanged
    split
    · exact keepsMedia_same rfl rfl
    · exact unchanged
  | deletePlaylist org playlistId actor =>
    apply audited_keeps unchanged
    unfold server.deletePlaylist
    repeat' split
    all_goals exact keepsMedia_same rfl rfl

theorem Delivery.call (h : Delivery P s) (timestamp : Int) (c : ContentCall)
    (dated : (ContentEvent.call timestamp c).Dated P) : Delivery P (c.perform P timestamp s) := by
  obtain ⟨schedules, media⟩ := c.perform_keepsMedia P timestamp s
  have same := c.perform_same P timestamp s
  refine h.congr ?_ ?_ same.releaseAssignments schedules same.idsDrawn
  · intro asset ha
    rcases media asset ha with old | ⟨org, data, actor, storageKey, rfl, expiry, held, made⟩
    · exact h.media asset old
    · refine ⟨⟨storageKey, held, made⟩, ?_⟩
      rw [expiry]
      exact dated
  · rw [same.releases]
    exact fun release hr => hr

/-! ## Frozen assets -/

theorem mediaStorageKey_ok {org assetId checksum storageKey : String}
    (made : mediaStorageKey org assetId checksum = .ok storageKey) :
    isLowerHex64 checksum = true ∧ storageKey ≠ "" := by
  unfold mediaStorageKey at made
  split at made
  · cases made
  · next valid =>
    cases made
    simp only [Bool.or_eq_true, Bool.not_eq_true', not_or, Bool.not_eq_false] at valid
    refine ⟨valid.2, ?_⟩
    intro empty
    have := congrArg (fun text => text.toList.length) empty
    simp [String.toList_append] at this

theorem toLower_hexChar {c : Char} (hex : (('0' ≤ c && c ≤ '9') || ('a' ≤ c && c ≤ 'f')) = true) :
    c.toLower = c := by
  unfold Char.toLower
  split
  · next upper =>
    simp only [Bool.or_eq_true, Bool.and_eq_true, decide_eq_true_eq, Char.le_def,
      UInt32.le_iff_toNat_le, ge_iff_le, Char.reduceVal, UInt32.reduceToNat] at hex upper
    omega
  · rfl

theorem toLower_of_hex {text : String} (hex : isLowerHex64 text = true) : text.toLower = text := by
  unfold isLowerHex64 at hex
  simp only [Bool.and_eq_true, List.all_eq_true] at hex
  apply String.toList_injective
  show (text.map Char.toLower).toList = text.toList
  rw [String.toList_map]
  calc text.toList.map Char.toLower = text.toList.map id :=
        List.map_congr_left fun c hc => toLower_hexChar (by simpa using hex.2 c hc)
    _ = text.toList := List.map_id _

/-- What the policy lets through is supported, and has not expired. -/
theorem mediaFailureFrom_none {instant : Int} {bytes : Rat} {assets : List PolicyMediaAsset}
    (none : mediaFailureFrom P instant bytes assets = none) :
    ∀ asset ∈ assets, asset.supported = true ∧ asset.expired P instant = false := by
  induction assets generalizing bytes with
  | nil => simp
  | cons asset rest ih =>
    unfold mediaFailureFrom at none
    split at none
    · cases none
    · next supported =>
      split at none
      · cases none
      · next unexpired =>
        split at none
        · cases none
        · intro other member
          rcases List.mem_cons.mp member with rfl | member
          · simpa using And.intro supported unexpired
          · exact ih none other member

theorem parsed_of_unexpired {asset : PolicyMediaAsset} {instant : Int}
    (unexpired : asset.expired P instant = false) {text : String}
    (named : truthyText asset.expiresAt = some text) :
    ∃ expiry, P.dateParse text = some expiry ∧ instant < expiry := by
  unfold PolicyMediaAsset.expired at unexpired
  rw [named] at unexpired
  cases parsed : P.dateParse text with
  | none => simp [parsed] at unexpired
  | some expiry => exact ⟨expiry, rfl, by simpa [parsed] using unexpired⟩

theorem Stored.frozen {asset : MediaRecord} (stored : Stored P asset)
    (supported : asset.policy.supported = true) {instant : Int}
    (unexpired : asset.policy.expired P instant = false) :
    Deliverable P asset.organizationId (freezeAsset asset) := by
  obtain ⟨storageKey, held, made⟩ := stored.key
  obtain ⟨hex, some⟩ := mediaStorageKey_ok made
  have checksum : (freezeAsset asset).checksumSha256 = asset.checksumSha256 := toLower_of_hex hex
  have expiry : truthyText (freezeAsset asset).expiresAt = truthyText asset.expiresAt :=
    truthyText_idem _
  refine ⟨⟨storageKey, ?_, ?_⟩, ?_, ?_, ?_⟩
  · simp [freezeAsset, held, truthyText, some]
  · rw [checksum]
    exact made
  · have same : (freezeAsset asset).policy.supported = asset.policy.supported := by
      simp only [FrozenReleaseAsset.policy, MediaRecord.policy, PolicyMediaAsset.supported,
        checksum]
      rfl
    rw [same]
    exact supported
  · intro text instant' named
    exact stored.dated text instant' (by rw [← named, ← expiry])
  · intro text named
    obtain ⟨ends, parsed, _⟩ := parsed_of_unexpired unexpired (expiry.symm.trans named)
    exact ⟨ends, parsed⟩

/-- The items of a prepared snapshot can be delivered. -/
theorem Delivery.prepared (h : Delivery P s) {org : String} {data : CandidateInput}
    {origins : List String} {timestamp : Int} {snapshot : CanonicalReleaseSnapshot}
    (prepared : prepareCandidate P s org data origins timestamp = .ok snapshot) :
    ∀ item ∈ snapshot.items, Deliverable P org item.asset := by
  obtain ⟨playlist, _, checked, made⟩ := prepareCandidate_ok prepared
  have accepted : mediaPublicationFailure P
      ((playlist.items.filterMap fun item => findMedia s org item.assetId).map (·.policy))
      timestamp = none := by
    unfold checkMedia at checked
    simp only [bind_ok, refuseUnless_ok, exists_const] at checked
    obtain ⟨_, accepted⟩ := checked
    split at accepted
    · cases accepted
    · assumption
  unfold canonicalReleaseSnapshot at made
  dsimp only at made
  split at made
  · cases made
  · simp only [bind_ok] at made
    obtain ⟨items, frozen, same⟩ := made
    cases same
    intro item member
    obtain ⟨asset, listed, isFrozen⟩ := freezeItems_mem frozen item member
    obtain ⟨entry, _, found⟩ := List.mem_filterMap.mp listed
    have own := List.find?_some found
    simp only [Bool.and_eq_true, beq_iff_eq] at own
    obtain ⟨supported, unexpired⟩ := mediaFailureFrom_none accepted asset.policy
      (List.mem_map.mpr ⟨asset, listed, rfl⟩)
    have stored := h.media asset (List.mem_of_find?_eq_some found)
    rw [isFrozen, ← own.1]
    exact stored.frozen supported unexpired

/-! ## Commands -/

theorem Delivery.pruned (h : Delivery P s) (org : String) (timestamp : Int) :
    Delivery P (pruneExpiredCandidates P org timestamp s) :=
  h.congr h.media (fun _ hr => (List.mem_filter.mp hr).1) rfl rfl (Nat.le_refl _)

theorem Delivery.added (h : Delivery P s) (org : String) (data : CandidateInput) (actor : String)
    (timestamp : Int) {origins : List String} {snapshot : CanonicalReleaseSnapshot}
    (prepared : prepareCandidate P s org data origins timestamp = .ok snapshot) :
    Delivery P (addCandidate P org data actor timestamp snapshot s) where
  media := h.media
  releases := by
    intro r hr
    simp only [addCandidate] at hr
    split at hr
    · exact h.releases r hr
    · next isNew =>
      rcases List.mem_append.mp hr with old | fresh
      · exact h.releases r old
      · rw [List.mem_singleton.mp fresh]
        unfold releaseFor at isNew ⊢
        dsimp only at isNew ⊢
        split
        · next release reused =>
          rw [reused] at isNew
          exact absurd (List.mem_of_find?_eq_some reused) isNew
        · exact h.prepared prepared
  assignmentIds := h.assignmentIds
  assignmentsDrawn a ha := (h.assignmentsDrawn a ha).mono (Nat.le_add_right _ _)
  scheduled := h.scheduled

theorem Delivery.publication (h : Delivery P s) (org candidateId actor : String) (timestamp : Int)
    (candidate : ReleaseCandidateRecord) (release : PublishedReleaseRecord) :
    Delivery P (addPublication P org candidateId actor timestamp candidate release s) where
  media := h.media
  releases := h.releases
  assignmentIds := by
    apply h.assignmentIds.append
    intro a ha
    exact (h.assignmentsDrawn a ha).ne 1
  assignmentsDrawn := by
    intro a ha
    rcases List.mem_append.mp ha with old | new
    · exact (h.assignmentsDrawn a old).mono (Nat.le_add_right _ _)
    · rw [List.mem_singleton.mp new]
      exact ⟨s.idsDrawn + 1, Nat.lt_succ_self _, rfl⟩
  scheduled := by
    intro a ha
    rcases List.mem_append.mp ha with old | new
    · obtain ⟨schedule, member, same⟩ := h.scheduled a old
      exact ⟨schedule, List.mem_append_left _ member, same⟩
    · rw [List.mem_singleton.mp new]
      exact ⟨_, List.mem_append_right _ List.mem_cons_self, rfl, rfl, rfl⟩

theorem Delivery.withdrawn (h : Delivery P s) (timestamp : Int) (org scheduleId actor : String) :
    Delivery P (withdrawSchedule P timestamp org scheduleId actor s).1 := by
  unfold withdrawSchedule
  dsimp only
  split
  · exact h
  · split
    · next releaseId previous named _ =>
      split
      · exact h
      · split
        · exact h
        · obtain ⟨schedule, found, released⟩ := Option.bind_eq_some_iff.mp named
          have own := List.find?_some found
          simp only [Bool.and_eq_true, beq_iff_eq] at own
          exact
            { media := h.media
              releases := h.releases
              assignmentIds := by
                apply h.assignmentIds.append
                intro a ha
                exact (h.assignmentsDrawn a ha).ne 0
              assignmentsDrawn := by
                intro a ha
                rcases List.mem_append.mp ha with old | new
                · exact (h.assignmentsDrawn a old).mono (Nat.le_succ _)
                · rw [List.mem_singleton.mp new]
                  exact ⟨s.idsDrawn, Nat.lt_succ_self _, rfl⟩
              scheduled := by
                intro a ha
                rcases List.mem_append.mp ha with old | new
                · exact h.scheduled a old
                · rw [List.mem_singleton.mp new]
                  refine ⟨schedule, List.mem_of_find?_eq_some found, own.2, own.1, ?_⟩
                  rw [released]
                  rfl }
    · exact h

theorem Delivery.command (h : Delivery P s) (timestamp : Int) (c : Command) :
    Delivery P (c.perform P timestamp s).1 := by
  have ends := perform_ends P timestamp c s
  generalize c.perform P timestamp s = outcome at ends ⊢
  cases ends with
  | stops stop => exact h
  | prunes stop isCreate => exact h.pruned c.org timestamp
  | completes candidate after admitted change =>
    suffices done : Delivery P after by
      exact done.congr done.media (fun _ hr => hr) rfl rfl (Nat.le_refl _)
    cases change with
    | create org data actor origins idempotency snapshot unexpired prepared =>
      exact (h.pruned org timestamp).added org data actor timestamp prepared
    | submit => exact h.congr h.media (fun _ hr => hr) rfl rfl (Nat.le_refl _)
    | approve => exact h.congr h.media (fun _ hr => hr) rfl rfl (Nat.le_succ _)
    | publish org candidateId digest actor origins idempotency d approval release =>
      exact h.publication org candidateId actor timestamp d release

theorem Delivery.after (h : Delivery P s) (event : ContentEvent) (allowed : event.Allowed s)
    (dated : event.Dated P) : Delivery P (event.after P s) := by
  cases event with
  | command timestamp c => exact h.command timestamp c
  | prune timestamp org => exact h.pruned org timestamp
  | withdraw timestamp org scheduleId actor => exact h.withdrawn timestamp org scheduleId actor
  | call timestamp c => exact h.call timestamp c dated
  | elsewhere after =>
    refine h.congr ?_ ?_ allowed.releaseAssignments allowed.schedules allowed.idsDrawn
    · intro asset ha
      exact h.media asset (allowed.media ▸ ha)
    · intro release hr
      exact allowed.releases ▸ hr

theorem ContentRun.delivery {past : ContentPast} (run : ContentRun P past s)
    (dated : ∀ entry ∈ past, entry.2.Dated P) : Delivery P s := by
  induction run with
  | seeded users => exact delivery_seeded P users
  | step _ event allowed ih =>
    refine (ih ?_).after event allowed ?_
    · intro entry member
      exact dated entry (List.mem_append_left _ member)
    · exact dated _ (List.mem_append_right _ List.mem_cons_self)

/-! ## Selection -/

/-- What `activeOrdinaryReleases` asks of the release of a schedule. -/
structure Selected (P : Platform) (s : MemoryStore) (org screenId : String) (instant : Int)
    (schedule : ScheduleRecord) (shown : ActiveOrdinaryRelease) : Prop where
  own : schedule.organizationId = org ∧ schedule.releaseId.isSome = true
  latest : latestAssignment s schedule.id = some shown.assignment
  organization : shown.assignment.organizationId = org
  assigned : shown.assignment.state = .assigned
  screen : shown.assignment.screenIds.contains screenId = true
  active : isActiveAt P.zones shown.assignment.schedule instant = true
  release : s.releases.find? (fun candidate =>
    candidate.organizationId == org && candidate.id == shown.assignment.releaseId) =
      some shown.release
  digest : hasValidStoredAssignmentDigest P shown.assignment shown.release = true

theorem activeReleaseOf_iff {org screenId : String} {instant : Int} {schedule : ScheduleRecord}
    {shown : ActiveOrdinaryRelease} :
    activeReleaseOf P s org screenId instant schedule = some shown ↔
      Selected P s org screenId instant schedule shown := by
  constructor
  · intro h
    unfold activeReleaseOf at h
    split at h
    · cases h
    · next own =>
      simp only [Bool.or_eq_true, bne_iff_ne, not_or, not_not] at own
      split at h
      · cases h
      · next assignment latest =>
        split at h
        · next tests =>
          simp only [Bool.and_eq_true, beq_iff_eq] at tests
          split at h
          · cases h
          · next release found =>
            split at h
            · next valid =>
              cases h
              exact ⟨⟨own.1, by simpa [Option.isSome_iff_ne_none] using own.2⟩, latest,
                tests.1.1.1, tests.1.1.2, tests.1.2, tests.2, found, valid⟩
            · cases h
        · cases h
  · intro h
    unfold activeReleaseOf
    rw [if_neg (by simp [h.own.1, Option.isSome_iff_ne_none.mp h.own.2]), h.latest]
    dsimp only
    rw [if_pos (by simp only [h.organization, h.assigned, h.screen, h.active, beq_self_eq_true,
      Bool.and_self]), h.release]
    dsimp only
    rw [if_pos h.digest]

/-- Where the window test does not throw, the two forms of the selection agree. -/
theorem selectRelease_ok {org screenId : String} {instant : Int} {schedule : ScheduleRecord}
    {found : Option ActiveOrdinaryRelease}
    (h : selectRelease P s org screenId instant schedule = .ok found) :
    activeReleaseOf P s org screenId instant schedule = found := by
  unfold selectRelease at h
  unfold activeReleaseOf isActiveAt
  split at h
  · next foreign =>
    rw [if_pos foreign]
    cases h
    rfl
  · next own =>
    rw [if_neg own]
    cases latest : latestAssignment s schedule.id with
    | none =>
      simp only [latest] at h
      cases h
      rfl
    | some assignment =>
      simp only [latest] at h
      dsimp only
      split at h
      · next tests =>
        simp only [Bool.and_eq_true] at tests
        obtain ⟨inside, window, h⟩ := bind_ok.mp h
        simp only [tests, window, passed, Bool.true_and]
        cases inside with
        | false =>
          cases h
          rfl
        | true =>
          simp only [Bool.not_true, Bool.false_eq_true, if_false] at h
          simp only [if_true]
          cases stored : s.releases.find? fun candidate =>
              candidate.organizationId == org && candidate.id == assignment.releaseId with
          | none =>
            simp only [stored] at h
            cases h
            rfl
          | some release =>
            simp only [stored] at h
            cases h
            rfl
      · next tests =>
        cases h
        rw [if_neg]
        intro all
        apply tests
        simp only [Bool.and_eq_true] at all ⊢
        exact ⟨⟨⟨all.1, all.2.1.1.1⟩, all.2.1.1.2⟩, all.2.1.2⟩

theorem selectReleases_ok {org screenId : String} {instant : Int}
    {releases : List ActiveOrdinaryRelease}
    (h : selectReleases P s org screenId instant = .ok releases) :
    releases = activeOrdinaryReleases P s org screenId instant := by
  unfold selectReleases at h
  obtain ⟨found, tried, h⟩ := bind_ok.mp h
  cases h
  have each {schedules : List ScheduleRecord} {found : List (Option ActiveOrdinaryRelease)}
      (all : List.Forall₂ (fun schedule found =>
        selectRelease P s org screenId instant schedule = .ok found) schedules found) :
      found = schedules.map (activeReleaseOf P s org screenId instant) := by
    induction all with
    | nil => rfl
    | cons first _ ih => rw [List.map_cons, selectRelease_ok first, ih]
  rw [each (mapM_ok_iff.mp tried), List.filterMap_map]
  rfl

/-! ## Authorization -/

/-- What `authorizeMediaDelivery` asks of an assignment and its release. -/
structure Authorized (P : Platform) (s : MemoryStore) (input : MediaDeliveryAuthorizationInput)
    (assignment : ReleaseAssignmentRecord) (release : PublishedReleaseRecord) : Prop where
  found : s.releaseAssignments.find? (fun candidate =>
    candidate.id == input.assignmentId && candidate.organizationId == input.organizationId) =
      some assignment
  mayDeliver : mayDeliver s input assignment = true
  inside : matchesScheduleWindow P.zones assignment.schedule input.instant = .ok true
  stored : s.releases.find? (fun candidate =>
    candidate.id == assignment.releaseId && candidate.organizationId == input.organizationId) =
      some release
  digest : hasValidStoredAssignmentDigest P assignment release = true
  asset : ∃ item ∈ release.items, isAsset input item.asset = true ∧
    expiresLater P item.asset.expiresAt input.instant = true

theorem authorizeMediaDelivery_iff {input : MediaDeliveryAuthorizationInput} :
    authorizeMediaDelivery P s input = .ok true ↔
      (Value.isSafeInteger (numberJson input.sizeBytes) = true ∧ 1 ≤ input.sizeBytes) ∧
        ∃ assignment release, Authorized P s input assignment release := by
  unfold authorizeMediaDelivery
  by_cases size : Value.isSafeInteger (numberJson input.sizeBytes) = true ∧ 1 ≤ input.sizeBytes
  swap
  · have refused : (!Value.isSafeInteger (numberJson input.sizeBytes) ||
        decide (input.sizeBytes < 1)) = true := by
      by_contra passes
      apply size
      simpa [Rat.not_lt] using passes
    rw [if_pos refused]
    simp [size]
  have sized : ¬(!Value.isSafeInteger (numberJson input.sizeBytes) ||
      decide (input.sizeBytes < 1)) = true := by
    simp [size.1, Rat.not_lt.mpr size.2]
  rw [if_neg sized]
  simp only [size, and_self, true_and]
  constructor
  · intro h
    split at h
    · cases h
    · next assignment found =>
      split at h
      · cases h
      · next may =>
        obtain ⟨inside, window, h⟩ := bind_ok.mp h
        cases inside with
        | false => cases h
        | true =>
          simp only [Bool.not_true, Bool.false_eq_true, if_false] at h
          split at h
          · cases h
          · next release stored =>
            simp only [Except.ok.injEq, Bool.and_eq_true, List.any_eq_true] at h
            exact ⟨assignment, release, found, by simpa using may, window, stored, h.1, h.2⟩
  · rintro ⟨assignment, release, h⟩
    obtain ⟨item, member, isIt, later⟩ := h.asset
    have any : release.items.any (fun item => isAsset input item.asset &&
        expiresLater P item.asset.expiresAt input.instant) = true := by
      rw [List.any_eq_true]
      exact ⟨item, member, by simp [isIt, later]⟩
    rw [h.found]
    dsimp only
    rw [if_neg (by simp [h.mayDeliver]), h.inside]
    simp only [bind, Except.bind, Bool.not_true, Bool.false_eq_true, if_false, h.stored,
      h.digest, any, Bool.and_self]

/-- For an expiry that orders as its instant, the two tests of it are the same. -/
theorem expiresLater_iff {expiresAt : Option String} (dated : OrdersAsText P expiresAt)
    {asset : PolicyMediaAsset} (same : asset.expiresAt = expiresAt) {t : Int}
    (canonical : CanonicalInstant t)
    (parses : ∀ text, truthyText expiresAt = some text → ∃ expiry, P.dateParse text = some expiry) :
    expiresLater P expiresAt t = true ↔ asset.expired P t = false := by
  unfold expiresLater PolicyMediaAsset.expired
  rw [same]
  cases named : truthyText expiresAt with
  | none => simp
  | some text =>
    obtain ⟨expiry, parsed⟩ := parses text named
    simp only [Option.all_some, parsed, decide_eq_false_iff_not, Int.not_le]
    exact dated text expiry named parsed t canonical

/-! ## The law -/

theorem Delivery.authorizes (h : Delivery P s) (input : MediaDeliveryAuthorizationInput)
    (canonical : CanonicalInstant input.instant) :
    authorizeMediaDelivery P s input = .ok true ↔
      ∃ shown ∈ activeOrdinaryReleases P s input.organizationId input.screenId input.instant,
        Delivers P input shown := by
  have later {r : PublishedReleaseRecord} (hr : r ∈ s.releases) {item : FrozenReleaseItem}
      (member : item ∈ r.items) :
      expiresLater P item.asset.expiresAt input.instant = true ↔
        item.asset.policy.expired P input.instant = false :=
    expiresLater_iff (h.releases r hr item member).dated rfl canonical
      (h.releases r hr item member).parsed
  rw [authorizeMediaDelivery_iff]
  constructor
  · rintro ⟨_, a, r, authorized⟩
    have ha := List.mem_of_find?_eq_some authorized.found
    have own := List.find?_some authorized.found
    have may := authorized.mayDeliver
    unfold mayDeliver at may
    simp only [Bool.and_eq_true, beq_iff_eq, Option.any_eq_true] at own may
    obtain ⟨⟨⟨⟨⟨⟨digest, assigned⟩, latest, isLatest, same⟩, screen⟩, enabled⟩, started⟩, ahead⟩ :=
      may
    have : latest = a := h.assignmentIds.eq (latestAssignment_mem isLatest) ha same
    subst this
    obtain ⟨schedule, stored, scheduleId, organization, released⟩ := h.scheduled latest ha
    obtain ⟨item, member, isIt, unexpired⟩ := authorized.asset
    have selected : Selected P s input.organizationId input.screenId input.instant schedule
        ⟨r, latest⟩ :=
      { own := ⟨organization.trans own.2, released⟩
        latest := by rw [scheduleId]; exact isLatest
        organization := own.2
        assigned := assigned
        screen := screen
        active := by
          rw [isActiveAt_iff]
          exact ⟨enabled, of_decide_eq_true started, ahead, authorized.inside⟩
        release := by
          rw [← authorized.stored]
          simp only [Bool.and_comm]
        digest := authorized.digest }
    have isShown := List.mem_filterMap.mpr ⟨schedule, stored, activeReleaseOf_iff.mpr selected⟩
    refine ⟨⟨r, latest⟩, isShown, own.1, digest, item, member, isIt, ?_⟩
    exact (later (List.mem_of_find?_eq_some authorized.stored) member).mp unexpired
  · rintro ⟨shown, isShown, delivers⟩
    obtain ⟨schedule, _, found⟩ := List.mem_filterMap.mp isShown
    have selected := activeReleaseOf_iff.mp found
    obtain ⟨enabled, started, ahead, inside⟩ := (isActiveAt_iff _ _ _).mp selected.active
    obtain ⟨ha, _, hr, _⟩ := shown_spec isShown
    obtain ⟨item, member, isIt, unexpired⟩ := delivers.asset
    have supported := (h.releases _ hr item member).supported
    have sized : item.asset.sizeBytes = input.sizeBytes := by
      unfold isAsset at isIt
      simp only [Bool.and_eq_true, beq_iff_eq] at isIt
      exact isIt.2
    unfold PolicyMediaAsset.supported at supported
    simp only [Bool.and_eq_true, decide_eq_true_eq] at supported
    refine ⟨⟨?_, ?_⟩, shown.assignment, shown.release, ?_⟩
    · rw [← sized]
      exact supported.1.1.1.2
    · rw [← sized]
      exact supported.1.1.2
    · have latest := List.find?_some selected.latest
      simp only [beq_iff_eq] at latest
      exact
        { found := by
            apply h.assignmentIds.find ha
            · simp [delivers.assignment, selected.organization]
            · intro b named
              simp only [Bool.and_eq_true, beq_iff_eq] at named
              rw [named.1, delivers.assignment]
          mayDeliver := by
            unfold mayDeliver
            rw [latest, selected.latest]
            simp [delivers.digest, selected.assigned, enabled, started, ahead]
            simpa using selected.screen
          inside := inside
          stored := by
            rw [← selected.release]
            simp only [Bool.and_comm]
          digest := selected.digest
          asset := ⟨item, member, isIt, (later hr member).mpr unexpired⟩ }

/-- A capability of a playable asset ends after the instant of its manifest. -/
theorem capabilityEnd_later {t last : Int} {playbackEndsAt : Option Int}
    (asset : PolicyMediaAsset) (ok : capabilityEnd P t playbackEndsAt asset.expiresAt = .ok last)
    (ahead : playbackEndsAt.all (fun boundary => decide (t < boundary)) = true)
    (unexpired : asset.expired P t = false) : t < last := by
  have bounded : t < leaseEnd t playbackEndsAt := by
    cases playbackEndsAt with
    | none =>
      simp only [leaseEnd, MANIFEST_LEASE_MS]
      omega
    | some boundary =>
      simp only [Option.all_some, decide_eq_true_eq] at ahead
      simp only [leaseEnd, MANIFEST_LEASE_MS]
      omega
  unfold capabilityEnd at ok
  cases named : truthyText asset.expiresAt with
  | none =>
    rw [named] at ok
    cases ok
    exact bounded
  | some text =>
    obtain ⟨expiry, parsed, later⟩ := parsed_of_unexpired unexpired named
    rw [named] at ok
    simp only [parsed, Except.ok.injEq] at ok
    rw [← ok]
    exact lt_min bounded later

/-- What a manifest with a capability was made from. -/
theorem manifest_capability {R : ManifestRuntime} {config : AppConfig}
    {emergencies : List EmergencyRecord} {screen : ScreenRecord}
    {credentialKeyId requestChallengeId : Option String} {t : Int} {manifest : Manifest}
    (made : unsignedManifest P R config emergencies s screen credentialKeyId requestChallengeId t =
      .ok manifest) {item : ManifestItem} (member : item ∈ manifest.items) {token : String}
    (carries : item.asset.mediaCapability = some token) :
    ∃ releases selected playbackEndsAt source claims,
      selectReleases P s screen.organizationId screen.id t = .ok releases ∧
      selected ∈ releases ∧
      entireReleasePlayable P config t playbackEndsAt selected.release = true ∧
      source ∈ selected.release.items ∧
      capabilityClaims P screen credentialKeyId t playbackEndsAt selected source.asset =
        .ok claims ∧
      token = issueMediaCapability R.toTokenRuntime claims config.mediaDeliverySecret := by
  unfold unsignedManifest at made
  obtain ⟨content, shows, made⟩ := bind_ok.mp made
  cases made
  unfold manifestContent at shows
  dsimp only at shows member
  split at shows
  · cases shows
    rw [List.mem_singleton.mp member] at carries
    cases carries
  · obtain ⟨releases, selection, shows⟩ := bind_ok.mp shows
    split at shows
    · next selected first =>
      obtain ⟨playbackEndsAt, _, shows⟩ := bind_ok.mp shows
      split at shows
      · next playable =>
        obtain ⟨items, itemsMade, shows⟩ := bind_ok.mp shows
        cases shows
        obtain ⟨source, listed, itemMade⟩ := mapM_ok_mem itemsMade member
        obtain ⟨claims, claimed, itemMade⟩ := bind_ok.mp itemMade
        cases itemMade
        cases carries
        have inReleases := (List.mem_insertionSort _).mp (List.mem_of_head? first)
        exact ⟨releases, selected, playbackEndsAt, source, claims, selection, inReleases, playable,
          listed, claimed, rfl⟩
      · cases shows
        cases member
    · cases shows
      cases member

theorem Delivery.issues (h : Delivery P s) (hex : ∀ value, isLowerHex64 (P.sha256 value) = true)
    {R : ManifestRuntime} {config : AppConfig} {emergencies : List EmergencyRecord}
    {screen : ScreenRecord} {credentialKeyId requestChallengeId : Option String} {t : Int}
    {manifest : Manifest} (canonical : CanonicalInstant t)
    (made : unsignedManifest P R config emergencies s screen credentialKeyId requestChallengeId t =
      .ok manifest) {item : ManifestItem} (member : item ∈ manifest.items) {token : String}
    (carries : item.asset.mediaCapability = some token) :
    ∃ claims, verifyMediaCapability P R.toTokenRuntime token config.mediaDeliverySecret t =
        some claims ∧
      authorizeMediaDelivery P s (claims.input t) = .ok true := by
  obtain ⟨releases, selected, playbackEndsAt, source, claims, selection, isSelected, playable,
    listed, claimed, rfl⟩ := manifest_capability made member carries
  rw [selectReleases_ok selection] at isSelected
  obtain ⟨schedule, _, found⟩ := List.mem_filterMap.mp isSelected
  have organization := (activeReleaseOf_iff.mp found).organization
  obtain ⟨_, _, hr, valid⟩ := shown_spec isSelected
  unfold entireReleasePlayable at playable
  simp only [Bool.and_eq_true, Option.isNone_iff_eq_none] at playable
  obtain ⟨⟨_, accepted⟩, ahead⟩ := playable
  have unexpired := (mediaFailureFrom_none accepted source.asset.policy
    (List.mem_map.mpr ⟨source, listed, rfl⟩)).2
  have deliverable := h.releases _ hr source listed
  obtain ⟨storageKey, held, keyMade⟩ := deliverable.key
  unfold hasValidStoredAssignmentDigest at valid
  simp only [Bool.and_eq_true, beq_iff_eq] at valid
  have tenant : selected.release.organizationId = screen.organizationId := by
    rw [← valid.1.1.1, organization]
  unfold capabilityClaims at claimed
  simp only [held, bind_ok, Except.ok.injEq] at claimed
  obtain ⟨_, rfl, last, ends, rfl⟩ := claimed
  have later := capabilityEnd_later source.asset.policy ends ahead unexpired
  have supported := deliverable.supported
  unfold PolicyMediaAsset.supported at supported
  simp only [Bool.and_eq_true, decide_eq_true_eq] at supported
  refine ⟨_, verify_issue P R.toTokenRuntime _ _ t ?_, ?_⟩
  · unfold acceptedClaims
    simp only [P.dateParse_toISOString, later, (mediaStorageKey_ok keyMade).1, ← tenant, keyMade,
      decide_true, beq_self_eq_true, Bool.and_true, Bool.and_eq_true, decide_eq_true_eq]
    refine ⟨⟨?_, supported.1.1.1.2⟩, supported.1.1.2⟩
    rw [valid.2]
    exact hex _
  · rw [h.authorizes _ canonical]
    refine ⟨selected, isSelected, rfl, rfl, source, listed, ?_, unexpired⟩
    unfold isAsset MediaDeliveryClaims.input
    simp [held]

/-- The law of the delivery: after any run whose media have no expiry, or one that orders as a
text the way it does as an instant, selection and delivery agree. -/
theorem selection_and_delivery_agree {past : ContentPast} (run : ContentRun P past s)
    (hex : ∀ value, isLowerHex64 (P.sha256 value) = true)
    (dated : ∀ entry ∈ past, entry.2.Dated P) : DeliveryAgrees P s := by
  have invariant := run.delivery dated
  refine ⟨?_, ?_⟩
  · intro input canonical releases selection
    rw [selectReleases_ok selection]
    exact invariant.authorizes input canonical
  · intro R config emergencies screen credentialKeyId requestChallengeId t manifest canonical made
      item member token carries
    exact invariant.issues hex canonical made member carries

end

/-! ## The poster with and without an expiry -/

/-- The platform of the poster, with some digest for every other text. -/
def hexCms : Platform :=
  { cms with
    sha256 := fun json =>
      if isLowerHex64 (cms.sha256 json) then cms.sha256 json else posterChecksum }

theorem hexCms_hex (value : Json) : isLowerHex64 (hexCms.sha256 value) = true := by
  show isLowerHex64 (if isLowerHex64 (cms.sha256 value) then cms.sha256 value else posterChecksum)
    = true
  split
  · assumption
  · decide

theorem dated_contentPast {P : Platform} {events : List ContentEvent}
    (dated : ∀ event ∈ events, event.Dated P) {past : ContentPast} {s : MemoryStore}
    (before : ∀ entry ∈ past, entry.2.Dated P) :
    ∀ entry ∈ (contentPast P past s events).1, entry.2.Dated P := by
  induction events generalizing past s with
  | nil => exact before
  | cons event rest ih =>
    refine ih (fun other member => dated other (List.mem_cons_of_mem _ member)) ?_
    intro entry member
    rcases List.mem_append.mp member with old | new
    · exact before entry old
    · rw [List.mem_singleton.mp new]
      exact dated event List.mem_cons_self

theorem the_poster_is_delivered_as_selected :
    DeliveryAgrees hexCms (contentPast hexCms [] (.seeded team) placedPoster).2 := by
  refine selection_and_delivery_agree
    (contentRun_of_events hexCms placedPoster rfl (.seeded team)) hexCms_hex
    (dated_contentPast ?_ (by simp))
  -- the poster has no expiry, and no other operation creates a medium
  intro event member
  simp only [placedPoster, List.mem_cons, List.not_mem_nil, or_false] at member
  rcases member with rfl | rfl | rfl | rfl | rfl | rfl | rfl | rfl | rfl | rfl | rfl
  · intro text expiry named
    cases named
  all_goals trivial

/-- 21:00 on that Monday in UTC, with the offset of another zone. -/
def offsetExpiry : String := "2026-01-05T09:00:00-12:00"

def offsetInstant (text : String) : Option Int :=
  if text = offsetExpiry then some (mondayAt 21) else isoInstant text

theorem offsetInstant_isoText (t : Int) : offsetInstant (isoText t) = some t := by
  have other : isoText t ≠ offsetExpiry := by
    unfold isoText
    split
    · next entry found =>
      have unlisted : ∀ e ∈ instantTexts, e.2 ≠ offsetExpiry := by decide
      exact unlisted entry (List.mem_of_find?_eq_some found)
    · intro same
      have first := congrArg (fun text => text.toList.head?) same
      unfold countedText at first
      split at first <;> simp [offsetExpiry] at first
  unfold offsetInstant
  rw [if_neg other]
  exact isoInstant_isoText t

def offsetTexts : Platform :=
  { cmsTexts with
    dateParse := offsetInstant
    dateParse_toISOString := offsetInstant_isoText }

def offsetSnapshot : CanonicalReleaseSnapshot :=
  { posterSnapshot with
    items := [{ posterItem with
      asset := { posterItem.asset with expiresAt := some offsetExpiry } }] }

def offsetReleaseDigest : String :=
  "8d39a4ef10dfcc69bcd5a04b748d3d46b68f435dce703afb86bf42836fa2f33d"
def offsetCandidateDigest : String :=
  "6c3cf38c7d4c9a3c2a7784f6e33ee4f232884930c69d7baff97b8a736167ef69"
def offsetAssignmentDigest : String :=
  "581521c9e0dd016d0be04e2346e145ad7fe555af6a9786da69a899a72b5407e5"

/-- The hash on the three snapshots of the poster with an expiry. -/
def offsetCms : Platform :=
  { offsetTexts with
    sha256 := fun json =>
      if json = offsetSnapshot.json cmsTexts then offsetReleaseDigest
      else if json = candidateSnapshotJson cmsTexts offsetReleaseDigest workingHours [uuid 3]
        (mondayAt 24) then offsetCandidateDigest
      else if json = assignmentSnapshotJson cmsTexts offsetReleaseDigest .assigned workingHours
        [uuid 3] none then offsetAssignmentDigest
      else posterChecksum }

def offsetPoster : List ContentEvent :=
  [.call (mondayAt 9) (.createMedia "acme"
     { name := "Poster", kind := .image, mimeType := "image/png",
       url := "https://media.example/poster.png", checksumSha256 := posterChecksum,
       sizeBytes := 2048, expiresAt := some offsetExpiry } "ann"),
   .call (mondayAt 9) (.createPlaylist "acme"
     { name := "Lobby", description := "",
       items := [{ assetId := uuid 0, position := 0, durationSeconds := 15 }] } "ann"),
   .call (mondayAt 9) (.createScreen "acme"
     { name := "Lobby", location := "Door", locationId := none, orientation := .landscape,
       resolution := "1920x1080", tags := [] } "ben"),
   .command (mondayAt 9) createPoster,
   .command (mondayAt 9 + 60000)
     (.submit "acme" (uuid 5) offsetCandidateDigest "ann" (keyOf .submit)),
   .command (mondayAt 9 + 60000)
     (.approve "acme" (uuid 5) offsetCandidateDigest "ben" (keyOf .approve)),
   .command (mondayAt 9 + 120000) (.publish "acme" (uuid 5) offsetCandidateDigest "ann"
     ["https://media.example"] (keyOf .publish))]

def offsetRun : ContentPast × MemoryStore := contentPast offsetCms [] (.seeded team) offsetPoster

/-- The poster on its screen at 09:02, twelve hours before it expires. -/
def posterInput : MediaDeliveryAuthorizationInput :=
  { organizationId := "acme", screenId := uuid 3, assignmentId := uuid 8,
    assignmentDigestSha256 := offsetAssignmentDigest, assetId := uuid 0,
    storageKey := "organizations/acme/assets/" ++ uuid 0 ++ "/" ++ posterChecksum,
    checksumSha256 := posterChecksum, sizeBytes := 2048, instant := mondayAt 9 + 120000 }

/-- A release is selected that delivers the asset, and the authorization says no. -/
def divides (P : Platform) (input : MediaDeliveryAuthorizationInput)
    (selection : Except String (List ActiveOrdinaryRelease)) (answer : Except String Bool) :
    Bool :=
  match selection, answer with
  | .ok releases, .ok authorized =>
    !authorized && releases.any fun shown => shown.assignment.id == input.assignmentId &&
      shown.assignment.digestSha256 == input.assignmentDigestSha256 &&
      shown.release.items.any fun item =>
        isAsset input item.asset && !item.asset.policy.expired P input.instant
  | _, _ => false

theorem divides_spec {P : Platform} {input : MediaDeliveryAuthorizationInput}
    {selection : Except String (List ActiveOrdinaryRelease)} {answer : Except String Bool}
    (h : divides P input selection answer = true) :
    ∃ releases, selection = .ok releases ∧ (∃ shown ∈ releases, Delivers P input shown) ∧
      answer ≠ .ok true := by
  unfold divides at h
  split at h
  · next releases authorized =>
    simp only [Bool.and_eq_true, List.any_eq_true, beq_iff_eq, Bool.not_eq_true'] at h
    obtain ⟨refused, shown, isShown, ⟨assignment, digest⟩, item, member, isIt, unexpired⟩ := h
    refine ⟨releases, rfl, ⟨shown, isShown, assignment, digest, item, member, isIt, unexpired⟩, ?_⟩
    rw [refused]
    simp
  · cases h

set_option maxRecDepth 10000 in
/-- As a text the expiry of the poster is before 09:02, so the poster that is selected is not
delivered. -/
theorem the_offset_poster_divides :
    divides offsetCms posterInput
      (selectReleases offsetCms offsetRun.2 posterInput.organizationId posterInput.screenId
        posterInput.instant)
      (authorizeMediaDelivery offsetCms offsetRun.2 posterInput) = true := by
  decide +kernel

theorem an_offset_expiry_divides_selection_and_delivery :
    ContentRun offsetCms offsetRun.1 offsetRun.2 ∧ ¬DeliveryAgrees offsetCms offsetRun.2 := by
  refine ⟨contentRun_of_events offsetCms offsetPoster rfl (.seeded team), ?_⟩
  intro agrees
  obtain ⟨releases, selection, delivers, refused⟩ := divides_spec the_offset_poster_divides
  have canonical : CanonicalInstant posterInput.instant := by
    unfold CanonicalInstant
    decide
  exact refused ((agrees.authorizes posterInput canonical releases selection).mpr delivers)

end screengoblin.server
