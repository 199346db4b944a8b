-- What a manifest holds while no emergency is active, over whole runs of the store whose
-- playlists came in through the body of their route (apps/api/src/routes/playlists.ts). The items
-- are as many and as long as that body lets through, and the media policy accepts their assets
-- at the instant of the manifest. Nothing keeps an asset from being there twice.
import ScreenGoblin.DeliveryLaws
import ScreenGoblin.SnapshotForms

open js collections screengoblin.schedule

namespace screengoblin.server

/-! ## The condition on the playlists -/

/-- A playlist that the operation creates comes from an accepted body. -/
def ContentEvent.Accepted : ContentEvent → Prop
  | .call _ (.createPlaylist _ data _) => acceptedPlaylist data = true
  | _ => True

/-- A number of seconds that the body lets through. -/
def Timed (durationSeconds : Int) : Prop := 1 ≤ durationSeconds ∧ durationSeconds ≤ 86400

/-! ## The invariant -/

/-- The items of a release: not too many, each with a name for its asset and a length. -/
structure Fits (items : List FrozenReleaseItem) : Prop where
  few : items.length ≤ 500
  named : ∀ item ∈ items, item.asset.id ≠ ""
  timed : ∀ item ∈ items, Timed item.durationSeconds

structure Bounded (s : MemoryStore) : Prop where
  media : ∀ asset ∈ s.media, asset.id ≠ ""
  few : ∀ playlist ∈ s.playlists, playlist.items.length ≤ 500
  timed : ∀ playlist ∈ s.playlists, ∀ item ∈ playlist.items, Timed item.durationSeconds
  releases : ∀ release ∈ s.releases, Fits release.items

section
variable {P : Platform} {s s' : MemoryStore}

theorem bounded_seeded (users : List SessionUser) : Bounded (.seeded users) where
  media := by simp [MemoryStore.seeded]
  few := by simp [MemoryStore.seeded]
  timed := by simp [MemoryStore.seeded]
  releases := by simp [MemoryStore.seeded]

/-- The operations that add none of these records. -/
theorem Bounded.congr (h : Bounded s) (media : s'.media = s.media)
    (playlists : s'.playlists = s.playlists)
    (releases : ∀ release ∈ s'.releases, release ∈ s.releases) : Bounded s' where
  media := by rw [media]; exact h.media
  few := by rw [playlists]; exact h.few
  timed := by rw [playlists]; exact h.timed
  releases release hr := h.releases release (releases release hr)

/-! ## Operations on the content -/

theorem length_playlistItems (drawn : Nat) (inputs : List PlaylistItemInput) :
    (playlistItems P drawn inputs).length = inputs.length := by
  induction inputs generalizing drawn with
  | nil => rfl
  | cons input rest ih =>
    unfold playlistItems
    rw [List.length_cons, List.length_cons, ih]

theorem playlistItems_timed {drawn : Nat} {inputs : List PlaylistItemInput}
    (timed : ∀ input ∈ inputs, Timed input.durationSeconds) :
    ∀ item ∈ playlistItems P drawn inputs, Timed item.durationSeconds := by
  induction inputs generalizing drawn with
  | nil =>
    intro item member
    cases member
  | cons input rest ih =>
    intro item member
    unfold playlistItems at member
    rcases List.mem_cons.mp member with rfl | member
    · exact timed input List.mem_cons_self
    · exact ih (fun other inside => timed other (List.mem_cons_of_mem _ inside)) item member

theorem acceptedPlaylist_spec {data : PlaylistInput} (accepted : acceptedPlaylist data = true) :
    data.items.length ≤ 500 ∧ ∀ item ∈ data.items, Timed item.durationSeconds := by
  unfold acceptedPlaylist at accepted
  simp only [Bool.and_eq_true, decide_eq_true_eq, List.all_eq_true] at accepted
  refine ⟨accepted.1.1.2, ?_⟩
  intro item member
  exact ⟨(accepted.1.2 item member).1.2, (accepted.1.2 item member).2⟩

/-- Each playlist was there, or the operation has created it. -/
def ContentCall.KeepsPlaylists (P : Platform) (c : ContentCall) (s s' : MemoryStore) : Prop :=
  ∀ playlist ∈ s'.playlists, playlist ∈ s.playlists ∨
    ∃ org data actor drawn, c = .createPlaylist org data actor ∧
      playlist.items = playlistItems P drawn data.items

theorem keepsPlaylists_same {c : ContentCall} (playlists : s'.playlists = s.playlists) :
    c.KeepsPlaylists P s s' := by
  intro playlist member
  rw [playlists] at member
  exact .inl member

theorem ContentCall.perform_keepsPlaylists (P : Platform) (timestamp : Int) (s : MemoryStore)
    (c : ContentCall) : c.KeepsPlaylists P s (c.perform P timestamp s) := by
  have unchanged : c.KeepsPlaylists P s s := keepsPlaylists_same rfl
  cases c with
  | deleteScreen org screenId actor =>
    unfold perform deleteScreenAndAudit
    dsimp only
    repeat' split
    all_goals exact keepsPlaylists_same rfl
  | createMedia org data actor =>
    apply audited_keeps unchanged
    unfold server.createMedia
    dsimp only
    split
    all_goals exact keepsPlaylists_same rfl
  | deleteMedia org assetId actor =>
    apply audited_keeps unchanged
    unfold server.deleteMedia
    repeat' split
    all_goals exact keepsPlaylists_same rfl
  | createPlaylist org data actor =>
    apply audited_keeps unchanged
    split
    · intro playlist member
      rcases List.mem_append.mp member with old | new
      · exact .inl old
      · rw [List.mem_singleton.mp new]
        exact .inr ⟨org, data, actor, _, rfl, rfl⟩
    · exact unchanged
  | deletePlaylist org playlistId actor =>
    apply audited_keeps unchanged
    unfold server.deletePlaylist
    split
    · exact unchanged
    · split
      · exact unchanged
      · exact fun playlist member => .inl (List.mem_filter.mp member).1
  | _ =>
    apply audited_keeps unchanged
    repeat' split
    all_goals exact keepsPlaylists_same rfl

theorem name_of_storageKey {org assetId checksum storageKey : String}
    (made : mediaStorageKey org assetId checksum = .ok storageKey) : assetId ≠ "" := by
  intro empty
  unfold mediaStorageKey at made
  rw [empty, show isSafeSegment "" = false from rfl] at made
  simp at made

theorem Bounded.call (h : Bounded s) (timestamp : Int) (c : ContentCall)
    (accepted : (ContentEvent.call timestamp c).Accepted) : Bounded (c.perform P timestamp s) := by
  have media := (c.perform_keepsMedia P timestamp s).2
  have playlists := c.perform_keepsPlaylists P timestamp s
  have releases := (c.perform_same P timestamp s).releases
  refine ⟨?_, ?_, ?_, ?_⟩
  · intro asset ha
    rcases media asset ha with old | ⟨_, _, _, _, _, _, _, made⟩
    · exact h.media asset old
    · exact name_of_storageKey made
  · intro playlist hp
    rcases playlists playlist hp with old | ⟨_, data, _, drawn, rfl, items⟩
    · exact h.few playlist old
    · rw [items, length_playlistItems]
      exact (acceptedPlaylist_spec accepted).1
  · intro playlist hp
    rcases playlists playlist hp with old | ⟨_, data, _, drawn, rfl, items⟩
    · exact h.timed playlist old
    · rw [items]
      exact playlistItems_timed (acceptedPlaylist_spec accepted).2
  · rw [releases]
    exact h.releases

/-! ## Commands -/

/-- A frozen item is an item of the playlist, with one of the assets. -/
theorem frozenItem_spec {assets : List MediaRecord} {item : PlaylistItem}
    {frozen : FrozenReleaseItem} (made : frozenItem assets item = some frozen) :
    frozen.durationSeconds = item.durationSeconds ∧
      ∃ asset ∈ assets, frozen.asset = freezeAsset asset := by
  obtain ⟨asset, found, rfl⟩ := Option.map_eq_some_iff.mp made
  exact ⟨rfl, asset, List.mem_reverse.mp (List.mem_of_find?_eq_some found), rfl⟩

theorem Bounded.prepared (h : Bounded s) {org : String} {data : CandidateInput}
    {origins : List String} {timestamp : Int} {snapshot : CanonicalReleaseSnapshot}
    (prepared : prepareCandidate P s org data origins timestamp = .ok snapshot) :
    Fits snapshot.items := by
  obtain ⟨playlist, found, _, made⟩ := prepareCandidate_ok prepared
  have stored := List.mem_of_find?_eq_some found
  unfold canonicalReleaseSnapshot at made
  dsimp only at made
  split at made
  · cases made
  · obtain ⟨items, frozen, same⟩ := bind_ok.mp made
    cases same
    have each := (freezeItems_ok_iff.mp frozen).2.2
    have source : ∀ item ∈ items, ∃ entry ∈ playlist.items, frozenItem
        (playlist.items.filterMap fun entry => findMedia s org entry.assetId) entry =
          some item := by
      intro item member
      have listed := List.mem_map_of_mem (f := some) member
      rw [← each] at listed
      obtain ⟨entry, inside, is⟩ := List.mem_map.mp listed
      exact ⟨entry, (List.mem_insertionSort _).mp inside, is⟩
    refine ⟨?_, ?_, ?_⟩
    · have same := congrArg List.length each
      rw [List.length_map, List.length_map, List.length_insertionSort] at same
      rw [← same]
      exact h.few playlist stored
    · intro item member
      obtain ⟨entry, _, is⟩ := source item member
      obtain ⟨_, asset, listed, isIt⟩ := frozenItem_spec is
      obtain ⟨other, _, held⟩ := List.mem_filterMap.mp listed
      rw [isIt]
      exact h.media asset (List.mem_of_find?_eq_some held)
    · intro item member
      obtain ⟨entry, inside, is⟩ := source item member
      rw [(frozenItem_spec is).1]
      exact h.timed playlist stored entry inside

theorem Bounded.pruned (h : Bounded s) (org : String) (timestamp : Int) :
    Bounded (pruneExpiredCandidates P org timestamp s) :=
  h.congr rfl rfl fun _ hr => (List.mem_filter.mp hr).1

theorem Bounded.added (h : Bounded s) (org : String) (data : CandidateInput) (actor : String)
    (timestamp : Int) {origins : List String} {snapshot : CanonicalReleaseSnapshot}
    (prepared : prepareCandidate P s org data origins timestamp = .ok snapshot) :
    Bounded (addCandidate P org data actor timestamp snapshot s) where
  media := h.media
  few := h.few
  timed := h.timed
  releases := by
    intro r hr
    simp only [addCandidate] at hr
    split at hr
    · exact h.releases r hr
    · next isNew =>
      rcases List.mem_append.mp hr with old | fresh
      · exact h.releases r old
      · rw [List.mem_singleton.mp fresh]
        unfold releaseFor at isNew ⊢
        dsimp only at isNew ⊢
        split
        · next release reused =>
          rw [reused] at isNew
          exact absurd (List.mem_of_find?_eq_some reused) isNew
        · exact h.prepared prepared

theorem Bounded.withdrawn (h : Bounded s) (timestamp : Int) (org scheduleId actor : String) :
    Bounded (withdrawSchedule P timestamp org scheduleId actor s).1 := by
  unfold withdrawSchedule
  dsimp only
  repeat' split
  all_goals exact h.congr rfl rfl fun _ hr => hr

theorem Bounded.command (h : Bounded s) (timestamp : Int) (c : Command) :
    Bounded (c.perform P timestamp s).1 := by
  have ends := perform_ends P timestamp c s
  generalize c.perform P timestamp s = outcome at ends ⊢
  cases ends with
  | stops stop => exact h
  | prunes stop isCreate => exact h.pruned c.org timestamp
  | completes candidate after admitted change =>
    suffices done : Bounded after by
      exact done.congr rfl rfl fun _ hr => hr
    cases change with
    | create org data actor origins idempotency snapshot unexpired prepared =>
      exact (h.pruned org timestamp).added org data actor timestamp prepared
    | submit => exact h.congr rfl rfl fun _ hr => hr
    | approve => exact h.congr rfl rfl fun _ hr => hr
    | publish => exact h.congr rfl rfl fun _ hr => hr

theorem Bounded.after (h : Bounded s) (event : ContentEvent) (allowed : event.Allowed s)
    (accepted : event.Accepted) : Bounded (event.after P s) := by
  cases event with
  | command timestamp c => exact h.command timestamp c
  | prune timestamp org => exact h.pruned org timestamp
  | withdraw timestamp org scheduleId actor => exact h.withdrawn timestamp org scheduleId actor
  | call timestamp c => exact h.call timestamp c accepted
  | elsewhere after =>
    refine h.congr allowed.media allowed.playlists ?_
    intro release hr
    exact allowed.releases ▸ hr

theorem ContentRun.bounded {past : ContentPast} (run : ContentRun P past s)
    (accepted : ∀ entry ∈ past, entry.2.Accepted) : Bounded s := by
  induction run with
  | seeded users => exact bounded_seeded users
  | step _ event allowed ih =>
    refine (ih ?_).after event allowed ?_
    · intro entry member
      exact accepted entry (List.mem_append_left _ member)
    · exact accepted _ (List.mem_append_right _ List.mem_cons_self)

/-! ## The manifest -/

/-- What the media policy reads of an asset of a manifest. -/
def ManifestAsset.policy (asset : ManifestAsset) : PolicyMediaAsset :=
  { kind := asset.kind, mimeType := asset.mimeType, checksumSha256 := asset.checksumSha256,
    sizeBytes := asset.sizeBytes, expiresAt := asset.expiresAt }

/-- An item that a release puts on a manifest. -/
structure Presents (R : ManifestRuntime) (config : AppConfig) (item : ManifestItem) : Prop where
  named : item.asset.id ≠ ""
  url : item.asset.url = apiBaseUrl config ++ "/media/" ++ encodeURIComponent item.asset.id
  capability : ∃ claims, item.asset.mediaCapability =
    some (issueMediaCapability R.toTokenRuntime claims config.mediaDeliverySecret)
  timed : ∃ seconds, item.durationSeconds = some seconds ∧ Timed seconds
  dated : truthyText item.asset.expiresAt = item.asset.expiresAt

/-- A manifest of an ordinary release, or of none. -/
structure Ordinary (P : Platform) (R : ManifestRuntime) (config : AppConfig)
    (content : ManifestContent) (generatedAt : Int) : Prop where
  validUntil : content.validUntil = P.toISOString (generatedAt + MANIFEST_LEASE_MS)
  withdrawn : content.withdrawn = content.items.isEmpty
  normal : content.withdrawn = true → content.priority = .normal
  few : content.items.length ≤ 500
  accepted : mediaPublicationFailure P (content.items.map (·.asset.policy)) generatedAt = none
  items : ∀ item ∈ content.items, Presents R config item

variable {R : ManifestRuntime} {config : AppConfig} {screen : ScreenRecord}
  {credentialKeyId requestChallengeId : Option String} {t : Int}

theorem ordinary_nothingToPlay : Ordinary P R config (nothingToPlay P t) t where
  validUntil := rfl
  withdrawn := rfl
  normal _ := rfl
  few := Nat.zero_le _
  accepted := rfl
  items := by
    intro item member
    cases member

/-- The policy takes an empty expiry for none. -/
theorem mediaFailureFrom_truthyText (instant : Int) (bytes : Rat)
    (assets : List PolicyMediaAsset) :
    mediaFailureFrom P instant bytes
        (assets.map fun asset => { asset with expiresAt := truthyText asset.expiresAt }) =
      mediaFailureFrom P instant bytes assets := by
  induction assets generalizing bytes with
  | nil => rfl
  | cons asset rest ih =>
    have supported : PolicyMediaAsset.supported
        { asset with expiresAt := truthyText asset.expiresAt } = asset.supported := rfl
    have expired : PolicyMediaAsset.expired P
        { asset with expiresAt := truthyText asset.expiresAt } instant =
          asset.expired P instant := by
      unfold PolicyMediaAsset.expired
      rw [truthyText_idem]
    rw [List.map_cons]
    unfold mediaFailureFrom
    rw [supported, expired, ih]

/-- What an item of a manifest is made of. -/
theorem manifestItem_spec {playbackEndsAt : Option Int} {selected : ActiveOrdinaryRelease}
    {source : FrozenReleaseItem} {item : ManifestItem}
    (made : manifestItem P R config screen credentialKeyId t playbackEndsAt selected source =
      .ok item) :
    item.asset.policy = { source.asset.policy with
        expiresAt := truthyText source.asset.policy.expiresAt } ∧
      (source.asset.id ≠ "" → Timed source.durationSeconds → Presents R config item) := by
  obtain ⟨claims, _, made⟩ := bind_ok.mp made
  cases made
  refine ⟨rfl, ?_⟩
  intro named timed
  exact ⟨named, rfl, ⟨claims, rfl⟩, ⟨_, rfl, timed⟩, truthyText_idem _⟩

theorem policies_of_items {playbackEndsAt : Option Int} {selected : ActiveOrdinaryRelease}
    {sources : List FrozenReleaseItem} {items : List ManifestItem}
    (each : List.Forall₂ (fun source item => manifestItem P R config screen credentialKeyId t
      playbackEndsAt selected source = .ok item) sources items) :
    items.map (·.asset.policy) = (sources.map (·.asset.policy)).map fun asset =>
      { asset with expiresAt := truthyText asset.expiresAt } := by
  induction each with
  | nil => rfl
  | cons first _ ih =>
    rw [List.map_cons, List.map_cons, List.map_cons, ih, (manifestItem_spec first).1]

theorem ordinary_releaseContent {selected : ActiveOrdinaryRelease}
    (fits : Fits selected.release.items) {content : ManifestContent}
    (made : releaseContent P R config screen credentialKeyId t selected = .ok content) :
    Ordinary P R config content t := by
  unfold releaseContent at made
  obtain ⟨playbackEndsAt, _, made⟩ := bind_ok.mp made
  split at made
  · next playable =>
    obtain ⟨items, itemsMade, made⟩ := bind_ok.mp made
    cases made
    unfold entireReleasePlayable at playable
    simp only [Bool.and_eq_true, Option.isNone_iff_eq_none, Bool.not_eq_true',
      List.isEmpty_eq_false_iff] at playable
    have each := mapM_ok_iff.mp itemsMade
    have length : selected.release.items.length = items.length := each.length_eq
    refine ⟨rfl, ?_, ?_, ?_, ?_, ?_⟩
    · symm
      rw [List.isEmpty_eq_false_iff, ← List.length_pos_iff, ← length, List.length_pos_iff]
      exact playable.1.1.1
    · intro withdrawn
      cases withdrawn
    · show items.length ≤ 500
      rw [← length]
      exact fits.few
    · show mediaFailureFrom P t 0 (items.map (·.asset.policy)) = none
      rw [policies_of_items each, mediaFailureFrom_truthyText]
      exact playable.1.2
    · intro item member
      obtain ⟨source, listed, itemMade⟩ := mapM_ok_mem itemsMade member
      exact (manifestItem_spec itemMade).2 (fits.named source listed) (fits.timed source listed)
  · cases made
    exact ordinary_nothingToPlay

/-- The manifest of a screen for which no emergency is active. -/
theorem Bounded.ordinary (h : Bounded s) {emergencies : List EmergencyRecord}
    (quiet : config.emergencyPublishingEnabled = true →
      memoryActiveEmergency P emergencies screen.organizationId screen.id t = none)
    {content : ManifestContent}
    (made : manifestContent P R config emergencies s screen credentialKeyId t = .ok content) :
    Ordinary P R config content t := by
  unfold manifestContent at made
  have none : (if config.emergencyPublishingEnabled then
      memoryActiveEmergency P emergencies screen.organizationId screen.id t else none) = none := by
    split
    · next enabled => exact quiet enabled
    · rfl
  dsimp only at made
  rw [none] at made
  obtain ⟨releases, selection, made⟩ := bind_ok.mp made
  split at made
  · next selected first =>
    have isSelected := (List.mem_insertionSort _).mp (List.mem_of_head? first)
    rw [selectReleases_ok selection] at isSelected
    exact ordinary_releaseContent (h.releases _ (shown_spec isSelected).2.2.1) made
  · cases made
    exact ordinary_nothingToPlay

end

end screengoblin.server
