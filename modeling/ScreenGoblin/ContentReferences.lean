-- The references between the records of the store, over whole runs: each of them resolves to a
-- record of the same organization. A delete looks for the records that refer to what it takes
-- away, and the pruning keeps a release as long as a candidate or an assignment names it.
import ScreenGoblin.ContentSteps
import ScreenGoblin.ReleaseLaws

open js collections references screengoblin.schedule

namespace screengoblin.server

/-! ## The references -/

def LocationRecord.reference (location : LocationRecord) : Reference :=
  ⟨location.organizationId, location.id⟩

def MediaRecord.reference (asset : MediaRecord) : Reference := ⟨asset.organizationId, asset.id⟩

def PlaylistRecord.reference (playlist : PlaylistRecord) : Reference :=
  ⟨playlist.organizationId, playlist.id⟩

def PublishedReleaseRecord.reference (release : PublishedReleaseRecord) : Reference :=
  ⟨release.organizationId, release.id⟩

/-- An item of the playlist shows the asset. -/
def PlaylistRecord.Plays (playlist : PlaylistRecord) (asset : Reference) : Prop :=
  playlist.organizationId = asset.organizationId ∧
    ∃ item ∈ playlist.items, item.assetId = asset.id

def PublishedReleaseRecord.IsMadeFrom (release : PublishedReleaseRecord)
    (playlist : Reference) : Prop :=
  release.organizationId = playlist.organizationId ∧ release.sourcePlaylistId = playlist.id

/-- The release of the candidate, with the digest that the candidate recorded. -/
def ReleaseCandidateRecord.Names (candidate : ReleaseCandidateRecord)
    (release : PublishedReleaseRecord) : Prop :=
  release.organizationId = candidate.organizationId ∧ release.id = candidate.releaseId ∧
    release.digestSha256 = candidate.releaseDigestSha256

/-- The release of the assignment. The digest that the assignment recorded covers its digest. -/
def ReleaseAssignmentRecord.Names (P : Platform) (assignment : ReleaseAssignmentRecord)
    (release : PublishedReleaseRecord) : Prop :=
  hasValidStoredAssignmentDigest P assignment release = true

def ScheduleRecord.Names (schedule : ScheduleRecord) (release : PublishedReleaseRecord) : Prop :=
  release.organizationId = schedule.organizationId ∧ schedule.releaseId = some release.id

/-- The assignment of the schedule, for its release. -/
def ScheduleRecord.IsAssigned (schedule : ScheduleRecord)
    (assignment : ReleaseAssignmentRecord) : Prop :=
  assignment.organizationId = schedule.organizationId ∧
    schedule.assignmentId = some assignment.id ∧ assignment.scheduleId = schedule.id ∧
    schedule.releaseId = some assignment.releaseId

def ScheduleRecord.Plays (schedule : ScheduleRecord) (playlist : Reference) : Prop :=
  schedule.organizationId = playlist.organizationId ∧ schedule.playlistId = playlist.id

/-- Each reference of a live record resolves to a live record of the same organization. -/
structure ReferencesResolve (P : Platform) (s : MemoryStore) : Prop where
  screens : Resolved ScreenRecord.IsAt (fun location record => record.reference = location)
    s.screens s.locations
  playlists : Resolved PlaylistRecord.Plays (fun asset record => record.reference = asset)
    s.playlists s.media
  candidates : Resolved Eq ReleaseCandidateRecord.Names s.releaseCandidates s.releases
  assignments : Resolved Eq (ReleaseAssignmentRecord.Names P) s.releaseAssignments s.releases
  scheduleReleases : Resolved Eq ScheduleRecord.Names s.schedules s.releases
  scheduleAssignments : Resolved Eq ScheduleRecord.IsAssigned s.schedules s.releaseAssignments
  schedulePlaylists : Resolved ScheduleRecord.Plays
    (fun playlist record => record.reference = playlist) s.schedules s.playlists

/-! ## The invariant -/

/-- The references of the store, beside what `FourEyes` says of the candidates. The playlist of a
schedule is the one of its release, unless two snapshots of the run share a digest. -/
structure Content (P : Platform) (frozen : List CanonicalReleaseSnapshot) (s : MemoryStore) :
    Prop where
  screens : Resolved ScreenRecord.IsAt (fun location record => record.reference = location)
    s.screens s.locations
  playlists : Resolved PlaylistRecord.Plays (fun asset record => record.reference = asset)
    s.playlists s.media
  sources : Resolved PublishedReleaseRecord.IsMadeFrom
    (fun playlist record => record.reference = playlist) s.releases s.playlists
  frozenReleases : ∀ r ∈ s.releases, canonicalStoredReleaseSnapshot r ∈ frozen
  frozenCandidates : ∀ c ∈ s.releaseCandidates, ∃ snapshot ∈ frozen,
    releaseSnapshotDigest P snapshot = c.releaseDigestSha256 ∧
      snapshot.sourcePlaylistId = c.sourcePlaylistId
  assignments : Resolved Eq (ReleaseAssignmentRecord.Names P) s.releaseAssignments s.releases
  scheduleAssignments : Resolved Eq ScheduleRecord.IsAssigned s.schedules s.releaseAssignments
  schedulePlaylists : DigestsApart P frozen → Resolved ScheduleRecord.Plays
    (fun playlist record => record.reference = playlist) s.schedules s.playlists

section
variable {P : Platform} {frozen : List CanonicalReleaseSnapshot} {s s' : MemoryStore}

theorem content_seeded (P : Platform) (users : List SessionUser) :
    Content P [] (.seeded users) where
  screens := .nil
  playlists := .nil
  sources := .nil
  frozenReleases := by simp [MemoryStore.seeded]
  frozenCandidates := by simp [MemoryStore.seeded]
  assignments := .nil
  scheduleAssignments := .nil
  schedulePlaylists _ := .nil

theorem Content.mono {frozen' : List CanonicalReleaseSnapshot} (h : Content P frozen s)
    (sub : ∀ a ∈ frozen, a ∈ frozen') : Content P frozen' s :=
  { h with
    frozenReleases := by
      intro r hr
      exact sub _ (h.frozenReleases r hr)
    frozenCandidates := by
      intro c hc
      obtain ⟨snapshot, hashed, digest, source⟩ := h.frozenCandidates c hc
      exact ⟨snapshot, sub snapshot hashed, digest, source⟩
    schedulePlaylists := by
      intro apart
      exact h.schedulePlaylists (apart.fewer sub) }

theorem Content.same (h : Content P frozen s) (same : SameContent s s') : Content P frozen s' where
  screens := by
    rw [same.locations]
    apply h.screens.referrers
    intro screen' member location placed
    exact .inl (same.screens screen' member location placed)
  playlists := by rw [same.playlists, same.media]; exact h.playlists
  sources := by rw [same.releases, same.playlists]; exact h.sources
  frozenReleases := by rw [same.releases]; exact h.frozenReleases
  frozenCandidates := by rw [same.releaseCandidates]; exact h.frozenCandidates
  assignments := by rw [same.releaseAssignments, same.releases]; exact h.assignments
  scheduleAssignments := by
    rw [same.schedules, same.releaseAssignments]
    exact h.scheduleAssignments
  schedulePlaylists := by rw [same.schedules, same.playlists]; exact h.schedulePlaylists

/-! ## Locations and screens -/

theorem Content.createLocation (h : Content P frozen s) (timestamp : Int)
    (org name actor : String) :
    Content P frozen (createLocationAndAudit P timestamp org name actor s).1 := by
  unfold createLocationAndAudit
  apply audited_keeps h
  split
  · exact h
  · exact { h with screens := h.screens.more fun b hb => List.mem_append_left _ hb }

theorem Content.updateLocation (h : Content P frozen s) (timestamp : Int)
    (org locationId name actor : String) :
    Content P frozen (updateLocationAndAudit timestamp org locationId name actor s).1 := by
  unfold updateLocationAndAudit
  apply audited_keeps h
  split
  · exact h
  · dsimp only
    split
    · exact h
    · refine { h with screens := h.screens.targets ?_ }
      intro _ _ k _ b hb met
      rcases stays_updateFirst hb with stays | changed
      · exact ⟨b, stays, met⟩
      · exact ⟨_, changed, met⟩

theorem Content.deleteLocation (h : Content P frozen s) (org locationId actor : String) :
    Content P frozen (deleteLocationAndAudit org locationId actor s).1 := by
  unfold deleteLocationAndAudit
  apply audited_keeps h
  split
  · exact h
  · split
    · exact h
    · next unused =>
      refine { h with screens := h.screens.targets ?_ }
      intro screen member k placed b hb met
      refine ⟨b, (List.mem_eraseP_of_neg ?_).mpr hb, met⟩
      -- the screen at this location keeps it from being the deleted one
      intro deleted
      apply unused
      simp only [isLocation, Bool.and_eq_true, beq_iff_eq] at deleted
      obtain ⟨organization, named⟩ := placed
      rw [List.any_eq_true]
      refine ⟨screen, member, ?_⟩
      have held := (Option.filter_eq_some_iff.mp named).1
      rw [← met] at organization held
      simp [organization, held, LocationRecord.reference, deleted]

/-- A new screen is at a location of the organization, or at none. -/
theorem Content.createScreen (h : Content P frozen s) (timestamp : Int) (org : String)
    (data : ScreenInput) (known : ∀ locationId, truthyText data.locationId = some locationId →
      s.locations.any (fun location =>
        location.organizationId == org && location.id == locationId) = true) :
    Content P frozen (server.createScreen P timestamp org data s).1 := by
  refine { h with screens := h.screens.append ?_ }
  intro k placed
  obtain ⟨organization, named⟩ := placed
  rw [truthyText_idem] at named
  obtain ⟨location, held, same⟩ := List.any_eq_true.mp (known k.id named)
  simp only [Bool.and_eq_true, beq_iff_eq] at same
  refine ⟨location, held, ?_⟩
  unfold LocationRecord.reference
  rw [same.1, same.2, show org = k.organizationId from organization]

theorem Content.createScreenAndAudit (h : Content P frozen s) (timestamp : Int) (org : String)
    (data : ScreenInput) (actor : String) :
    Content P frozen (server.createScreenAndAudit P timestamp org data actor s).1 := by
  unfold server.createScreenAndAudit
  apply audited_keeps h
  split
  · next locationId named =>
    split
    · next known =>
      apply h.createScreen
      intro other namedOther
      rw [show truthyText data.locationId = some other from namedOther] at named
      cases named
      exact known
    · exact h
  · next unnamed =>
    apply h.createScreen
    intro locationId named
    rw [show truthyText data.locationId = some locationId from named] at unnamed
    cases unnamed

theorem Content.updateScreen (h : Content P frozen s) (timestamp : Int) (org screenId : String)
    (patch : ScreenPatch) (actor : String) :
    Content P frozen (updateScreenAndAudit timestamp org screenId patch actor s).1 := by
  unfold updateScreenAndAudit
  apply audited_keeps h
  split
  · exact h
  · split
    · next known =>
      refine { h with screens := h.screens.referrers ?_ }
      intro screen' member k placed
      rcases mem_updateFirst member with old | ⟨screen, found, rfl⟩
      · exact .inl ⟨screen', old, placed⟩
      · obtain ⟨organization, named⟩ := placed
        have stored := List.mem_of_find?_eq_some found
        have own := List.find?_some found
        simp only [isScreen, Bool.and_eq_true, beq_iff_eq] at own
        cases change : patch.locationId with
        | none =>
          simp only [ScreenPatch.apply, change, Option.getD_none] at organization named
          exact .inl ⟨screen, stored, organization, named⟩
        | some placed =>
          simp only [ScreenPatch.apply, change, Option.getD_some] at organization named
          simp only [knownLocation, change, Option.join_some, named, Option.all_some] at known
          obtain ⟨location, held, same⟩ := List.any_eq_true.mp known
          simp only [isLocation, Bool.and_eq_true, beq_iff_eq] at same
          refine .inr ⟨location, held, ?_⟩
          unfold LocationRecord.reference
          rw [same.1, same.2, ← own.1, organization]
    · exact h

theorem Content.deleteScreen (h : Content P frozen s) (timestamp : Int)
    (org screenId actor : String) :
    Content P frozen (deleteScreenAndAudit timestamp org screenId actor s).1 := by
  unfold deleteScreenAndAudit
  split
  · exact h
  · split
    · exact h
    · exact { h with screens := h.screens.fewer fun screen member => List.mem_of_mem_eraseP member }

/-! ## Media and playlists -/

theorem Content.createMedia (h : Content P frozen s) (timestamp : Int) (org : String)
    (data : MediaInput) (actor : String) :
    Content P frozen (createMediaAndAudit P timestamp org data actor s).1 := by
  unfold createMediaAndAudit
  apply audited_keeps h
  unfold server.createMedia
  dsimp only
  split
  · exact { h with }
  · exact { h with playlists := h.playlists.more fun b hb => List.mem_append_left _ hb }

theorem Content.deleteMedia (h : Content P frozen s) (org assetId actor : String) :
    Content P frozen (deleteMediaAndAudit org assetId actor s).1 := by
  unfold deleteMediaAndAudit
  apply audited_keeps h
  unfold server.deleteMedia
  split
  · exact h
  · split
    · exact h
    · next unused =>
      refine { h with playlists := h.playlists.targets ?_ }
      intro playlist member k plays b hb met
      refine ⟨b, List.mem_filter.mpr ⟨hb, ?_⟩, met⟩
      by_contra deleted
      apply unused
      simp only [isMedia, Bool.not_eq_true', Bool.not_eq_false, Bool.and_eq_true,
        beq_iff_eq] at deleted
      obtain ⟨organization, item, inside, named⟩ := plays
      rw [← met] at organization named
      simp only [mediaInUse, Bool.or_eq_true, List.any_eq_true, Bool.and_eq_true, beq_iff_eq]
      exact .inl ⟨playlist, member, organization.trans deleted.1, item, inside,
        named.trans deleted.2⟩

theorem mem_playlistItems {drawn : Nat} {inputs : List PlaylistItemInput} {item : PlaylistItem}
    (member : item ∈ playlistItems P drawn inputs) :
    ∃ input ∈ inputs, input.assetId = item.assetId := by
  induction inputs generalizing drawn with
  | nil => cases member
  | cons input rest ih =>
    unfold playlistItems at member
    rcases List.mem_cons.mp member with rfl | member
    · exact ⟨input, by simp, rfl⟩
    · obtain ⟨other, inside, same⟩ := ih member
      exact ⟨other, by simp [inside], same⟩

theorem Content.createPlaylist (h : Content P frozen s) (timestamp : Int) (org : String)
    (data : PlaylistInput) (actor : String) :
    Content P frozen (createPlaylistAndAudit P timestamp org data actor s).1 := by
  unfold createPlaylistAndAudit
  apply audited_keeps h
  split
  · next known =>
    have more : ∀ b ∈ s.playlists, b ∈ (server.createPlaylist P timestamp org data s).1.playlists :=
      fun b hb => List.mem_append_left _ hb
    refine { h with
      playlists := h.playlists.append ?_
      sources := h.sources.more more
      schedulePlaylists := fun apart => (h.schedulePlaylists apart).more more }
    intro k plays
    obtain ⟨organization, item, inside, named⟩ := plays
    obtain ⟨input, given, same⟩ := mem_playlistItems inside
    obtain ⟨asset, held, isIt⟩ := List.any_eq_true.mp (List.all_eq_true.mp known input given)
    simp only [isMedia, Bool.and_eq_true, beq_iff_eq] at isIt
    refine ⟨asset, held, ?_⟩
    unfold MediaRecord.reference
    rw [isIt.1, isIt.2, same, named, show org = k.organizationId from organization]
  · exact h

theorem Content.deletePlaylist (h : Content P frozen s) (org playlistId actor : String) :
    Content P frozen (deletePlaylistAndAudit org playlistId actor s).1 := by
  unfold deletePlaylistAndAudit
  apply audited_keeps h
  unfold server.deletePlaylist
  split
  · exact h
  · split
    · exact h
    · next unused =>
      simp only [Bool.or_eq_true, List.any_eq_true, Bool.and_eq_true, beq_iff_eq, not_or] at unused
      refine { h with
        playlists := h.playlists.fewer fun playlist member => (List.mem_filter.mp member).1
        sources := h.sources.targets ?_
        schedulePlaylists := fun apart => (h.schedulePlaylists apart).targets ?_ }
      · intro release member k made b hb met
        refine ⟨b, List.mem_filter.mpr ⟨hb, ?_⟩, met⟩
        by_contra deleted
        simp only [isPlaylist, Bool.not_eq_true', Bool.not_eq_false, Bool.and_eq_true,
          beq_iff_eq] at deleted
        obtain ⟨organization, named⟩ := made
        rw [← met] at organization named
        exact unused.2 ⟨release, member, organization.trans deleted.1, named.trans deleted.2⟩
      · intro schedule member k plays b hb met
        refine ⟨b, List.mem_filter.mpr ⟨hb, ?_⟩, met⟩
        by_contra deleted
        simp only [isPlaylist, Bool.not_eq_true', Bool.not_eq_false, Bool.and_eq_true,
          beq_iff_eq] at deleted
        obtain ⟨organization, named⟩ := plays
        rw [← met] at organization named
        exact unused.1 ⟨schedule, member, organization.trans deleted.1, named.trans deleted.2⟩

theorem Content.call (h : Content P frozen s) (timestamp : Int) (c : ContentCall) :
    Content P frozen (c.perform P timestamp s) := by
  cases c with
  | createLocation org name actor => exact h.createLocation timestamp org name actor
  | updateLocation org locationId name actor =>
    exact h.updateLocation timestamp org locationId name actor
  | deleteLocation org locationId actor => exact h.deleteLocation org locationId actor
  | createScreen org data actor => exact h.createScreenAndAudit timestamp org data actor
  | updateScreen org screenId patch actor => exact h.updateScreen timestamp org screenId patch actor
  | deleteScreen org screenId actor => exact h.deleteScreen timestamp org screenId actor
  | createMedia org data actor => exact h.createMedia timestamp org data actor
  | deleteMedia org assetId actor => exact h.deleteMedia org assetId actor
  | createPlaylist org data actor => exact h.createPlaylist timestamp org data actor
  | deletePlaylist org playlistId actor => exact h.deletePlaylist org playlistId actor

/-! ## Candidates and releases -/

theorem Content.pruned (h : Content P frozen s) (org : String) (timestamp : Int) :
    Content P frozen (pruneExpiredCandidates P org timestamp s) where
  screens := h.screens
  playlists := h.playlists
  sources := h.sources.fewer fun release member => (List.mem_filter.mp member).1
  frozenReleases r hr := h.frozenReleases r (List.mem_filter.mp hr).1
  frozenCandidates c hc := h.frozenCandidates c (pruned_sublist hc)
  assignments := by
    apply h.assignments.targets
    rintro assignment member k rfl release held names
    -- an assignment keeps its release
    have kept : s.releaseAssignments.any (fun a => a.releaseId == release.id) = true := by
      refine List.any_eq_true.mpr ⟨assignment, member, ?_⟩
      unfold ReleaseAssignmentRecord.Names hasValidStoredAssignmentDigest at names
      simp only [Bool.and_eq_true] at names
      exact names.1.1.2
    refine ⟨release, List.mem_filter.mpr ⟨held, ?_⟩, names⟩
    simp only [kept, Bool.or_true]
  scheduleAssignments := h.scheduleAssignments
  schedulePlaylists := h.schedulePlaylists

theorem Content.added (h : Content P frozen s) (org : String)
    (data : CandidateInput) (actor : String) (timestamp : Int) (origins : List String)
    (snapshot : CanonicalReleaseSnapshot) (hashed : snapshot ∈ frozen)
    (prepared : prepareCandidate P s org data origins timestamp = .ok snapshot) :
    Content P frozen (addCandidate P org data actor timestamp snapshot s) := by
  obtain ⟨playlist, found, _, made⟩ := prepareCandidate_ok prepared
  have stored := List.mem_of_find?_eq_some found
  have own := List.find?_some found
  simp only [Bool.and_eq_true, beq_iff_eq] at own
  have source : snapshot.sourcePlaylistId = playlist.id := canonicalReleaseSnapshot_source made
  have releases : ∀ r ∈ (addCandidate P org data actor timestamp snapshot s).releases,
      r ∈ s.releases ∨ (r.organizationId = org ∧ canonicalStoredReleaseSnapshot r = snapshot) := by
    intro r hr
    simp only [addCandidate] at hr
    split at hr
    · exact .inl hr
    · next isNew =>
      rcases List.mem_append.mp hr with old | fresh
      · exact .inl old
      · rw [List.mem_singleton.mp fresh]
        unfold releaseFor at isNew ⊢
        dsimp only at isNew ⊢
        split
        · next release reused =>
          rw [reused] at isNew
          exact absurd (List.mem_of_find?_eq_some reused) isNew
        · exact .inr ⟨rfl, rfl⟩
  have more : ∀ r ∈ s.releases,
      r ∈ (addCandidate P org data actor timestamp snapshot s).releases := by
    intro r hr
    simp only [addCandidate]
    split
    · exact hr
    · exact List.mem_append_left _ hr
  exact
    { screens := h.screens
      playlists := h.playlists
      sources := by
        apply h.sources.referrers
        intro r hr k madeFrom
        rcases releases r hr with old | ⟨organization, same⟩
        · exact .inl ⟨r, old, madeFrom⟩
        · obtain ⟨rOrganization, rSource⟩ := madeFrom
          refine .inr ⟨playlist, stored, ?_⟩
          have rSnapshot : r.sourcePlaylistId = snapshot.sourcePlaylistId :=
            congrArg CanonicalReleaseSnapshot.sourcePlaylistId same
          unfold PlaylistRecord.reference
          rw [own.1, ← organization, rOrganization, ← source, ← rSnapshot, rSource]
      frozenReleases := by
        intro r hr
        rcases releases r hr with old | ⟨_, same⟩
        · exact h.frozenReleases r old
        · rw [same]
          exact hashed
      frozenCandidates := by
        intro c hc
        simp only [addCandidate, List.mem_append, List.mem_singleton] at hc
        rcases hc with old | rfl
        · exact h.frozenCandidates c old
        · exact ⟨snapshot, hashed, rfl, source.trans own.2⟩
      assignments := h.assignments.more more
      scheduleAssignments := h.scheduleAssignments
      schedulePlaylists := h.schedulePlaylists }

/-- A change of a candidate keeps what was frozen for it. -/
theorem frozen_updateFirst {test : ReleaseCandidateRecord → Bool}
    {change : ReleaseCandidateRecord → ReleaseCandidateRecord} (h : Content P frozen s)
    (keeps : ∀ c, (change c).releaseDigestSha256 = c.releaseDigestSha256 ∧
      (change c).sourcePlaylistId = c.sourcePlaylistId) :
    ∀ c ∈ updateFirst test change s.releaseCandidates, ∃ snapshot ∈ frozen,
      releaseSnapshotDigest P snapshot = c.releaseDigestSha256 ∧
        snapshot.sourcePlaylistId = c.sourcePlaylistId := by
  intro c hc
  rcases mem_updateFirst hc with old | ⟨before, found, rfl⟩
  · exact h.frozenCandidates c old
  · obtain ⟨snapshot, hashed, digest, source⟩ :=
      h.frozenCandidates before (List.mem_of_find?_eq_some found)
    obtain ⟨sameDigest, sameSource⟩ := keeps before
    exact ⟨snapshot, hashed, digest.trans sameDigest.symm, source.trans sameSource.symm⟩

/-- The release of a candidate is made from the playlist that the candidate names. -/
theorem Content.source (h : Content P frozen s) (four : FourEyes P s)
    (apart : DigestsApart P frozen) {c : ReleaseCandidateRecord} {r : PublishedReleaseRecord} (hc : c ∈ s.releaseCandidates)
    (hr : r ∈ s.releases) (digest : r.digestSha256 = c.releaseDigestSha256) :
    r.sourcePlaylistId = c.sourcePlaylistId := by
  obtain ⟨snapshot, hashed, own, source⟩ := h.frozenCandidates c hc
  have valid := four.releases r hr
  unfold hasValidStoredReleaseDigest at valid
  have same : canonicalStoredReleaseSnapshot r = snapshot := by
    apply apart _ (h.frozenReleases r hr) _ hashed
    rw [own, ← digest]
    exact (beq_iff_eq.mp valid).symm
  rw [← source, ← same]
  rfl

/-- The release that a publication finds is the one of its candidate. -/
theorem FourEyes.release_of (four : FourEyes P s) {org : String} {c : ReleaseCandidateRecord}
    {release : PublishedReleaseRecord} (hc : c ∈ s.releaseCandidates)
    (organization : c.organizationId = org)
    (found : s.releases.find? (fun record =>
      record.organizationId == org && record.id == c.releaseId) = some release) :
    release ∈ s.releases ∧ c.Names release := by
  have stored := List.mem_of_find?_eq_some found
  have named := List.find?_some found
  simp only [Bool.and_eq_true, beq_iff_eq] at named
  obtain ⟨r, hr, same, _, digest⟩ := (four.candidates c hc).release
  have : r = release := four.releaseIds.eq hr stored (same.trans named.2.symm)
  subst this
  exact ⟨stored, named.1.trans organization.symm, named.2, digest⟩

theorem Content.publication (h : Content P frozen s) (four : FourEyes P s)
    {org candidateId actor : String} {timestamp : Int} {c : ReleaseCandidateRecord}
    {release : PublishedReleaseRecord} (eligible : Eligible P s org candidateId timestamp c)
    (found : s.releases.find? (fun record =>
      record.organizationId == org && record.id == c.releaseId) = some release) :
    Content P frozen (addPublication P org candidateId actor timestamp c release s) := by
  obtain ⟨hc, organization, _⟩ := eligible.mem
  obtain ⟨stored, sameOrg, _, digest⟩ := four.release_of hc organization found
  refine
    { h with
      frozenCandidates := frozen_updateFirst h fun _ => ⟨rfl, rfl⟩
      assignments := h.assignments.append ?_
      scheduleAssignments := (h.scheduleAssignments.more
        fun a ha => List.mem_append_left _ ha).append ?_
      schedulePlaylists := fun apart => (h.schedulePlaylists apart).append ?_ }
  · rintro k rfl
    refine ⟨release, stored, ?_⟩
    have valid := four.releases release stored
    unfold ReleaseAssignmentRecord.Names hasValidStoredAssignmentDigest publishedAssignment
    simp only [sameOrg, organization, valid, digest, beq_self_eq_true, Bool.and_self]
  · rintro k rfl
    exact ⟨_, List.mem_append_right _ List.mem_cons_self, rfl, rfl, rfl, rfl⟩
  · intro k plays
    obtain ⟨scheduleOrg, playlist⟩ := plays
    -- the playlist is the source of the release, which is there as long as the release is
    have source := h.source four apart hc stored digest
    apply h.sources release stored k
    refine ⟨?_, source.trans playlist⟩
    rw [sameOrg, organization]
    exact scheduleOrg

theorem Content.withdrawn (h : Content P frozen s) (four : FourEyes P s) (timestamp : Int)
    (org scheduleId actor : String) :
    Content P frozen (withdrawSchedule P timestamp org scheduleId actor s).1 := by
  unfold withdrawSchedule
  dsimp only
  split
  · exact h
  · split
    · split
      · exact h
      · split
        · exact h
        · next release found =>
          have stored := List.mem_of_find?_eq_some found
          have named := List.find?_some found
          simp only [Bool.and_eq_true, beq_iff_eq] at named
          refine { h with
            assignments := h.assignments.append ?_
            scheduleAssignments := h.scheduleAssignments.more
              fun a ha => List.mem_append_left _ ha }
          rintro k rfl
          refine ⟨release, stored, ?_⟩
          have valid := four.releases release stored
          unfold ReleaseAssignmentRecord.Names hasValidStoredAssignmentDigest withdrawal
          simp only [named, valid, beq_self_eq_true, Bool.and_self]
    · exact h

/-- The snapshot that a completed create has frozen is among those of the step. -/
theorem freezes_create {org : String} {data : CandidateInput} {actor : String}
    {origins : List String} {idempotency : ReleaseCandidateIdempotencyInput} {timestamp : Int}
    {snapshot : CanonicalReleaseSnapshot}
    (prepared : prepareCandidate P (pruneExpiredCandidates P org timestamp s) org data origins
      timestamp = .ok snapshot) :
    snapshot ∈ (ContentEvent.command timestamp
      (.create org data actor origins idempotency)).freezes P s := by
  simp only [ContentEvent.freezes, prepared, List.mem_singleton]

theorem Content.command (h : Content P frozen s) (four : FourEyes P s) (timestamp : Int)
    (c : Command) :
    Content P (frozen ++ (ContentEvent.command timestamp c).freezes P s)
      (c.perform P timestamp s).1 := by
  have ends := perform_ends P timestamp c s
  generalize c.perform P timestamp s = outcome at ends ⊢
  replace h : Content P (frozen ++ (ContentEvent.command timestamp c).freezes P s) s :=
    h.mono fun _ => List.mem_append_left _
  cases ends with
  | stops stop => exact h
  | prunes stop isCreate => exact h.pruned c.org timestamp
  | completes candidate after admitted change =>
    suffices done : Content P (frozen ++ (ContentEvent.command timestamp c).freezes P s) after by
      exact { done with }
    cases change with
    | create org data actor origins idempotency snapshot unexpired prepared =>
      refine (h.pruned org timestamp).added org data actor timestamp origins snapshot
        (List.mem_append_right _ (freezes_create prepared)) prepared
    | submit | approve =>
      exact { h with frozenCandidates := frozen_updateFirst h fun _ => ⟨rfl, rfl⟩ }
    | publish org candidateId digest actor origins idempotency d approval release eligible
        wasApproved own sameDigest current found =>
      exact h.publication four eligible found

/-! ## Runs -/

theorem Content.after (h : Content P frozen s) (four : FourEyes P s) (event : ContentEvent)
    (allowed : event.Allowed s) : Content P (frozen ++ event.freezes P s) (event.after P s) := by
  have more : Content P (frozen ++ event.freezes P s) s := h.mono fun _ => List.mem_append_left _
  cases event with
  | command timestamp c => exact h.command four timestamp c
  | prune timestamp org => exact more.pruned org timestamp
  | withdraw timestamp org scheduleId actor =>
    exact more.withdrawn four timestamp org scheduleId actor
  | call timestamp c => exact more.call timestamp c
  | elsewhere after => exact more.same allowed

theorem ContentRun.content {past : ContentPast} (run : ContentRun P past s) :
    FourEyes P s ∧ Content P (frozenIn P past) s := by
  induction run with
  | seeded users => exact ⟨fourEyes_seeded P users, content_seeded P users⟩
  | step _ event allowed ih =>
    obtain ⟨four, content⟩ := ih
    rw [frozenIn_step]
    exact ⟨four.afterContent event allowed, content.after four event allowed⟩

/-- The law of the references: after any run in which no two frozen snapshots share a digest,
each reference of a live record resolves to a live record of the same organization. -/
theorem every_reference_resolves {past : ContentPast} (run : ContentRun P past s)
    (apart : DigestsApart P (frozenIn P past)) : ReferencesResolve P s := by
  obtain ⟨four, content⟩ := run.content
  exact
    { screens := content.screens
      playlists := content.playlists
      candidates := by
        rintro c hc k rfl
        obtain ⟨r, hr, same, organization, digest⟩ := (four.candidates c hc).release
        exact ⟨r, hr, organization, same, digest⟩
      assignments := content.assignments
      scheduleReleases := by
        rintro schedule member k rfl
        obtain ⟨a, ha, organization, _, _, release⟩ :=
          content.scheduleAssignments schedule member schedule rfl
        obtain ⟨r, hr, names⟩ := content.assignments a ha a rfl
        unfold ReleaseAssignmentRecord.Names hasValidStoredAssignmentDigest at names
        simp only [Bool.and_eq_true, beq_iff_eq] at names
        refine ⟨r, hr, ?_, ?_⟩
        · rw [← names.1.1.1, organization]
        · rw [release, names.1.1.2]
      scheduleAssignments := content.scheduleAssignments
      schedulePlaylists := content.schedulePlaylists apart }

end

/-! ## A screen at its location -/

/-- The run of the poster as a run of these operations. Then the screen is placed at a location,
which a delete does not take away. -/
def placedPoster : List ContentEvent :=
  [.call (mondayAt 9) (.createMedia "acme"
     { name := "Poster", kind := .image, mimeType := "image/png",
       url := "https://media.example/poster.png", checksumSha256 := posterChecksum,
       sizeBytes := 2048, expiresAt := none } "ann"),
   .call (mondayAt 9) (.createPlaylist "acme"
     { name := "Lobby", description := "",
       items := [{ assetId := uuid 0, position := 0, durationSeconds := 15 }] } "ann"),
   .call (mondayAt 9) (.createScreen "acme"
     { name := "Lobby", location := "Door", locationId := none, orientation := .landscape,
       resolution := "1920x1080", tags := [] } "ben"),
   .command (mondayAt 9) createPoster,
   .command (mondayAt 9 + 60000) (.submit "acme" (uuid 5) candidateDigest "ann" (keyOf .submit)),
   .command (mondayAt 9 + 60000) (.approve "acme" (uuid 5) candidateDigest "ben" (keyOf .approve)),
   .command (mondayAt 9 + 120000) (.publish "acme" (uuid 5) candidateDigest "ann"
     ["https://media.example"] (keyOf .publish)),
   .call (mondayAt 10) (.createLocation "acme" "Lobby" "ben"),
   .call (mondayAt 10) (.updateScreen "acme" (uuid 3)
     { name := none, location := none, locationId := some (some (uuid 9)), orientation := none,
       resolution := none, tags := none } "ben"),
   .call (mondayAt 11) (.deleteLocation "acme" (uuid 9) "ben"),
   .call (mondayAt 11) (.deletePlaylist "acme" (uuid 1) "ann")]

/-- The past and the store after operations of a run. -/
def contentPast (P : Platform) : ContentPast → MemoryStore → List ContentEvent →
    ContentPast × MemoryStore
  | past, s, [] => (past, s)
  | past, s, event :: rest => contentPast P (past ++ [(s, event)]) (event.after P s) rest

/-- Operations that are named are always allowed. -/
def ContentEvent.named : ContentEvent → Bool
  | .elsewhere _ => false
  | _ => true

theorem contentRun_of_events (P : Platform) (events : List ContentEvent)
    (named : events.all ContentEvent.named = true) {past : ContentPast} {s : MemoryStore}
    (run : ContentRun P past s) :
    ContentRun P (contentPast P past s events).1 (contentPast P past s events).2 := by
  induction events generalizing past s with
  | nil => exact run
  | cons event rest ih =>
    simp only [List.all_cons, Bool.and_eq_true] at named
    apply ih named.2
    apply run.step
    cases event with
    | elsewhere after => cases named.1
    | _ => trivial

def placedRun : ContentPast × MemoryStore := contentPast cms [] (.seeded team) placedPoster

set_option maxRecDepth 10000 in
theorem the_screen_stays_at_its_location :
    (∃ screen ∈ placedRun.2.screens, screen.IsAt ⟨"acme", uuid 9⟩) ∧
      (∃ location ∈ placedRun.2.locations, location.reference = ⟨"acme", uuid 9⟩) ∧
      ∃ schedule ∈ placedRun.2.schedules, ∃ playlist ∈ placedRun.2.playlists,
        schedule.Plays playlist.reference := by
  have run : ContentRun cms placedRun.1 placedRun.2 :=
    contentRun_of_events cms placedPoster rfl (.seeded team)
  have ends : frozenIn cms placedRun.1 = [posterSnapshot] ∧
      (placedRun.2.screens.find? fun screen =>
        screen.organizationId == "acme" && screen.locationId == some (uuid 9)).isSome = true ∧
      placedRun.2.schedules.isEmpty = false := by
    decide +kernel
  obtain ⟨frozen, placed, shows⟩ := ends
  have apart : DigestsApart cms (frozenIn cms placedRun.1) := by
    rw [frozen]
    intro a ha b hb _
    rw [List.mem_singleton.mp ha, List.mem_singleton.mp hb]
  have resolve := every_reference_resolves run apart
  obtain ⟨screen, found⟩ := Option.isSome_iff_exists.mp placed
  have test := List.find?_some found
  simp only [Bool.and_eq_true, beq_iff_eq] at test
  have isAt : screen.IsAt ⟨"acme", uuid 9⟩ := by
    refine ⟨test.1, ?_⟩
    rw [test.2]
    decide
  obtain ⟨schedule, member⟩ := List.isEmpty_eq_false_iff_exists_mem.mp shows
  have inStore := List.mem_of_find?_eq_some found
  obtain ⟨playlist, held, same⟩ :=
    resolve.schedulePlaylists schedule member ⟨schedule.organizationId, schedule.playlistId⟩
      ⟨rfl, rfl⟩
  refine ⟨⟨screen, inStore, isAt⟩, resolve.screens screen inStore _ isAt, schedule, member,
    playlist, held, ?_⟩
  rw [same]
  exact ⟨rfl, rfl⟩

end screengoblin.server
