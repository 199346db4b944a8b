-- The runs of the operations that the management routes call on locations, screens, media,
-- playlists and releases. Each of them asks for an actor and leaves an audit record.
import ScreenGoblin.FourEyes
import ScreenGoblin.References

open js collections screengoblin.schedule

namespace screengoblin.server

/-! ## The operations -/

inductive ContentCall where
  | createLocation (org name actorUserId : String)
  | updateLocation (org locationId name actorUserId : String)
  | deleteLocation (org locationId actorUserId : String)
  | createScreen (org : String) (data : ScreenInput) (actorUserId : String)
  | updateScreen (org screenId : String) (patch : ScreenPatch) (actorUserId : String)
  | deleteScreen (org screenId actorUserId : String)
  | createMedia (org : String) (data : MediaInput) (actorUserId : String)
  | deleteMedia (org assetId actorUserId : String)
  | createPlaylist (org : String) (data : PlaylistInput) (actorUserId : String)
  | deletePlaylist (org playlistId actorUserId : String)

def ContentCall.perform (P : Platform) (timestamp : Int) (s : MemoryStore) :
    ContentCall → MemoryStore
  | .createLocation org name actor => (createLocationAndAudit P timestamp org name actor s).1
  | .updateLocation org locationId name actor =>
    (updateLocationAndAudit timestamp org locationId name actor s).1
  | .deleteLocation org locationId actor => (deleteLocationAndAudit org locationId actor s).1
  | .createScreen org data actor => (createScreenAndAudit P timestamp org data actor s).1
  | .updateScreen org screenId patch actor =>
    (updateScreenAndAudit timestamp org screenId patch actor s).1
  | .deleteScreen org screenId actor => (deleteScreenAndAudit timestamp org screenId actor s).1
  | .createMedia org data actor => (createMediaAndAudit P timestamp org data actor s).1
  | .deleteMedia org assetId actor => (deleteMediaAndAudit org assetId actor s).1
  | .createPlaylist org data actor => (createPlaylistAndAudit P timestamp org data actor s).1
  | .deletePlaylist org playlistId actor => (deletePlaylistAndAudit org playlistId actor s).1

/-- A record of an organization, by its identifier. -/
structure Reference where
  organizationId : String
  id : String
  deriving DecidableEq

/-- The screen is at the location. An empty identifier of a location counts as none. -/
def ScreenRecord.IsAt (screen : ScreenRecord) (location : Reference) : Prop :=
  screen.organizationId = location.organizationId ∧
    truthyText screen.locationId = some location.id

/-- What the operations on users, devices and emergencies leave as it is. They may add a screen,
but not place it at a location. An operation whose audit record is rejected is one of them. -/
structure SameContent (s s' : MemoryStore) : Prop where
  locations : s'.locations = s.locations
  media : s'.media = s.media
  playlists : s'.playlists = s.playlists
  schedules : s'.schedules = s.schedules
  releases : s'.releases = s.releases
  releaseAssignments : s'.releaseAssignments = s.releaseAssignments
  releaseCandidates : s'.releaseCandidates = s.releaseCandidates
  screens : ∀ screen' ∈ s'.screens, ∀ location, screen'.IsAt location →
    ∃ screen ∈ s.screens, screen.IsAt location
  idsDrawn : s.idsDrawn ≤ s'.idsDrawn

/-! ## The runs -/

/-- One operation. `prune` is the pruning of a create that throws after it. -/
inductive ContentEvent where
  | command (timestamp : Int) (c : Command)
  | prune (timestamp : Int) (org : String)
  | withdraw (timestamp : Int) (org scheduleId actorUserId : String)
  | call (timestamp : Int) (c : ContentCall)
  | elsewhere (after : MemoryStore)

namespace ContentEvent

def Allowed (s : MemoryStore) : ContentEvent → Prop
  | .elsewhere after => SameContent s after
  | _ => True

def after (P : Platform) (s : MemoryStore) : ContentEvent → MemoryStore
  | .command timestamp c => (c.perform P timestamp s).1
  | .prune timestamp org => pruneExpiredCandidates P org timestamp s
  | .withdraw timestamp org scheduleId actor =>
    (withdrawSchedule P timestamp org scheduleId actor s).1
  | .call timestamp c => c.perform P timestamp s
  | .elsewhere s' => s'

/-- The snapshot of a playlist that the operation hashes, if it comes so far. -/
def freezes (P : Platform) (s : MemoryStore) : ContentEvent → List CanonicalReleaseSnapshot
  | .command timestamp (.create org data _ origins _) =>
    match prepareCandidate P (pruneExpiredCandidates P org timestamp s) org data origins
        timestamp with
    | .ok snapshot => [snapshot]
    | .error _ => []
  | _ => []

end ContentEvent

/-- The past of a run: each operation, with the store before it. -/
abbrev ContentPast := List (MemoryStore × ContentEvent)

inductive ContentRun (P : Platform) : ContentPast → MemoryStore → Prop where
  | seeded (users : List SessionUser) : ContentRun P [] (.seeded users)
  | step {past : ContentPast} {s : MemoryStore} (run : ContentRun P past s) (event : ContentEvent)
    (allowed : event.Allowed s) : ContentRun P (past ++ [(s, event)]) (event.after P s)

/-- The snapshots that the operations of a run have hashed. -/
def frozenIn (P : Platform) (past : ContentPast) : List CanonicalReleaseSnapshot :=
  past.flatMap fun entry => entry.2.freezes P entry.1

theorem frozenIn_step (P : Platform) (past : ContentPast) (s : MemoryStore)
    (event : ContentEvent) :
    frozenIn P (past ++ [(s, event)]) = frozenIn P past ++ event.freezes P s := by
  simp [frozenIn]

/-! ## What the operations give -/

section
variable {P : Platform} {s : MemoryStore}

/-- The snapshot of a candidate is one of a playlist of the organization. -/
theorem prepareCandidate_ok {org : String} {data : CandidateInput} {origins : List String}
    {timestamp : Int} {snapshot : CanonicalReleaseSnapshot}
    (prepared : prepareCandidate P s org data origins timestamp = .ok snapshot) :
    ∃ playlist, findPlaylist s org data.playlistId = some playlist ∧
      checkMedia P origins
        ((playlist.items.filterMap fun item => findMedia s org item.assetId).map (·.url))
        ((playlist.items.filterMap fun item => findMedia s org item.assetId).map (·.policy))
        timestamp = .ok () ∧
      canonicalReleaseSnapshot P playlist
        (playlist.items.filterMap fun item => findMedia s org item.assetId) = .ok snapshot := by
  unfold prepareCandidate at prepared
  simp only [bind_ok, refuseUnless_ok, foundOr_ok, exists_const] at prepared
  obtain ⟨_, _, _, playlist, found, _, _, checked, made⟩ := prepared
  refine ⟨playlist, found, checked, ?_⟩
  split at made
  · next made' =>
    cases made
    exact made'
  · cases made

theorem canonicalReleaseSnapshot_source {playlist : PlaylistRecord} {assets : List MediaRecord}
    {snapshot : CanonicalReleaseSnapshot}
    (made : canonicalReleaseSnapshot P playlist assets = .ok snapshot) :
    snapshot.sourcePlaylistId = playlist.id := by
  unfold canonicalReleaseSnapshot at made
  dsimp only at made
  split at made
  · cases made
  · simp only [bind_ok] at made
    obtain ⟨items, _, same⟩ := made
    cases same
    rfl

/-- An audited operation changes the store only for an actor. -/
theorem audited_keeps {α : Type} {Kept : MemoryStore → Prop} {org actor : String}
    {roles : List Role} {operation : MemoryStore → MemoryStore × Except String α}
    (before : Kept s) (keeps : Kept (operation s).1) :
    Kept (audited org actor roles operation s).1 := by
  unfold audited
  split
  · exact keeps
  · exact before

theorem updateScreenAndAudit_same (timestamp : Int) (org screenId : String) (patch : ScreenPatch)
    (actor : String) (s : MemoryStore) :
    SameReleases s (updateScreenAndAudit timestamp org screenId patch actor s).1 := by
  unfold updateScreenAndAudit
  apply audited_same
  repeat' split
  all_goals exact ⟨rfl, rfl, rfl, rfl, Nat.le_refl _⟩

theorem createLocationAndAudit_same (P : Platform) (timestamp : Int) (org name actor : String)
    (s : MemoryStore) : SameReleases s (createLocationAndAudit P timestamp org name actor s).1 := by
  unfold createLocationAndAudit
  apply audited_same
  split
  · exact .refl s
  · exact ⟨rfl, rfl, rfl, rfl, Nat.le_succ _⟩

theorem updateLocationAndAudit_same (timestamp : Int) (org locationId name actor : String)
    (s : MemoryStore) :
    SameReleases s (updateLocationAndAudit timestamp org locationId name actor s).1 := by
  unfold updateLocationAndAudit
  apply audited_same
  repeat' split
  all_goals exact ⟨rfl, rfl, rfl, rfl, Nat.le_refl _⟩

theorem deleteLocationAndAudit_same (org locationId actor : String) (s : MemoryStore) :
    SameReleases s (deleteLocationAndAudit org locationId actor s).1 := by
  unfold deleteLocationAndAudit
  apply audited_same
  repeat' split
  all_goals exact ⟨rfl, rfl, rfl, rfl, Nat.le_refl _⟩

/-- None of these operations touches a release. -/
theorem ContentCall.perform_same (P : Platform) (timestamp : Int) (s : MemoryStore)
    (call : ContentCall) : SameReleases s (call.perform P timestamp s) := by
  cases call with
  | createLocation org name actor => exact createLocationAndAudit_same P timestamp org name actor s
  | updateLocation org locationId name actor =>
    exact updateLocationAndAudit_same timestamp org locationId name actor s
  | deleteLocation org locationId actor => exact deleteLocationAndAudit_same org locationId actor s
  | createScreen org data actor =>
    exact (StoreCall.createScreenAndAudit org data actor).perform_same P timestamp s
  | updateScreen org screenId patch actor =>
    exact updateScreenAndAudit_same timestamp org screenId patch actor s
  | deleteScreen org screenId actor =>
    exact (StoreCall.deleteScreenAndAudit org screenId actor).perform_same P timestamp s
  | createMedia org data actor =>
    exact (StoreCall.createMediaAndAudit org data actor).perform_same P timestamp s
  | deleteMedia org assetId actor =>
    exact (StoreCall.deleteMediaAndAudit org assetId actor).perform_same P timestamp s
  | createPlaylist org data actor =>
    exact (StoreCall.createPlaylistAndAudit org data actor).perform_same P timestamp s
  | deletePlaylist org playlistId actor =>
    exact (StoreCall.deletePlaylistAndAudit org playlistId actor).perform_same P timestamp s

theorem FourEyes.afterContent (h : FourEyes P s) (event : ContentEvent)
    (allowed : event.Allowed s) : FourEyes P (event.after P s) := by
  cases event with
  | command timestamp c => exact h.perform timestamp c
  | prune timestamp org => exact h.pruned org timestamp
  | withdraw timestamp org scheduleId actor => exact h.withdrawn timestamp org scheduleId actor
  | call timestamp c => exact h.same (c.perform_same P timestamp s)
  | elsewhere after =>
    exact h.congr allowed.releases allowed.releaseAssignments allowed.releaseCandidates
      allowed.idsDrawn

end

end screengoblin.server
