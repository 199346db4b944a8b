-- The frozen snapshots of a release and their digests (apps/api/src/releases/canonical.ts).
-- A digest is the hash of the JSON text of a snapshot, with the fields in the order here.
import ScreenGoblin.MediaPolicy
import ScreenGoblin.Collections
import Mathlib.Data.List.Lex

open js collections screengoblin.schedule

namespace screengoblin.server

/-! ## Orders of JavaScript -/

/-- The code units of a character. -/
def charUnits (c : Char) : List Nat :=
  if c.toNat < 0x10000 then [c.toNat]
  else [0xD800 + (c.toNat - 0x10000) / 0x400, 0xDC00 + (c.toNat - 0x10000) % 0x400]

def utf16Units (text : String) : List Nat := text.toList.flatMap charUnits

theorem charUnits_prefix {c d : Char} {us vs : List Nat}
    (h : charUnits c ++ us = charUnits d ++ vs) : c = d ∧ us = vs := by
  have validC : c.toNat < 0xD800 ∨ (0xDFFF < c.toNat ∧ c.toNat < 0x110000) := c.valid
  have validD : d.toNat < 0xD800 ∨ (0xDFFF < d.toNat ∧ d.toNat < 0x110000) := d.valid
  have same : c.toNat = d.toNat ∧ us = vs := by
    unfold charUnits at h
    split at h <;> split at h <;>
      simp only [List.cons_append, List.nil_append, List.cons.injEq] at h
    · exact h
    · omega
    · omega
    · exact ⟨by omega, h.2.2⟩
  exact ⟨Char.ext (UInt32.toNat_inj.mp same.1), same.2⟩

theorem utf16Units_injective : Function.Injective utf16Units := by
  intro a b same
  have chars : ∀ cs ds : List Char, cs.flatMap charUnits = ds.flatMap charUnits → cs = ds := by
    intro cs
    induction cs with
    | nil =>
      intro ds h
      cases ds with
      | nil => rfl
      | cons d rest =>
        rw [List.flatMap_nil, List.flatMap_cons] at h
        unfold charUnits at h
        split at h <;> simp at h
    | cons c rest ih =>
      intro ds h
      cases ds with
      | nil =>
        rw [List.flatMap_nil, List.flatMap_cons] at h
        unfold charUnits at h
        split at h <;> simp at h
      | cons d others =>
        rw [List.flatMap_cons, List.flatMap_cons] at h
        obtain ⟨rfl, same⟩ := charUnits_prefix h
        rw [ih others same]
  exact String.toList_inj.mp (chars _ _ same)

/-- The order of `sort()` on texts. -/
def TextLe (a b : String) : Prop := utf16Units a ≤ utf16Units b

instance : DecidableRel TextLe := fun a b =>
  inferInstanceAs (Decidable (utf16Units a ≤ utf16Units b))

instance : Std.Total TextLe := ⟨fun a b => le_total (utf16Units a) (utf16Units b)⟩

instance : IsTrans String TextLe := ⟨fun _ _ _ => le_trans⟩

instance : Std.Antisymm TextLe :=
  ⟨fun _ _ le ge => utf16Units_injective (le_antisymm le ge)⟩

/-- `[...new Set(screenIds)].sort()`. -/
def canonicalScreenIds (screenIds : List String) : List String := sortedSet TextLe screenIds

/-- The schedule of a snapshot: its days are a sorted set. -/
def canonicalSchedule (schedule : FrozenScheduleSnapshot) : FrozenScheduleSnapshot :=
  { schedule with daysOfWeek := sortedSet (· ≤ ·) schedule.daysOfWeek }

@[simp]
theorem canonicalScreenIds_idem (screenIds : List String) :
    canonicalScreenIds (canonicalScreenIds screenIds) = canonicalScreenIds screenIds :=
  sortedSet_sortedSet TextLe screenIds

@[simp]
theorem canonicalSchedule_idem (schedule : FrozenScheduleSnapshot) :
    canonicalSchedule (canonicalSchedule schedule) = canonicalSchedule schedule := by
  unfold canonicalSchedule
  simp only [sortedSet_sortedSet]

/-! ## The snapshot of a release -/

structure CanonicalReleaseSnapshot where
  sourcePlaylistId : String
  sourcePlaylistUpdatedAt : Int
  playlistName : String
  playlistDescription : String
  items : List FrozenReleaseItem
  deriving DecidableEq

/-- The checksum of a stored asset has hex digits only, as `mediaStorageKey` throws on any other
text. So `toLowerCase()` meets no letter beyond ASCII in it. -/
def freezeAsset (asset : MediaRecord) : FrozenReleaseAsset :=
  { id := asset.id, name := asset.name, kind := asset.kind, mimeType := asset.mimeType,
    url := asset.url, storageKey := truthyText asset.storageKey,
    checksumSha256 := asset.checksumSha256.toLower, sizeBytes := asset.sizeBytes,
    createdAt := asset.createdAt, expiresAt := truthyText asset.expiresAt }

/-- The items in order, with the positions that came before. -/
def freezeItems (assets : List MediaRecord) (positions : List Int) :
    List PlaylistItem → Except ReleaseCandidateFailureReason (List FrozenReleaseItem)
  | [] => .ok []
  | item :: rest =>
    if positions.contains item.position then .error .noPlayableItems
    else match assets.reverse.find? fun asset => asset.id == item.assetId with
      | none => .error .assetNotFound
      | some asset => do
        let frozen ← freezeItems assets (item.position :: positions) rest
        .ok ({ id := item.id, asset := freezeAsset asset, position := item.position,
               durationSeconds := item.durationSeconds } :: frozen)

/-- `left.position - right.position || left.id.localeCompare(right.id)`, as an order. -/
def itemLe (P : Platform) (left right : PlaylistItem) : Bool :=
  ((compare left.position right.position).then (P.localeCompare left.id right.id)).isLE

def canonicalReleaseSnapshot (P : Platform) (playlist : PlaylistRecord)
    (assets : List MediaRecord) :
    Except ReleaseCandidateFailureReason CanonicalReleaseSnapshot :=
  let orderedItems := playlist.items.insertionSort (itemLe P · ·)
  if orderedItems.isEmpty then .error .noPlayableItems
  else do
    let items ← freezeItems assets [] orderedItems
    .ok { sourcePlaylistId := playlist.id, sourcePlaylistUpdatedAt := playlist.updatedAt,
          playlistName := playlist.name, playlistDescription := playlist.description, items }

def canonicalStoredReleaseSnapshot (release : PublishedReleaseRecord) :
    CanonicalReleaseSnapshot :=
  { sourcePlaylistId := release.sourcePlaylistId,
    sourcePlaylistUpdatedAt := release.sourcePlaylistUpdatedAt,
    playlistName := release.playlistName, playlistDescription := release.playlistDescription,
    items := release.items }

/-! ## The JSON of a snapshot -/

def textJson (text : String) : Value := some (.str text)
def numberJson (n : Rat) : Value := some (.num n)
def instantJson (P : Platform) (t : Int) : Value := textJson (P.toISOString t)

def kindJson : MediaKind → Value
  | .image => textJson "image"
  | .video => textJson "video"
  | .web => textJson "web"
  | .template => textJson "template"

def assetJson (P : Platform) (asset : FrozenReleaseAsset) : Json :=
  object [("id", textJson asset.id), ("name", textJson asset.name), ("kind", kindJson asset.kind),
    ("mimeType", textJson asset.mimeType), ("url", textJson asset.url),
    ("storageKey", asset.storageKey.bind textJson),
    ("checksumSha256", textJson asset.checksumSha256),
    ("sizeBytes", numberJson asset.sizeBytes), ("createdAt", instantJson P asset.createdAt),
    ("expiresAt", asset.expiresAt.bind textJson)]

def itemJson (P : Platform) (item : FrozenReleaseItem) : Json :=
  object [("id", textJson item.id), ("asset", some (assetJson P item.asset)),
    ("position", numberJson item.position), ("durationSeconds", numberJson item.durationSeconds)]

def CanonicalReleaseSnapshot.json (P : Platform) (snapshot : CanonicalReleaseSnapshot) : Json :=
  object [("schemaVersion", numberJson 1),
    ("sourcePlaylistId", textJson snapshot.sourcePlaylistId),
    ("sourcePlaylistUpdatedAt", instantJson P snapshot.sourcePlaylistUpdatedAt),
    ("playlistName", textJson snapshot.playlistName),
    ("playlistDescription", textJson snapshot.playlistDescription),
    ("items", some (.arr (snapshot.items.map (itemJson P))))]

def releaseSnapshotDigest (P : Platform) (snapshot : CanonicalReleaseSnapshot) : String :=
  P.sha256 (snapshot.json P)

def hasValidStoredReleaseDigest (P : Platform) (release : PublishedReleaseRecord) : Bool :=
  release.digestSha256 == releaseSnapshotDigest P (canonicalStoredReleaseSnapshot release)

def priorityJson : Priority → Value
  | .normal => textJson "normal"
  | .campaign => textJson "campaign"
  | .priority => textJson "priority"
  | .emergency => textJson "emergency"

def scheduleJson (P : Platform) (schedule : FrozenScheduleSnapshot) : Json :=
  object [("name", textJson schedule.name), ("priority", priorityJson schedule.priority),
    ("startsAt", instantJson P schedule.startsAt), ("endsAt", schedule.endsAt.bind (instantJson P)),
    ("timezone", textJson schedule.timezone),
    ("daysOfWeek", some (.arr (schedule.daysOfWeek.map fun (day : Int) => .num day))),
    ("dailyStartMinutes", schedule.dailyStartMinutes.bind fun m => numberJson m),
    ("dailyEndMinutes", schedule.dailyEndMinutes.bind fun m => numberJson m),
    ("enabled", some (.bool schedule.enabled))]

def screenIdsJson (screenIds : List String) : Value := some (.arr (screenIds.map .str))

/-! ## The snapshots of a candidate and of an assignment -/

/-- `canonicalReleaseCandidateSnapshot(input)`. -/
def candidateSnapshotJson (P : Platform) (releaseDigestSha256 : String)
    (schedule : FrozenScheduleSnapshot) (screenIds : List String) (expiresAt : Int) : Json :=
  object [("schemaVersion", numberJson 1),
    ("releaseDigestSha256", textJson releaseDigestSha256),
    ("schedule", some (scheduleJson P (canonicalSchedule schedule))),
    ("screenIds", screenIdsJson (canonicalScreenIds screenIds)),
    ("policyVersion", numberJson 1), ("expiresAt", instantJson P expiresAt)]

def releaseCandidateDigest (P : Platform) (releaseDigestSha256 : String)
    (schedule : FrozenScheduleSnapshot) (screenIds : List String) (expiresAt : Int) : String :=
  P.sha256 (candidateSnapshotJson P releaseDigestSha256 schedule screenIds expiresAt)

def stateJson : AssignmentState → Value
  | .assigned => textJson "ASSIGNED"
  | .withdrawn => textJson "WITHDRAWN"

/-- `canonicalAssignmentSnapshot(input)`. -/
def assignmentSnapshotJson (P : Platform) (releaseDigestSha256 : String)
    (state : AssignmentState) (schedule : FrozenScheduleSnapshot) (screenIds : List String)
    (previousAssignmentId : Option String) : Json :=
  object [("schemaVersion", numberJson 1),
    ("releaseDigestSha256", textJson releaseDigestSha256), ("state", stateJson state),
    ("schedule", some (scheduleJson P (canonicalSchedule schedule))),
    ("screenIds", screenIdsJson (canonicalScreenIds screenIds)),
    ("previousAssignmentId", (truthyText previousAssignmentId).bind textJson)]

def assignmentSnapshotDigest (P : Platform) (releaseDigestSha256 : String)
    (state : AssignmentState) (schedule : FrozenScheduleSnapshot) (screenIds : List String)
    (previousAssignmentId : Option String) : String :=
  P.sha256 (assignmentSnapshotJson P releaseDigestSha256 state schedule screenIds
    previousAssignmentId)

def hasValidStoredAssignmentDigest (P : Platform) (assignment : ReleaseAssignmentRecord)
    (release : PublishedReleaseRecord) : Bool :=
  assignment.organizationId == release.organizationId && assignment.releaseId == release.id &&
    hasValidStoredReleaseDigest P release &&
    assignment.digestSha256 == assignmentSnapshotDigest P release.digestSha256 assignment.state
      assignment.schedule assignment.screenIds assignment.previousAssignmentId

/-! ## A snapshot and its JSON -/

theorem toISOString_injective (P : Platform) : Function.Injective P.toISOString := by
  intro t t' same
  have parsed := congrArg P.dateParse same
  simpa only [P.dateParse_toISOString, Option.some.injEq] using parsed

theorem textJson_injective : Function.Injective textJson := by
  intro a b same
  simpa [textJson] using same

theorem optionalText_injective :
    Function.Injective fun text : Option String => text.bind textJson := by
  intro a b same
  cases a <;> cases b <;> simp_all [textJson]

theorem kindJson_injective : Function.Injective kindJson := by
  intro a b same
  cases a <;> cases b <;> first | rfl | simp [kindJson, textJson] at same

theorem assetJson_injective (P : Platform) : Function.Injective (assetJson P) := by
  intro a b same
  have fieldOf (key : String) := congrArg (fun j => Value.get (some j) key) same
  have id := fieldOf "id"
  have name := fieldOf "name"
  have kind := fieldOf "kind"
  have mimeType := fieldOf "mimeType"
  have url := fieldOf "url"
  have storageKey := fieldOf "storageKey"
  have checksum := fieldOf "checksumSha256"
  have size := fieldOf "sizeBytes"
  have created := fieldOf "createdAt"
  have expires := fieldOf "expiresAt"
  simp [assetJson, textJson_injective.eq_iff, kindJson_injective.eq_iff,
    optionalText_injective.eq_iff, numberJson, instantJson, (toISOString_injective P).eq_iff]
    at id name kind mimeType url storageKey checksum size created expires
  cases a
  cases b
  simp_all

theorem itemJson_injective (P : Platform) : Function.Injective (itemJson P) := by
  intro a b same
  have fieldOf (key : String) := congrArg (fun j => Value.get (some j) key) same
  have id := fieldOf "id"
  have asset := fieldOf "asset"
  have position := fieldOf "position"
  have duration := fieldOf "durationSeconds"
  simp [itemJson, textJson_injective.eq_iff, numberJson, (assetJson_injective P).eq_iff]
    at id asset position duration
  cases a
  cases b
  simp_all

/-- Two releases with the same JSON text are the same release. -/
theorem CanonicalReleaseSnapshot.json_injective (P : Platform) :
    Function.Injective (CanonicalReleaseSnapshot.json P) := by
  intro a b same
  have fieldOf (key : String) := congrArg (fun j => Value.get (some j) key) same
  have playlist := fieldOf "sourcePlaylistId"
  have updated := fieldOf "sourcePlaylistUpdatedAt"
  have name := fieldOf "playlistName"
  have description := fieldOf "playlistDescription"
  have items := fieldOf "items"
  simp [json, textJson_injective.eq_iff, instantJson, (toISOString_injective P).eq_iff,
    (itemJson_injective P).list_map.eq_iff] at playlist updated name description items
  cases a
  cases b
  simp_all

/-- The digest of a candidate from its schedule and screens as they were frozen. -/
theorem releaseCandidateDigest_canonical (P : Platform) (digest : String)
    (schedule : FrozenScheduleSnapshot) (screenIds : List String) (expiresAt : Int) :
    releaseCandidateDigest P digest (canonicalSchedule schedule) (canonicalScreenIds screenIds)
      expiresAt = releaseCandidateDigest P digest schedule screenIds expiresAt := by
  unfold releaseCandidateDigest candidateSnapshotJson
  simp only [canonicalSchedule_idem, canonicalScreenIds_idem]

/-- No two of these snapshots share a digest. -/
def DigestsApart (P : Platform) (snapshots : List CanonicalReleaseSnapshot) : Prop :=
  ∀ a ∈ snapshots, ∀ b ∈ snapshots, releaseSnapshotDigest P a = releaseSnapshotDigest P b → a = b

theorem DigestsApart.fewer {P : Platform} {snapshots fewer : List CanonicalReleaseSnapshot}
    (apart : DigestsApart P snapshots) (sub : ∀ a ∈ fewer, a ∈ snapshots) :
    DigestsApart P fewer := by
  intro a ha b hb
  exact apart a (sub a ha) b (sub b hb)

end screengoblin.server
