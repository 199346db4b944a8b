-- The digests of the snapshots are hashes of their JSON texts, and equal digests mean inputs
-- that count as the same (apps/api/src/releases/canonical.ts).
import ScreenGoblin.JsonText
import ScreenGoblin.SnapshotForms

open js jsontext collections forms screengoblin.schedule

namespace screengoblin.server

variable {P : Platform}

/-! ## The JSON of the snapshots -/

def ScheduleTexts.fields (schedule : ScheduleTexts) : List (String × Value) :=
  [("name", textJson schedule.name), ("priority", priorityJson schedule.priority),
    ("startsAt", textJson schedule.startsAt), ("endsAt", schedule.endsAt.bind textJson),
    ("timezone", textJson schedule.timezone),
    ("daysOfWeek", some (.arr (schedule.daysOfWeek.map fun (day : Int) => .num day))),
    ("dailyStartMinutes", schedule.dailyStartMinutes.bind fun m => numberJson m),
    ("dailyEndMinutes", schedule.dailyEndMinutes.bind fun m => numberJson m),
    ("enabled", some (.bool schedule.enabled))]

def SchedulePublicationInput.json (request : SchedulePublicationInput) : Json :=
  object ([("schemaVersion", numberJson 1), ("operation", textJson "schedule.publish"),
    ("playlistId", textJson request.playlistId)] ++ request.fields ++
    [("screenIds", screenIdsJson request.screenIds)])

def CandidateTexts.json (snapshot : CandidateTexts) : Json :=
  object [("schemaVersion", numberJson 1),
    ("releaseDigestSha256", textJson snapshot.releaseDigestSha256),
    ("schedule", some (object snapshot.schedule.fields)),
    ("screenIds", screenIdsJson snapshot.screenIds), ("policyVersion", numberJson 1),
    ("expiresAt", textJson snapshot.expiresAt)]

def AssignmentTexts.json (snapshot : AssignmentTexts) : Json :=
  object [("schemaVersion", numberJson 1),
    ("releaseDigestSha256", textJson snapshot.releaseDigestSha256),
    ("state", stateJson snapshot.state), ("schedule", some (object snapshot.schedule.fields)),
    ("screenIds", screenIdsJson snapshot.screenIds),
    ("previousAssignmentId", snapshot.previousAssignmentId.bind textJson)]

theorem priorityJson_injective : Function.Injective priorityJson := by
  intro a b same
  cases a <;> cases b <;> first | rfl | simp [priorityJson, textJson] at same

theorem stateJson_injective : Function.Injective stateJson := by
  intro a b same
  cases a <;> cases b <;> first | rfl | simp [stateJson, textJson] at same

theorem minutesJson_injective :
    Function.Injective fun m : Option Int => m.bind fun m => numberJson m := by
  intro a b same
  cases a <;> cases b <;> simp_all [numberJson]

theorem daysJson_injective :
    Function.Injective fun days : List Int => days.map fun (day : Int) => Json.num day := by
  apply List.map_injective_iff.mpr
  intro a b same
  simpa using same

theorem screenIdsJson_injective : Function.Injective screenIdsJson := by
  intro a b same
  have elements := Json.arr.inj (Option.some.inj same)
  exact List.map_injective_iff.mpr (fun x y => Json.str.inj) elements

theorem scheduleFields_injective :
    Function.Injective fun schedule : ScheduleTexts => object schedule.fields := by
  intro a b same
  have fieldOf (key : String) := congrArg (fun j => Value.get (some j) key) same
  have name := fieldOf "name"
  have priority := fieldOf "priority"
  have starts := fieldOf "startsAt"
  have ends := fieldOf "endsAt"
  have zone := fieldOf "timezone"
  have days := fieldOf "daysOfWeek"
  have dailyStart := fieldOf "dailyStartMinutes"
  have dailyEnd := fieldOf "dailyEndMinutes"
  have enabled := fieldOf "enabled"
  simp [ScheduleTexts.fields, textJson_injective.eq_iff, priorityJson_injective.eq_iff,
    optionalText_injective.eq_iff, minutesJson_injective.eq_iff, daysJson_injective.eq_iff]
    at name priority starts ends zone days dailyStart dailyEnd enabled
  cases a
  cases b
  simp_all

theorem SchedulePublicationInput.json_injective :
    Function.Injective SchedulePublicationInput.json := by
  intro a b same
  have fieldOf (key : String) := congrArg (fun j => Value.get (some j) key) same
  have playlist := fieldOf "playlistId"
  have name := fieldOf "name"
  have priority := fieldOf "priority"
  have starts := fieldOf "startsAt"
  have ends := fieldOf "endsAt"
  have zone := fieldOf "timezone"
  have days := fieldOf "daysOfWeek"
  have dailyStart := fieldOf "dailyStartMinutes"
  have dailyEnd := fieldOf "dailyEndMinutes"
  have enabled := fieldOf "enabled"
  have screens := fieldOf "screenIds"
  simp [json, ScheduleTexts.fields, textJson_injective.eq_iff, priorityJson_injective.eq_iff,
    optionalText_injective.eq_iff, minutesJson_injective.eq_iff, daysJson_injective.eq_iff,
    screenIdsJson_injective.eq_iff]
    at playlist name priority starts ends zone days dailyStart dailyEnd enabled screens
  obtain ⟨⟨⟩, _, _⟩ := a
  obtain ⟨⟨⟩, _, _⟩ := b
  simp_all

theorem CandidateTexts.json_injective : Function.Injective CandidateTexts.json := by
  intro a b same
  have fieldOf (key : String) := congrArg (fun j => Value.get (some j) key) same
  have digest := fieldOf "releaseDigestSha256"
  have schedule := fieldOf "schedule"
  have screens := fieldOf "screenIds"
  have expires := fieldOf "expiresAt"
  simp [json, textJson_injective.eq_iff, scheduleFields_injective.eq_iff,
    screenIdsJson_injective.eq_iff] at digest schedule screens expires
  cases a
  cases b
  simp_all

theorem AssignmentTexts.json_injective : Function.Injective AssignmentTexts.json := by
  intro a b same
  have fieldOf (key : String) := congrArg (fun j => Value.get (some j) key) same
  have digest := fieldOf "releaseDigestSha256"
  have state := fieldOf "state"
  have schedule := fieldOf "schedule"
  have screens := fieldOf "screenIds"
  have previous := fieldOf "previousAssignmentId"
  simp [json, textJson_injective.eq_iff, stateJson_injective.eq_iff,
    scheduleFields_injective.eq_iff, optionalText_injective.eq_iff,
    screenIdsJson_injective.eq_iff] at digest state schedule screens previous
  cases a
  cases b
  simp_all

/-! ## Digests of JSON texts -/

/-- What the digests take from the runtime: the texts of numbers and a hash of texts. No
instant is spelled by an empty text. -/
structure DigestRuntime (P : Platform) where
  numerals : Numerals
  exact : ∀ n : Int, numerals.Exact n
  hash : String → String
  sha256_eq : ∀ json, P.sha256 json = hash (stringify numerals json)
  dateParse_empty : P.dateParse "" = none

/-- The hash does not collide on the texts of these two values. -/
def DigestRuntime.Apart (R : DigestRuntime P) (a b : Json) : Prop :=
  R.hash (stringify R.numerals a) = R.hash (stringify R.numerals b) →
    stringify R.numerals a = stringify R.numerals b

theorem DigestRuntime.eq_of_digest (R : DigestRuntime P) {a b : Json}
    (properA : Writes R.numerals (some a)) (properB : Writes R.numerals (some b))
    (apart : R.Apart a b) (same : P.sha256 a = P.sha256 b) : a = b := by
  rw [R.sha256_eq, R.sha256_eq] at same
  exact stringify_injective (properA a rfl) (properB b rfl) (apart same)

/-- The keys of a request, a schedule, a candidate, an assignment, an asset, an item and a
release. -/
theorem snapshotKeys_plain :
    PlainKeys ["schemaVersion", "operation", "playlistId", "name", "priority", "startsAt",
      "endsAt", "timezone", "daysOfWeek", "dailyStartMinutes", "dailyEndMinutes", "enabled",
      "screenIds"] ∧
    PlainKeys ["name", "priority", "startsAt", "endsAt", "timezone", "daysOfWeek",
      "dailyStartMinutes", "dailyEndMinutes", "enabled"] ∧
    PlainKeys ["schemaVersion", "releaseDigestSha256", "schedule", "screenIds",
      "policyVersion", "expiresAt"] ∧
    PlainKeys ["schemaVersion", "releaseDigestSha256", "state", "schedule", "screenIds",
      "previousAssignmentId"] ∧
    PlainKeys ["id", "name", "kind", "mimeType", "url", "storageKey", "checksumSha256",
      "sizeBytes", "createdAt", "expiresAt"] ∧
    PlainKeys ["id", "asset", "position", "durationSeconds"] ∧
    PlainKeys ["schemaVersion", "sourcePlaylistId", "sourcePlaylistUpdatedAt",
      "playlistName", "playlistDescription", "items"] := by
  decide +kernel

section writes

variable {N : Numerals}

theorem writes_text (text : String) : Writes N (textJson text) := by
  rintro j ⟨⟩
  trivial

theorem writes_bool (b : Bool) : Writes N (some (.bool b)) := by
  rintro j ⟨⟩
  trivial

theorem writes_number {q : Rat} (exact : N.Exact q) : Writes N (numberJson q) := by
  rintro j ⟨⟩
  exact exact

theorem writes_optional {γ : Type} {o : Option γ} {f : γ → Value}
    (each : ∀ c, Writes N (f c)) : Writes N (o.bind f) := by
  cases o with
  | none =>
    rintro j ⟨⟩
  | some c => exact each c

theorem writes_priority (p : Priority) : Writes N (priorityJson p) := by
  cases p <;> exact writes_text _

theorem writes_state (state : AssignmentState) : Writes N (stateJson state) := by
  cases state <;> exact writes_text _

theorem writes_kind (kind : MediaKind) : Writes N (kindJson kind) := by
  cases kind <;> exact writes_text _

theorem writes_screenIds (screenIds : List String) : Writes N (screenIdsJson screenIds) := by
  apply writes_array
  intro x member
  obtain ⟨id, _, rfl⟩ := List.mem_map.mp member
  trivial

variable (exact : ∀ n : Int, N.Exact n)
include exact

theorem writes_minutes (minutes : Option Int) :
    Writes N (minutes.bind fun m => numberJson m) :=
  writes_optional fun m => writes_number (exact m)

theorem writes_scheduleFields (schedule : ScheduleTexts) :
    ∀ f ∈ schedule.fields, Writes N f.2 := by
  have days : Writes N (some (.arr (schedule.daysOfWeek.map fun (day : Int) => .num day))) := by
    apply writes_array
    intro x member
    obtain ⟨day, _, rfl⟩ := List.mem_map.mp member
    exact exact day
  unfold ScheduleTexts.fields
  simp only [List.forall_mem_cons]
  exact ⟨writes_text _, writes_priority _, writes_text _, writes_optional writes_text,
    writes_text _, days, writes_minutes exact _, writes_minutes exact _, writes_bool _,
    fun f member => by cases member⟩

theorem writes_request (request : SchedulePublicationInput) : Writes N (some request.json) := by
  apply writes_object
  · exact snapshotKeys_plain.1
  · rw [List.forall_mem_append, List.forall_mem_append]
    refine ⟨⟨?_, writes_scheduleFields exact _⟩, ?_⟩
    · simp only [List.forall_mem_cons]
      exact ⟨writes_number (exact 1), writes_text _, writes_text _, fun f member => by cases member⟩
    · simp only [List.forall_mem_cons]
      exact ⟨writes_screenIds _, fun f member => by cases member⟩

theorem writes_schedule (schedule : ScheduleTexts) : Writes N (some (object schedule.fields)) := by
  apply writes_object
  · exact snapshotKeys_plain.2.1
  · exact writes_scheduleFields exact schedule

theorem writes_candidate (snapshot : CandidateTexts) : Writes N (some snapshot.json) := by
  apply writes_object
  · exact snapshotKeys_plain.2.2.1
  · simp only [List.forall_mem_cons]
    exact ⟨writes_number (exact 1), writes_text _, writes_schedule exact _, writes_screenIds _,
      writes_number (exact 1), writes_text _, fun f member => by cases member⟩

theorem writes_assignment (snapshot : AssignmentTexts) : Writes N (some snapshot.json) := by
  apply writes_object
  · exact snapshotKeys_plain.2.2.2.1
  · simp only [List.forall_mem_cons]
    exact ⟨writes_number (exact 1), writes_text _, writes_state _, writes_schedule exact _,
      writes_screenIds _, writes_optional writes_text, fun f member => by cases member⟩

theorem writes_item (P : Platform) {item : FrozenReleaseItem}
    (size : N.Exact item.asset.sizeBytes) : Writes N (some (itemJson P item)) := by
  have asset : Writes N (some (assetJson P item.asset)) := by
    apply writes_object
    · exact snapshotKeys_plain.2.2.2.2.1
    · simp only [List.forall_mem_cons]
      exact ⟨writes_text _, writes_text _, writes_kind _, writes_text _, writes_text _,
        writes_optional writes_text, writes_text _, writes_number size, writes_text _,
        writes_optional writes_text, fun f member => by cases member⟩
  apply writes_object
  · exact snapshotKeys_plain.2.2.2.2.2.1
  · simp only [List.forall_mem_cons]
    exact ⟨writes_text _, asset, writes_number (exact _), writes_number (exact _),
      fun f member => by cases member⟩

theorem writes_release (P : Platform) {snapshot : CanonicalReleaseSnapshot}
    (sizes : ∀ item ∈ snapshot.items, N.Exact item.asset.sizeBytes) :
    Writes N (some (snapshot.json P)) := by
  have items : Writes N (some (.arr (snapshot.items.map (itemJson P)))) := by
    apply writes_array
    intro x member
    obtain ⟨item, isItem, rfl⟩ := List.mem_map.mp member
    exact writes_item exact P (sizes item isItem) _ rfl
  apply writes_object
  · exact snapshotKeys_plain.2.2.2.2.2.2
  · simp only [List.forall_mem_cons]
    exact ⟨writes_number (exact 1), writes_text _, writes_text _, writes_text _, writes_text _,
      items, fun f member => by cases member⟩

end writes

/-! ## The texts that the server writes itself -/

/-- A frozen schedule with its instants written out. -/
def scheduleTexts (P : Platform) (schedule : FrozenScheduleSnapshot) : ScheduleTexts :=
  { name := schedule.name, priority := schedule.priority,
    startsAt := P.toISOString schedule.startsAt, endsAt := schedule.endsAt.map P.toISOString,
    timezone := schedule.timezone, daysOfWeek := schedule.daysOfWeek,
    dailyStartMinutes := schedule.dailyStartMinutes, dailyEndMinutes := schedule.dailyEndMinutes,
    enabled := schedule.enabled }

theorem canonical_written (t : Int) :
    canonicalUtcInstant P (P.toISOString t) = some (P.toISOString t) := by
  unfold canonicalUtcInstant
  rw [P.dateParse_toISOString]
  rfl

theorem canonical_writtenOption (empty : P.dateParse "" = none) (t : Option Int) :
    canonicalOptionalInstant P (t.map P.toISOString) = some (t.map P.toISOString) := by
  cases t with
  | none => rfl
  | some t =>
    unfold canonicalOptionalInstant
    rw [Option.map_some, truthyText_written empty, onOptional, canonical_written]
    rfl

theorem canonical_scheduleTexts (empty : P.dateParse "" = none)
    (schedule : FrozenScheduleSnapshot) :
    (scheduleTexts P schedule).canonical P =
      some (scheduleTexts P (canonicalSchedule schedule)) := by
  unfold ScheduleTexts.canonical
  simp only [scheduleTexts, canonical_written, canonical_writtenOption empty, Option.bind_eq_bind,
    Option.bind_some]
  rfl

theorem scheduleTexts_json (schedule : FrozenScheduleSnapshot) :
    object (scheduleTexts P schedule).fields = scheduleJson P schedule := by
  unfold scheduleJson ScheduleTexts.fields scheduleTexts
  cases schedule.endsAt <;> rfl

/-- The digest of a candidate is the digest of the snapshot of its written texts. -/
theorem candidate_digest_of_texts (empty : P.dateParse "" = none) (digest : String)
    (schedule : FrozenScheduleSnapshot) (screenIds : List String) (expiresAt : Int) :
    (canonicalReleaseCandidateSnapshot P
      { releaseDigestSha256 := digest, schedule := scheduleTexts P schedule, screenIds,
        expiresAt := P.toISOString expiresAt }).map (fun snapshot => P.sha256 snapshot.json) =
      some (releaseCandidateDigest P digest schedule screenIds expiresAt) := by
  unfold canonicalReleaseCandidateSnapshot
  simp only [canonical_scheduleTexts empty, canonical_written, Option.bind_eq_bind,
    Option.bind_some, Option.map_some]
  unfold CandidateTexts.json releaseCandidateDigest candidateSnapshotJson
  rw [scheduleTexts_json]
  rfl

/-- The digest of an assignment is the digest of the snapshot of its written texts. -/
theorem assignment_digest_of_texts (empty : P.dateParse "" = none) (digest : String)
    (state : AssignmentState) (schedule : FrozenScheduleSnapshot) (screenIds : List String)
    (previous : Option String) :
    (canonicalAssignmentSnapshot P
      { releaseDigestSha256 := digest, state, schedule := scheduleTexts P schedule, screenIds,
        previousAssignmentId := previous }).map (fun snapshot => P.sha256 snapshot.json) =
      some (assignmentSnapshotDigest P digest state schedule screenIds previous) := by
  unfold canonicalAssignmentSnapshot
  simp only [canonical_scheduleTexts empty, Option.bind_eq_bind, Option.bind_some,
    Option.map_some]
  unfold AssignmentTexts.json assignmentSnapshotDigest assignmentSnapshotJson
  rw [scheduleTexts_json]

/-! ## The law of the snapshots -/

/-- Equal digests of two forms mean inputs that count as the same, if the hash does not
collide on the two texts. -/
def DigestTells {α β : Type} (R : DigestRuntime P) (canon : α → Option β) (json : β → Json)
    (Same : α → α → Prop) : Prop :=
  ∀ a b x y, canon a = some x → canon b = some y → R.Apart (json x) (json y) →
    (P.sha256 (json x) = P.sha256 (json y) ↔ Same a b)

theorem digestTells_of {α β : Type} {R : DigestRuntime P} {canon : α → Option β}
    {read : β → Option α} {json : β → Json} {Same : α → α → Prop}
    (forms : Canonizes canon read Same) (injective : Function.Injective json)
    (writes : ∀ x, Writes R.numerals (some (json x))) : DigestTells R canon json Same := by
  intro a b x y ha hb apart
  apply forms.digest_eq_iff (fun form => P.sha256 (json form)) ?_ ha hb
  intro same
  exact injective (R.eq_of_digest (writes x) (writes y) apart same)

/-- The sizes of the frozen assets are sizes of the assets at hand. -/
theorem sizes_of_source {N : Numerals} {source : ReleaseSource} {x : CanonicalReleaseSnapshot}
    (made : source.snapshot P = some x) (sizes : ∀ asset ∈ source.assets, N.Exact asset.sizeBytes) :
    ∀ item ∈ x.items, N.Exact item.asset.sizeBytes := by
  obtain ⟨_, _, items, _⟩ := releaseSnapshot_ok_iff.mp (toOption_eq_some.mp made)
  intro item member
  obtain ⟨origin, _, made⟩ :=
    List.mem_map.mp (items.symm.subset (List.mem_map_of_mem (f := some) member))
  obtain ⟨asset, found, rfl⟩ := Option.map_eq_some_iff.mp made
  exact sizes asset (List.mem_reverse.mp (List.mem_of_find?_eq_some found))

/-- The snapshots are canonical forms. A publication request, a candidate and an assignment
have one form up to the order and repetition of screens and days and the spelling of
instants, a form is its own form, and digests are equal just when the inputs are the same up
to that. An empty end or previous assignment counts as missing. A release has one form up to
the order of its items and of its assets, for each asset as it is frozen, and it is rejected
for no items, repeated positions or missing assets. -/
theorem a_snapshot_is_a_canonical_form_of_its_input (R : DigestRuntime P) :
    Canonizes (canonicalSchedulePublicationRequest P) some (SchedulePublicationInput.Same P) ∧
    Canonizes (canonicalReleaseCandidateSnapshot P) some (CandidateTexts.Same P) ∧
    Canonizes (canonicalAssignmentSnapshot P) some (AssignmentTexts.Same P) ∧
    Canonizes (ReleaseSource.snapshot P) (fun x => some x.thaw) ReleaseSource.Same ∧
    DigestTells R (canonicalSchedulePublicationRequest P) SchedulePublicationInput.json
      (SchedulePublicationInput.Same P) ∧
    DigestTells R (canonicalReleaseCandidateSnapshot P) CandidateTexts.json
      (CandidateTexts.Same P) ∧
    DigestTells R (canonicalAssignmentSnapshot P) AssignmentTexts.json (AssignmentTexts.Same P) ∧
    (∀ (a b : ReleaseSource) x y, a.snapshot P = some x → b.snapshot P = some y →
      (∀ asset ∈ a.assets ++ b.assets, R.numerals.Exact asset.sizeBytes) →
      R.Apart (x.json P) (y.json P) →
      (releaseSnapshotDigest P x = releaseSnapshotDigest P y ↔ a.Same b)) ∧
    (∀ playlist items assets assets', KeysUnique MediaRecord.id assets →
      playlist.items.Perm items → assets.Perm assets' →
      ReleaseSource.snapshot P ⟨playlist, assets⟩ =
        ReleaseSource.snapshot P ⟨{ playlist with items }, assets'⟩) ∧
    (∀ playlist assets, (∃ reason, canonicalReleaseSnapshot P playlist assets = .error reason) ↔
      playlist.items = [] ∨ ¬ (playlist.items.map (·.position)).Nodup ∨
        ∃ item ∈ playlist.items, ∀ asset ∈ assets, asset.id ≠ item.assetId) := by
  have empty := R.dateParse_empty
  refine ⟨canonizes_request empty, canonizes_candidate empty, canonizes_assignment empty,
    canonizes_release, ?_, ?_, ?_, ?_, ?_, ?_⟩
  · exact digestTells_of (canonizes_request empty) SchedulePublicationInput.json_injective
      (writes_request R.exact)
  · exact digestTells_of (canonizes_candidate empty) CandidateTexts.json_injective
      (writes_candidate R.exact)
  · exact digestTells_of (canonizes_assignment empty) AssignmentTexts.json_injective
      (writes_assignment R.exact)
  · intro a b x y ha hb sizes apart
    apply (canonizes_release (P := P)).digest_eq_iff (releaseSnapshotDigest P) ?_ ha hb
    intro same
    have sizesA := sizes_of_source ha fun asset member =>
      sizes asset (List.mem_append_left _ member)
    have sizesB := sizes_of_source hb fun asset member =>
      sizes asset (List.mem_append_right _ member)
    have sameJson := R.eq_of_digest (writes_release R.exact P sizesA)
      (writes_release R.exact P sizesB) apart same
    exact CanonicalReleaseSnapshot.json_injective P sameJson
  · intro playlist items assets assets' unique sameItems sameAssets
    exact canonizes_release.invariant _ _ (same_of_perm unique sameItems sameAssets)
  · intro playlist assets
    exact releaseSnapshot_rejects_iff

/-! ## Two spellings of an instant -/

/-- A second text for nine o'clock on Monday. -/
def nineText : String := "2026-01-05T09:00:00Z"

theorem nineText_unwritten (t : Int) : isoText t ≠ nineText := by
  intro same
  have parsed := isoInstant_isoText t
  rw [same] at parsed
  have unknown : isoInstant nineText = none := by decide
  rw [unknown] at parsed
  cases parsed

def lobbyRequestText : String :=
  "\x7b\"schemaVersion\":1,\"operation\":\"schedule.publish\",\"playlistId\":\"playlist-1\"," ++
    "\"name\":\"Lobby\",\"priority\":\"normal\",\"startsAt\":\"2026-01-05T09:00:00.000Z\"," ++
    "\"timezone\":\"UTC\",\"daysOfWeek\":[1,5],\"enabled\":true," ++
    "\"screenIds\":[\"screen-1\",\"screen-2\"]\x7d"

/-- The SHA-256 of the one text of the example. -/
def lobbyHash (text : String) : String :=
  if text = lobbyRequestText then
    "5f36fc2f7066b43adbf67969bbe8ed65a713d27d780fd43082c7486982fc3b77"
  else ""

/-- The runtime of the example, which also reads the second text. -/
def twoSpellings : Platform :=
  { cms with
    sha256 := fun json => lobbyHash (stringify integerNumerals json)
    dateParse := fun text => if text = nineText then some (mondayAt 9) else isoInstant text
    dateParse_toISOString := fun t => by
      show (if isoText t = nineText then _ else isoInstant (isoText t)) = some t
      rw [if_neg (nineText_unwritten t)]
      exact isoInstant_isoText t }

def twoSpellingsDigests : DigestRuntime twoSpellings where
  numerals := integerNumerals
  exact := integerNumerals_exact
  hash := lobbyHash
  sha256_eq _ := rfl
  dateParse_empty := by decide

/-- The poster may be shown until nine o'clock on Monday, spelled in this way. -/
def posterUntil (expiresAt : String) : MediaRecord :=
  { thawAsset posterItem.asset with expiresAt := some expiresAt }

def posterSource (expiresAt : String) : ReleaseSource :=
  { posterSnapshot.thaw with assets := [posterUntil expiresAt] }

theorem posterSource_accepted (expiresAt : String) :
    ∃ x, (posterSource expiresAt).snapshot P = some x := by
  obtain ⟨x, made⟩ := (@releaseSnapshot_accepts_iff P (posterSource expiresAt).playlist
    (posterSource expiresAt).assets).mpr
      ⟨List.cons_ne_nil _ _, List.nodup_singleton _, fun item member =>
        ⟨posterUntil expiresAt, List.mem_singleton_self _, by
          obtain rfl := List.mem_singleton.mp member
          rfl⟩⟩
  exact ⟨x, toOption_eq_some.mpr made⟩

/-- The expiry that the frozen poster has. -/
def frozenExpiry (expiresAt : String) : List (Option (Option String)) :=
  (posterSource expiresAt).playlist.items.map fun item =>
    (frozenItem (posterSource expiresAt).assets item).map fun frozen => frozen.asset.expiresAt

/-- A release keeps the expiry of an asset as it is spelled. The same release with the expiry
spelled in another way has another snapshot. -/
theorem a_spelling_of_an_expiry_changes_a_release :
    SameInstant twoSpellings nineText "2026-01-05T09:00:00.000Z" ∧
      ∃ x y, (posterSource nineText).snapshot twoSpellings = some x ∧
        (posterSource "2026-01-05T09:00:00.000Z").snapshot twoSpellings = some y ∧ x ≠ y := by
  refine ⟨by unfold SameInstant; decide, ?_⟩
  obtain ⟨x, isX⟩ := posterSource_accepted (P := twoSpellings) nineText
  obtain ⟨y, isY⟩ := posterSource_accepted (P := twoSpellings) "2026-01-05T09:00:00.000Z"
  refine ⟨x, y, isX, isY, ?_⟩
  rintro rfl
  -- equal snapshots have the same frozen items, and with them the same expiry
  have same := (canonizes_release.complete _ _ x isX isY).items.map
    fun o => o.map fun frozen => frozen.asset.expiresAt
  rw [List.map_map, List.map_map] at same
  have apart : ¬ (frozenExpiry nineText).Perm (frozenExpiry "2026-01-05T09:00:00.000Z") := by
    decide +kernel
  exact apart same

def lobbyRequest (startsAt : String) (days : List Int) (screenIds : List String) :
    SchedulePublicationInput :=
  { name := "Lobby", priority := .normal, startsAt, endsAt := none, timezone := "UTC",
    daysOfWeek := days, dailyStartMinutes := none, dailyEndMinutes := none, enabled := true,
    playlistId := "playlist-1", screenIds }

/-- A request with another order, a repetition and the other spelling has the same digest. -/
theorem a_snapshot_is_a_canonical_form_of_a_lobby_request :
    (lobbyRequest nineText [5, 1, 1] ["screen-2", "screen-1"]).Same twoSpellings
      (lobbyRequest "2026-01-05T09:00:00.000Z" [1, 5] ["screen-1", "screen-2", "screen-1"]) := by
  have law := a_snapshot_is_a_canonical_form_of_its_input twoSpellingsDigests
  have tells := law.2.2.2.2.1
  let form := lobbyRequest "2026-01-05T09:00:00.000Z" [1, 5] ["screen-1", "screen-2"]
  refine (tells _ _ form form ?_ ?_ fun _ => rfl).mp rfl
  · decide +kernel
  · decide +kernel

end screengoblin.server
