-- The snapshots of a publication request, a candidate, an assignment and a release are
-- canonical forms (apps/api/src/releases/canonical.ts). The inputs here have their instants
-- as the texts that came in.
import ScreenGoblin.CanonicalForms
import ScreenGoblin.ReleaseLaws

open js collections forms screengoblin.schedule

namespace screengoblin.server

variable {P : Platform}

/-! ## Instants -/

/-- `new Date(value).toISOString()`, or none where it throws. -/
def canonicalUtcInstant (P : Platform) (value : String) : Option String :=
  (P.dateParse value).map P.toISOString

/-- `value ? canonicalUtcInstant(value) : undefined`. -/
def canonicalOptionalInstant (P : Platform) (value : Option String) : Option (Option String) :=
  onOptional (canonicalUtcInstant P) (truthyText value)

/-- The two texts spell one instant. -/
def SameInstant (P : Platform) (a b : String) : Prop := P.dateParse a = P.dateParse b

/-- The two texts spell one instant, or both are missing. An empty text counts as missing. -/
def SameOptionalInstant (P : Platform) (a b : Option String) : Prop :=
  Option.Rel (SameInstant P) (truthyText a) (truthyText b)

theorem canonizes_instant : Canonizes (canonicalUtcInstant P) some (SameInstant P) where
  invariant a b same := by
    unfold canonicalUtcInstant
    rw [show P.dateParse a = P.dateParse b from same]
  idempotent a x form := by
    obtain ⟨t, _, rfl⟩ := Option.map_eq_some_iff.mp form
    rw [Option.bind_some, canonicalUtcInstant, P.dateParse_toISOString]
    rfl
  complete a b x ha hb := by
    obtain ⟨t, isA, rfl⟩ := Option.map_eq_some_iff.mp ha
    obtain ⟨u, isB, text⟩ := Option.map_eq_some_iff.mp hb
    rw [SameInstant, isA, isB, toISOString_injective P text]

/-- `Date.parse("")` is `NaN`, so no instant is written as an empty text. -/
theorem truthyText_written (empty : P.dateParse "" = none) (t : Int) :
    truthyText (some (P.toISOString t)) = some (P.toISOString t) := by
  have written : P.toISOString t ≠ "" := by
    intro none
    have parsed := P.dateParse_toISOString t
    rw [none, empty] at parsed
    cases parsed
  simp [truthyText, written]

theorem canonizes_optionalInstant (empty : P.dateParse "" = none) :
    Canonizes (canonicalOptionalInstant P) some (SameOptionalInstant P) := by
  refine canonizes_after (f := truthyText) (canonizes_optional canonizes_instant) ?_
  intro a x form
  cases isText : truthyText a with
  | none =>
    rw [isText] at form
    cases form
    rfl
  | some text =>
    rw [isText] at form
    obtain ⟨y, spelled, rfl⟩ := Option.map_eq_some_iff.mp form
    obtain ⟨t, _, rfl⟩ := Option.map_eq_some_iff.mp spelled
    exact truthyText_written empty t

/-! ## Schedules -/

/-- A schedule with its instants as they were spelled. -/
structure ScheduleTexts where
  name : String
  priority : Priority
  startsAt : String
  endsAt : Option String
  timezone : String
  daysOfWeek : List Int
  dailyStartMinutes : Option Int
  dailyEndMinutes : Option Int
  enabled : Bool
  deriving DecidableEq

def ScheduleTexts.canonical (P : Platform) (schedule : ScheduleTexts) : Option ScheduleTexts := do
  let startsAt ← canonicalUtcInstant P schedule.startsAt
  let endsAt ← canonicalOptionalInstant P schedule.endsAt
  some { schedule with startsAt, endsAt, daysOfWeek := sortedSet (· ≤ ·) schedule.daysOfWeek }

/-- The same schedule, but for the order and repetition of the days and the spelling of the
instants. -/
structure ScheduleTexts.Same (P : Platform) (a b : ScheduleTexts) : Prop where
  name : a.name = b.name
  priority : a.priority = b.priority
  startsAt : SameInstant P a.startsAt b.startsAt
  endsAt : SameOptionalInstant P a.endsAt b.endsAt
  timezone : a.timezone = b.timezone
  daysOfWeek : ∀ day, day ∈ a.daysOfWeek ↔ day ∈ b.daysOfWeek
  dailyStartMinutes : a.dailyStartMinutes = b.dailyStartMinutes
  dailyEndMinutes : a.dailyEndMinutes = b.dailyEndMinutes
  enabled : a.enabled = b.enabled

/-- The form of an accepted schedule. -/
theorem canonical_schedule_eq {s x : ScheduleTexts} (form : s.canonical P = some x) :
    ∃ startsAt endsAt, canonicalUtcInstant P s.startsAt = some startsAt ∧
      canonicalOptionalInstant P s.endsAt = some endsAt ∧
      x = { s with startsAt, endsAt, daysOfWeek := sortedSet (· ≤ ·) s.daysOfWeek } := by
  obtain ⟨startsAt, start, form⟩ := Option.bind_eq_some_iff.mp form
  obtain ⟨endsAt, stop, form⟩ := Option.bind_eq_some_iff.mp form
  exact ⟨startsAt, endsAt, start, stop, (Option.some.inj form).symm⟩

/-- Equal sorted sets have the same members. -/
theorem sortedSet_eq_iff {γ : Type} [DecidableEq γ] {r : γ → γ → Prop} [DecidableRel r]
    [Std.Total r] [IsTrans γ r] [Std.Antisymm r] {l l' : List γ} :
    sortedSet r l = sortedSet r l' ↔ ∀ a, a ∈ l ↔ a ∈ l' := by
  constructor
  · intro same a
    rw [← mem_sortedSet r l a, same, mem_sortedSet]
  · exact sortedSet_congr

theorem canonizes_schedule (empty : P.dateParse "" = none) :
    Canonizes (ScheduleTexts.canonical P) some (ScheduleTexts.Same P) where
  invariant a b same := by
    unfold ScheduleTexts.canonical
    rw [canonizes_instant.invariant _ _ same.startsAt,
      (canonizes_optionalInstant empty).invariant _ _ same.endsAt,
      sortedSet_congr same.daysOfWeek, same.name, same.priority, same.timezone,
      same.dailyStartMinutes, same.dailyEndMinutes, same.enabled]
  idempotent a x form := by
    obtain ⟨startsAt, endsAt, start, stop, rfl⟩ := canonical_schedule_eq form
    have startAgain := canonizes_instant.idempotent _ _ start
    have stopAgain := (canonizes_optionalInstant empty).idempotent _ _ stop
    rw [Option.bind_some] at startAgain stopAgain ⊢
    unfold ScheduleTexts.canonical
    rw [startAgain, stopAgain]
    simp only [sortedSet_sortedSet, Option.bind_eq_bind, Option.bind_some]
  complete a b x ha hb := by
    obtain ⟨startsAt, endsAt, startA, stopA, rfl⟩ := canonical_schedule_eq ha
    obtain ⟨startsAt', endsAt', startB, stopB, same⟩ := canonical_schedule_eq hb
    simp only [ScheduleTexts.mk.injEq] at same
    obtain ⟨name, priority, rfl, rfl, timezone, days, dailyStart, dailyEnd, enabled⟩ := same
    exact
      { name, priority, timezone, enabled
        startsAt := canonizes_instant.complete _ _ _ startA startB
        endsAt := (canonizes_optionalInstant empty).complete _ _ _ stopA stopB
        daysOfWeek := sortedSet_eq_iff.mp days
        dailyStartMinutes := dailyStart
        dailyEndMinutes := dailyEnd }

/-! ## Publication requests, candidates and assignments -/

structure SchedulePublicationInput extends ScheduleTexts where
  playlistId : String
  screenIds : List String
  deriving DecidableEq

def canonicalSchedulePublicationRequest (P : Platform) (input : SchedulePublicationInput) :
    Option SchedulePublicationInput := do
  let schedule ← input.toScheduleTexts.canonical P
  some { toScheduleTexts := schedule, playlistId := input.playlistId,
         screenIds := canonicalScreenIds input.screenIds }

structure SchedulePublicationInput.Same (P : Platform) (a b : SchedulePublicationInput) :
    Prop where
  schedule : a.toScheduleTexts.Same P b.toScheduleTexts
  playlistId : a.playlistId = b.playlistId
  screenIds : ∀ id, id ∈ a.screenIds ↔ id ∈ b.screenIds

/-- What `canonicalReleaseCandidateSnapshot` takes, and what it makes of it. -/
structure CandidateTexts where
  releaseDigestSha256 : String
  schedule : ScheduleTexts
  screenIds : List String
  expiresAt : String
  deriving DecidableEq

def canonicalReleaseCandidateSnapshot (P : Platform) (input : CandidateTexts) :
    Option CandidateTexts := do
  let schedule ← input.schedule.canonical P
  let expiresAt ← canonicalUtcInstant P input.expiresAt
  some { input with schedule, screenIds := canonicalScreenIds input.screenIds, expiresAt }

structure CandidateTexts.Same (P : Platform) (a b : CandidateTexts) : Prop where
  releaseDigestSha256 : a.releaseDigestSha256 = b.releaseDigestSha256
  schedule : a.schedule.Same P b.schedule
  screenIds : ∀ id, id ∈ a.screenIds ↔ id ∈ b.screenIds
  expiresAt : SameInstant P a.expiresAt b.expiresAt

/-- What `canonicalAssignmentSnapshot` takes, and what it makes of it. -/
structure AssignmentTexts where
  releaseDigestSha256 : String
  state : AssignmentState
  schedule : ScheduleTexts
  screenIds : List String
  previousAssignmentId : Option String
  deriving DecidableEq

def canonicalAssignmentSnapshot (P : Platform) (input : AssignmentTexts) :
    Option AssignmentTexts := do
  let schedule ← input.schedule.canonical P
  some { input with
    schedule, screenIds := canonicalScreenIds input.screenIds,
    previousAssignmentId := truthyText input.previousAssignmentId }

structure AssignmentTexts.Same (P : Platform) (a b : AssignmentTexts) : Prop where
  releaseDigestSha256 : a.releaseDigestSha256 = b.releaseDigestSha256
  state : a.state = b.state
  schedule : a.schedule.Same P b.schedule
  screenIds : ∀ id, id ∈ a.screenIds ↔ id ∈ b.screenIds
  previousAssignmentId : truthyText a.previousAssignmentId = truthyText b.previousAssignmentId

theorem screenIds_eq_iff {a b : List String} :
    canonicalScreenIds a = canonicalScreenIds b ↔ ∀ id, id ∈ a ↔ id ∈ b := sortedSet_eq_iff

theorem canonizes_request (empty : P.dateParse "" = none) :
    Canonizes (canonicalSchedulePublicationRequest P) some (SchedulePublicationInput.Same P) where
  invariant a b same := by
    unfold canonicalSchedulePublicationRequest
    rw [(canonizes_schedule empty).invariant _ _ same.schedule, screenIds_eq_iff.mpr same.screenIds,
      same.playlistId]
  idempotent a x form := by
    obtain ⟨schedule, made, form⟩ := Option.bind_eq_some_iff.mp form
    obtain rfl := Option.some.inj form
    have again := (canonizes_schedule empty).idempotent _ _ made
    rw [Option.bind_some] at again ⊢
    unfold canonicalSchedulePublicationRequest
    rw [again]
    simp only [canonicalScreenIds_idem, Option.bind_eq_bind, Option.bind_some]
  complete a b x ha hb := by
    obtain ⟨schedule, madeA, ha⟩ := Option.bind_eq_some_iff.mp ha
    obtain ⟨schedule', madeB, hb⟩ := Option.bind_eq_some_iff.mp hb
    obtain rfl := Option.some.inj ha
    have same := Option.some.inj hb
    simp only [SchedulePublicationInput.mk.injEq] at same
    obtain ⟨rfl, playlistId, screenIds⟩ := same
    exact
      { schedule := (canonizes_schedule empty).complete _ _ _ madeA madeB
        playlistId := playlistId.symm
        screenIds := screenIds_eq_iff.mp screenIds.symm }

theorem canonizes_candidate (empty : P.dateParse "" = none) :
    Canonizes (canonicalReleaseCandidateSnapshot P) some (CandidateTexts.Same P) where
  invariant a b same := by
    unfold canonicalReleaseCandidateSnapshot
    rw [(canonizes_schedule empty).invariant _ _ same.schedule, screenIds_eq_iff.mpr same.screenIds,
      canonizes_instant.invariant _ _ same.expiresAt, same.releaseDigestSha256]
  idempotent a x form := by
    obtain ⟨schedule, made, form⟩ := Option.bind_eq_some_iff.mp form
    obtain ⟨expiresAt, spelled, form⟩ := Option.bind_eq_some_iff.mp form
    obtain rfl := Option.some.inj form
    have again := (canonizes_schedule empty).idempotent _ _ made
    have spelledAgain := canonizes_instant.idempotent _ _ spelled
    rw [Option.bind_some] at again spelledAgain ⊢
    unfold canonicalReleaseCandidateSnapshot
    rw [again, spelledAgain]
    simp only [canonicalScreenIds_idem, Option.bind_eq_bind, Option.bind_some]
  complete a b x ha hb := by
    obtain ⟨schedule, madeA, ha⟩ := Option.bind_eq_some_iff.mp ha
    obtain ⟨expiresAt, spelledA, ha⟩ := Option.bind_eq_some_iff.mp ha
    obtain ⟨schedule', madeB, hb⟩ := Option.bind_eq_some_iff.mp hb
    obtain ⟨expiresAt', spelledB, hb⟩ := Option.bind_eq_some_iff.mp hb
    obtain rfl := Option.some.inj ha
    have same := Option.some.inj hb
    simp only [CandidateTexts.mk.injEq] at same
    obtain ⟨digest, rfl, screenIds, rfl⟩ := same
    exact
      { releaseDigestSha256 := digest.symm
        schedule := (canonizes_schedule empty).complete _ _ _ madeA madeB
        screenIds := screenIds_eq_iff.mp screenIds.symm
        expiresAt := canonizes_instant.complete _ _ _ spelledA spelledB }

theorem canonizes_assignment (empty : P.dateParse "" = none) :
    Canonizes (canonicalAssignmentSnapshot P) some (AssignmentTexts.Same P) where
  invariant a b same := by
    unfold canonicalAssignmentSnapshot
    rw [(canonizes_schedule empty).invariant _ _ same.schedule, screenIds_eq_iff.mpr same.screenIds,
      same.releaseDigestSha256, same.state, same.previousAssignmentId]
  idempotent a x form := by
    obtain ⟨schedule, made, form⟩ := Option.bind_eq_some_iff.mp form
    obtain rfl := Option.some.inj form
    have again := (canonizes_schedule empty).idempotent _ _ made
    rw [Option.bind_some] at again ⊢
    unfold canonicalAssignmentSnapshot
    rw [again]
    simp only [canonicalScreenIds_idem, truthyText_idem, Option.bind_eq_bind, Option.bind_some]
  complete a b x ha hb := by
    obtain ⟨schedule, madeA, ha⟩ := Option.bind_eq_some_iff.mp ha
    obtain ⟨schedule', madeB, hb⟩ := Option.bind_eq_some_iff.mp hb
    obtain rfl := Option.some.inj ha
    have same := Option.some.inj hb
    simp only [AssignmentTexts.mk.injEq] at same
    obtain ⟨digest, state, rfl, screenIds, previous⟩ := same
    exact
      { releaseDigestSha256 := digest.symm
        state := state.symm
        schedule := (canonizes_schedule empty).complete _ _ _ madeA madeB
        screenIds := screenIds_eq_iff.mp screenIds.symm
        previousAssignmentId := previous.symm }

/-! ## The items of a release -/

/-- The asset that an item names. `new Map(...)` keeps the last one of an identifier. -/
def assetOf (assets : List MediaRecord) (item : PlaylistItem) : Option MediaRecord :=
  assets.reverse.find? fun asset => asset.id == item.assetId

/-- The item as a release freezes it, if its asset is there. -/
def frozenItem (assets : List MediaRecord) (item : PlaylistItem) : Option FrozenReleaseItem :=
  (assetOf assets item).map fun asset =>
    { id := item.id, asset := freezeAsset asset, position := item.position,
      durationSeconds := item.durationSeconds }

theorem frozenItem_position {assets : List MediaRecord} {item : PlaylistItem}
    {frozen : FrozenReleaseItem} (made : frozenItem assets item = some frozen) :
    frozen.position = item.position := by
  obtain ⟨asset, _, rfl⟩ := Option.map_eq_some_iff.mp made
  rfl

/-- The loop over the items: all positions are new, and all assets are there. -/
theorem freezeItems_ok_iff {assets : List MediaRecord} {positions : List Int}
    {items : List PlaylistItem} {frozen : List FrozenReleaseItem} :
    freezeItems assets positions items = .ok frozen ↔
      (∀ item ∈ items, item.position ∉ positions) ∧ (items.map (·.position)).Nodup ∧
        items.map (frozenItem assets) = frozen.map some := by
  induction items generalizing positions frozen with
  | nil =>
    cases frozen with
    | nil => simp [freezeItems]
    | cons f rest => simp [freezeItems]
  | cons item rest ih =>
    unfold freezeItems
    by_cases seen : item.position ∈ positions
    · rw [if_pos (by simpa using seen)]
      constructor
      · intro failed
        cases failed
      · intro ⟨fresh, _⟩
        exact absurd seen (fresh item List.mem_cons_self)
    rw [if_neg (by simpa using seen)]
    cases found : assets.reverse.find? fun asset => asset.id == item.assetId with
    | none =>
      have missing : frozenItem assets item = none := by simp [frozenItem, assetOf, found]
      constructor
      · intro failed
        cases failed
      · intro ⟨_, _, made⟩
        cases frozen with
        | nil => cases made
        | cons f others => simp [missing] at made
    | some asset =>
      have made : frozenItem assets item = some
          { id := item.id, asset := freezeAsset asset, position := item.position,
            durationSeconds := item.durationSeconds } := by simp [frozenItem, assetOf, found]
      dsimp only
      cases frozen with
      | nil =>
        constructor
        · intro same
          obtain ⟨others, _, same⟩ := bind_ok.mp same
          cases same
        · intro ⟨_, _, same⟩
          cases same
      | cons f others =>
        constructor
        · intro same
          obtain ⟨others', rest', same⟩ := bind_ok.mp same
          obtain ⟨rfl, rfl⟩ := List.cons.inj (Except.ok.inj same)
          obtain ⟨fresh, distinct, same⟩ := ih.mp rest'
          refine ⟨?_, ?_, ?_⟩
          · intro other member
            rcases List.mem_cons.mp member with rfl | member
            · exact seen
            · exact fun old => fresh other member (List.mem_cons_of_mem _ old)
          · rw [List.map_cons, List.nodup_cons]
            refine ⟨?_, distinct⟩
            intro again
            obtain ⟨other, member, same⟩ := List.mem_map.mp again
            exact fresh other member (by rw [same]; exact List.mem_cons_self)
          · rw [List.map_cons, List.map_cons, made, same]
        · intro ⟨fresh, distinct, same⟩
          rw [List.map_cons, List.map_cons, made] at same
          obtain ⟨first, same⟩ := List.cons.inj same
          rw [List.map_cons, List.nodup_cons] at distinct
          refine bind_ok.mpr ⟨others, ih.mpr ⟨?_, distinct.2, same⟩, ?_⟩
          · intro other member old
            rcases List.mem_cons.mp old with repeated | old
            · exact distinct.1 (List.mem_map.mpr ⟨other, member, repeated⟩)
            · exact fresh other (List.mem_cons_of_mem _ member) old
          · rw [Option.some.inj first]

/-! ## The order of the items -/

/-- Items of two positions are ordered by their positions alone. -/
theorem itemLe_iff {left right : PlaylistItem} (apart : left.position ≠ right.position) :
    itemLe P left right = true ↔ left.position ≤ right.position := by
  unfold itemLe
  cases order : compare left.position right.position with
  | lt =>
    rw [Int.compare_eq_lt] at order
    simp only [Ordering.then, Ordering.isLE, true_iff]
    omega
  | eq =>
    rw [Int.compare_eq_eq] at order
    exact absurd order apart
  | gt =>
    rw [Int.compare_eq_gt] at order
    simp only [Ordering.then, Ordering.isLE, Bool.false_eq_true, false_iff]
    omega

/-- Items of distinct positions are sorted by their positions. -/
theorem sorted_positions {items : List PlaylistItem}
    (distinct : (items.map (·.position)).Nodup) :
    ((items.insertionSort (itemLe P · ·)).map (·.position)).Pairwise (· < ·) := by
  have alike : items.insertionSort (itemLe P · ·) =
      items.insertionSort (fun a b => a.position ≤ b.position) := by
    apply insertionSort_congr
    exact (List.pairwise_map.mp distinct).imp itemLe_iff
  have order : OrderedOn (fun a b : PlaylistItem => a.position ≤ b.position) items :=
    { total := fun a _ b _ => Int.le_total a.position b.position
      trans := fun a _ b _ c _ => Int.le_trans
      antisymm := fun a ha b hb le ge =>
        KeysUnique.eq distinct ha hb (Int.le_antisymm le ge) }
  have sorted := order.pairwise_insertionSort
  have apart : ((items.insertionSort (fun a b => a.position ≤ b.position)).map
      (·.position)).Nodup :=
    ((List.perm_insertionSort _ items).map _).nodup_iff.mpr distinct
  rw [alike, List.pairwise_map]
  refine (sorted.and (List.pairwise_map.mp apart)).imp ?_
  intro a b both
  omega

theorem frozen_positions {assets : List MediaRecord} {items : List PlaylistItem}
    {frozen : List FrozenReleaseItem} (made : items.map (frozenItem assets) = frozen.map some) :
    frozen.map (·.position) = items.map (·.position) := by
  induction items generalizing frozen with
  | nil =>
    cases frozen with
    | nil => rfl
    | cons f rest => cases made
  | cons item rest ih =>
    cases frozen with
    | nil => cases made
    | cons f others =>
      obtain ⟨first, made⟩ := List.cons.inj made
      rw [List.map_cons, List.map_cons, frozenItem_position first, ih made]

/-! ## The snapshot of a release -/

/-- The fields of a snapshot that are the playlist's own. -/
structure Describes (playlist : PlaylistRecord) (snapshot : CanonicalReleaseSnapshot) : Prop where
  sourcePlaylistId : snapshot.sourcePlaylistId = playlist.id
  sourcePlaylistUpdatedAt : snapshot.sourcePlaylistUpdatedAt = playlist.updatedAt
  playlistName : snapshot.playlistName = playlist.name
  playlistDescription : snapshot.playlistDescription = playlist.description

/-- The snapshot of a playlist: its items with their assets, in the order of their positions,
which are all distinct. -/
theorem releaseSnapshot_ok_iff {playlist : PlaylistRecord} {assets : List MediaRecord}
    {snapshot : CanonicalReleaseSnapshot} :
    canonicalReleaseSnapshot P playlist assets = .ok snapshot ↔
      snapshot.items ≠ [] ∧ (snapshot.items.map (·.position)).Pairwise (· < ·) ∧
        (playlist.items.map (frozenItem assets)).Perm (snapshot.items.map some) ∧
        Describes playlist snapshot := by
  have rearranged := List.perm_insertionSort (itemLe P · ·) playlist.items
  unfold canonicalReleaseSnapshot
  dsimp only
  by_cases empty : (playlist.items.insertionSort (itemLe P · ·)).isEmpty = true
  · rw [if_pos empty]
    constructor
    · intro failed
      cases failed
    · intro ⟨some_item, _, made, _⟩
      rw [List.isEmpty_iff] at empty
      rw [empty, List.nil_perm] at rearranged
      rw [rearranged, List.map_nil, List.nil_perm, List.map_eq_nil_iff] at made
      exact absurd made some_item
  rw [if_neg empty]
  constructor
  · intro made
    obtain ⟨items, frozen, same⟩ := bind_ok.mp made
    obtain rfl := Except.ok.inj same
    obtain ⟨_, distinct, inOrder⟩ := freezeItems_ok_iff.mp frozen
    have positions := frozen_positions inOrder
    refine ⟨?_, ?_, ?_, ⟨rfl, rfl, rfl, rfl⟩⟩
    · rintro rfl
      rw [List.map_nil, List.map_eq_nil_iff] at inOrder
      exact empty (by rw [inOrder]; rfl)
    · rw [positions]
      exact sorted_positions ((rearranged.map _).nodup_iff.mp distinct)
    · rw [← inOrder]
      exact (rearranged.map _).symm
  · intro ⟨_, ascending, made, describes⟩
    -- the sorted items freeze to the items of the snapshot, since both are in ascending order
    have sortedItems := (rearranged.map (frozenItem assets)).trans made
    obtain ⟨frozen, inOrder, same⟩ := perm_map_some sortedItems
    have positions := frozen_positions inOrder
    have distinct : (playlist.items.map (·.position)).Nodup := by
      have apart : (snapshot.items.map (·.position)).Nodup :=
        ascending.imp fun lt => Int.ne_of_lt lt
      have sortedToo := (same.map (·.position)).nodup_iff.mpr apart
      rw [positions] at sortedToo
      exact (rearranged.map _).nodup_iff.mp sortedToo
    have ascending' := sorted_positions (P := P) distinct
    rw [← positions] at ascending'
    obtain rfl : frozen = snapshot.items := by
      refine same.eq_of_pairwise ?_ (List.pairwise_map.mp ascending')
        (List.pairwise_map.mp ascending)
      intro a b _ _ lt gt
      omega
    refine bind_ok.mpr ⟨snapshot.items, freezeItems_ok_iff.mpr ⟨?_, ?_, inOrder⟩, ?_⟩
    · intro item _ seen
      cases seen
    · exact (rearranged.map _).nodup_iff.mpr distinct
    · rw [← describes.sourcePlaylistId, ← describes.sourcePlaylistUpdatedAt,
        ← describes.playlistName, ← describes.playlistDescription]

/-- What `canonicalReleaseSnapshot` takes: a playlist and the assets at hand. -/
structure ReleaseSource where
  playlist : PlaylistRecord
  assets : List MediaRecord

def ReleaseSource.snapshot (P : Platform) (source : ReleaseSource) :
    Option CanonicalReleaseSnapshot :=
  (canonicalReleaseSnapshot P source.playlist source.assets).toOption

/-- The same playlist but for the order of its items, each with the same frozen asset. -/
structure ReleaseSource.Same (a b : ReleaseSource) : Prop where
  id : a.playlist.id = b.playlist.id
  updatedAt : a.playlist.updatedAt = b.playlist.updatedAt
  name : a.playlist.name = b.playlist.name
  description : a.playlist.description = b.playlist.description
  items : (a.playlist.items.map (frozenItem a.assets)).Perm
    (b.playlist.items.map (frozenItem b.assets))

theorem toOption_eq_some {ε γ : Type} {x : Except ε γ} {c : γ} :
    x.toOption = some c ↔ x = .ok c := by
  cases x <;> simp [Except.toOption]

theorem describes_same {a b : ReleaseSource} (same : a.Same b)
    {snapshot : CanonicalReleaseSnapshot} (describes : Describes a.playlist snapshot) :
    Describes b.playlist snapshot where
  sourcePlaylistId := describes.sourcePlaylistId.trans same.id
  sourcePlaylistUpdatedAt := describes.sourcePlaylistUpdatedAt.trans same.updatedAt
  playlistName := describes.playlistName.trans same.name
  playlistDescription := describes.playlistDescription.trans same.description

theorem snapshot_of_same {a b : ReleaseSource} (same : a.Same b)
    {x : CanonicalReleaseSnapshot} (made : a.snapshot P = some x) : b.snapshot P = some x := by
  obtain ⟨someItem, ascending, items, describes⟩ :=
    releaseSnapshot_ok_iff.mp (toOption_eq_some.mp made)
  exact toOption_eq_some.mpr (releaseSnapshot_ok_iff.mpr
    ⟨someItem, ascending, same.items.symm.trans items, describes_same same describes⟩)

theorem ReleaseSource.Same.symm {a b : ReleaseSource} (same : a.Same b) : b.Same a :=
  ⟨same.id.symm, same.updatedAt.symm, same.name.symm, same.description.symm, same.items.symm⟩

/-- The frozen assets of a snapshot as media records again. -/
def thawAsset (asset : FrozenReleaseAsset) : MediaRecord :=
  { id := asset.id, organizationId := "", name := asset.name, kind := asset.kind,
    mimeType := asset.mimeType, url := asset.url, storageKey := asset.storageKey,
    checksumSha256 := asset.checksumSha256, sizeBytes := asset.sizeBytes,
    expiresAt := asset.expiresAt, createdAt := asset.createdAt, updatedAt := asset.createdAt }

def thawItem (item : FrozenReleaseItem) : PlaylistItem :=
  { id := item.id, assetId := item.asset.id, position := item.position,
    durationSeconds := item.durationSeconds }

/-- A snapshot as a playlist and its assets again. -/
def CanonicalReleaseSnapshot.thaw (snapshot : CanonicalReleaseSnapshot) : ReleaseSource where
  playlist :=
    { id := snapshot.sourcePlaylistId, organizationId := "", name := snapshot.playlistName,
      description := snapshot.playlistDescription
      items := snapshot.items.map thawItem
      createdAt := snapshot.sourcePlaylistUpdatedAt
      updatedAt := snapshot.sourcePlaylistUpdatedAt }
  assets := snapshot.items.map fun item => thawAsset item.asset

theorem lower_other {c : Char} (other : ¬ (c.val ≥ 'A'.val ∧ c.val ≤ 'Z'.val)) :
    c.toLower = c := by
  unfold Char.toLower
  rw [dif_neg other]

theorem lower_idem (c : Char) : c.toLower.toLower = c.toLower := by
  by_cases upper : c.val ≥ 'A'.val ∧ c.val ≤ 'Z'.val
  · have value : c.toLower.val = c.val + 32 := by
      unfold Char.toLower
      rw [dif_pos upper]
      rfl
    apply lower_other
    rw [value]
    simp only [ge_iff_le, UInt32.le_iff_toNat_le, UInt32.toNat_add] at upper ⊢
    have z : ('Z'.val).toNat = 90 := rfl
    have a : ('A'.val).toNat = 65 := rfl
    have more : (32 : UInt32).toNat = 32 := rfl
    omega
  · rw [lower_other upper, lower_other upper]

theorem toLower_idem (text : String) : text.toLower.toLower = text.toLower := by
  unfold String.toLower
  rw [String.map_map]
  congr 1
  funext c
  exact lower_idem c

/-- Freezing a frozen asset changes nothing. -/
theorem freezeAsset_thawAsset (asset : MediaRecord) :
    freezeAsset (thawAsset (freezeAsset asset)) = freezeAsset asset := by
  unfold freezeAsset thawAsset
  simp only [truthyText_idem, toLower_idem]

/-- An item of a snapshot finds its own asset among the frozen ones. -/
theorem frozenItem_thaw {source : ReleaseSource} {x : CanonicalReleaseSnapshot}
    (items : (source.playlist.items.map (frozenItem source.assets)).Perm (x.items.map some))
    {item : FrozenReleaseItem} (member : item ∈ x.items) :
    frozenItem x.thaw.assets (thawItem item) = some item := by
  -- each frozen asset is the one that the source has under its identifier
  have fromSource : ∀ i ∈ x.items, ∃ asset, i.asset = freezeAsset asset ∧
      source.assets.reverse.find? (fun a => a.id == i.asset.id) = some asset := by
    intro i isItem
    obtain ⟨origin, _, made⟩ :=
      List.mem_map.mp (items.symm.subset (List.mem_map_of_mem (f := some) isItem))
    obtain ⟨asset, found, rfl⟩ := Option.map_eq_some_iff.mp made
    have named : asset.id = origin.assetId := by simpa using List.find?_some found
    refine ⟨asset, rfl, ?_⟩
    show source.assets.reverse.find? (fun a => a.id == asset.id) = some asset
    rw [named]
    exact found
  obtain ⟨asset, isAsset, found⟩ := fromSource item member
  have thawed : assetOf x.thaw.assets (thawItem item) = some (thawAsset item.asset) := by
    unfold assetOf thawItem
    dsimp only
    cases search : x.thaw.assets.reverse.find? fun a => a.id == item.asset.id with
    | none =>
      have absent := List.find?_eq_none.mp search (thawAsset item.asset) (by
        rw [List.mem_reverse]
        exact List.mem_map_of_mem (f := fun i : FrozenReleaseItem => thawAsset i.asset) member)
      simp [thawAsset] at absent
    | some other =>
      obtain ⟨i, isItem, rfl⟩ := List.mem_map.mp (List.mem_reverse.mp
        (List.mem_of_find?_eq_some search))
      obtain ⟨asset', isAsset', found'⟩ := fromSource i isItem
      have named : i.asset.id = item.asset.id := by simpa [thawAsset] using List.find?_some search
      rw [named, found] at found'
      obtain rfl := Option.some.inj found'
      rw [isAsset, isAsset']
  unfold frozenItem
  rw [thawed, Option.map_some, isAsset, freezeAsset_thawAsset, ← isAsset]
  rfl

/-- The snapshot of a release is a canonical form of its source. -/
theorem canonizes_release :
    Canonizes (ReleaseSource.snapshot P) (fun x => some x.thaw) ReleaseSource.Same where
  invariant a b same := by
    refine Option.ext fun x => ⟨snapshot_of_same same, snapshot_of_same same.symm⟩
  idempotent a x made := by
    obtain ⟨someItem, ascending, items, _⟩ :=
      releaseSnapshot_ok_iff.mp (toOption_eq_some.mp made)
    rw [Option.bind_some]
    refine toOption_eq_some.mpr (releaseSnapshot_ok_iff.mpr
      ⟨someItem, ascending, ?_, ⟨rfl, rfl, rfl, rfl⟩⟩)
    have again : x.thaw.playlist.items.map (frozenItem x.thaw.assets) = x.items.map some := by
      show (x.items.map thawItem).map _ = _
      rw [List.map_map]
      exact List.map_congr_left fun item member => frozenItem_thaw items member
    rw [again]
  complete a b x ha hb := by
    obtain ⟨_, _, itemsA, describesA⟩ := releaseSnapshot_ok_iff.mp (toOption_eq_some.mp ha)
    obtain ⟨_, _, itemsB, describesB⟩ := releaseSnapshot_ok_iff.mp (toOption_eq_some.mp hb)
    exact
      { id := describesA.sourcePlaylistId.symm.trans describesB.sourcePlaylistId
        updatedAt :=
          describesA.sourcePlaylistUpdatedAt.symm.trans describesB.sourcePlaylistUpdatedAt
        name := describesA.playlistName.symm.trans describesB.playlistName
        description := describesA.playlistDescription.symm.trans describesB.playlistDescription
        items := itemsA.trans itemsB.symm }

/-- An item has an asset among those at hand. -/
theorem frozenItem_some_iff {assets : List MediaRecord} {item : PlaylistItem} :
    (∃ frozen, frozenItem assets item = some frozen) ↔
      ∃ asset ∈ assets, asset.id = item.assetId := by
  constructor
  · rintro ⟨frozen, made⟩
    obtain ⟨asset, found, _⟩ := Option.map_eq_some_iff.mp made
    have member := List.mem_of_find?_eq_some found
    exact ⟨asset, List.mem_reverse.mp member, by simpa using List.find?_some found⟩
  · rintro ⟨asset, member, named⟩
    unfold frozenItem assetOf
    cases found : assets.reverse.find? fun a => a.id == item.assetId with
    | none =>
      have absent := List.find?_eq_none.mp found asset (List.mem_reverse.mpr member)
      simp [named] at absent
    | some other => exact ⟨_, rfl⟩

theorem releaseSnapshot_accepts_iff {playlist : PlaylistRecord} {assets : List MediaRecord} :
    (∃ snapshot, canonicalReleaseSnapshot P playlist assets = .ok snapshot) ↔
      playlist.items ≠ [] ∧ (playlist.items.map (·.position)).Nodup ∧
        ∀ item ∈ playlist.items, ∃ asset ∈ assets, asset.id = item.assetId := by
  have rearranged := List.perm_insertionSort (itemLe P · ·) playlist.items
  constructor
  · rintro ⟨snapshot, made⟩
    obtain ⟨someItem, ascending, items, _⟩ := releaseSnapshot_ok_iff.mp made
    obtain ⟨frozen, inOrder, same⟩ := perm_map_some items
    have apart : (snapshot.items.map (·.position)).Nodup :=
      ascending.imp fun lt => Int.ne_of_lt lt
    refine ⟨?_, ?_, ?_⟩
    · intro none
      rw [none, List.map_nil, List.nil_perm, List.map_eq_nil_iff] at items
      exact someItem items
    · rw [← frozen_positions inOrder]
      exact (same.map (·.position)).nodup_iff.mpr apart
    · intro item member
      apply frozenItem_some_iff.mp
      have made := List.mem_map_of_mem (f := frozenItem assets) member
      rw [inOrder] at made
      obtain ⟨f, _, same⟩ := List.mem_map.mp made
      exact ⟨f, same.symm⟩
  · rintro ⟨someItem, distinct, named⟩
    have present : ∀ o ∈ (playlist.items.insertionSort (itemLe P · ·)).map (frozenItem assets),
        ∃ frozen, o = some frozen := by
      intro o member
      obtain ⟨item, isItem, rfl⟩ := List.mem_map.mp member
      exact frozenItem_some_iff.mpr (named item (rearranged.subset isItem))
    have frozen := freezeItems_ok_iff.mpr ⟨fun item _ seen => (List.not_mem_nil seen).elim,
      (rearranged.map (·.position)).nodup_iff.mpr distinct, map_some_filterMap present⟩
    unfold canonicalReleaseSnapshot
    dsimp only
    have nonempty : ¬ (playlist.items.insertionSort (itemLe P · ·)).isEmpty = true := by
      intro empty
      rw [List.isEmpty_iff] at empty
      rw [empty, List.nil_perm] at rearranged
      exact someItem rearranged
    rw [if_neg nonempty]
    exact ⟨_, bind_ok.mpr ⟨_, frozen, rfl⟩⟩

/-- A release is rejected for three reasons: no items, two items of one position, or an item
without its asset. -/
theorem releaseSnapshot_rejects_iff {playlist : PlaylistRecord} {assets : List MediaRecord} :
    (∃ reason, canonicalReleaseSnapshot P playlist assets = .error reason) ↔
      playlist.items = [] ∨ ¬ (playlist.items.map (·.position)).Nodup ∨
        ∃ item ∈ playlist.items, ∀ asset ∈ assets, asset.id ≠ item.assetId := by
  have accepts := @releaseSnapshot_accepts_iff P playlist assets
  have rejected : (∃ reason, canonicalReleaseSnapshot P playlist assets = .error reason) ↔
      ¬ ∃ snapshot, canonicalReleaseSnapshot P playlist assets = .ok snapshot := by
    cases canonicalReleaseSnapshot P playlist assets <;> simp
  rw [rejected, accepts]
  grind

/-- A search by a unique identifier does not depend on the order of the assets. -/
theorem assetOf_eq_some_iff {assets : List MediaRecord} (unique : KeysUnique MediaRecord.id assets)
    {item : PlaylistItem} {asset : MediaRecord} :
    assetOf assets item = some asset ↔ asset ∈ assets ∧ asset.id = item.assetId := by
  constructor
  · intro found
    exact ⟨List.mem_reverse.mp (List.mem_of_find?_eq_some found),
      by simpa using List.find?_some found⟩
  · rintro ⟨member, named⟩
    have uniqueToo : KeysUnique MediaRecord.id assets.reverse :=
      ((List.reverse_perm assets).map _).nodup_iff.mpr unique
    apply uniqueToo.find (List.mem_reverse.mpr member)
    · simp [named]
    · intro other found
      rw [named]
      simpa using found

/-- The order of the items and of the assets does not matter. -/
theorem same_of_perm {playlist : PlaylistRecord} {items : List PlaylistItem}
    {assets assets' : List MediaRecord} (unique : KeysUnique MediaRecord.id assets)
    (sameItems : playlist.items.Perm items) (sameAssets : assets.Perm assets') :
    ReleaseSource.Same ⟨playlist, assets⟩ ⟨{ playlist with items }, assets'⟩ := by
  have unique' : KeysUnique MediaRecord.id assets' := (sameAssets.map _).nodup_iff.mp unique
  have frozen : frozenItem assets = frozenItem assets' := by
    funext item
    unfold frozenItem
    congr 1
    apply Option.ext
    intro asset
    rw [assetOf_eq_some_iff unique, assetOf_eq_some_iff unique', sameAssets.mem_iff]
  refine ⟨rfl, rfl, rfl, rfl, ?_⟩
  rw [frozen]
  exact sameItems.map _

end screengoblin.server
