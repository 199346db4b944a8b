-- The laws of the native media cache. The locks keep the calls apart, so each call finds the
-- files of its asset as it left them. The reservations are those of the downloads that run, and
-- those that were lost where the path of a temporary file could not be resolved.
import ScreenGoblin.MediaCacheStore

namespace screengoblin.mediacache

variable {sha256 : Bytes → List Char}

/-! ## Reservations -/

/-- The call has reserved and has not released. -/
def Body.inProgress : Body → Bool
  | .reserved | .connecting _ | .opening _ | .receiving _ _ | .activating _ | .finishing _ _
  | .releasing _ => true
  | .locating | .checking _ | .verifying _ _ | .reserving | .returning _ => false

/-- What a call in progress has reserved. -/
def Body.held (asset : Asset) (body : Body) : Int :=
  if body.inProgress then asset.sizeBytes else 0

def Call.held : Call → Int
  | .inside asset body => body.held asset
  | _ => 0

/-- The sum of the sizes of the downloads in progress. -/
def Store.inProgress (store : Store) : Int := (store.calls.map Call.held).sum

/-- The path of a temporary file is resolved. -/
def Event.resolves : Event → Bool
  | .temporary _ (.ok true) => true
  | .temporary _ _ => false
  | _ => true

def Action.resolves : Action → Bool
  | .go _ event => event.resolves
  | .call _ => true

/-- What is never released after a step. -/
def Event.loss (asset : Asset) (event : Event) : Int :=
  if event.resolves then 0 else asset.sizeBytes

/-! ## Files -/

def Matches (sha256 : Bytes → List Char) (asset : Asset) (content : Bytes) : Prop :=
  (content.length : Int) = asset.sizeBytes ∧ sha256 content = asset.sha256

/-- The file of the asset has its declared size and digest. -/
def Stored (sha256 : Bytes → List Char) (asset : Asset) (files : Files) : Prop :=
  ∃ content, files.lookup asset.fileName = some content ∧ Matches sha256 asset content

/-- An outcome is an exception, or the file of the asset. -/
def Returns (sha256 : Bytes → List Char) (asset : Asset) (files : Files) : Outcome → Prop
  | .error _ => True
  | .ok file => file = some asset.fileName ∧ Stored sha256 asset files

/-- What a call knows of the files of its asset. -/
def Body.Sound (sha256 : Bytes → List Char) (asset : Asset) (files : Files) : Body → Prop
  | .verifying _ read => ∃ content, files.lookup asset.fileName = some content ∧
      (content.length : Int) = asset.sizeBytes ∧ read <+: content
  | .receiving uuid received =>
      files.lookup (partialName asset.fileName uuid) = some received
  | .activating uuid => ∃ content, files.lookup (partialName asset.fileName uuid) = some content ∧
      Matches sha256 asset content
  | .finishing _ outcome | .releasing outcome | .returning outcome =>
      Returns sha256 asset files outcome
  | _ => True

/-- The files of an asset, finished or not, are the same. -/
def SameFor (asset : Asset) (files files' : Files) : Prop :=
  ∀ name, base name = asset.fileName → files'.lookup name = files.lookup name

theorem Stored.same {asset : Asset} {files files' : Files} (same : SameFor asset files files')
    (stored : Stored sha256 asset files) : Stored sha256 asset files' := by
  obtain ⟨content, found, fits⟩ := stored
  exact ⟨content, (same _ asset.base_fileName).trans found, fits⟩

theorem Returns.same {asset : Asset} {files files' : Files} (same : SameFor asset files files')
    {outcome : Outcome} (returns : Returns sha256 asset files outcome) :
    Returns sha256 asset files' outcome := by
  cases outcome with
  | error thrown => trivial
  | ok file => exact ⟨returns.1, returns.2.same same⟩

theorem Body.Sound.same {asset : Asset} {files files' : Files} (same : SameFor asset files files')
    {body : Body} (sound : body.Sound sha256 asset files) : body.Sound sha256 asset files' := by
  cases body with
  | verifying purpose read =>
    obtain ⟨content, found, rest⟩ := sound
    exact ⟨content, (same _ asset.base_fileName).trans found, rest⟩
  | receiving uuid received => exact (same _ (asset.base_partialName uuid)).trans sound
  | activating uuid =>
    obtain ⟨content, found, fits⟩ := sound
    exact ⟨content, (same _ (asset.base_partialName uuid)).trans found, fits⟩
  | finishing uuid outcome => exact Returns.same same sound
  | releasing outcome => exact Returns.same same sound
  | returning outcome => exact Returns.same same sound
  | _ => trivial

/-! ## One step under the lock of a file -/

/-- What a step of a call on `asset` does. -/
structure Body.Next (sha256 : Bytes → List Char) (asset : Asset) (cache : Cache) (body : Body)
    (event : Event) (cache' : Cache) (body' : Body) : Prop where
  sound : body.Sound sha256 asset cache.files → body'.Sound sha256 asset cache'.files
  others : ∀ name, base name ≠ asset.fileName →
    cache'.files.lookup name = cache.files.lookup name
  balance : body.held asset ≤ cache.reservedBytes →
    cache'.reservedBytes - body'.held asset =
      cache.reservedBytes - body.held asset + event.loss asset
  fits : body.held asset ≤ cache.reservedBytes → cache.reservedBytes < cache'.reservedBytes →
    ∃ availableBytes totalBytes,
      event = .stats availableBytes totalBytes ∧ body = .reserving ∧ body' = .reserved ∧
      asset.sizeBytes ≤ availableBytes - safetyReserve totalBytes - cache.reservedBytes

/-- A step that leaves the cache alone. -/
theorem Body.Next.still {asset : Asset} {cache : Cache} {body body' : Body} {event : Event}
    (sound : body.Sound sha256 asset cache.files → body'.Sound sha256 asset cache.files)
    (held : body'.held asset = body.held asset) (resolves : event.resolves = true) :
    Body.Next sha256 asset cache body event cache body' where
  sound := sound
  others := fun _ _ => rfl
  balance := by
    intro _
    unfold Event.loss
    rw [if_pos resolves, held]
    omega
  fits := by
    intro _ grows
    exact absurd grows (Int.lt_irrefl _)

/-- A step that changes a file of the asset. -/
theorem Body.Next.files {asset : Asset} {cache : Cache} {body body' : Body} {event : Event}
    {files : Files} (sound : body.Sound sha256 asset cache.files → body'.Sound sha256 asset files)
    (others : ∀ name, base name ≠ asset.fileName → files.lookup name = cache.files.lookup name)
    (held : body'.held asset = body.held asset) (resolves : event.resolves = true) :
    Body.Next sha256 asset cache body event { cache with files } body' where
  sound := sound
  others := others
  balance := by
    intro _
    unfold Event.loss
    rw [if_pos resolves, held]
    simp
  fits := by
    intro _ grows
    exact absurd grows (Int.lt_irrefl _)

theorem lookup_write {asset : Asset} {name : Name} (own : base name = asset.fileName)
    (files : Files) (bytes : Bytes) (other : Name) (apart : base other ≠ asset.fileName) :
    (files.insert name bytes).lookup other = files.lookup other := by
  apply AList.lookup_insert_ne
  rintro rfl
  exact apart own

theorem lookup_remove {asset : Asset} {name : Name} (own : base name = asset.fileName)
    (files : Files) (other : Name) (apart : base other ≠ asset.fileName) :
    (files.erase name).lookup other = files.lookup other := by
  apply AList.lookup_erase_ne
  rintro rfl
  exact apart own

theorem unverified_sound (purpose : Purpose) (asset : Asset) (files : Files) :
    purpose.unverified.Sound sha256 asset files := by
  cases purpose <;> trivial

theorem verified_sound {purpose : Purpose} {asset : Asset} {files : Files} {content read : Bytes}
    (found : files.lookup asset.fileName = some content)
    (size : (content.length : Int) = asset.sizeBytes) (whole : read = content) :
    (purpose.verified sha256 asset read).Sound sha256 asset files := by
  unfold Purpose.verified
  split
  · rename_i digest
    subst whole
    exact ⟨rfl, read, found, size, digest⟩
  · exact unverified_sound purpose asset files

theorem unverified_held (purpose : Purpose) (asset : Asset) :
    purpose.unverified.held asset = 0 := by
  cases purpose <;> rfl

theorem verified_held (purpose : Purpose) (asset : Asset) (read : Bytes) :
    (purpose.verified sha256 asset read).held asset = 0 := by
  unfold Purpose.verified
  split
  · rfl
  · exact unverified_held purpose asset

/-- The read goes on with the next bytes of the file. -/
theorem read_on {content read chunk : Bytes} {count : Nat} (known : read <+: content)
    (next : (content.drop read.length).take count = chunk) : read ++ chunk <+: content := by
  obtain ⟨rest, rfl⟩ := known
  rw [List.drop_left] at next
  rw [← next]
  exact (List.prefix_append_right_inj read).mpr (List.take_prefix count rest)

/-- The end of the file. -/
theorem read_whole {content read : Bytes} {count : Nat} (known : read <+: content)
    (next : (content.drop read.length).take (count + 1) = []) : read = content := by
  obtain ⟨rest, rfl⟩ := known
  rw [List.drop_left] at next
  cases rest with
  | nil => exact (List.append_nil read).symm
  | cons byte rest => cases next

section phases

variable {asset : Asset} {cache cache' : Cache} {body' : Body} {event : Event}

theorem locating_next
    (stepped : Body.locating.step sha256 asset cache event = some (cache', body')) :
    Body.Next sha256 asset cache .locating event cache' body' := by
  cases event with
  | child canonical =>
    unfold Body.step at stepped
    dsimp only at stepped
    split at stepped <;> cases stepped <;> exact .still (fun _ => trivial) rfl rfl
  | _ => cases stepped

theorem checking_next {purpose : Purpose}
    (stepped : (Body.checking purpose).step sha256 asset cache event = some (cache', body')) :
    Body.Next sha256 asset cache (.checking purpose) event cache' body' := by
  cases event with
  | proceed =>
    unfold Body.step at stepped
    dsimp only at stepped
    split at stepped
    · cases purpose <;> cases stepped <;> exact .still (fun _ => trivial) rfl rfl
    · rename_i content found
      split at stepped
      · cases stepped
        exact .still (fun _ => unverified_sound purpose asset _) (unverified_held purpose asset) rfl
      · rename_i size
        cases stepped
        refine .still (fun _ => ⟨content, found, ?_, List.nil_prefix⟩) rfl rfl
        exact not_not.mp size
  | _ => cases stepped

theorem verifying_next {purpose : Purpose} {read : Bytes}
    (stepped : (Body.verifying purpose read).step sha256 asset cache event =
      some (cache', body')) :
    Body.Next sha256 asset cache (.verifying purpose read) event cache' body' := by
  cases event with
  | read count =>
    unfold Body.step at stepped
    dsimp only at stepped
    split at stepped
    · cases stepped
    · rename_i content found
      split at stepped
      · rename_i ends
        cases stepped
        refine .still ?_ (verified_held purpose asset read) rfl
        rintro ⟨content', found', size, known⟩
        cases found.symm.trans found'
        exact verified_sound found size (read_whole known ends)
      · rename_i goesOn
        cases stepped
        refine .still ?_ rfl rfl
        rintro ⟨content', found', size, known⟩
        cases found.symm.trans found'
        exact ⟨content, found, size, read_on known rfl⟩
  | fails failure written =>
    cases stepped
    exact .still (fun _ => trivial) rfl rfl
  | _ => cases stepped

/-- A reservation is taken where there is room for it. -/
theorem reserving_next
    (stepped : Body.reserving.step sha256 asset cache event = some (cache', body')) :
    Body.Next sha256 asset cache .reserving event cache' body' := by
  cases event with
  | stats availableBytes totalBytes =>
    unfold Body.step Cache.reserve at stepped
    dsimp only at stepped
    by_cases short : asset.sizeBytes > cache.availableBytes availableBytes totalBytes
    · rw [if_pos short] at stepped
      cases stepped
      exact .still (fun _ => trivial) rfl rfl
    · rw [if_neg short] at stepped
      cases stepped
      have positive := asset.positive
      unfold Cache.availableBytes at short
      refine ⟨fun _ => trivial, fun _ _ => rfl, ?_, ?_⟩
      · intro _
        unfold Event.loss Body.held
        simp [Event.resolves, Body.inProgress]
      · intro _ _
        exact ⟨availableBytes, totalBytes, rfl, rfl, rfl, by omega⟩
  | fails failure written =>
    cases stepped
    exact .still (fun _ => trivial) rfl rfl
  | _ => cases stepped

/-- A reservation is lost where the path of the temporary file is not resolved. -/
theorem reserved_next
    (stepped : Body.reserved.step sha256 asset cache event = some (cache', body')) :
    Body.Next sha256 asset cache .reserved event cache' body' := by
  cases event with
  | temporary uuid canonical =>
    have lost {thrown : Thrown} (failed : (Event.temporary uuid canonical).resolves = false) :
        Body.Next sha256 asset cache .reserved (.temporary uuid canonical) cache
          (.returning (.error thrown)) := by
      refine ⟨fun _ => trivial, fun _ _ => rfl, ?_, fun _ grows => absurd grows (Int.lt_irrefl _)⟩
      intro _
      unfold Event.loss Body.held
      rw [failed]
      simp [Body.inProgress]
    unfold Body.step child at stepped
    dsimp only at stepped
    rcases canonical with failure | (_ | _)
    · cases stepped
      exact lost rfl
    · cases stepped
      exact lost rfl
    · cases stepped
      exact .still (fun _ => trivial) rfl rfl
  | _ => cases stepped

theorem receiving_next {uuid : List Char} {bytes : Bytes}
    (stepped : (Body.receiving uuid bytes).step sha256 asset cache event = some (cache', body')) :
    Body.Next sha256 asset cache (.receiving uuid bytes) event cache' body' := by
  cases event with
  | receive chunk elapsedMs =>
    unfold Body.step receive at stepped
    dsimp only at stepped
    split at stepped
    · cases stepped
      exact .still (fun _ => trivial) rfl rfl
    split at stepped
    · cases stepped
      exact .still (fun _ => trivial) rfl rfl
    · cases stepped
      exact .files (fun _ => AList.lookup_insert _)
        (lookup_write (asset.base_partialName uuid) _ _) rfl rfl
  | endOfStream =>
    unfold Body.step received at stepped
    dsimp only at stepped
    split at stepped
    · cases stepped
      exact .still (fun _ => trivial) rfl rfl
    · rename_i whole
      cases stepped
      simp only [Bool.or_eq_true, decide_eq_true_eq, bne_iff_ne, not_or, not_not] at whole
      exact .still (fun sound => ⟨bytes, sound, whole⟩) rfl rfl
  | fails failure written =>
    cases stepped
    exact .files (fun _ => trivial) (lookup_write (asset.base_partialName uuid) _ _) rfl rfl
  | _ => cases stepped

/-- The file of the asset gets the bytes that were verified. -/
theorem activating_next {uuid : List Char}
    (stepped : (Body.activating uuid).step sha256 asset cache event = some (cache', body')) :
    Body.Next sha256 asset cache (.activating uuid) event cache' body' := by
  cases event with
  | proceed =>
    unfold Body.step at stepped
    dsimp only at stepped
    split at stepped
    · cases stepped
    · rename_i content found
      cases stepped
      refine .files ?_ ?_ rfl rfl
      · rintro ⟨content', found', fits⟩
        cases found.symm.trans found'
        exact ⟨rfl, content, AList.lookup_insert _, fits⟩
      · intro name apart
        rw [lookup_write asset.base_fileName _ _ name apart]
        exact lookup_remove (asset.base_partialName uuid) _ name apart
  | fails failure written =>
    cases stepped
    exact .still (fun _ => trivial) rfl rfl
  | _ => cases stepped

theorem finishing_next {uuid : List Char} {outcome : Outcome}
    (stepped : (Body.finishing uuid outcome).step sha256 asset cache event =
      some (cache', body')) :
    Body.Next sha256 asset cache (.finishing uuid outcome) event cache' body' := by
  cases event with
  | delete deleted =>
    cases deleted with
    | false =>
      cases stepped
      exact .still id rfl rfl
    | true =>
      cases stepped
      refine .files ?_ (lookup_remove (asset.base_partialName uuid) _) rfl rfl
      intro sound
      cases outcome with
      | error thrown => trivial
      | ok file =>
        obtain ⟨same, content, found, fits⟩ := sound
        refine ⟨same, content, ?_, fits⟩
        rw [AList.lookup_erase_ne (partialName_ne _ uuid).symm]
        exact found
  | _ => cases stepped

theorem releasing_next {outcome : Outcome}
    (stepped : (Body.releasing outcome).step sha256 asset cache event = some (cache', body')) :
    Body.Next sha256 asset cache (.releasing outcome) event cache' body' := by
  cases event with
  | proceed =>
    cases stepped
    refine ⟨id, fun _ _ => rfl, ?_, ?_⟩
    · intro enough
      show max 0 (cache.reservedBytes - asset.sizeBytes) - 0 =
        cache.reservedBytes - asset.sizeBytes + 0
      have isHeld : asset.sizeBytes ≤ cache.reservedBytes := enough
      omega
    · intro enough grows
      have isHeld : asset.sizeBytes ≤ cache.reservedBytes := enough
      have positive := asset.positive
      unfold Cache.release at grows
      dsimp only at grows
      omega
  | _ => cases stepped

/-- One step of a call that holds the lock of its file. -/
theorem Body.step_next {body : Body}
    (stepped : body.step sha256 asset cache event = some (cache', body')) :
    Body.Next sha256 asset cache body event cache' body' := by
  cases body with
  | locating => exact locating_next stepped
  | checking purpose => exact checking_next stepped
  | verifying purpose read => exact verifying_next stepped
  | reserving => exact reserving_next stepped
  | reserved => exact reserved_next stepped
  | connecting uuid =>
    cases event with
    | response response =>
      unfold Body.step at stepped
      dsimp only at stepped
      split at stepped <;> cases stepped <;> exact .still (fun _ => trivial) rfl rfl
    | fails failure written =>
      cases stepped
      exact .still (fun _ => trivial) rfl rfl
    | _ => cases stepped
  | opening uuid =>
    cases event with
    | proceed =>
      cases stepped
      exact .files (fun _ => AList.lookup_insert _)
        (lookup_write (asset.base_partialName uuid) _ _) rfl rfl
    | fails failure written =>
      cases stepped
      exact .still (fun _ => trivial) rfl rfl
    | _ => cases stepped
  | receiving uuid bytes => exact receiving_next stepped
  | activating uuid => exact activating_next stepped
  | finishing uuid outcome => exact finishing_next stepped
  | releasing outcome => exact releasing_next stepped
  | returning outcome => cases event <;> cases stepped

end phases

/-! ## The locks keep the calls apart -/

/-- The call holds the read lock. -/
def Call.reads : Call → Bool
  | .resolving _ | .waiting _ _ | .leaving _ | .inside _ _ => true
  | .called _ | .listing _ | .deleting _ _ | .swept _ | .done _ => false

/-- The call holds the write lock. -/
def Call.writes : Call → Bool
  | .listing _ | .deleting _ _ | .swept _ => true
  | .called _ | .resolving _ | .waiting _ _ | .leaving _ | .inside _ _ | .done _ => false

/-- The index of the lock of its file. -/
def Call.index : Call → Option Nat
  | .inside asset _ => some (stripe asset.fileName)
  | _ => none

/-- A call owns the locks that it holds. -/
structure Owns (locks : Locks) (caller : Nat) (call : Call) : Prop where
  read : call.reads = true → caller ∈ locks.readers
  write : call.writes = true → locks.writer = some caller
  asset : ∀ index, call.index = some index → locks.assetLocks index = some caller

/-- There is no writer beside readers. -/
def Locks.Apart (locks : Locks) : Prop := locks.writer = none ∨ locks.readers = []

/-- What a step does to the locks: the caller owns what it then holds, and no other call loses
anything. -/
structure Passes (caller : Nat) (locks locks' : Locks) (call' : Call) : Prop where
  own : Owns locks' caller call'
  others : ∀ other call, other ≠ caller → Owns locks other call → Owns locks' other call
  apart : locks.Apart → locks'.Apart

section

variable {caller : Nat} {locks locks' : Locks} {call call' : Call}

theorem Passes.still (owns : Owns locks caller call) (reads : call'.reads = call.reads)
    (writes : call'.writes = call.writes) (index : call'.index = call.index) :
    Passes caller locks locks call' where
  own := ⟨reads ▸ owns.read, writes ▸ owns.write, index ▸ owns.asset⟩
  others := fun _ _ _ keeps => keeps
  apart := id

theorem Passes.readLock (locked : locks.readLock caller = some locks')
    (writes : call'.writes = false) (index : call'.index = none) :
    Passes caller locks locks' call' := by
  unfold Locks.readLock at locked
  split at locked
  · rename_i free
    cases locked
    refine ⟨⟨fun _ => List.mem_cons_self, ?_, ?_⟩, ?_, fun _ => Or.inl free⟩
    · intro isWriter
      rw [writes] at isWriter
      cases isWriter
    · intro i inside
      rw [index] at inside
      cases inside
    · intro other call _ keeps
      exact ⟨fun reads => List.mem_cons_of_mem _ (keeps.read reads), keeps.write, keeps.asset⟩
  · cases locked

theorem Passes.readUnlock {outcome : Outcome} :
    Passes caller locks (locks.readUnlock caller) (.done outcome) where
  own := by
    constructor <;> intros <;> contradiction
  others := by
    intro other call distinct keeps
    exact ⟨fun reads => (List.mem_erase_of_ne distinct).mpr (keeps.read reads), keeps.write,
      keeps.asset⟩
  apart := by
    rintro (free | none)
    · exact Or.inl free
    · right
      show locks.readers.erase caller = []
      rw [none]
      rfl

theorem Passes.writeLock (locked : locks.writeLock caller = some locks')
    (reads : call'.reads = false) (index : call'.index = none) :
    Passes caller locks locks' call' := by
  unfold Locks.writeLock at locked
  split at locked
  · rename_i free
    cases locked
    refine ⟨⟨?_, fun _ => rfl, ?_⟩, ?_, fun _ => Or.inr free.2⟩
    · intro isReader
      rw [reads] at isReader
      cases isReader
    · intro i inside
      rw [index] at inside
      cases inside
    · intro other call _ keeps
      refine ⟨keeps.read, fun writes => ?_, keeps.asset⟩
      have writer := keeps.write writes
      rw [free.1] at writer
      cases writer
  · cases locked

theorem Passes.writeUnlock {outcome : Outcome} (owns : Owns locks caller call)
    (writes : call.writes = true) : Passes caller locks locks.writeUnlock (.done outcome) where
  own := by
    constructor <;> intros <;> contradiction
  others := by
    intro other call distinct keeps
    refine ⟨keeps.read, fun otherWrites => ?_, keeps.asset⟩
    have same := (keeps.write otherWrites).symm.trans (owns.write writes)
    exact absurd (Option.some.inj same) distinct
  apart := fun _ => Or.inl rfl

theorem Passes.enter {asset : Asset} {body : Body} (owns : Owns locks caller call)
    (reads : call.reads = true)
    (entered : locks.enter caller (stripe asset.fileName) = some locks') :
    Passes caller locks locks' (.inside asset body) := by
  unfold Locks.enter at entered
  split at entered
  · rename_i free
    cases entered
    refine ⟨⟨fun _ => owns.read reads, ?_, ?_⟩, ?_, id⟩
    · intro writes
      cases writes
    · intro index inside
      cases inside
      exact if_pos rfl
    · intro other call _ keeps
      refine ⟨keeps.read, keeps.write, ?_⟩
      intro index inside
      have held := keeps.asset index inside
      by_cases same : index = stripe asset.fileName
      · rw [same, free] at held
        cases held
      · exact (if_neg same).trans held
  · cases entered

theorem Passes.leave {asset : Asset} {body : Body} {outcome : Outcome}
    (owns : Owns locks caller (.inside asset body)) :
    Passes caller locks (locks.leave (stripe asset.fileName)) (.leaving outcome) where
  own := by
    refine ⟨fun _ => owns.read rfl, ?_, ?_⟩
    · intro writes
      cases writes
    · intro index inside
      cases inside
  others := by
    intro other call distinct keeps
    refine ⟨keeps.read, keeps.write, ?_⟩
    intro index inside
    have held := keeps.asset index inside
    have same : index ≠ stripe asset.fileName := by
      rintro rfl
      exact distinct (Option.some.inj (held.symm.trans (owns.asset _ rfl)))
    exact (if_neg same).trans held
  apart := id

end

/-! ## One step of a call -/

/-- The call has what the request asks for. -/
def Request.Declares (asset : Asset) : Request → Prop
  | .prefetch requested => requested = asset
  | .resolve _ mimeType digest sizeBytes =>
      asset.mimeType = mimeType ∧ asset.sha256 = digest ∧ asset.sizeBytes = sizeBytes
  | .sweep _ => False

def Call.For (request : Request) : Call → Prop
  | .called requested => requested = request
  | .resolving asset | .waiting _ asset | .inside asset _ => request.Declares asset
  | .listing sweep | .deleting sweep _ => request = .sweep sweep
  | .leaving _ | .swept _ | .done _ => True

def Call.Sound (sha256 : Bytes → List Char) (files : Files) : Call → Prop
  | .inside asset body => body.Sound sha256 asset files
  | _ => True

/-- The names that a call may change. -/
def Call.MayChange (name : Name) : Call → Prop
  | .inside asset _ => base name = asset.fileName
  | .deleting sweep _ => sweep.doomed name = true
  | _ => False

structure Call.Next (sha256 : Bytes → List Char) (caller : Nat) (cache : Cache) (locks : Locks)
    (call : Call) (event : Event) (cache' : Cache) (locks' : Locks) (call' : Call) : Prop where
  passes : Passes caller locks locks' call'
  sound : call.Sound sha256 cache.files → call'.Sound sha256 cache'.files
  others : ∀ name, ¬ call.MayChange name → cache'.files.lookup name = cache.files.lookup name
  declared : ∀ request, call.For request → call'.For request
  balance : call.held ≤ cache.reservedBytes → ∃ loss, 0 ≤ loss ∧
    (loss = 0 ↔ event.resolves = true) ∧
    cache'.reservedBytes - call'.held = cache.reservedBytes - call.held + loss
  fits : call.held ≤ cache.reservedBytes → cache.reservedBytes < cache'.reservedBytes →
    ∃ asset availableBytes totalBytes, event = .stats availableBytes totalBytes ∧
      call = .inside asset .reserving ∧ call' = .inside asset .reserved ∧
      asset.sizeBytes ≤ availableBytes - safetyReserve totalBytes - cache.reservedBytes

/-- A step that leaves the cache alone, outside of `reserve` and `release`. -/
theorem Call.Next.still {caller : Nat} {cache : Cache} {locks locks' : Locks}
    {call call' : Call} {event : Event} (passes : Passes caller locks locks' call')
    (sound : call.Sound sha256 cache.files → call'.Sound sha256 cache.files)
    (declared : ∀ request, call.For request → call'.For request)
    (held : call'.held = call.held) (resolves : event.resolves = true) :
    Call.Next sha256 caller cache locks call event cache locks' call' where
  passes := passes
  sound := sound
  others := fun _ _ => rfl
  declared := declared
  balance := by
    intro _
    refine ⟨0, Int.le_refl 0, by simp [resolves], ?_⟩
    rw [held]
    omega
  fits := by
    intro _ grows
    exact absurd grows (Int.lt_irrefl _)

theorem Body.Next.call {caller : Nat} {cache cache' : Cache} {locks : Locks} {asset : Asset}
    {body body' : Body} {event : Event} (owns : Owns locks caller (.inside asset body))
    (next : Body.Next sha256 asset cache body event cache' body') :
    Call.Next sha256 caller cache locks (.inside asset body) event cache' locks
      (.inside asset body') where
  passes := .still owns rfl rfl rfl
  sound := next.sound
  others := next.others
  declared := fun _ => id
  balance := by
    intro enough
    refine ⟨event.loss asset, ?_, ?_, next.balance enough⟩ <;> unfold Event.loss
    · have positive := asset.positive
      split <;> omega
    · have positive := asset.positive
      split
      · simp_all
      · rename_i unresolved
        exact iff_of_false (by omega) unresolved
  fits := by
    intro enough grows
    obtain ⟨availableBytes, totalBytes, rfl, rfl, rfl, room⟩ := next.fits enough grows
    exact ⟨asset, availableBytes, totalBytes, rfl, rfl, rfl, room⟩

theorem validate_declares {assetId mimeType digest : List Char} {sizeBytes : Int} {asset : Asset}
    (ok : validate assetId mimeType digest sizeBytes = .ok asset) :
    asset.mimeType = mimeType ∧ asset.sha256 = digest ∧ asset.sizeBytes = sizeBytes := by
  unfold validate at ok
  split at ok
  · cases ok
  split at ok
  · cases ok
  split at ok
  · split at ok
    · cases ok
      exact ⟨rfl, rfl, rfl⟩
    · cases ok
  · cases ok

theorem Sweep.step_next {caller : Nat} {cache cache' : Cache} {locks : Locks} {sweep : Sweep}
    {left : List Name} {event : Event} {call' : Call}
    (owns : Owns locks caller (.deleting sweep left))
    (stepped : sweep.step cache left event = some (cache', call')) :
    Call.Next sha256 caller cache locks (.deleting sweep left) event cache' locks call' := by
  unfold Sweep.step at stepped
  split at stepped
  · cases stepped
    exact .still (.still owns rfl rfl rfl) (fun _ => trivial) (fun _ _ => trivial) rfl rfl
  · rename_i name left deleted
    split at stepped
    · rename_i doomed
      split at stepped
      · cases stepped
        refine ⟨.still owns rfl rfl rfl, fun _ => trivial, ?_, fun _ => id, ?_, ?_⟩
        · intro other keeps
          apply AList.lookup_erase_ne
          rintro rfl
          exact keeps doomed
        · intro _
          refine ⟨0, Int.le_refl 0, by simp [Event.resolves], ?_⟩
          show _ - (0 : Int) = _ - 0 + 0
          simp [Cache.remove]
        · intro _ grows
          exact absurd grows (Int.lt_irrefl _)
      · cases stepped
        exact .still (.still owns rfl rfl rfl) (fun _ => trivial) (fun _ _ => trivial) rfl rfl
    · cases stepped
      exact .still (.still owns rfl rfl rfl) (fun _ => trivial) (fun _ => id) rfl rfl
  · cases stepped

/-- One step of a call. -/
theorem Call.step_next {caller : Nat} {cache cache' : Cache} {locks locks' : Locks}
    {call call' : Call} {event : Event} (owns : Owns locks caller call)
    (stepped : call.step sha256 caller cache locks event = some (cache', locks', call')) :
    Call.Next sha256 caller cache locks call event cache' locks' call' := by
  unfold Call.step at stepped
  split at stepped
  · -- a prefetch takes the read lock
    obtain ⟨taken, locked, same⟩ := Option.map_eq_some_iff.mp stepped
    cases same
    exact .still (.readLock locked rfl rfl) (fun _ => trivial) (fun _ => fun same => same ▸ rfl)
      rfl rfl
  · -- a resolve takes the read lock
    rename_i assetId mimeType digest sizeBytes
    obtain ⟨taken, locked, same⟩ := Option.map_eq_some_iff.mp stepped
    split at same
    · cases same
      exact .still (.readLock locked rfl rfl) (fun _ => trivial) (fun _ _ => trivial) rfl rfl
    · rename_i asset valid
      cases same
      refine .still (.readLock locked rfl rfl) (fun _ => trivial) ?_ rfl rfl
      intro request same
      cases same
      exact validate_declares valid
  · -- the write lock
    obtain ⟨taken, locked, same⟩ := Option.map_eq_some_iff.mp stepped
    cases same
    exact .still (.writeLock locked rfl rfl) (fun _ => trivial) (fun _ same => same.symm) rfl rfl
  · split at stepped <;> cases stepped
    · exact .still (.still owns rfl rfl rfl) (fun _ => trivial) (fun _ _ => trivial) rfl rfl
    · exact .still (.still owns rfl rfl rfl) (fun _ => trivial) (fun _ => id) rfl rfl
  · -- the lock of the file
    rename_i purpose asset
    obtain ⟨taken, entered, same⟩ := Option.map_eq_some_iff.mp stepped
    cases same
    refine .still (.enter owns rfl entered) ?_ (fun _ => id) ?_ rfl
    · cases purpose <;> exact fun _ => trivial
    · cases purpose <;> rfl
  · cases stepped
    exact .still (.leave owns) (fun _ => trivial) (fun _ _ => trivial) rfl rfl
  · obtain ⟨⟨cache, body⟩, under, same⟩ := Option.map_eq_some_iff.mp stepped
    cases same
    exact (Body.step_next under).call owns
  · cases stepped
    exact .still .readUnlock (fun _ => trivial) (fun _ _ => trivial) rfl rfl
  · split at stepped
    · cases stepped
      exact .still (.still owns rfl rfl rfl) (fun _ => trivial) (fun _ => id) rfl rfl
    · cases stepped
  · cases stepped
    exact .still (.still owns rfl rfl rfl) (fun _ => trivial) (fun _ _ => trivial) rfl rfl
  · obtain ⟨⟨cache, call⟩, swept, same⟩ := Option.map_eq_some_iff.mp stepped
    cases same
    exact Sweep.step_next owns swept
  · cases stepped
    exact .still (.writeUnlock owns rfl) (fun _ => trivial) (fun _ _ => trivial) rfl rfl
  · cases stepped

/-! ## The invariant of a store -/

/-- `requests` are the calls so far. -/
structure Whole (sha256 : Bytes → List Char) (requests : List Request) (store : Store) : Prop where
  owns : ∀ (caller : Nat) (call : Call), store.calls[caller]? = some call →
    Owns store.locks caller call
  apart : store.locks.Apart
  sound : ∀ (caller : Nat) (call : Call), store.calls[caller]? = some call →
    call.Sound sha256 store.cache.files
  count : requests.length = store.calls.length
  declared : ∀ (caller : Nat) (request : Request) (call : Call),
    requests[caller]? = some request → store.calls[caller]? = some call → call.For request

/-- A name that one call may change is no file of the asset of another call. -/
theorem unchanged_for_others {requests : List Request} {store : Store}
    (whole : Whole sha256 requests store) {caller other : Nat} {call : Call} {asset : Asset}
    {body : Body} (distinct : other ≠ caller) (here : store.calls[caller]? = some call)
    (there : store.calls[other]? = some (.inside asset body)) {name : Name}
    (own : base name = asset.fileName) : ¬ call.MayChange name := by
  have mine := whole.owns caller call here
  have theirs := whole.owns other _ there
  intro may
  cases call with
  | inside asset' body' =>
    have same : asset'.fileName = asset.fileName := may.symm.trans own
    have owner := mine.asset _ rfl
    rw [same, theirs.asset _ rfl] at owner
    exact distinct (Option.some.inj owner)
  | deleting sweep left =>
    rcases whole.apart with free | none
    · have writer := mine.write rfl
      rw [free] at writer
      cases writer
    · have reader := theirs.read rfl
      rw [none] at reader
      cases reader
  | _ => exact may

theorem sum_set {α : Type} (f : α → Int) (values : List α) {i : Nat} {old : α} (new : α)
    (at_ : values[i]? = some old) :
    ((values.set i new).map f).sum = (values.map f).sum - f old + f new := by
  induction values generalizing i with
  | nil => cases at_
  | cons head rest ih =>
    cases i with
    | zero =>
      cases at_
      simp only [List.set_cons_zero, List.map_cons, List.sum_cons]
      omega
    | succ i =>
      have rest' := ih (i := i) at_
      simp only [List.set_cons_succ, List.map_cons, List.sum_cons]
      omega

/-- The requests of an action. -/
def Action.requests : Action → List Request
  | .call request => [request]
  | .go _ _ => []

/-- One call goes on. -/
theorem step_go {store store' : Store} {caller : Nat} {event : Event}
    (owns : ∀ (caller : Nat) (call : Call), store.calls[caller]? = some call →
      Owns store.locks caller call)
    (stepped : step sha256 store (.go caller event) = some store') :
    ∃ call call', store.calls[caller]? = some call ∧
      store'.calls = store.calls.set caller call' ∧
      Call.Next sha256 caller store.cache store.locks call event store'.cache store'.locks
        call' := by
  unfold step at stepped
  dsimp only at stepped
  split at stepped
  · cases stepped
  · rename_i call here
    obtain ⟨⟨cache, locks, call'⟩, next, same⟩ := Option.map_eq_some_iff.mp stepped
    cases same
    exact ⟨call, call', here, rfl, Call.step_next (owns caller call here) next⟩

theorem get_set {caller other : Nat} {calls : List Call} {call call' old : Call}
    (here : calls[caller]? = some old) (found : (calls.set caller call')[other]? = some call) :
    (other = caller ∧ call = call') ∨ (other ≠ caller ∧ calls[other]? = some call) := by
  by_cases same : other = caller
  · subst same
    rw [List.getElem?_set_self (List.getElem?_eq_some_iff.mp here).choose] at found
    exact Or.inl ⟨rfl, (Option.some.inj found).symm⟩
  · rw [List.getElem?_set_ne (Ne.symm same)] at found
    exact Or.inr ⟨same, found⟩

theorem get_snoc {α : Type} {values : List α} {new value : α} {i : Nat}
    (found : (values ++ [new])[i]? = some value) :
    values[i]? = some value ∨ (i = values.length ∧ value = new) := by
  rw [List.getElem?_append] at found
  split at found
  · exact Or.inl found
  · right
    have first : i - values.length = 0 := by
      by_contra later
      rw [List.getElem?_eq_none (by simp only [List.length_singleton]; omega)] at found
      cases found
    rw [first] at found
    exact ⟨by omega, (Option.some.inj found).symm⟩

theorem Whole.step {requests : List Request} {store store' : Store} {action : Action}
    (whole : Whole sha256 requests store)
    (stepped : mediacache.step sha256 store action = some store') :
    Whole sha256 (requests ++ action.requests) store' := by
  cases action with
  | call request =>
    cases stepped
    refine ⟨?_, whole.apart, ?_, ?_, ?_⟩
    · intro caller call found
      rcases get_snoc found with old | ⟨_, rfl⟩
      · exact whole.owns caller call old
      · constructor <;> intros <;> contradiction
    · intro caller call found
      rcases get_snoc found with old | ⟨_, rfl⟩
      · exact whole.sound caller call old
      · trivial
    · simp [Action.requests, whole.count]
    · intro caller asked call isRequest found
      have count := whole.count
      rcases get_snoc found with old | ⟨last, rfl⟩
      · rcases get_snoc isRequest with first | ⟨last, _⟩
        · exact whole.declared caller asked call first old
        · rw [List.getElem?_eq_none (by omega)] at old
          cases old
      · rcases get_snoc isRequest with first | ⟨_, rfl⟩
        · rw [List.getElem?_eq_none (by omega)] at first
          cases first
        · rfl
  | go caller event =>
    obtain ⟨call, call', here, calls, next⟩ := step_go whole.owns stepped
    refine ⟨?_, next.passes.apart whole.apart, ?_, ?_, ?_⟩
    · intro other found isCall
      rw [calls] at isCall
      rcases get_set here isCall with ⟨rfl, rfl⟩ | ⟨distinct, old⟩
      · exact next.passes.own
      · exact next.passes.others other found distinct (whole.owns other found old)
    · intro other found isCall
      rw [calls] at isCall
      rcases get_set here isCall with ⟨rfl, rfl⟩ | ⟨distinct, old⟩
      · exact next.sound (whole.sound other call here)
      · cases found with
        | inside asset body =>
          refine Body.Sound.same ?_ (whole.sound other _ old)
          intro name own
          exact next.others name (unchanged_for_others whole distinct here old own)
        | _ => trivial
    · simp [Action.requests, calls, whole.count]
    · intro other asked found isRequest isCall
      simp only [Action.requests, List.append_nil] at isRequest
      rw [calls] at isCall
      rcases get_set here isCall with ⟨rfl, rfl⟩ | ⟨_, old⟩
      · exact next.declared asked (whole.declared other asked call isRequest here)
      · exact whole.declared other asked found isRequest old

/-! ## The reservations of a store -/

/-- What is reserved beyond the downloads in progress. -/
def Store.lost (store : Store) : Int := store.cache.reservedBytes - store.inProgress

theorem Call.held_nonneg (call : Call) : 0 ≤ call.held := by
  cases call with
  | inside asset body =>
    have positive := asset.positive
    show 0 ≤ body.held asset
    unfold Body.held
    split <;> omega
  | _ => exact Int.le_refl 0

theorem held_le {store : Store} {caller : Nat} {call : Call}
    (here : store.calls[caller]? = some call) (enough : 0 ≤ store.lost) :
    call.held ≤ store.cache.reservedBytes := by
  have member : call.held ∈ store.calls.map Call.held :=
    List.mem_map_of_mem (List.mem_of_getElem? here)
  have part : call.held ≤ store.inProgress := by
    apply List.single_le_sum _ _ member
    intro held isHeld
    obtain ⟨other, _, rfl⟩ := List.mem_map.mp isHeld
    exact other.held_nonneg
  unfold Store.lost at enough
  omega

/-- A step loses a reservation just when the path of a temporary file is not resolved. -/
theorem lost_step {requests : List Request} {store store' : Store} {action : Action}
    (whole : Whole sha256 requests store) (enough : 0 ≤ store.lost)
    (stepped : mediacache.step sha256 store action = some store') :
    ∃ loss, 0 ≤ loss ∧ (loss = 0 ↔ action.resolves = true) ∧
      store'.lost = store.lost + loss := by
  cases action with
  | call request =>
    cases stepped
    refine ⟨0, Int.le_refl 0, by simp [Action.resolves], ?_⟩
    simp [Store.lost, Store.inProgress, Call.held]
  | go caller event =>
    obtain ⟨call, call', here, calls, next⟩ := step_go whole.owns stepped
    obtain ⟨loss, nonneg, isLoss, balance⟩ := next.balance (held_le here enough)
    refine ⟨loss, nonneg, isLoss, ?_⟩
    unfold Store.lost Store.inProgress
    rw [calls, sum_set Call.held store.calls call' here]
    omega

/-- The run of a store. -/
theorem run_whole {actions : List Action} {requests : List Request} {store store' : Store}
    (whole : Whole sha256 requests store) (enough : 0 ≤ store.lost)
    (ran : run sha256 store actions = some store') :
    Whole sha256 (requests ++ actions.flatMap Action.requests) store' ∧
      ∃ loss, 0 ≤ loss ∧ (loss = 0 ↔ ∀ action ∈ actions, action.resolves = true) ∧
        store'.lost = store.lost + loss := by
  induction actions generalizing requests store with
  | nil =>
    cases ran
    refine ⟨by simpa using whole, 0, Int.le_refl 0, by simp, by omega⟩
  | cons action rest ih =>
    obtain ⟨next, stepped, ran⟩ := Option.bind_eq_some_iff.mp ran
    obtain ⟨loss, nonneg, isLoss, balance⟩ := lost_step whole enough stepped
    obtain ⟨whole', loss', nonneg', isLoss', balance'⟩ :=
      ih (whole.step stepped) (by omega) ran
    refine ⟨by simpa using whole', loss + loss', by omega, ?_, by omega⟩
    rw [List.forall_mem_cons, ← isLoss, ← isLoss']
    omega

theorem whole_opened (files : Files) : Whole sha256 [] (opened files) := by
  refine ⟨?_, Or.inl rfl, ?_, rfl, ?_⟩ <;> intros <;> contradiction

/-- While a prune deletes, no step changes a file that it retains. -/
theorem retained_unchanged {requests : List Request} {store store' : Store} {action : Action}
    {caller : Nat} {retained left : List Name} (whole : Whole sha256 requests store)
    (pruning : store.calls[caller]? = some (.deleting (.prune retained) left))
    (stepped : mediacache.step sha256 store action = some store') {name : Name}
    (kept : name ∈ retained) : store'.cache.files.lookup name = store.cache.files.lookup name := by
  cases action with
  | call request =>
    cases stepped
    rfl
  | go other event =>
    obtain ⟨call, call', here, calls, next⟩ := step_go whole.owns stepped
    have writer := (whole.owns caller _ pruning).write rfl
    apply next.others
    cases call with
    | inside asset body =>
      have reader := (whole.owns other _ here).read rfl
      rcases whole.apart with free | none
      · rw [free] at writer
        cases writer
      · rw [none] at reader
        cases reader
    | deleting sweep left =>
      have same := writer.symm.trans ((whole.owns other _ here).write rfl)
      cases Option.some.inj same
      cases pruning.symm.trans here
      intro doomed
      replace doomed : (isFinalName name && !retained.contains name) = true := doomed
      simp [kept] at doomed
    | _ => exact id

/-! ## The laws -/

/-- Reservations are those of the downloads in progress just when each path of a temporary file
was resolved. Whatever happens, they are never negative, each one fits when it is granted, a call
returns only the file of its request with the declared size and digest, and no file that a prune
retains changes while it deletes. -/
theorem reservations_are_the_downloads_while_each_path_resolves (sha256 : Bytes → List Char)
    (files : Files) (actions : List Action) {store : Store}
    (ran : run sha256 (opened files) actions = some store) :
    0 ≤ store.cache.reservedBytes ∧
    (store.cache.reservedBytes = store.inProgress ↔
      ∀ action ∈ actions, action.resolves = true) ∧
    (∀ action store', step sha256 store action = some store' →
      store.cache.reservedBytes < store'.cache.reservedBytes →
      ∃ caller asset availableBytes totalBytes,
        action = .go caller (.stats availableBytes totalBytes) ∧
        store.calls[caller]? = some (.inside asset .reserving) ∧
        store'.calls[caller]? = some (.inside asset .reserved) ∧
        asset.sizeBytes ≤
          availableBytes - safetyReserve totalBytes - store.cache.reservedBytes) ∧
    (∀ (caller : Nat) asset file,
      store.calls[caller]? = some (.inside asset (.returning (.ok file))) →
      (∃ request, (actions.flatMap Action.requests)[caller]? = some request ∧
        request.Declares asset) ∧
      file = some asset.fileName ∧ Stored sha256 asset store.cache.files) ∧
    (∀ (caller : Nat) retained left,
      store.calls[caller]? = some (.deleting (.prune retained) left) →
      ∀ action store', step sha256 store action = some store' → ∀ name ∈ retained,
        store'.cache.files.lookup name = store.cache.files.lookup name) := by
  obtain ⟨whole, loss, nonneg, isLoss, balance⟩ := run_whole (whole_opened files) le_rfl ran
  rw [List.nil_append] at whole
  have enough : 0 ≤ store.lost := by
    have fresh : (opened files).lost = 0 := rfl
    omega
  have positive : 0 ≤ store.inProgress := by
    apply List.sum_nonneg
    intro held member
    obtain ⟨call, _, rfl⟩ := List.mem_map.mp member
    exact call.held_nonneg
  refine ⟨?_, ?_, ?_, ?_, ?_⟩
  · unfold Store.lost at enough
    omega
  · have fresh : (opened files).lost = 0 := rfl
    rw [← isLoss]
    unfold Store.lost at balance fresh
    omega
  · intro action store' stepped grows
    cases action with
    | call request =>
      cases stepped
      exact absurd grows (Int.lt_irrefl _)
    | go caller event =>
      obtain ⟨call, call', here, calls, next⟩ := step_go whole.owns stepped
      obtain ⟨asset, availableBytes, totalBytes, rfl, rfl, rfl, room⟩ :=
        next.fits (held_le here enough) grows
      refine ⟨caller, asset, availableBytes, totalBytes, rfl, here, ?_, room⟩
      rw [calls]
      exact List.getElem?_set_self (List.getElem?_eq_some_iff.mp here).choose
  · intro caller asset file returning
    have inRange := (List.getElem?_eq_some_iff.mp returning).choose
    rw [← whole.count] at inRange
    have isRequest := List.getElem?_eq_getElem inRange
    refine ⟨⟨_, isRequest, whole.declared caller _ _ isRequest returning⟩, ?_⟩
    exact whole.sound caller _ returning
  · intro caller retained left pruning action store' stepped name kept
    exact retained_unchanged whole pruning stepped kept

def poster : Asset where
  mimeType := "image/png".toList
  sha256 := List.replicate 64 'a'
  sizeBytes := 3
  extension := "png".toList
  known := by decide +kernel
  digest := by decide +kernel
  size := by decide +kernel

/-- A prefetch of the poster up to its reservation. -/
def reservation : List Action :=
  [.call (.prefetch poster), .go 0 .proceed, .go 0 .proceed, .go 0 (.child (.ok true)),
    .go 0 .proceed, .go 0 (.stats 4294967296 4294967296)]

theorem the_poster_is_reserved : ∃ store,
    run (fun _ => poster.sha256) (opened ∅) reservation = some store ∧
      store.cache.reservedBytes = 3 ∧ store.inProgress = 3 := by
  refine ⟨_, rfl, rfl, ?_⟩
  have law := reservations_are_the_downloads_while_each_path_resolves
    (fun _ => poster.sha256) ∅ reservation rfl
  refine (law.2.1.mpr ?_).symm
  intro action member
  simp only [reservation, List.mem_cons, List.not_mem_nil, or_false] at member
  rcases member with rfl | rfl | rfl | rfl | rfl | rfl <;> rfl

/-- The path of the temporary file cannot be resolved. No download runs, and the reservation
stays. -/
theorem a_reservation_is_lost :
    ¬ ∀ (sha256 : Bytes → List Char) (files : Files) (actions : List Action) (store : Store),
      run sha256 (opened files) actions = some store →
      store.cache.reservedBytes = store.inProgress := by
  intro every
  have same := every (fun _ => poster.sha256) ∅
    (reservation ++ [.go 0 (.temporary [] (.error .io))]) _ rfl
  cases same

end screengoblin.mediacache
