-- The state of the player that outlives a call (apps/player/src/core/storage.ts):
-- the two manifest slots with their transactions, the asset cache, and the
-- two promise queues of the manifest manager.
import ScreenGoblin.Async
import ScreenGoblin.PlayerManifest

open js async

namespace screengoblin.player

/-! ## The slots -/

/-- The records `active-manifest` and `previous-manifest`. A record holds any stored value. -/
structure Slots where
  active : Value
  previous : Value
  deriving DecidableEq

namespace Slots

def activateManifest (slots : Slots) (value : Value) : Slots :=
  let active := slots.active
  let sameRelease := Value.strictEq ((view active).get "version") ((view value).get "version")
  { active := value
    previous :=
      -- a withdrawal is a tombstone: it leaves nothing to roll back to
      if isWithdrawn (view value) then none
      else if !sameRelease && active.truthy && (view active).truthy &&
          !isEmergency (view active) && !isWithdrawn (view active) then active
      else slots.previous }

def clearPreviousManifest (slots : Slots) (expectedActiveVersion : Value) : Slots :=
  if expectedActiveVersion == none ||
      Value.strictEq ((view slots.active).get "version") expectedActiveVersion then
    { slots with previous := none }
  else slots

/-- What the transaction of `rollback` does. -/
inductive RollbackOutcome where
  | lostRace
  | tooLate
  | swapped
  deriving DecidableEq

def rollbackOutcome (slots : Slots) (now : Int) (expectedActiveVersion : Value)
    (eligibleUntilMs : Option Int) : RollbackOutcome :=
  if expectedActiveVersion != none &&
      !Value.strictEq ((view slots.active).get "version") expectedActiveVersion then .lostRace
  else if dateLe eligibleUntilMs (some now) then .tooLate
  else .swapped

/-- The slots after `rollback`. A swap keeps the record of the previous manifest. -/
def rollback (slots : Slots) : RollbackOutcome → Slots
  | .lostRace => slots
  | .tooLate => { slots with previous := none }
  | .swapped => { slots with active := if slots.previous.truthy then slots.previous else none }

/-- `resultingActive` of `rollback`. -/
def resultingActive (slots : Slots) : RollbackOutcome → Value
  | .lostRace => slots.active
  | .tooLate => none
  | .swapped => slots.previous

end Slots

/-! ## The asset cache -/

def isWeb (asset : Json) : Bool := Value.get (some asset) "kind" == some (.str "web")

/-- `manifest.manifest.items` of a stored record. It throws on a record without a view, and an
`items` that is no array counts as one element. -/
def recordItems (record : Value) : Option (List Value) :=
  match view record with
  | none | some .null => none
  | manifest => match manifest.get "items" with
    | some (.arr items) => some (items.map some)
    | other => some [other]

/-- `[active, previous].filter(Boolean).flatMap((manifest) => manifest.manifest.items)` -/
def retainedAssets (records : List Value) : Option (List Value) :=
  ((records.filter Value.truthy).mapM recordItems).map List.flatten

/-- The name of one asset in the cache. A web page has none. -/
def retainedName (P : Platform) (asset : Value) : Option (List String) :=
  match asset with
  | none | some .null => none
  | some a => if isWeb a then some [] else (P.cacheKey a).map fun name => [name]

/-- The names that `prune` keeps, or none when it throws on one of the assets. -/
def retainedNames (P : Platform) (assets : List Value) : Option (List String) :=
  (assets.mapM (retainedName P)).map List.flatten

/-! ## The device -/

/-- What a segment read off the clock or did to the slots or the cache, for the laws. `replaced`
is what the active slot held before. No code reads these. -/
inductive Event where
  | read (now : Int)
  | verified (trust : ManifestTrust) (envelope : Value) (now : Int)
  | activated (trust : ManifestTrust) (envelope replaced : Value) (now : Int)
  | cleared (replaced : Value)
  | clearedPrevious
  | promoted (trust : ManifestTrust) (envelope replaced : Value)
  | returned (trust : ManifestTrust) (envelope : Value) (manifest : Json) (now : Int)
  | prefetched (name : String)
  | pruned (retained : List String)
  deriving DecidableEq

structure Device where
  slots : Slots
  stagingGeneration : Nat
  /-- The calls on `stateTail`, the running one first. -/
  stateQueue : List Nat
  /-- The calls on `stagingTail`, the running one first. -/
  stagingQueue : List Nat
  /-- The names of the assets in the cache. -/
  cache : List String
  /-- The last reading of the clock. -/
  clock : Int
  /-- Which call did what, the newest first. -/
  history : List (Nat × Event)
  deriving DecidableEq

/-- What the world answers to one segment: the clock, whether a request succeeds, and which
of several running requests ends first. -/
structure Answer where
  now : Int
  ok : Bool := true
  pick : Nat := 0
  deriving DecidableEq

namespace Device

def tick (s : Device) (now : Int) : Device := { s with clock := now }

def log (s : Device) (me : Nat) (e : Event) : Device := { s with history := (me, e) :: s.history }

def joinState (me : Nat) (s : Device) (i : Answer) : Device :=
  { s with clock := i.now, stateQueue := s.stateQueue ++ [me] }

def leaveState (s : Device) (i : Answer) : Device :=
  { s with clock := i.now, stateQueue := s.stateQueue.tail }

def joinStaging (me : Nat) (s : Device) (i : Answer) : Device :=
  { s with clock := i.now, stagingQueue := s.stagingQueue ++ [me] }

def leaveStaging (s : Device) (i : Answer) : Device :=
  { s with clock := i.now, stagingQueue := s.stagingQueue.tail }

/-- The cache after `prefetch(asset)` resolved. -/
def prefetched (P : Platform) (me : Nat) (asset : Json) (s : Device) : Device :=
  if isWeb asset then s
  else match P.cacheKey asset with
    | some name => { s with cache := name :: s.cache }.log me (.prefetched name)
    | none => s

/-- The cache after `prune` kept these names. -/
def pruned (me : Nat) (retained : List String) (s : Device) : Device :=
  { s with cache := s.cache.filter retained.contains }.log me (.pruned retained)

end Device

/-! ## The requests of a call -/

abbrev Call (α : Type) := Prog Device Answer α

/-- A request to the store or to the cache. It may fail, and then it changes nothing. -/
def request {α : Type} (f : Device → α × Device) : Call α :=
  Prog.step fun s i =>
    if i.ok then (.ok (f (s.tick i.now)).1, (f (s.tick i.now)).2)
    else (.error "The request failed", s.tick i.now)

namespace Store

def getActiveManifest : Call Value := request fun s => (s.slots.active, s)

def getPreviousManifest : Call Value := request fun s => (s.slots.previous, s)

def activateManifest (me : Nat) (trust : ManifestTrust) (value : Value) : Call Unit :=
  request fun s => ((), { s with slots := s.slots.activateManifest value }.log me
    (.activated trust value s.slots.active s.clock))

def clearManifests (me : Nat) : Call Unit :=
  request fun s => ((), { s with slots := ⟨none, none⟩ }.log me (.cleared s.slots.active))

def clearPreviousManifest (me : Nat) (expectedActiveVersion : Value) : Call Unit :=
  request fun s =>
    ((), { s with slots := s.slots.clearPreviousManifest expectedActiveVersion }.log me
      .clearedPrevious)

def rollback (me : Nat) (trust : ManifestTrust) (expectedActiveVersion : Value)
    (eligibleUntilMs : Option Int) : Call Value :=
  request fun s =>
    let outcome := s.slots.rollbackOutcome s.clock expectedActiveVersion eligibleUntilMs
    let s' := { s with slots := s.slots.rollback outcome }
    (s.slots.resultingActive outcome,
      match outcome with
      | .lostRace => s'
      | .tooLate => s'.log me .clearedPrevious
      | .swapped => s'.log me (.promoted trust s.slots.previous s.slots.active))

end Store

/-- `assets.prune(retainedAssets)`, which fails on an asset that it cannot name. -/
def pruneAssets (P : Platform) (me : Nat) (assets : List Value) : Call Unit :=
  match retainedNames P assets with
  | none => Prog.fail "An asset has no name in the cache"
  | some retained => request fun s => ((), s.pruned me retained)

/-! ## What the transactions keep -/

/-- The previous slot takes only what was active, and never an emergency or a withdrawal. -/
theorem activate_previous (slots : Slots) (value : Value) :
    let previous := (slots.activateManifest value).previous
    previous = none ∨ previous = slots.previous ∨
      previous = slots.active ∧ slots.active.truthy = true ∧
        isEmergency (view slots.active) = false ∧ isWithdrawn (view slots.active) = false := by
  simp only [Slots.activateManifest]
  split
  · exact Or.inl rfl
  · split
    · rename_i h
      simp only [Bool.and_eq_true, Bool.not_eq_true'] at h
      exact Or.inr (Or.inr ⟨rfl, h.1.1.1.2, h.1.2, h.2⟩)
    · exact Or.inr (Or.inl rfl)

theorem activate_withdrawn {slots : Slots} {value : Value} (h : isWithdrawn (view value) = true) :
    slots.activateManifest value = ⟨value, none⟩ := by
  simp [Slots.activateManifest, h]

theorem clearPrevious_or_same (slots : Slots) (version : Value) :
    slots.clearPreviousManifest version = { slots with previous := none } ∨
      slots.clearPreviousManifest version = slots := by
  unfold Slots.clearPreviousManifest
  split
  · exact Or.inl rfl
  · exact Or.inr rfl

end screengoblin.player
