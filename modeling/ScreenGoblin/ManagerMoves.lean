-- What one segment of a call can do to the device, and what the segments of the
-- other calls leave alone. The two queues are locks: only the call at the head of the
-- state queue moves the slots, and only the head of the staging queue moves the cache.
import ScreenGoblin.ManifestManager

open js async

namespace screengoblin.player

/-! ## What the history says -/

/-- The last time that the call `n` read off the clock. -/
def lastReading (n : Nat) : List (Nat × Event) → Option Int
  | [] => none
  | (k, .read now) :: older => if k = n then some now else lastReading n older
  | _ :: older => lastReading n older

/-- The record that the call `n` verified last, and the reading of the clock that served it. -/
def lastVerification (n : Nat) : List (Nat × Event) → Option (ManifestTrust × Value × Int)
  | [] => none
  | (k, .verified trust envelope now) :: older =>
    if k = n then some (trust, envelope, now) else lastVerification n older
  | _ :: older => lastVerification n older

/-- The call `n` verified the record, and at its own reading of the clock it found `r`. -/
def Found (P : Platform) (n : Nat) (history : List (Nat × Event)) (trust : ManifestTrust)
    (envelope : Value) (r : Option Json) : Prop :=
  ∃ t, (n, Event.verified trust envelope t) ∈ history ∧
    verifySignedPlayerManifest P t envelope trust = r

def Event.isPrune : Event → Bool
  | .pruned _ => true
  | _ => false

/-- An event that changes a slot. -/
def Event.changesSlots : Event → Bool
  | .activated .. | .cleared _ | .clearedPrevious | .promoted .. => true
  | _ => false

/-- Nothing was collected since the call `n` fetched its first asset. -/
def Undisturbed (n : Nat) (history : List (Nat × Event)) : Prop :=
  ∀ newer older name, history = newer ++ (n, .prefetched name) :: older →
    ∀ x ∈ newer, x.2.isPrune = false

def InCache (P : Platform) (s : Device) (item : Json) : Prop :=
  ∃ name, P.cacheKey item = some name ∧ name ∈ s.cache

/-- Each item of the manifest is in the cache. -/
def Cached (P : Platform) (manifest : Value) (s : Device) : Prop :=
  ∀ item ∈ manifestItems manifest, InCache P s item

/-- The candidate may take the place of this record: there is none, or the call found it to be
a release that the candidate is neither older than nor ambiguous with. -/
def MayReplace (P : Platform) (n : Nat) (history : List (Nat × Event)) (trust : ManifestTrust)
    (envelope replaced : Value) : Prop :=
  replaced.truthy = false ∨ ∃ active, Found P n history trust replaced (some active) ∧
    isOlder P (view envelope) (some active) = false ∧
    isAmbiguous P (view envelope) (some active) = false

/-- A manifest that the call `n` may give back at `now`, once it has logged this history. -/
structure Fit (P : Platform) (n : Nat) (history : List (Nat × Event)) (trust : ManifestTrust)
    (envelope : Value) (manifest : Json) (now : Int) : Prop where
  found : Found P n history trust envelope (some manifest)
  notWithdrawn : isWithdrawn (some manifest) = false
  notEnded : hasEnded P now (some manifest) = false

/-- Why a call may clear the previous slot: the active release is a withdrawal, or one of the
two has ended. -/
def MayClearPrevious (P : Platform) (s : Device) : Prop :=
  isWithdrawn (view s.slots.active) = true ∨ hasEnded P s.clock (view s.slots.active) = true ∨
    hasEnded P s.clock (view s.slots.previous) = true

/-- The two records that a collection has read still cover the slots, but for an active
release that has ended. -/
structure Retains (P : Platform) (active previous : Value) (s : Device) : Prop where
  keepsPrevious : s.slots.previous = previous ∨ s.slots.previous = none
  keepsActive : s.slots.active = active ∨ s.slots.active = previous ∨ s.slots.active = none ∨
    hasEnded P s.clock (view s.slots.active) = true

theorem Found.mono {P : Platform} {n : Nat} {h h' : List (Nat × Event)} {trust : ManifestTrust}
    {envelope : Value} {r : Option Json} (hf : Found P n h trust envelope r) (hh : h ⊆ h') :
    Found P n h' trust envelope r := by
  obtain ⟨t, hmem, hv⟩ := hf
  exact ⟨t, hh hmem, hv⟩

theorem Fit.mono {P : Platform} {n : Nat} {h h' : List (Nat × Event)} {trust : ManifestTrust}
    {envelope : Value} {manifest : Json} {now : Int} (hf : Fit P n h trust envelope manifest now)
    (hh : h ⊆ h') : Fit P n h' trust envelope manifest now :=
  ⟨hf.found.mono hh, hf.notWithdrawn, hf.notEnded⟩

/-! ## The moves of a call -/

/-- What a segment of the call `n` can do once the clock is read. With a `steady` clock the
guards speak about the present reading too. -/
inductive Act (P : Platform) (steady : Bool) (n : Nat) (s : Device) : Device → Prop where
  | looks : Act P steady n s s
  | reads : Act P steady n s (s.log n (.read s.clock))
  | verifies (trust : ManifestTrust) (envelope : Value) :
    Act P steady n s (s.log n (.verified trust envelope s.clock))
  | cancels : Act P steady n s { s with stagingGeneration := s.stagingGeneration + 1 }
  | joinsState : Act P steady n s { s with stateQueue := s.stateQueue ++ [n] }
  | leavesState (turn : s.stateQueue.head? = some n) :
    Act P steady n s { s with stateQueue := s.stateQueue.tail }
  | joinsStaging : Act P steady n s { s with stagingQueue := s.stagingQueue ++ [n] }
  | leavesStaging (turn : s.stagingQueue.head? = some n) :
    Act P steady n s { s with stagingQueue := s.stagingQueue.tail }
  | activates (trust : ManifestTrust) (envelope : Value)
    (turn : s.stateQueue.head? = some n) (staging : s.stagingQueue.head? = some n)
    (verified : ∃ manifest, Found P n s.history trust envelope (some manifest))
    (mayReplace : MayReplace P n s.history trust envelope s.slots.active)
    (cached : steady = true → playbackEnded P s.clock (view envelope) = false →
      Cached P (view envelope) s)
    (undisturbed : Undisturbed n s.history) :
    Act P steady n s ({ s with slots := s.slots.activateManifest envelope }.log n
      (.activated trust envelope s.slots.active s.clock))
  | clears (turn : s.stateQueue.head? = some n) :
    Act P steady n s ({ s with slots := ⟨none, none⟩ }.log n (.cleared s.slots.active))
  | clearsPrevious (turn : s.stateQueue.head? = some n)
    (mayClear : steady = true → MayClearPrevious P s) :
    Act P steady n s ({ s with slots := { s.slots with previous := none } }.log n .clearedPrevious)
  | keepsPrevious (turn : s.stateQueue.head? = some n) :
    Act P steady n s (s.log n .clearedPrevious)
  | promotes (trust : ManifestTrust) (turn : s.stateQueue.head? = some n)
    (active : ∃ a, Found P n s.history trust s.slots.active (some a))
    (previous : ∃ p, Found P n s.history trust s.slots.previous (some p) ∧
      isWithdrawn (some p) = false) :
    Act P steady n s ({ s with slots := { s.slots with active := s.slots.previous } }.log n
      (.promoted trust s.slots.previous s.slots.active))
  | returns (trust : ManifestTrust) (manifest : Json) (now : Int)
    (turn : s.stateQueue.head? = some n)
    (fit : Fit P n s.history trust s.slots.active manifest now)
    (reading : lastReading n s.history = some now) :
    Act P steady n s (s.log n (.returned trust s.slots.active manifest now))
  | prefetches (asset : Json) (staging : s.stagingQueue.head? = some n) :
    Act P steady n s (s.prefetched P n asset)
  | prunes (active previous : Value) (assets : List Value) (retained : List String)
    (staging : s.stagingQueue.head? = some n)
    (read : retainedAssets [active, previous] = some assets)
    (named : retainedNames P assets = some retained)
    (retains : steady = true → Retains P active previous s) :
    Act P steady n s (s.pruned n retained)

/-- What a segment of the call `n` can do. -/
def Moves (P : Platform) (steady : Bool) (n : Nat) (s s' : Device) : Prop :=
  ∃ now, (steady = true → s.clock ≤ now) ∧ Act P steady n (s.tick now) s'

/-- The calls are numbered as they arrive, and only they have written the history. -/
def Numbered (n : Nat) (s : Device) : Prop := ∀ x ∈ s.history, x.1 < n

/-! ## What a call can count on -/

theorem head_append {l : List Nat} {n m : Nat} (h : l.head? = some n) :
    (l ++ [m]).head? = some n := by
  cases l with
  | nil => cases h
  | cons x xs => exact h

/-- What a segment of the call `m` leaves to the call `n`. -/
structure Leaves (n m : Nat) (s s' : Device) : Prop where
  clock : s'.clock = s.clock
  history : s'.history = s.history ∨ ∃ e, s'.history = (m, e) :: s.history
  state : s.stateQueue.head? = some n → s'.stateQueue.head? = some n ∧ s'.slots = s.slots
  staging : s.stagingQueue.head? = some n → s'.stagingQueue.head? = some n ∧
    s'.cache = s.cache ∧ ∀ e, s'.history = (m, e) :: s.history → e.isPrune = false

variable {P : Platform} {steady : Bool} {n m : Nat} {s s' : Device}

theorem head_other (hm : m ≠ n) {l : List Nat} (h : l.head? = some n) (h' : l.head? = some m) :
    False := hm (Option.some.inj (h'.symm.trans h))

theorem cons_ne_self {α : Type} {x : α} {l : List α} : l ≠ x :: l := by
  intro h
  have := congrArg List.length h
  simp at this

theorem Leaves.remembers (h : Leaves n m s s') : s.history ⊆ s'.history := by
  rcases h.history with hh | ⟨e, hh⟩
  · rw [hh]; exact List.Subset.refl _
  · rw [hh]; exact List.subset_cons_self _ _

/-- A segment that changes neither queue, slots nor cache. -/
theorem leaves_log {e : Event} (he : e.isPrune = false) : Leaves n m s (s.log m e) where
  clock := rfl
  history := Or.inr ⟨e, rfl⟩
  state h := ⟨h, rfl⟩
  staging h := by
    refine ⟨h, rfl, fun e' heq => ?_⟩
    simp only [Device.log, List.cons.injEq, Prod.mk.injEq, true_and, and_true] at heq
    exact heq ▸ he

/-- A segment of the head of the state queue that moves the slots. -/
theorem leaves_slots {e : Event} {slots : Slots} (hm : m ≠ n) (he : e.isPrune = false)
    (turn : s.stateQueue.head? = some m) :
    Leaves n m s ({ s with slots := slots }.log m e) where
  clock := rfl
  history := Or.inr ⟨e, rfl⟩
  state h := (head_other hm h turn).elim
  staging h := by
    refine ⟨h, rfl, fun e' heq => ?_⟩
    simp only [Device.log, List.cons.injEq, Prod.mk.injEq, true_and, and_true] at heq
    exact heq ▸ he

/-- A segment that logs nothing and moves neither slots nor cache. -/
theorem leaves_queues {state staging : List Nat} {generation : Nat}
    (hstate : s.stateQueue.head? = some n → state.head? = some n)
    (hstaging : s.stagingQueue.head? = some n → staging.head? = some n) :
    Leaves n m s { s with stateQueue := state, stagingQueue := staging,
                          stagingGeneration := generation } where
  clock := rfl
  history := Or.inl rfl
  state h := ⟨hstate h, rfl⟩
  staging h := ⟨hstaging h, rfl, fun _ heq => absurd heq cons_ne_self⟩

theorem act_leaves (hm : m ≠ n) (h : Act P steady m s s') : Leaves n m s s' := by
  cases h with
  | looks | cancels => exact leaves_queues id id
  | joinsState => exact leaves_queues head_append id
  | leavesState turn => exact leaves_queues (fun h => (head_other hm h turn).elim) id
  | joinsStaging => exact leaves_queues id head_append
  | leavesStaging turn => exact leaves_queues id fun h => (head_other hm h turn).elim
  | reads | verifies | keepsPrevious | returns => exact leaves_log rfl
  | activates trust envelope turn => exact leaves_slots hm rfl turn
  | clears turn => exact leaves_slots hm rfl turn
  | clearsPrevious turn => exact leaves_slots hm rfl turn
  | promotes trust turn => exact leaves_slots hm rfl turn
  | prefetches asset staging =>
    unfold Device.prefetched
    split
    · exact ⟨rfl, Or.inl rfl, fun h => ⟨h, rfl⟩, fun h => (head_other hm h staging).elim⟩
    · split
      · exact ⟨rfl, Or.inr ⟨_, rfl⟩, fun h => ⟨h, rfl⟩, fun h => (head_other hm h staging).elim⟩
      · exact ⟨rfl, Or.inl rfl, fun h => ⟨h, rfl⟩, fun h => (head_other hm h staging).elim⟩
  | prunes active previous assets retained staging =>
    exact ⟨rfl, Or.inr ⟨_, rfl⟩, fun h => ⟨h, rfl⟩, fun h => (head_other hm h staging).elim⟩

/-- No segment of another call breaks the assertion. -/
def Kept (P : Platform) (steady : Bool) (n : Nat) (A : Device → Prop) : Prop :=
  ∀ m s s', m ≠ n → Moves P steady m s s' → A s → A s'

theorem Kept.and {A B : Device → Prop} (hA : Kept P steady n A) (hB : Kept P steady n B) :
    Kept P steady n fun s => A s ∧ B s :=
  fun m s s' hm h hs => ⟨hA m s s' hm h hs.1, hB m s s' hm h hs.2⟩

theorem Kept.const (p : Prop) : Kept P steady n fun _ => p := fun _ _ _ _ _ h => h

theorem Kept.imp {p : Prop} {A : Device → Prop} (hA : p → Kept P steady n A) :
    Kept P steady n fun s => p → A s := fun m s s' hm h hs hp => hA hp m s s' hm h (hs hp)

/-- A reading of the clock is a segment that any call could run. -/
theorem Kept.tick {A : Device → Prop} (hA : Kept P steady n A) {now : Int}
    (hnow : steady = true → s.clock ≤ now) (h : A s) : A (s.tick now) :=
  hA (n + 1) s _ (by omega) ⟨now, hnow, .looks⟩ h

end screengoblin.player
