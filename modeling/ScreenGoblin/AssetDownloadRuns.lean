-- The runs of the asset cache: there is one operation for a key at a time, each entry that appears
-- is verified, and what is taken is given back.
import ScreenGoblin.AssetDownloadLaws

namespace screengoblin.assets

variable {config : Config}

/-! ## The keys -/

/-- An operation is registered under its key until its `finally` has run. -/
structure Keys (s : State) : Prop where
  registered : ∀ (i : Nat) (operation : Operation), s.operations[i]? = some operation →
    operation.removed = false → s.inFlight (cacheKey operation.asset) = some i
  owner : ∀ key i, s.inFlight key = some i → ∃ operation, s.operations[i]? = some operation ∧
    cacheKey operation.asset = key ∧ operation.removed = false
  going : ∀ (i : Nat) (operation : Operation), s.operations[i]? = some operation →
    operation.phase.settled = false → operation.removed = false

section

variable {s : State} {i j : Nat} {operation : Operation}

/-- Two operations that are registered have different keys. -/
theorem Keys.single (keys : Keys s) {other : Operation} (at_ : s.operations[i]? = some operation)
    (at' : s.operations[j]? = some other) (here : operation.removed = false)
    (there : other.removed = false) (same : cacheKey operation.asset = cacheKey other.asset) :
    i = j := by
  have first := keys.registered i operation at_ here
  have second := keys.registered j other at' there
  rw [same, second] at first
  exact (Option.some.inj first).symm

theorem Keys.setPhase (keys : Keys s) (at_ : s.operations[i]? = some operation)
    (going : operation.phase.settled = false) (phase : Phase) : Keys (s.setPhase i phase) := by
  refine ⟨?_, ?_, ?_⟩
  · intro j other found notRemoved
    rw [get_setPhase phase at_] at found
    split at found
    · rename_i same
      subst same
      cases found
      exact keys.registered i operation at_ notRemoved
    · exact keys.registered j other found notRemoved
  · intro key j isOwner
    obtain ⟨other, found, isKey, notRemoved⟩ := keys.owner key j isOwner
    rw [get_setPhase phase at_]
    split
    · rename_i same
      subst same
      rw [at_] at found
      cases found
      exact ⟨_, rfl, isKey, notRemoved⟩
    · exact ⟨other, found, isKey, notRemoved⟩
  · intro j other found notSettled
    rw [get_setPhase phase at_] at found
    split at found
    · cases found
      exact keys.going i operation at_ going
    · exact keys.going j other found notSettled

theorem Keys.releaseSlot (keys : Keys s) {spare : Int} (slots : Slots config spare s) :
    Keys s.releaseSlot := by
  unfold State.releaseSlot
  split
  · rename_i next rest isQueue
    obtain ⟨waiter, at_, waits⟩ := (slots.members next).mp (isQueue ▸ List.mem_cons_self)
    have same : Keys { s with downloadWaiters := rest } :=
      ⟨keys.registered, keys.owner, keys.going⟩
    exact same.setPhase at_ (by rw [waits]; rfl) .opening
  · exact ⟨keys.registered, keys.owner, keys.going⟩

/-! ## The entries -/

structure Contents (config : Config) (s : State) : Prop where
  empty : ∀ later, s.current < later → ∀ key, s.entries later key = none
  own : ∀ (i : Nat) (operation : Operation), s.operations[i]? = some operation →
    operation.removed = false →
    PhaseOk config s.current s.entries operation.asset operation.phase

/-- The entries of an operation change, and those of the others stay. -/
theorem Contents.setPhase (contents : Contents config s) (keys : Keys s)
    (at_ : s.operations[i]? = some operation) {phase : Phase}
    {entries : Nat → Key → Option Entry} (moves : Moves config s operation phase entries) :
    Contents config ({ s with entries := entries }.setPhase i phase) := by
  refine ⟨?_, ?_⟩
  · intro later after key
    have before := contents.empty later after key
    rcases moves.own later key with same | ⟨-, le⟩
    · exact same.trans before
    · exact absurd after (Nat.not_lt_of_ge le)
  · intro j other found notRemoved
    have here := keys.going i operation at_ (Phase.settled_of_holds moves.holds)
    rw [get_setPhase (s := { s with entries := entries }) phase at_] at found
    split at found
    · cases found
      exact moves.ok
    · rename_i apart
      apply (contents.own j other found notRemoved).fewer (Nat.le_refl _)
      intro cache entry isEntry
      rcases moves.own cache (cacheKey other.asset) with same | ⟨same, -⟩
      · exact same.symm.trans isEntry
      · exact absurd (keys.single at_ found here notRemoved same.symm) apart

theorem Contents.releaseSlot (contents : Contents config s) {spare : Int}
    (slots : Slots config spare s) : Contents config s.releaseSlot := by
  unfold State.releaseSlot
  split
  · rename_i next rest isQueue
    obtain ⟨waiter, at_, -⟩ := (slots.members next).mp (isQueue ▸ List.mem_cons_self)
    refine ⟨contents.empty, ?_⟩
    intro j other found notRemoved
    rw [get_setPhase (s := { s with downloadWaiters := rest }) .opening at_] at found
    split at found
    · cases found
      trivial
    · exact contents.own j other found notRemoved
  · exact ⟨contents.empty, contents.own⟩

/-- Some entries are removed, or the browser has a new cache. -/
theorem Contents.fewer (contents : Contents config s) {current : Nat}
    {entries : Nat → Key → Option Entry} (grows : s.current ≤ current)
    (fewer : ∀ cache key entry, entries cache key = some entry → s.entries cache key = some entry) :
    Contents config { s with entries := entries, current := current } := by
  refine ⟨?_, ?_⟩
  · intro later after key
    by_contra found
    obtain ⟨entry, isEntry⟩ := Option.ne_none_iff_exists'.mp found
    have before := fewer later key entry isEntry
    rw [contents.empty later (Nat.lt_of_le_of_lt grows after) key] at before
    cases before
  · intro j other found notRemoved
    exact (contents.own j other found notRemoved).fewer grows fun cache entry =>
      fewer cache _ entry

end

/-! ## Steps -/

structure Inv (config : Config) (s : State) : Prop where
  slots : Slots config 0 s
  budget : Budget config 0 s
  keys : Keys s
  contents : Contents config s

theorem inv_start (persisted : Key → Option Entry) : Inv config (start persisted) := by
  have positive := config.concurrent
  have aggregate := config.aggregate
  refine ⟨⟨rfl, ?_, List.Pairwise.nil, ?_, ?_, ?_⟩, ⟨rfl, ?_, ?_⟩, ⟨?_, ?_, ?_⟩, ⟨?_, ?_⟩⟩
  · show (0 : Int) ≤ _
    omega
  · simp [start]
  · intro some_
    exact absurd rfl some_
  · intro i waits
    cases waits
  · show (0 : Int) ≤ _
    omega
  · intro i operation found
    cases found
  · intro i operation found
    cases found
  · intro key i isOwner
    cases isOwner
  · intro i operation found
    cases found
  · intro later after key
    exact if_neg (Nat.ne_of_gt after)
  · intro i operation found
    cases found

/-- The entries that appear are those of an operation that has verified them. -/
def Writes (config : Config) (s s' : State) : Prop :=
  ∀ cache key entry, s'.entries cache key = some entry → s.entries cache key = some entry ∨
    ∃ operation ∈ s.operations, cacheKey operation.asset = key ∧ Fits config operation.asset entry

theorem settle_entries (i : Nat) (asset : PlayerAsset) (phase : Phase) (s : State) :
    (s.settle i asset phase).entries = s.entries := by
  unfold State.settle State.releaseReservation State.releaseSlot
  dsimp only
  split <;> rfl

section

variable {s s' : State} {i : Nat} {operation : Operation}

theorem Inv.moved (inv : Inv config s) (at_ : s.operations[i]? = some operation) {phase : Phase}
    {entries : Nat → Key → Option Entry} (moves : Moves config s operation phase entries) :
    Inv config (moved i operation.asset phase entries s) := by
  have going := Phase.settled_of_holds moves.holds
  have notWaiting : phase ≠ .waiting := by
    rintro rfl
    rcases moves.next with holds | settled
    · cases holds
    · cases settled
  have slots : Slots config 0 { s with entries := entries } :=
    ⟨inv.slots.count, inv.slots.bound, inv.slots.sorted, inv.slots.members, inv.slots.wakeup,
      inv.slots.fifo⟩
  have budget : Budget config 0 { s with entries := entries } :=
    ⟨inv.budget.total, inv.budget.room, inv.budget.sizes⟩
  have keys : Keys { s with entries := entries } :=
    ⟨inv.keys.registered, inv.keys.owner, inv.keys.going⟩
  have slots := slots.setPhase at_ moves.holds notWaiting
  have budget := budget.setPhase at_ going phase
  have keys := keys.setPhase at_ going phase
  have contents := inv.contents.setPhase inv.keys at_ moves
  unfold assets.moved
  split
  · rename_i holds
    have one : slot { operation with phase := phase } = 1 := if_pos holds
    have all : reserved { operation with phase := phase } = operation.asset.sizeBytes := by
      unfold reserved
      dsimp only
      rw [Phase.settled_of_holds holds]
      rfl
    rw [one] at slots
    rw [all, Int.sub_self] at budget
    exact ⟨slots, budget, keys, contents⟩
  · rename_i noSlot
    have settled := moves.next.resolve_left noSlot
    have zero : slot { operation with phase := phase } = 0 := if_neg noSlot
    have none : reserved { operation with phase := phase } = 0 := if_pos settled
    have notRefused : operation.phase ≠ .refused := by
      intro isRefused
      rw [isRefused] at going
      cases going
    rw [zero] at slots
    rw [none, Int.zero_add, Int.sub_zero] at budget
    have released := slots.releaseSlot
    have returned := (budget.releaseSlot slots).releaseReservation
      (inv.budget.sizes i operation at_ notRefused)
    have keys := keys.releaseSlot slots
    have contents := contents.releaseSlot slots
    exact ⟨⟨released.count, released.bound, released.sorted, released.members, released.wakeup,
      released.fifo⟩, returned, ⟨keys.registered, keys.owner, keys.going⟩,
      ⟨contents.empty, contents.own⟩⟩

theorem moved_entries (i : Nat) (asset : PlayerAsset) (phase : Phase)
    (entries : Nat → Key → Option Entry) (s : State) :
    (moved i asset phase entries s).entries = entries := by
  unfold moved
  split
  · rfl
  · exact settle_entries _ _ _ _

theorem Inv.turned (inv : Inv config s) (at_ : s.operations[i]? = some operation)
    (notRemoved : operation.removed = false) {answer : Answer}
    (turned : turn config i operation.asset s operation.phase answer = some s') :
    Inv config s' ∧ Writes config s s' := by
  obtain ⟨phase, entries, moves, rfl⟩ := turn_turned inv.contents.empty
    (inv.contents.own i operation at_ notRemoved) turned
  refine ⟨inv.moved at_ moves, ?_⟩
  intro cache key entry found
  rw [moved_entries] at found
  rcases moves.own cache key with same | ⟨rfl, -⟩
  · rw [same] at found
    exact .inl found
  · rcases moves.writes cache _ entry found with before | fits
    · exact .inl before
    · exact .inr ⟨operation, List.mem_of_getElem? at_, rfl, fits⟩

/-! ## Calls -/

/-- The operation of a new call. -/
theorem prefetchOnce_adds (asset : PlayerAsset) (s : State) :
    ∃ new : Operation, (prefetchOnce config asset s).operations = s.operations ++ [new] ∧
      new.asset = asset ∧ new.removed = false ∧
      (∀ current entries, PhaseOk config current entries asset new.phase) ∧
      (prefetchOnce config asset s).inFlight = s.inFlight ∧
      (prefetchOnce config asset s).entries = s.entries ∧
      (prefetchOnce config asset s).current = s.current := by
  unfold prefetchOnce
  split
  · exact ⟨_, rfl, rfl, rfl, fun _ _ => trivial, rfl, rfl, rfl⟩
  dsimp only
  split
  · exact ⟨_, rfl, rfl, rfl, fun _ _ => trivial, rfl, rfl, rfl⟩
  · exact ⟨_, rfl, rfl, rfl, fun _ _ => trivial, rfl, rfl, rfl⟩

theorem Inv.prefetch (inv : Inv config s) (asset : PlayerAsset) :
    Inv config (prefetch config asset s) ∧ (prefetch config asset s).entries = s.entries := by
  unfold assets.prefetch
  split
  · exact ⟨inv, rfl⟩
  dsimp only
  split
  · exact ⟨⟨⟨inv.slots.count, inv.slots.bound, inv.slots.sorted, inv.slots.members,
      inv.slots.wakeup, inv.slots.fifo⟩, ⟨inv.budget.total, inv.budget.room, inv.budget.sizes⟩,
      ⟨inv.keys.registered, inv.keys.owner, inv.keys.going⟩,
      ⟨inv.contents.empty, inv.contents.own⟩⟩, rfl⟩
  rename_i isFree
  obtain ⟨new, operations, rfl, notRemoved, ok, inFlight, entries, current⟩ :=
    @prefetchOnce_adds config asset s
  have slots := inv.slots.prefetchOnce new.asset
  have budget := inv.budget.prefetchOnce new.asset
  refine ⟨⟨⟨slots.count, slots.bound, slots.sorted, slots.members, slots.wakeup, slots.fifo⟩,
    ⟨budget.total, budget.room, budget.sizes⟩, ⟨?_, ?_, ?_⟩, ⟨?_, ?_⟩⟩, entries⟩
  · intro j other found there
    dsimp only at found ⊢
    rw [operations, get_append] at found
    split at found
    · rename_i same
      cases found
      rw [if_pos rfl, same]
    · rw [if_neg, inFlight]
      · exact inv.keys.registered j other found there
      · intro same
        have before := inv.keys.registered j other found there
        rw [same, isFree] at before
        cases before
  · intro key j isOwner
    dsimp only at isOwner ⊢
    rw [operations, get_append]
    split at isOwner
    · rename_i same
      cases isOwner
      rw [if_pos rfl]
      exact ⟨new, rfl, same.symm, notRemoved⟩
    · rw [inFlight] at isOwner
      obtain ⟨other, found, isKey, there⟩ := inv.keys.owner key j isOwner
      have inside := (List.getElem?_eq_some_iff.mp found).1
      rw [if_neg (Nat.ne_of_lt inside)]
      exact ⟨other, found, isKey, there⟩
  · intro j other found notSettled
    dsimp only at found
    rw [operations, get_append] at found
    split at found
    · cases found
      exact notRemoved
    · exact inv.keys.going j other found notSettled
  · intro later after key
    dsimp only at after ⊢
    rw [current] at after
    rw [entries]
    exact inv.contents.empty later after key
  · intro j other found there
    dsimp only at found ⊢
    rw [operations, get_append] at found
    rw [current, entries]
    split at found
    · cases found
      exact ok _ _
    · exact inv.contents.own j other found there

/-! ## The end of a call -/

theorem get_removed {s : State} {i : Nat} {operation : Operation}
    (at_ : s.operations[i]? = some operation) (j : Nat) :
    (s.operations.modify i fun operation => { operation with removed := true })[j]? =
      if i = j then some { operation with removed := true } else s.operations[j]? := by
  rw [List.getElem?_modify]
  split
  · rename_i same
    subst same
    rw [at_]
    rfl
  · simp


theorem Slots.remove (slots : Slots config 0 s) (at_ : s.operations[i]? = some operation)
    (settled : operation.phase.settled = true) {inFlight : Key → Option Nat} :
    Slots config 0 { s with
      operations := s.operations.modify i fun operation => { operation with removed := true },
      inFlight := inFlight } := by
  have notWaiting : operation.phase ≠ .waiting := by
    intro waits
    rw [waits] at settled
    cases settled
  refine ⟨?_, slots.bound, slots.sorted, ?_, slots.wakeup, ?_⟩
  · have sum := sum_modify slot (fun operation => { operation with removed := true })
      s.operations at_
    have same : slot { operation with removed := true } = slot operation := rfl
    have count := slots.count
    show s.activeDownloads = ((s.operations.modify i _).map slot).sum + 0
    omega
  · intro j
    show j ∈ s.downloadWaiters ↔ _
    rw [slots.members, get_removed at_]
    split
    · rename_i same
      subst same
      simp [at_, notWaiting]
    · rfl
  · intro j waits k other after found
    rw [get_removed at_] at found
    split at found
    · rename_i same
      subst same
      cases found
      exact slots.fifo j waits i operation after at_
    · exact slots.fifo j waits k other after found

theorem Budget.remove (budget : Budget config 0 s) (at_ : s.operations[i]? = some operation)
    {inFlight : Key → Option Nat} :
    Budget config 0 { s with
      operations := s.operations.modify i fun operation => { operation with removed := true },
      inFlight := inFlight } := by
  refine ⟨?_, budget.room, ?_⟩
  · have sum := sum_modify reserved (fun operation => { operation with removed := true })
      s.operations at_
    have same : reserved { operation with removed := true } = reserved operation := rfl
    have total := budget.total
    show s.reservedBytes = ((s.operations.modify i _).map reserved).sum + 0
    omega
  · intro j other found notRefused
    rw [get_removed at_] at found
    split at found
    · cases found
      exact budget.sizes i operation at_ notRefused
    · exact budget.sizes j other found notRefused

theorem Inv.finallyRemove (inv : Inv config s) (at_ : s.operations[i]? = some operation)
    (removes : finallyRemove i operation s = some s') :
    Inv config s' ∧ s'.entries = s.entries := by
  unfold assets.finallyRemove at removes
  split at removes
  case isFalse => cases removes
  rename_i done
  simp only [Bool.and_eq_true, Bool.not_eq_true'] at done
  obtain ⟨settled, notRemoved⟩ := done
  have here := inv.keys.registered i operation at_ notRemoved
  dsimp only at removes
  rw [if_pos here] at removes
  cases removes
  refine ⟨⟨inv.slots.remove at_ settled, inv.budget.remove at_, ⟨?_, ?_, ?_⟩,
    ⟨inv.contents.empty, ?_⟩⟩, rfl⟩
  · intro j other found there
    rw [get_removed at_] at found
    split at found
    · cases found
      cases there
    · rename_i apart
      dsimp only
      rw [if_neg]
      · exact inv.keys.registered j other found there
      · intro same
        exact apart (inv.keys.single at_ found notRemoved there same.symm)
  · intro key j isOwner
    dsimp only at isOwner
    split at isOwner
    · cases isOwner
    · rename_i otherKey
      obtain ⟨other, found, isKey, there⟩ := inv.keys.owner key j isOwner
      rw [get_removed at_]
      split
      · rename_i same
        subst same
        rw [at_] at found
        cases found
        exact absurd isKey.symm otherKey
      · exact ⟨other, found, isKey, there⟩
  · intro j other found notSettled
    rw [get_removed at_] at found
    split at found
    · cases found
      rw [settled] at notSettled
      cases notSettled
    · exact inv.keys.going j other found notSettled
  · intro j other found there
    rw [get_removed at_] at found
    split at found
    · cases found
      cases there
    · exact inv.contents.own j other found there

theorem turn_settled {asset : PlayerAsset} {phase : Phase} {answer : Answer}
    (settled : phase.settled = true) : turn config i asset s phase answer = none := by
  cases phase with
  | resolved cache => rfl
  | rejected message => rfl
  | refused => rfl
  | _ => cases settled

theorem Writes.same (same : s'.entries = s.entries) : Writes config s s' := by
  intro cache key entry found
  rw [same] at found
  exact .inl found

theorem step_inv {event : Event} (inv : Inv config s) (stepped : step config s event = some s') :
    Inv config s' ∧ Writes config s s' := by
  cases event with
  | prefetch asset =>
    cases stepped
    obtain ⟨inv', same⟩ := inv.prefetch asset
    exact ⟨inv', .same same⟩
  | turn i answer =>
    obtain ⟨operation, at_, turned⟩ := Option.bind_eq_some_iff.mp stepped
    apply inv.turned at_ _ turned
    apply inv.keys.going i operation at_
    rw [Bool.eq_false_iff]
    intro settled
    rw [turn_settled settled] at turned
    cases turned
  | remove i =>
    obtain ⟨operation, at_, removes⟩ := Option.bind_eq_some_iff.mp stepped
    obtain ⟨inv', same⟩ := inv.finallyRemove at_ removes
    exact ⟨inv', .same same⟩
  | delete cache key =>
    cases stepped
    have fewer (cache' : Nat) (key' : Key) (entry : Entry)
        (found : (s.setEntry cache key none).entries cache' key' = some entry) :
        s.entries cache' key' = some entry := by
      unfold State.setEntry at found
      dsimp only at found
      split at found
      · cases found
      · exact found
    have contents := inv.contents.fewer (Nat.le_refl _) fewer
    refine ⟨⟨⟨inv.slots.count, inv.slots.bound, inv.slots.sorted, inv.slots.members,
      inv.slots.wakeup, inv.slots.fifo⟩, ⟨inv.budget.total, inv.budget.room, inv.budget.sizes⟩,
      ⟨inv.keys.registered, inv.keys.owner, inv.keys.going⟩, contents⟩, ?_⟩
    exact fun cache' key' entry found => .inl (fewer cache' key' entry found)
  | removeAll =>
    cases stepped
    have contents := inv.contents.fewer (Nat.le_succ s.current) fun _ _ _ found => found
    exact ⟨⟨⟨inv.slots.count, inv.slots.bound, inv.slots.sorted, inv.slots.members,
      inv.slots.wakeup, inv.slots.fifo⟩, ⟨inv.budget.total, inv.budget.room, inv.budget.sizes⟩,
      ⟨inv.keys.registered, inv.keys.owner, inv.keys.going⟩, contents⟩, .same rfl⟩

theorem run_inv {events : List Event} :
    ∀ {s s' : State}, Inv config s → run config s events = some s' → Inv config s' := by
  induction events with
  | nil =>
    intro s s' inv ran
    cases ran
    exact inv
  | cons event rest ih =>
    intro s s' inv ran
    obtain ⟨next, stepped, ran⟩ := Option.bind_eq_some_iff.mp ran
    exact ih (step_inv inv stepped).1 ran

end

/-! ## The calls -/

/-- The operations of `s` have the same assets in `s'`. -/
def KeepsAssets (s s' : State) : Prop :=
  ∀ (j : Nat) (operation : Operation), s.operations[j]? = some operation →
    ∃ operation', s'.operations[j]? = some operation' ∧ operation'.asset = operation.asset

/-- A call waits for an operation with its key. -/
def CallsOk (s : State) : Prop :=
  ∀ call ∈ s.calls, ∃ operation, s.operations[call.2]? = some operation ∧
    cacheKey operation.asset = cacheKey call.1

section

variable {s s' s'' : State} {i : Nat}

theorem KeepsAssets.trans (first : KeepsAssets s s') (second : KeepsAssets s' s'') :
    KeepsAssets s s'' := by
  intro j operation found
  obtain ⟨next, found, same⟩ := first j operation found
  obtain ⟨last, found, same'⟩ := second j next found
  exact ⟨last, found, same'.trans same⟩

theorem keeps_modify {g : Operation → Operation}
    (same : s'.operations = s.operations.modify i g)
    (keeps : ∀ operation, (g operation).asset = operation.asset) : KeepsAssets s s' := by
  intro j operation found
  rw [same, List.getElem?_modify, found]
  by_cases here : i = j
  · subst here
    exact ⟨g operation, by simp, keeps operation⟩
  · exact ⟨operation, by simp [here], rfl⟩

theorem keeps_settle (i : Nat) (asset : PlayerAsset) (phase : Phase) (s : State) :
    KeepsAssets s (s.settle i asset phase) := by
  have first : KeepsAssets s (s.setPhase i phase) := keeps_modify rfl fun _ => rfl
  apply first.trans
  unfold State.settle State.releaseReservation State.releaseSlot
  split
  · exact keeps_modify rfl fun _ => rfl
  · exact fun j operation found => ⟨operation, found, rfl⟩

theorem settle_calls (i : Nat) (asset : PlayerAsset) (phase : Phase) (s : State) :
    (s.settle i asset phase).calls = s.calls := by
  unfold State.settle State.releaseReservation State.releaseSlot
  dsimp only
  split <;> rfl

theorem CallsOk.keeps (ok : CallsOk s) (keeps : KeepsAssets s s') (calls : s'.calls = s.calls) :
    CallsOk s' := by
  intro call member
  rw [calls] at member
  obtain ⟨operation, found, same⟩ := ok call member
  obtain ⟨operation', found', asset⟩ := keeps call.2 operation found
  exact ⟨operation', found', by rw [asset, same]⟩

theorem CallsOk.prefetch (ok : CallsOk s) (keys : Keys s) (asset : PlayerAsset) :
    CallsOk (prefetch config asset s) := by
  unfold assets.prefetch
  split
  · exact ok
  dsimp only
  split
  · rename_i existing isOwner
    obtain ⟨operation, found, same, -⟩ := keys.owner _ existing isOwner
    intro call member
    rcases List.mem_append.mp member with before | isNew
    · exact ok call before
    · obtain rfl := List.mem_singleton.mp isNew
      exact ⟨operation, found, same⟩
  · obtain ⟨new, operations, rfl, -⟩ := @prefetchOnce_adds config asset s
    intro call member
    dsimp only at member ⊢
    rw [operations, get_append]
    have calls : (prefetchOnce config new.asset s).calls = s.calls := by
      unfold prefetchOnce
      split
      · rfl
      dsimp only
      split <;> rfl
    rw [calls] at member
    rcases List.mem_append.mp member with before | isNew
    · obtain ⟨operation, found, same⟩ := ok call before
      rw [if_neg (Nat.ne_of_lt (List.getElem?_eq_some_iff.mp found).1)]
      exact ⟨operation, found, same⟩
    · obtain rfl := List.mem_singleton.mp isNew
      exact ⟨new, if_pos rfl, rfl⟩

theorem CallsOk.step {event : Event} (ok : CallsOk s) (inv : Inv config s)
    (stepped : step config s event = some s') : CallsOk s' := by
  cases event with
  | prefetch asset =>
    cases stepped
    exact ok.prefetch inv.keys asset
  | turn i answer =>
    obtain ⟨operation, at_, turned⟩ := Option.bind_eq_some_iff.mp stepped
    by_cases settled : operation.phase.settled = true
    · rw [turn_settled settled] at turned
      cases turned
    obtain ⟨phase, entries, -, rfl⟩ := turn_turned inv.contents.empty (inv.contents.own i operation
      at_ (inv.keys.going i operation at_ (Bool.eq_false_iff.mpr settled))) turned
    unfold moved
    split
    · exact ok.keeps (keeps_modify rfl fun _ => rfl) rfl
    · exact ok.keeps (keeps_settle i operation.asset phase { s with entries := entries })
        (settle_calls i operation.asset phase { s with entries := entries })
  | remove i =>
    obtain ⟨operation, -, removes⟩ := Option.bind_eq_some_iff.mp stepped
    unfold finallyRemove at removes
    split at removes
    · cases removes
      exact ok.keeps (keeps_modify rfl fun _ => rfl) rfl
    · cases removes
  | delete cache key =>
    cases stepped
    exact ok
  | removeAll =>
    cases stepped
    exact ok

theorem run_calls {events : List Event} :
    ∀ {s s' : State}, Inv config s → CallsOk s → run config s events = some s' → CallsOk s' := by
  induction events with
  | nil =>
    intro s s' _ ok ran
    cases ran
    exact ok
  | cons event rest ih =>
    intro s s' inv ok ran
    obtain ⟨next, stepped, ran⟩ := Option.bind_eq_some_iff.mp ran
    exact ih (step_inv inv stepped).1 (ok.step inv stepped) ran

end

/-! ## The law -/

/-- All calls have settled. -/
def quiet (s : State) : Bool := s.operations.all (·.removed)

theorem sum_eq_zero {f : Operation → Int} {operations : List Operation}
    (zero : ∀ operation ∈ operations, f operation = 0) : (operations.map f).sum = 0 := by
  apply List.sum_eq_zero
  intro x member
  obtain ⟨operation, isMember, rfl⟩ := List.mem_map.mp member
  exact zero operation isMember

/-- When all calls have settled, what was taken is given back. -/
theorem Inv.quiet {s : State} (inv : Inv config s) (isQuiet : quiet s = true) :
    s.activeDownloads = 0 ∧ s.reservedBytes = 0 ∧ s.downloadWaiters = [] ∧
      ∀ key, s.inFlight key = none := by
  unfold assets.quiet at isQuiet
  rw [List.all_eq_true] at isQuiet
  have settled (operation : Operation) (member : operation ∈ s.operations) :
      operation.phase.settled = true := by
    obtain ⟨i, at_⟩ := List.mem_iff_getElem?.mp member
    by_contra going
    have notRemoved := inv.keys.going i operation at_ (Bool.eq_false_iff.mpr going)
    rw [isQuiet operation member] at notRemoved
    cases notRemoved
  have count := inv.slots.count
  have total := inv.budget.total
  have noSlots : (s.operations.map slot).sum = 0 := by
    apply sum_eq_zero
    intro operation member
    unfold slot
    rw [Phase.not_holds_of_settled (settled operation member)]
    rfl
  have noBytes : (s.operations.map reserved).sum = 0 := by
    apply sum_eq_zero
    intro operation member
    exact if_pos (settled operation member)
  refine ⟨by omega, by omega, ?_, ?_⟩
  · apply List.eq_nil_iff_forall_not_mem.mpr
    intro i waits
    obtain ⟨operation, at_, isWaiting⟩ := (inv.slots.members i).mp waits
    have done := settled operation (List.mem_of_getElem? at_)
    rw [isWaiting] at done
    cases done
  · intro key
    by_contra found
    obtain ⟨i, isOwner⟩ := Option.ne_none_iff_exists'.mp found
    obtain ⟨operation, at_, -, notRemoved⟩ := inv.keys.owner key i isOwner
    rw [isQuiet operation (List.mem_of_getElem? at_)] at notRemoved
    cases notRemoved

/-- In every run the slots and the reserved bytes are those of the downloads that go on, and within
their limits. Downloads wait only while no slot is free, the oldest is served first, and there is
one for a key at a time. What was taken is given back in the end. Each entry that appears has the
size and the digest of its asset. So has the entry that is there when a call resolves, where the
size is that of the call that began the download. -/
theorem downloads_share_their_slots_and_store_what_is_declared (config : Config)
    (persisted : Key → Option Entry) (events : List Event) (s : State)
    (ran : run config (start persisted) events = some s) :
    Slots config 0 s ∧ Budget config 0 s ∧
      (∀ (i j : Nat) (operation other : Operation), s.operations[i]? = some operation →
        s.operations[j]? = some other → operation.phase.settled = false →
        other.phase.settled = false → cacheKey operation.asset = cacheKey other.asset → i = j) ∧
      (quiet s = true → s.activeDownloads = 0 ∧ s.reservedBytes = 0 ∧ s.downloadWaiters = [] ∧
        ∀ key, s.inFlight key = none) ∧
      (∀ event s', step config s event = some s' → Writes config s s') ∧
      ∀ call ∈ s.calls, ∃ operation, s.operations[call.2]? = some operation ∧
        cacheKey operation.asset = cacheKey call.1 ∧
        ∀ cache entry, operation.phase = .resolved cache → operation.removed = false →
          s.entries s.current (cacheKey call.1) = some entry →
          Fits config { call.1 with sizeBytes := operation.asset.sizeBytes } entry := by
  have inv := run_inv (inv_start persisted) ran
  refine ⟨inv.slots, inv.budget, ?_, inv.quiet, ?_, ?_⟩
  · intro i j operation other at_ at' here there same
    exact inv.keys.single at_ at' (inv.keys.going i operation at_ here)
      (inv.keys.going j other at' there) same
  · intro event s' stepped
    exact (step_inv inv stepped).2
  · intro call member
    have calls := run_calls (inv_start persisted) (fun call member => by cases member) ran
    obtain ⟨operation, at_, same⟩ := calls call member
    refine ⟨operation, at_, same, ?_⟩
    intro cache entry isResolved notRemoved found
    have ok := inv.contents.own call.2 operation at_ notRemoved
    rw [isResolved] at ok
    obtain ⟨⟨le, newest⟩, fits⟩ := ok
    rw [← same] at found
    have isCurrent : cache = s.current := by
      apply Nat.le_antisymm le
      by_contra older
      rw [newest s.current (Nat.lt_of_not_le older)] at found
      cases found
    subst isCurrent
    obtain ⟨buffer, isBody, size, digest⟩ := fits entry found
    have checksum : operation.asset.checksumSha256 = call.1.checksumSha256 :=
      congrArg Key.checksumSha256 same
    exact ⟨buffer, isBody, size, checksum ▸ digest⟩

/-! ## A download -/

def abc : PlayerAsset where
  id := "asset-1"
  kind := .image
  url := "https://media.example/asset-1"
  mimeType := "image/png"
  checksumSha256 := "ba7816bf8f01cfea414140de5dae2223b00361a396177a9cb410ff61f20015ad"
  sizeBytes := 3
  mediaDelivery := some "authorization-v1"
  mediaCapability := some "e30.AAAAAAAAAAAAAAAAAAAAAAAAAAAAAAAAAAAAAAAAAAA"

/-- The digest of the one body that is read. -/
def browser : Config where
  sha256Hex := fun bytes => if bytes = [97, 98, 99] then abc.checksumSha256 else ""
  concurrent := by decide
  aggregate := by decide

/-- Two calls for one key. The second joins the first. -/
def joined : List Event :=
  [.prefetch abc, .prefetch { abc with sizeBytes := 4 }, .turn 0 (.opened (.ok ())),
    .turn 0 (.matched (.ok ())),
    .turn 0 (.fetched (.ok { body := some [.value [97, 98], .value [99]] }) (.ok ())),
    .turn 0 (.put (.ok ()))]

theorem joined_runs : (run browser (start fun _ => none) joined).any (fun s =>
    s.entries 0 (cacheKey abc) == some ⟨some "3", some [97, 98, 99]⟩ &&
      s.calls.length == 2 && s.operations.length == 1) = true := by
  decide +kernel

theorem two_calls_share_a_download :
    ∃ s, run browser (start fun _ => none) joined = some s ∧ Slots browser 0 s ∧
      Budget browser 0 s := by
  have runs := joined_runs
  rw [Option.any_eq_true] at runs
  obtain ⟨s, ran, -⟩ := runs
  have law := downloads_share_their_slots_and_store_what_is_declared browser _ joined s ran
  exact ⟨s, ran, law.1, law.2.1⟩

end screengoblin.assets
