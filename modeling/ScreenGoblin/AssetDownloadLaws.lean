-- The laws of the asset cache. The slots, the reserved bytes, the keys and the entries each have an
-- invariant. A turn of an operation moves it from one phase to another, and changes no entry but
-- its own.
import ScreenGoblin.AssetDownloads

namespace screengoblin.assets

variable {config : Config}

/-! ## Lists -/

theorem sum_modify {α : Type} (f : α → Int) (g : α → α) (values : List α) {i : Nat} {old : α}
    (at_ : values[i]? = some old) :
    ((values.modify i g).map f).sum = (values.map f).sum - f old + f (g old) := by
  induction values generalizing i with
  | nil => cases at_
  | cons head rest ih =>
    cases i with
    | zero =>
      cases at_
      simp only [List.modify_zero_cons, List.map_cons, List.sum_cons]
      omega
    | succ i =>
      have others := ih (i := i) at_
      simp only [List.modify_succ_cons, List.map_cons, List.sum_cons]
      omega

/-! ## Bytes -/

/-- The bytes have the declared size and digest. -/
def FitsBytes (config : Config) (asset : PlayerAsset) (buffer : Bytes) : Prop :=
  (buffer.length : Int) = asset.sizeBytes ∧
    verifySha256 config.sha256Hex buffer asset.checksumSha256 = true

def Fits (config : Config) (asset : PlayerAsset) (entry : Entry) : Prop :=
  ∃ buffer, entry.body = some buffer ∧ FitsBytes config asset buffer

theorem readBody_ok {asset : PlayerAsset} {received buffer : Bytes} {reads : List Read}
    (ok : readBody asset received reads = .ok buffer) :
    (buffer.length : Int) = asset.sizeBytes ∧
      ∃ bytes, delivered reads = some bytes ∧ buffer = received ++ bytes := by
  induction reads generalizing received with
  | nil =>
    unfold readBody at ok
    split at ok
    · cases ok
    · rename_i size
      cases ok
      exact ⟨not_not.mp size, [], rfl, (List.append_nil _).symm⟩
  | cons read rest ih =>
    cases read with
    | nothing => exact ih ok
    | fails message => cases ok
    | value bytes =>
      unfold readBody at ok
      split at ok
      · cases ok
      · obtain ⟨size, more, isMore, rfl⟩ := ih ok
        refine ⟨size, bytes ++ more, ?_, by rw [List.append_assoc]⟩
        unfold delivered
        rw [isMore]
        rfl

theorem boundedBody_ok {contentLength : Option String} {body : Option (List Read)}
    {asset : PlayerAsset} {buffer : Bytes}
    (ok : boundedBody contentLength body asset = .ok buffer) :
    (buffer.length : Int) = asset.sizeBytes ∧
      ∃ reads, body = some reads ∧ delivered reads = some buffer := by
  unfold boundedBody at ok
  split at ok
  · cases ok
  split at ok
  · cases ok
  · rename_i reads
    obtain ⟨size, bytes, isBytes, rfl⟩ := readBody_ok ok
    exact ⟨size, reads, rfl, isBytes⟩

theorem intact_fits {asset : PlayerAsset} {cached : Entry} {reads : List Read}
    {digest : Except String Unit} (isIntact : intact config asset cached reads digest = true)
    (read : cached.reads reads = true) : Fits config asset cached := by
  unfold intact at isIntact
  split at isIntact
  · rename_i buffer ok
    obtain ⟨size, reads', isReads, isBuffer⟩ := boundedBody_ok ok
    rw [Option.map_eq_some_iff] at isReads
    obtain ⟨body, isBody, rfl⟩ := isReads
    unfold Entry.reads at read
    rw [isBody, isBuffer] at read
    simp only [Option.all_some, beq_iff_eq] at read
    subst read
    exact ⟨buffer, isBody, size, isIntact⟩
  · cases isIntact

theorem verified_fits {asset : PlayerAsset} {response : Response} {digest : Except String Unit}
    {buffer : Bytes} (ok : verified config asset response digest = .ok buffer) :
    FitsBytes config asset buffer := by
  unfold verified at ok
  split at ok
  · cases ok
  split at ok
  · cases ok
  rename_i bytes _
  split at ok
  · cases ok
  rename_i size
  split at ok
  · cases ok
  split at ok
  · rename_i digest
    cases ok
    exact ⟨not_not.mp size, digest⟩
  · cases ok

/-! ## Phases -/

/-- The operation has a slot. -/
def Phase.holds : Phase → Bool
  | .opening | .matching _ | .checking _ _ | .clearing _ | .fetching _ _ | .putting _ _ _ => true
  | .waiting | .resolved _ | .rejected _ | .refused => false

def slot (operation : Operation) : Int := if operation.phase.holds then 1 else 0

/-- The bytes that an operation has reserved. -/
def reserved (operation : Operation) : Int :=
  if operation.phase.settled then 0 else operation.asset.sizeBytes

theorem Phase.settled_of_holds {phase : Phase} (holds : phase.holds = true) :
    phase.settled = false := by
  cases phase <;> first | rfl | cases holds

theorem Phase.not_holds_of_settled {phase : Phase} (settled : phase.settled = true) :
    phase.holds = false := by
  cases phase <;> first | rfl | cases settled

/-- The cache of an operation. No later one has an entry for its key. -/
def Newest (current : Nat) (entries : Nat → Key → Option Entry) (cache : Nat) (key : Key) : Prop :=
  cache ≤ current ∧ ∀ later, cache < later → entries later key = none

/-- What an operation knows of its entry. -/
def PhaseOk (config : Config) (current : Nat) (entries : Nat → Key → Option Entry)
    (asset : PlayerAsset) : Phase → Prop
  | .matching cache | .clearing cache | .fetching cache _ =>
    Newest current entries cache (cacheKey asset)
  | .checking cache cached => Newest current entries cache (cacheKey asset) ∧
    ∀ entry, entries cache (cacheKey asset) = some entry → entry = cached
  | .putting cache _ buffer => Newest current entries cache (cacheKey asset) ∧
    FitsBytes config asset buffer
  | .resolved cache => Newest current entries cache (cacheKey asset) ∧
    ∀ entry, entries cache (cacheKey asset) = some entry → Fits config asset entry
  | .waiting | .opening | .rejected _ | .refused => True

/-- The entries of the key are as before, or fewer. -/
theorem PhaseOk.fewer {current current' : Nat} {entries entries' : Nat → Key → Option Entry}
    {asset : PlayerAsset} {phase : Phase} (ok : PhaseOk config current entries asset phase)
    (grows : current ≤ current')
    (fewer : ∀ cache entry, entries' cache (cacheKey asset) = some entry →
      entries cache (cacheKey asset) = some entry) :
    PhaseOk config current' entries' asset phase := by
  have newest {cache : Nat} (isNewest : Newest current entries cache (cacheKey asset)) :
      Newest current' entries' cache (cacheKey asset) := by
    refine ⟨Nat.le_trans isNewest.1 grows, ?_⟩
    intro later after
    by_contra found
    obtain ⟨entry, isEntry⟩ := Option.ne_none_iff_exists'.mp found
    have before := fewer later entry isEntry
    rw [isNewest.2 later after] at before
    cases before
  cases phase with
  | matching cache => exact newest ok
  | clearing cache => exact newest ok
  | fetching cache aborted => exact newest ok
  | checking cache cached =>
    exact ⟨newest ok.1, fun entry found => ok.2 entry (fewer cache entry found)⟩
  | putting cache aborted buffer => exact ⟨newest ok.1, ok.2⟩
  | resolved cache =>
    exact ⟨newest ok.1, fun entry found => ok.2 entry (fewer cache entry found)⟩
  | _ => trivial

/-! ## A turn -/

/-- An operation goes on to a phase, and the entries change. -/
structure Moves (config : Config) (s : State) (operation : Operation) (phase : Phase)
    (entries : Nat → Key → Option Entry) : Prop where
  holds : operation.phase.holds = true
  next : phase.holds = true ∨ phase.settled = true
  own : ∀ cache key, entries cache key = s.entries cache key ∨
    key = cacheKey operation.asset ∧ cache ≤ s.current
  writes : ∀ cache key entry, entries cache key = some entry →
    s.entries cache key = some entry ∨ Fits config operation.asset entry
  ok : PhaseOk config s.current entries operation.asset phase

/-- The state after a move. -/
def moved (i : Nat) (asset : PlayerAsset) (phase : Phase) (entries : Nat → Key → Option Entry)
    (s : State) : State :=
  if phase.holds then { s with entries := entries }.setPhase i phase
  else { s with entries := entries }.settle i asset phase

section

variable {s s' : State} {i : Nat} {asset : PlayerAsset} {operation : Operation}

/-- A move that leaves the entries. -/
theorem Moves.still {phase : Phase} (holds : operation.phase.holds = true)
    (next : phase.holds = true ∨ phase.settled = true)
    (ok : PhaseOk config s.current s.entries operation.asset phase) :
    Moves config s operation phase s.entries :=
  ⟨holds, next, fun _ _ => .inl rfl, fun _ _ _ found => .inl found, ok⟩

/-- The own entry is removed. -/
theorem Moves.cleared {phase : Phase} {cache : Nat} (holds : operation.phase.holds = true)
    (next : phase.holds = true ∨ phase.settled = true)
    (ok : PhaseOk config s.current s.entries operation.asset phase) (le : cache ≤ s.current) :
    Moves config s operation phase (s.setEntry cache (cacheKey operation.asset) none).entries := by
  have fewer (cache' : Nat) (key : Key) (entry : Entry)
      (found : (s.setEntry cache (cacheKey operation.asset) none).entries cache' key = some entry) :
      s.entries cache' key = some entry := by
    unfold State.setEntry at found
    dsimp only at found
    split at found
    · cases found
    · exact found
  refine ⟨holds, next, ?_, fun cache' key entry found => .inl (fewer cache' key entry found),
    ok.fewer (Nat.le_refl _) fun cache' entry => fewer cache' _ entry⟩
  intro cache' key
  unfold State.setEntry
  dsimp only
  split
  · rename_i same
    exact .inr ⟨same.2, same.1 ▸ le⟩
  · exact .inl rfl

/-- The bytes are written. -/
theorem Moves.written {cache : Nat} {buffer : Bytes} (holds : operation.phase.holds = true)
    (newest : Newest s.current s.entries cache (cacheKey operation.asset))
    (fits : FitsBytes config operation.asset buffer) :
    Moves config s operation (.resolved cache) (s.setEntry cache (cacheKey operation.asset)
      (some ⟨some (toString buffer.length), some buffer⟩)).entries := by
  refine ⟨holds, .inr rfl, ?_, ?_, ⟨newest.1, ?_⟩, ?_⟩
  · intro cache' key
    unfold State.setEntry
    dsimp only
    split
    · rename_i same
      exact .inr ⟨same.2, same.1 ▸ newest.1⟩
    · exact .inl rfl
  · intro cache' key entry found
    unfold State.setEntry at found
    dsimp only at found
    split at found
    · cases found
      exact .inr ⟨buffer, rfl, fits⟩
    · exact .inl found
  · intro later after
    unfold State.setEntry
    dsimp only
    rw [if_neg (fun same => absurd same.1 (Nat.ne_of_gt after))]
    exact newest.2 later after
  · intro entry found
    unfold State.setEntry at found
    dsimp only at found
    rw [if_pos ⟨rfl, rfl⟩] at found
    cases found
    exact ⟨buffer, rfl, fits⟩

/-- The state is that of a move of the operation. -/
def Turned (config : Config) (s : State) (i : Nat) (operation : Operation) (s' : State) : Prop :=
  ∃ phase entries, Moves config s operation phase entries ∧
    s' = moved i operation.asset phase entries s

theorem Turned.goesOn {phase : Phase} (holds : operation.phase.holds = true)
    (next : phase.holds = true)
    (ok : PhaseOk config s.current s.entries operation.asset phase) :
    Turned config s i operation (s.setPhase i phase) :=
  ⟨phase, s.entries, .still holds (.inl next) ok, (if_pos next).symm⟩

theorem Turned.ends {phase : Phase} (holds : operation.phase.holds = true)
    (settled : phase.settled = true)
    (ok : PhaseOk config s.current s.entries operation.asset phase) :
    Turned config s i operation (s.settle i operation.asset phase) := by
  refine ⟨phase, s.entries, .still holds (.inr settled) ok, ?_⟩
  unfold moved
  rw [phase.not_holds_of_settled settled]
  rfl

/-- After a miss. -/
theorem download_moved (i : Nat) (asset : PlayerAsset) (cache : Nat) (s : State) :
    ∃ phase, (phase = .fetching cache false ∨ ∃ message, phase = .rejected message) ∧
      download i asset cache s = moved i asset phase s.entries s := by
  unfold download
  split
  · exact ⟨_, .inl rfl, rfl⟩
  · exact ⟨_, .inr ⟨_, rfl⟩, rfl⟩

theorem turn_turned {answer : Answer}
    (empty : ∀ later, s.current < later → ∀ key, s.entries later key = none)
    (ok : PhaseOk config s.current s.entries operation.asset operation.phase)
    (turned : turn config i operation.asset s operation.phase answer = some s') :
    Turned config s i operation s' := by
  generalize isPhase : operation.phase = phase at ok turned
  have holds (yes : phase.holds = true) : operation.phase.holds = true := by
    rw [isPhase]
    exact yes
  unfold turn at turned
  split at turned
  · cases turned
    exact .ends (holds rfl) rfl trivial
  · -- opening
    split at turned <;> cases turned
    · exact .ends (holds rfl) rfl trivial
    · exact .goesOn (holds rfl) rfl ⟨Nat.le_refl _, fun later after => empty later after _⟩
  · cases turned
    exact .ends (holds rfl) rfl trivial
  · -- matching
    rename_i cache
    split at turned <;> cases turned
    · rename_i cached found
      refine .goesOn (holds rfl) rfl ⟨ok, ?_⟩
      intro entry found'
      rw [found] at found'
      cases found'
      rfl
    · obtain ⟨phase, which, same⟩ := download_moved i operation.asset cache s
      refine ⟨phase, s.entries, ?_, same⟩
      rcases which with rfl | ⟨message, rfl⟩
      · exact .still (holds rfl) (.inl rfl) ok
      · exact .still (holds rfl) (.inr rfl) trivial
  · -- checking
    rename_i cache cached reads digest
    split at turned
    · cases turned
    rename_i read
    split at turned <;> cases turned
    · rename_i isIntact
      refine .ends (holds rfl) rfl ⟨ok.1, ?_⟩
      intro entry found
      rw [ok.2 entry found]
      exact intact_fits isIntact (by simpa using read)
    · exact .goesOn (holds rfl) rfl ok.1
  · cases turned
    exact .ends (holds rfl) rfl trivial
  · -- clearing
    rename_i cache
    cases turned
    obtain ⟨phase, which, same⟩ := download_moved i operation.asset cache
      (s.setEntry cache (cacheKey operation.asset) none)
    refine ⟨phase, _, ?_, same⟩
    rcases which with rfl | ⟨message, rfl⟩
    · exact .cleared (holds rfl) (.inl rfl) ok ok.1
    · exact .cleared (holds rfl) (.inr rfl) trivial ok.1
  · cases turned
    exact .goesOn (holds rfl) rfl ok
  · cases turned
    exact .goesOn (holds rfl) rfl ok
  · cases turned
    exact .ends (holds rfl) rfl (by unfold failed; trivial)
  · -- fetching
    split at turned <;> cases turned
    · exact .ends (holds rfl) rfl trivial
    · rename_i fetched
      exact .goesOn (holds rfl) rfl ⟨ok, verified_fits fetched⟩
  · cases turned
    exact .ends (holds rfl) rfl trivial
  · -- putting
    cases turned
    exact ⟨_, _, .written (holds rfl) ok.1 ok.2, rfl⟩
  · cases turned

end

/-! ## The slots -/

/-- The slots that are taken are those of the operations, and `spare` more that are about to be
given back. Operations wait only while no slot is free, the oldest first. -/
structure Slots (config : Config) (spare : Int) (s : State) : Prop where
  count : s.activeDownloads = (s.operations.map slot).sum + spare
  bound : s.activeDownloads ≤ config.maxConcurrentDownloads
  sorted : s.downloadWaiters.Pairwise (· < ·)
  members : ∀ i, i ∈ s.downloadWaiters ↔
    ∃ operation, s.operations[i]? = some operation ∧ operation.phase = .waiting
  wakeup : s.downloadWaiters ≠ [] → s.activeDownloads = config.maxConcurrentDownloads
  fifo : ∀ i ∈ s.downloadWaiters, ∀ j operation, i < j → s.operations[j]? = some operation →
    operation.phase = .waiting ∨ operation.phase = .refused

theorem get_setPhase {s : State} {i : Nat} {operation : Operation} (phase : Phase)
    (at_ : s.operations[i]? = some operation) (j : Nat) :
    (s.setPhase i phase).operations[j]? =
      if i = j then some { operation with phase := phase } else s.operations[j]? := by
  unfold State.setPhase
  rw [List.getElem?_modify]
  split
  · rename_i same
    subst same
    rw [at_]
    rfl
  · simp

section

variable {s : State} {i : Nat} {operation : Operation} {spare : Int}

/-- An operation that has a slot goes on. -/
theorem Slots.setPhase (slots : Slots config spare s) (at_ : s.operations[i]? = some operation)
    (holds : operation.phase.holds = true) {phase : Phase} (next : phase ≠ .waiting) :
    Slots config (spare + (1 - slot { operation with phase := phase })) (s.setPhase i phase) := by
  have had : slot operation = 1 := if_pos holds
  have notWaiting : operation.phase ≠ .waiting := by
    intro waits
    rw [waits] at holds
    cases holds
  refine ⟨?_, slots.bound, slots.sorted, ?_, slots.wakeup, ?_⟩
  · have sum := sum_modify slot (fun operation => { operation with phase := phase })
      s.operations at_
    have count := slots.count
    show s.activeDownloads = ((s.operations.modify i _).map slot).sum + _
    omega
  · intro j
    show j ∈ s.downloadWaiters ↔ _
    rw [slots.members, get_setPhase phase at_]
    split
    · rename_i same
      subst same
      simp [at_, next, notWaiting]
    · rfl
  · intro j waits k other after found
    rw [get_setPhase phase at_] at found
    split at found
    · rename_i same
      subst same
      rcases slots.fifo j waits i operation after at_ with isWaiting | isRefused
      · exact absurd isWaiting notWaiting
      · rw [isRefused] at holds
        cases holds
    · exact slots.fifo j waits k other after found

/-- A slot goes to the operation that has waited the longest, or is free. -/
theorem Slots.releaseSlot (slots : Slots config 1 s) : Slots config 0 s.releaseSlot := by
  unfold State.releaseSlot
  split
  · rename_i next rest isQueue
    have sorted := slots.sorted
    have wakeup := slots.wakeup
    rw [isQueue, List.pairwise_cons] at sorted
    obtain ⟨first, sorted⟩ := sorted
    obtain ⟨waiter, at_, waits⟩ := (slots.members next).mp (isQueue ▸ List.mem_cons_self)
    have none : slot waiter = 0 := by
      unfold slot
      rw [waits]
      rfl
    refine ⟨?_, slots.bound, sorted, ?_, fun _ => wakeup (by rw [isQueue]; simp), ?_⟩
    · have sum := sum_modify slot (fun operation => { operation with phase := .opening })
        s.operations at_
      have one : slot { waiter with phase := .opening } = 1 := rfl
      have count := slots.count
      show s.activeDownloads = ((s.operations.modify next _).map slot).sum + 0
      omega
    · intro j
      rw [get_setPhase .opening (s := { s with downloadWaiters := rest }) at_]
      show j ∈ rest ↔ _
      have members := slots.members j
      rw [isQueue, List.mem_cons] at members
      split
      · rename_i same
        subst same
        have notMember : next ∉ rest := fun member => Nat.lt_irrefl next (first next member)
        simp [notMember]
      · rename_i other
        rw [← members]
        exact ⟨.inr, fun which => which.resolve_left (Ne.symm other)⟩
    · intro j member k operation after found
      rw [get_setPhase .opening (s := { s with downloadWaiters := rest }) at_] at found
      split at found
      · rename_i same
        subst same
        exact absurd after (Nat.not_lt_of_gt (first j member))
      · exact slots.fifo j (isQueue ▸ List.mem_cons_of_mem _ member) k operation after found
  · rename_i isQueue
    have count := slots.count
    have bound := slots.bound
    refine ⟨?_, ?_, slots.sorted, slots.members, fun some_ => absurd isQueue some_, slots.fifo⟩
    · show s.activeDownloads - 1 = (s.operations.map slot).sum + 0
      omega
    · show s.activeDownloads - 1 ≤ _
      omega


theorem get_append (operations : List Operation) (new : Operation) (j : Nat) :
    (operations ++ [new])[j]? = if j = operations.length then some new else operations[j]? := by
  by_cases same : j = operations.length
  · subst same
    simp
  · rw [if_neg same, List.getElem?_append]
    split
    · rfl
    · rename_i outside
      rw [List.getElem?_eq_none (by simp; omega), List.getElem?_eq_none (by omega)]

/-- A waiting operation is one of the list. -/
theorem Slots.lt (slots : Slots config spare s) {j : Nat} (waits : j ∈ s.downloadWaiters) :
    j < s.operations.length := by
  obtain ⟨waiter, at_, -⟩ := (slots.members j).mp waits
  exact (List.getElem?_eq_some_iff.mp at_).1

/-- A new operation is refused, waits behind the others, or takes a free slot. -/
theorem Slots.prefetchOnce (slots : Slots config 0 s) (asset : PlayerAsset) :
    Slots config 0 (prefetchOnce config asset s) := by
  unfold assets.prefetchOnce
  split
  · -- refused
    refine ⟨?_, slots.bound, slots.sorted, ?_, slots.wakeup, ?_⟩
    · have count := slots.count
      show s.activeDownloads = ((s.operations ++ [_]).map slot).sum + 0
      simpa [slot, Phase.holds] using count
    · intro j
      show j ∈ s.downloadWaiters ↔ _
      rw [slots.members, get_append]
      split
      · rename_i same
        subst same
        simp
      · rfl
    · intro j waits k other after found
      rw [get_append] at found
      split at found
      · cases found
        exact .inr rfl
      · exact slots.fifo j waits k other after found
  dsimp only
  split
  · -- waiting
    rename_i isFull
    have wakeup : s.activeDownloads = config.maxConcurrentDownloads := by
      have bound := slots.bound
      unfold full at isFull
      simp only [Bool.or_eq_true, decide_eq_true_eq, Bool.not_eq_true',
        List.isEmpty_eq_false_iff] at isFull
      rcases isFull with none | others
      · omega
      · exact slots.wakeup others
    refine ⟨?_, slots.bound, ?_, ?_, fun _ => wakeup, ?_⟩
    · have count := slots.count
      show s.activeDownloads = ((s.operations ++ [_]).map slot).sum + 0
      simpa [slot, Phase.holds] using count
    · apply List.pairwise_append.mpr
      refine ⟨slots.sorted, List.pairwise_singleton _ _, ?_⟩
      intro j waits k isNew
      obtain rfl := List.mem_singleton.mp isNew
      exact slots.lt waits
    · intro j
      show j ∈ s.downloadWaiters ++ [_] ↔ _
      rw [List.mem_append, List.mem_singleton, slots.members, get_append]
      by_cases same : j = s.operations.length
      · subst same
        simp
      · simp [same]
    · intro j waits k other after found
      rw [get_append] at found
      split at found
      · cases found
        exact .inl rfl
      · have inside := (List.getElem?_eq_some_iff.mp found).1
        rcases List.mem_append.mp waits with before | isNew
        · exact slots.fifo j before k other after found
        · obtain rfl := List.mem_singleton.mp isNew
          omega
  · -- opening
    rename_i free
    unfold full at free
    simp only [Bool.or_eq_true, decide_eq_true_eq, Bool.not_eq_true', List.isEmpty_eq_false_iff,
      not_or, not_not, Int.not_le] at free
    obtain ⟨free, isQueue⟩ := free
    have isQueue : s.downloadWaiters = [] := isQueue
    refine ⟨?_, ?_, slots.sorted, ?_, fun some_ => absurd isQueue some_, ?_⟩
    · have count := slots.count
      show s.activeDownloads + 1 = ((s.operations ++ [_]).map slot).sum + 0
      rw [List.map_append, List.sum_append, count]
      simp [slot, Phase.holds]
    · show s.activeDownloads + 1 ≤ _
      exact free
    · intro j
      show j ∈ s.downloadWaiters ↔ _
      rw [slots.members, get_append]
      split
      · rename_i same
        subst same
        simp
      · rfl
    · intro j waits
      have waits : j ∈ s.downloadWaiters := waits
      rw [isQueue] at waits
      cases waits

end

/-! ## The reserved bytes -/

/-- The reserved bytes are those of the operations that have not settled, and `spare` more that are
about to be given back. -/
structure Budget (config : Config) (spare : Int) (s : State) : Prop where
  total : s.reservedBytes = (s.operations.map reserved).sum + spare
  room : s.reservedBytes ≤ config.maxAggregateBytes
  sizes : ∀ (i : Nat) (operation : Operation), s.operations[i]? = some operation →
    operation.phase ≠ .refused → 0 ≤ operation.asset.sizeBytes

section

variable {s : State} {i : Nat} {operation : Operation} {spare : Int}

/-- An operation that was not settled goes on. -/
theorem Budget.setPhase (budget : Budget config spare s)
    (at_ : s.operations[i]? = some operation) (going : operation.phase.settled = false)
    (phase : Phase) :
    Budget config (spare + (operation.asset.sizeBytes - reserved { operation with phase := phase }))
      (s.setPhase i phase) := by
  have had : reserved operation = operation.asset.sizeBytes := by
    unfold reserved
    rw [going]
    rfl
  refine ⟨?_, budget.room, ?_⟩
  · have sum := sum_modify reserved (fun operation => { operation with phase := phase })
      s.operations at_
    have total := budget.total
    show s.reservedBytes = ((s.operations.modify i _).map reserved).sum + _
    omega
  · intro j other found notRefused
    rw [get_setPhase phase at_] at found
    split at found
    · cases found
      apply budget.sizes i operation at_
      intro isRefused
      rw [isRefused] at going
      cases going
    · exact budget.sizes j other found notRefused

theorem Budget.releaseSlot (budget : Budget config spare s) (slots : Slots config 1 s) :
    Budget config spare s.releaseSlot := by
  unfold State.releaseSlot
  split
  · rename_i next rest isQueue
    obtain ⟨waiter, at_, waits⟩ := (slots.members next).mp (isQueue ▸ List.mem_cons_self)
    have same : Budget config spare { s with downloadWaiters := rest } :=
      ⟨budget.total, budget.room, budget.sizes⟩
    have opened := same.setPhase at_ (by rw [waits]; rfl) .opening
    have none : waiter.asset.sizeBytes - reserved { waiter with phase := .opening } = 0 :=
      Int.sub_self _
    rwa [none, Int.add_zero] at opened
  · exact ⟨budget.total, budget.room, budget.sizes⟩

theorem Budget.releaseReservation {asset : PlayerAsset}
    (budget : Budget config asset.sizeBytes s) (size : 0 ≤ asset.sizeBytes) :
    Budget config 0 (s.releaseReservation asset) := by
  have total := budget.total
  have room := budget.room
  refine ⟨?_, ?_, budget.sizes⟩
  · show s.reservedBytes - asset.sizeBytes = (s.operations.map reserved).sum + 0
    omega
  · show s.reservedBytes - asset.sizeBytes ≤ _
    omega

theorem Budget.prefetchOnce (budget : Budget config 0 s) (asset : PlayerAsset) :
    Budget config 0 (prefetchOnce config asset s) := by
  have total := budget.total
  have sizes (new : Operation) (size : new.phase ≠ .refused → 0 ≤ new.asset.sizeBytes) (j : Nat)
      (other : Operation) (found : (s.operations ++ [new])[j]? = some other)
      (notRefused : other.phase ≠ .refused) : 0 ≤ other.asset.sizeBytes := by
    rw [get_append] at found
    split at found
    · cases found
      exact size notRefused
    · exact budget.sizes j other found notRefused
  unfold assets.prefetchOnce
  split
  · refine ⟨?_, budget.room, sizes _ (fun notRefused => absurd rfl notRefused)⟩
    show s.reservedBytes = ((s.operations ++ [_]).map reserved).sum + 0
    simpa [reserved, Phase.settled] using total
  rename_i hasRoom
  unfold fits at hasRoom
  simp only [Bool.not_eq_false, Bool.and_eq_true, decide_eq_true_eq] at hasRoom
  obtain ⟨⟨size, -⟩, hasRoom⟩ := hasRoom
  dsimp only
  split
  · refine ⟨?_, ?_, sizes _ (fun _ => size)⟩
    · show s.reservedBytes + asset.sizeBytes = ((s.operations ++ [_]).map reserved).sum + 0
      rw [List.map_append, List.sum_append, total]
      simp [reserved, Phase.settled]
    · show s.reservedBytes + asset.sizeBytes ≤ _
      omega
  · refine ⟨?_, ?_, sizes _ (fun _ => size)⟩
    · show s.reservedBytes + asset.sizeBytes = ((s.operations ++ [_]).map reserved).sum + 0
      rw [List.map_append, List.sum_append, total]
      simp [reserved, Phase.settled]
    · show s.reservedBytes + asset.sizeBytes ≤ _
      omega

end

end screengoblin.assets
