-- The workers that download the items of a release (`prefetchAssets` in core/manifest.ts of the
-- player). Two workers share the next index and the first failure. A worker runs until it waits
-- for a download, and goes on when the download has settled. Between two such turns the staging
-- can be cancelled.
import Mathlib.Data.List.Induction
import Mathlib.Data.List.Perm.Basic
import ScreenGoblin.ManifestManager

namespace screengoblin.downloads

open player (MAX_CONCURRENT_PREFETCHES)

variable {ε : Type}

/-! ## The workers -/

/-- A worker waits for the download of an item, or has returned. -/
inductive Worker where
  | fetching (index : Nat)
  | returned
  deriving DecidableEq

/-- What an observer sees, the oldest first. -/
inductive Entry (ε : Type) where
  | claimed (index : Nat)
  | settled (index : Nat) (outcome : Except ε Unit)
  | cancelled

/-- The variables of a call, for `count` items. -/
structure Pool (ε : Type) where
  count : Nat
  expected : Nat
  stagingGeneration : Nat
  nextIndex : Nat := 0
  stopped : Bool := false
  failure : Option ε := none
  workers : List Worker := []
  log : List (Entry ε) := []

section

-- `new ManifestError("Manifest staging was cancelled")`
variable (cancelled : ε)

namespace Pool

def assertStagingGeneration (p : Pool ε) : Except ε Unit :=
  if p.expected ≠ p.stagingGeneration then .error cancelled else .ok ()

/-- `if (!stopped) { stopped = true; failure = error; }` -/
def fail (error : ε) (p : Pool ε) : Pool ε :=
  if p.stopped then p else { p with stopped := true, failure := some error }

/-- The loop of a worker, up to the next download or the return. -/
def loop (p : Pool ε) : Worker × Pool ε :=
  if p.stopped then (.returned, p)
  else
    match p.assertStagingGeneration cancelled with
    | .error error => (.returned, p.fail error)
    | .ok () =>
      let index := p.nextIndex
      let p := { p with nextIndex := p.nextIndex + 1 }
      if index ≥ p.count then (.returned, p)
      else (.fetching index, { p with log := p.log ++ [.claimed index] })

/-- A worker goes on after its download. -/
def goOn (outcome : Except ε Unit) (p : Pool ε) : Worker × Pool ε :=
  match outcome with
  | .error error => (.returned, p.fail error)
  | .ok () =>
    match p.assertStagingGeneration cancelled with
    | .error error => (.returned, p.fail error)
    | .ok () => p.loop cancelled

def spawn (p : Pool ε) : Pool ε :=
  let (worker, p) := p.loop cancelled
  { p with workers := p.workers ++ [worker] }

end Pool

/-- `Array.from({ length }, () => worker())` -/
def spawnAll : Nat → Pool ε → Pool ε
  | 0, p => p
  | length + 1, p => spawnAll length (p.spawn cancelled)

/-- The call up to its first wait. The caller has compared the generations in the same segment. -/
def prefetchAssets (count stagingGeneration : Nat) : Pool ε :=
  spawnAll cancelled (min MAX_CONCURRENT_PREFETCHES count)
    { count, expected := stagingGeneration, stagingGeneration }

inductive Event (ε : Type) where
  | settle (worker : Nat) (outcome : Except ε Unit)
  | cancel

/-- One event. Only a download that runs can settle. -/
def step (p : Pool ε) : Event ε → Option (Pool ε)
  | .cancel => some { p with
      stagingGeneration := p.stagingGeneration + 1, log := p.log ++ [.cancelled] }
  | .settle worker outcome =>
    match p.workers[worker]? with
    | some (.fetching index) =>
      let p : Pool ε := { p with log := p.log ++ [.settled index outcome] }
      let (next, p) := p.goOn cancelled outcome
      some { p with workers := p.workers.set worker next }
    | _ => none

def run (p : Pool ε) : List (Event ε) → Option (Pool ε)
  | [] => some p
  | event :: rest => (step cancelled p event).bind fun p' => run p' rest

end

/-- The call, once every worker has returned, resolves or throws `failure`. -/
inductive Result (ε : Type) where
  | pending
  | resolved
  | rejected (failure : Option ε)
  deriving DecidableEq

def Pool.result (p : Pool ε) : Result ε :=
  if p.workers.all (· == .returned) then
    if p.stopped then .rejected p.failure else .resolved
  else .pending

/-! ## What the log tells -/

def Worker.index? : Worker → Option Nat
  | .fetching index => some index
  | .returned => none

/-- The items that are downloaded now. -/
def Pool.fetching (p : Pool ε) : List Nat := p.workers.filterMap Worker.index?

def Entry.claim? : Entry ε → Option Nat
  | .claimed index => some index
  | _ => none

def Entry.settle? : Entry ε → Option Nat
  | .settled index _ => some index
  | _ => none

def Entry.success? : Entry ε → Option Nat
  | .settled index (.ok ()) => some index
  | _ => none

def claims (log : List (Entry ε)) : List Nat := log.filterMap Entry.claim?

def settles (log : List (Entry ε)) : List Nat := log.filterMap Entry.settle?

def successes (log : List (Entry ε)) : List Nat := log.filterMap Entry.success?

/-- Neither a failure nor a cancellation. -/
def Entry.Quiet : Entry ε → Prop
  | .claimed _ | .settled _ (.ok ()) => True
  | .settled _ (.error _) | .cancelled => False

/-- What the workers have noticed: a cancellation is noticed when a download settles. -/
structure Seen (ε : Type) where
  cancelled : Bool := false
  failure : Option ε := none

def see (cancelled : ε) (s : Seen ε) : Entry ε → Seen ε
  | .claimed _ => s
  | .cancelled => { s with cancelled := true }
  | .settled _ (.error error) => { s with failure := s.failure.or (some error) }
  | .settled _ (.ok ()) =>
    if s.cancelled then { s with failure := s.failure.or (some cancelled) } else s

def seen (cancelled : ε) (log : List (Entry ε)) : Seen ε := log.foldl (see cancelled) {}

/-- The failure that is noticed first: of a download, or that the staging was cancelled. -/
def firstFailure (cancelled : ε) (log : List (Entry ε)) : Option ε := (seen cancelled log).failure

/-- No download settles after a cancellation. -/
def CancelledAfterAll (log : List (Entry ε)) : Prop :=
  ∀ before after, log = before ++ .cancelled :: after → settles after = []

/-- Each of `count` items was downloaded once, without a failure. -/
def AllPrefetched (count : Nat) (log : List (Entry ε)) : Prop :=
  (successes log).Perm (List.range count)

/-! ## The log -/

section

variable {cancelled : ε} {log : List (Entry ε)}

theorem seen_append (entry : Entry ε) :
    seen cancelled (log ++ [entry]) = see cancelled (seen cancelled log) entry := by
  unfold seen
  rw [List.foldl_append]
  rfl

/-- Where nothing was noticed and nothing cancelled, every entry is quiet. -/
theorem quiet_of_seen (cancels : (seen cancelled log).cancelled = false)
    (fails : (seen cancelled log).failure = none) : ∀ entry ∈ log, entry.Quiet := by
  induction log using List.reverseRecOn with
  | nil =>
    intro entry none
    cases none
  | append_singleton log entry ih =>
    rw [seen_append] at cancels fails
    have before : (seen cancelled log).cancelled = false ∧
        (seen cancelled log).failure = none ∧ entry.Quiet := by
      match entry with
      | .claimed _ => exact ⟨cancels, fails, trivial⟩
      | .cancelled => cases cancels
      | .settled _ (.error error) =>
        have none := Option.or_eq_none_iff.mp fails
        cases none.2
      | .settled _ (.ok ()) =>
        cases old : (seen cancelled log).cancelled with
        | true => simp [see, old] at cancels
        | false =>
          simp only [see, old, Bool.false_eq_true, if_false] at fails
          exact ⟨rfl, fails, trivial⟩
    intro other here
    rcases List.mem_append.mp here with old | new
    · exact ih before.1 before.2.1 other old
    · rw [List.mem_singleton.mp new]
      exact before.2.2

/-- A split of a log with a new entry at an old one, or at the new one. -/
theorem split_append {entry other : Entry ε} {before after : List (Entry ε)}
    (split : log ++ [entry] = before ++ other :: after) :
    (before = log ∧ other = entry ∧ after = []) ∨
      ∃ after', after = after' ++ [entry] ∧ log = before ++ other :: after' := by
  rcases List.eq_nil_or_concat after with rfl | ⟨after', last, rfl⟩
  · obtain ⟨same, last⟩ := List.append_inj' split rfl
    exact .inl ⟨same.symm, (List.cons.inj last).1.symm, rfl⟩
  · rw [List.concat_eq_append, ← List.cons_append, ← List.append_assoc] at split
    obtain ⟨same, last'⟩ := List.append_inj' split rfl
    rw [List.concat_eq_append, (List.cons.inj last').1]
    exact .inr ⟨after', rfl, same⟩

end

/-! ## What a turn preserves -/

/-- What holds of the variables while the downloads of `held` run. -/
structure Sound (cancelled : ε) (p : Pool ε) (held : List Nat) : Prop where
  claimed : claims p.log = List.range (min p.nextIndex p.count)
  held : (claims p.log).Perm (settles p.log ++ held)
  failure : p.failure = firstFailure cancelled p.log
  stopped : p.stopped = p.failure.isSome
  current : (seen cancelled p.log).cancelled = decide (p.expected ≠ p.stagingGeneration)
  order : p.expected ≤ p.stagingGeneration
  quiet : ∀ before index after, p.log = before ++ .claimed index :: after →
    ∀ entry ∈ before, entry.Quiet

section

variable {cancelled : ε} {p : Pool ε} {held : List Nat}

theorem claims_append (log : List (Entry ε)) (entry : Entry ε) :
    claims (log ++ [entry]) = claims log ++ entry.claim?.toList := by
  unfold claims
  rw [List.filterMap_append]
  cases h : entry.claim? <;> simp [h]

theorem settles_append (log : List (Entry ε)) (entry : Entry ε) :
    settles (log ++ [entry]) = settles log ++ entry.settle?.toList := by
  unfold settles
  rw [List.filterMap_append]
  cases h : entry.settle? <;> simp [h]

/-- An entry that claims no item keeps the claims apart from the failures. -/
theorem quiet_append {log : List (Entry ε)} (entry : Entry ε) (noClaim : entry.claim? = none)
    (quiet : ∀ before index after, log = before ++ .claimed index :: after →
      ∀ other ∈ before, other.Quiet) :
    ∀ before index after, log ++ [entry] = before ++ .claimed index :: after →
      ∀ other ∈ before, other.Quiet := by
  intro before index after split
  rcases split_append split with ⟨_, same, _⟩ | ⟨after', _, old⟩
  · rw [← same] at noClaim
    cases noClaim
  · exact quiet before index after' old

/-- A worker whose loop starts returns, or claims the next item. -/
theorem Sound.loop (sound : Sound cancelled p held) (current : p.expected = p.stagingGeneration) :
    Sound cancelled (p.loop cancelled).2 (held ++ (p.loop cancelled).1.index?.toList) ∧
      (p.loop cancelled).2.workers = p.workers ∧ (p.loop cancelled).2.count = p.count ∧
      (p.loop cancelled).2.expected = p.expected ∧
      (p.loop cancelled).2.stagingGeneration = p.stagingGeneration ∧
      p.nextIndex ≤ (p.loop cancelled).2.nextIndex ∧
      (p.loop cancelled).2.stopped = p.stopped ∧
      ((p.loop cancelled).1 = .returned → p.stopped = true ∨ p.count ≤ p.nextIndex) := by
  have asserts : p.assertStagingGeneration cancelled = .ok () := if_neg (not_not.mpr current)
  unfold Pool.loop
  by_cases stopped : p.stopped = true
  · rw [if_pos stopped]
    refine ⟨?_, rfl, rfl, rfl, rfl, le_refl _, rfl, fun _ => .inl stopped⟩
    rw [show Worker.returned.index?.toList = [] from rfl, List.append_nil]
    exact sound
  rw [if_neg stopped, asserts]
  dsimp only
  by_cases through : p.nextIndex ≥ p.count
  · rw [if_pos through]
    refine ⟨?_, rfl, rfl, rfl, rfl, Nat.le_succ _, rfl, fun _ => .inr through⟩
    rw [show Worker.returned.index?.toList = [] from rfl, List.append_nil]
    refine { sound with claimed := ?_ }
    rw [Nat.min_eq_right (Nat.le_succ_of_le through), ← Nat.min_eq_right through]
    exact sound.claimed
  · rw [if_neg through]
    have below := not_le.mp through
    refine ⟨?_, rfl, rfl, rfl, rfl, Nat.le_succ _, rfl, fun same => by cases same⟩
    have unseen : (seen cancelled p.log).failure = none := by
      have none := sound.stopped
      rw [Bool.eq_false_iff.mpr stopped] at none
      rw [← Option.not_isSome_iff_eq_none, ← firstFailure, ← sound.failure, ← none]
      exact Bool.false_ne_true
    have uncancelled : (seen cancelled p.log).cancelled = false := by
      rw [sound.current]
      simpa using current
    constructor
    case claimed =>
      show claims (p.log ++ [.claimed p.nextIndex]) = List.range (min (p.nextIndex + 1) p.count)
      rw [claims_append, sound.claimed, Nat.min_eq_left below.le, Nat.min_eq_left below,
        List.range_succ]
      rfl
    case held =>
      show (claims (p.log ++ [.claimed p.nextIndex])).Perm
        (settles (p.log ++ [.claimed p.nextIndex]) ++ (held ++ [p.nextIndex]))
      rw [claims_append, settles_append, ← List.append_assoc]
      show (claims p.log ++ [p.nextIndex]).Perm (settles p.log ++ [] ++ held ++ [p.nextIndex])
      rw [List.append_nil]
      exact sound.held.append_right _
    case failure =>
      show p.failure = (seen cancelled (p.log ++ [.claimed p.nextIndex])).failure
      rw [seen_append]
      exact sound.failure
    case stopped => exact sound.stopped
    case current =>
      show (seen cancelled (p.log ++ [.claimed p.nextIndex])).cancelled = _
      rw [seen_append]
      exact sound.current
    case order => exact sound.order
    case quiet =>
      intro before index after split
      rcases split_append split with ⟨rfl, _, _⟩ | ⟨after', _, old⟩
      · exact quiet_of_seen uncancelled unseen
      · exact sound.quiet before index after' old

/-- What a turn of a worker leaves as it is, and when the worker returns. -/
structure Turn (p p' : Pool ε) (next : Worker) : Prop where
  workers : p'.workers = p.workers
  count : p'.count = p.count
  nextIndex : p.nextIndex ≤ p'.nextIndex
  stopped : p.stopped = true → p'.stopped = true
  returned : next = .returned → p'.stopped = true ∨ p'.count ≤ p'.nextIndex

theorem held_settled {index : Nat} {rest : List Nat} (sound : Sound cancelled p held)
    (isHeld : held.Perm (index :: rest)) (outcome : Except ε Unit) :
    (claims (p.log ++ [.settled index outcome])).Perm
      (settles (p.log ++ [.settled index outcome]) ++ rest) := by
  rw [claims_append, settles_append]
  show (claims p.log ++ []).Perm (settles p.log ++ [index] ++ rest)
  rw [List.append_nil, List.append_assoc]
  exact sound.held.trans (isHeld.append_left _)

/-- A worker that notices a failure stops the call and returns. -/
theorem Sound.fail {index : Nat} {rest : List Nat} (sound : Sound cancelled p held)
    (isHeld : held.Perm (index :: rest)) {outcome : Except ε Unit} {error : ε}
    (notices : see cancelled (seen cancelled p.log) (.settled index outcome) =
      { seen cancelled p.log with
        failure := (seen cancelled p.log).failure.or (some error) }) :
    Sound cancelled (Pool.fail error { p with log := p.log ++ [.settled index outcome] }) rest ∧
      Turn p (Pool.fail error { p with log := p.log ++ [.settled index outcome] }) .returned := by
  have first : firstFailure cancelled (p.log ++ [.settled index outcome]) =
      p.failure.or (some error) := by
    unfold firstFailure
    rw [seen_append, notices, sound.failure]
    rfl
  have current : (seen cancelled (p.log ++ [.settled index outcome])).cancelled =
      (seen cancelled p.log).cancelled := by
    rw [seen_append, notices]
  have claimed : claims (p.log ++ [.settled index outcome]) = claims p.log := by
    rw [claims_append]
    exact List.append_nil _
  have held := held_settled sound isHeld outcome
  have quiet := quiet_append (.settled index outcome) rfl sound.quiet
  unfold Pool.fail
  dsimp only
  by_cases stopped : p.stopped = true
  · rw [if_pos stopped]
    refine ⟨⟨claimed.trans sound.claimed, held, ?_, sound.stopped, current.trans sound.current,
      sound.order, quiet⟩, ⟨rfl, rfl, le_refl _, id, fun _ => .inl stopped⟩⟩
    rw [first]
    have isSome := sound.stopped.symm.trans stopped
    cases failure : p.failure with
    | none =>
      rw [failure] at isSome
      cases isSome
    | some failure => rfl
  · rw [if_neg stopped]
    refine ⟨⟨claimed.trans sound.claimed, held, ?_, rfl, current.trans sound.current,
      sound.order, quiet⟩, ⟨rfl, rfl, le_refl _, fun _ => rfl, fun _ => .inl rfl⟩⟩
    rw [first]
    have isNone := sound.stopped
    rw [Bool.eq_false_iff.mpr stopped] at isNone
    have none : p.failure = none := by
      rw [← Option.not_isSome_iff_eq_none, ← isNone]
      exact Bool.false_ne_true
    rw [none]
    rfl

/-- A worker goes on after a download: it returns, or claims the next item. -/
theorem Sound.goOn {index : Nat} {rest : List Nat} (sound : Sound cancelled p held)
    (isHeld : held.Perm (index :: rest)) (outcome : Except ε Unit) {next : Worker} {p' : Pool ε}
    (goes : Pool.goOn cancelled outcome { p with log := p.log ++ [.settled index outcome] } =
      (next, p')) :
    Sound cancelled p' (rest ++ next.index?.toList) ∧ Turn p p' next := by
  unfold Pool.goOn at goes
  match outcome with
  | .error error =>
    cases goes
    rw [show Worker.returned.index?.toList = [] from rfl, List.append_nil]
    exact sound.fail isHeld rfl
  | .ok () =>
    dsimp only at goes
    by_cases current : p.expected = p.stagingGeneration
    · have asserts : Pool.assertStagingGeneration cancelled
          { p with log := p.log ++ [.settled index (.ok ())] } = .ok () :=
        if_neg (not_not.mpr current)
      rw [asserts] at goes
      dsimp only at goes
      have uncancelled : (seen cancelled p.log).cancelled = false := by
        rw [sound.current]
        simpa using current
      have unnoticed : seen cancelled (p.log ++ [.settled index (.ok ())]) =
          seen cancelled p.log := by
        rw [seen_append]
        simp [see, uncancelled]
      have settled : Sound cancelled { p with log := p.log ++ [.settled index (.ok ())] } rest := by
        constructor
        case claimed =>
          show claims (p.log ++ [.settled index (.ok ())]) = _
          rw [claims_append]
          exact (List.append_nil _).trans sound.claimed
        case held => exact held_settled sound isHeld _
        case failure => exact sound.failure.trans (congrArg Seen.failure unnoticed).symm
        case stopped => exact sound.stopped
        case current => exact (congrArg Seen.cancelled unnoticed).trans sound.current
        case order => exact sound.order
        case quiet => exact quiet_append _ rfl sound.quiet
      obtain ⟨looped, workers, count, _, _, nextIndex, stopped, returned⟩ := settled.loop current
      rw [goes] at looped workers count nextIndex stopped returned
      refine ⟨looped, workers, count, nextIndex, fun old => stopped.trans old, ?_⟩
      intro isReturned
      rcases returned isReturned with old | through
      · exact .inl (stopped.trans old)
      · exact .inr (by rw [count]; exact through.trans nextIndex)
    · have asserts : Pool.assertStagingGeneration cancelled
          { p with log := p.log ++ [.settled index (.ok ())] } = .error cancelled :=
        if_pos current
      rw [asserts] at goes
      cases goes
      rw [show Worker.returned.index?.toList = [] from rfl, List.append_nil]
      apply sound.fail isHeld
      have isCancelled : (seen cancelled p.log).cancelled = true := by
        rw [sound.current]
        simpa using current
      simp only [see, isCancelled, if_true]

end

/-! ## Runs -/

/-- What holds between two events. A worker that returned left no item behind. -/
structure Whole (cancelled : ε) (p : Pool ε) : Prop where
  sound : Sound cancelled p p.fetching
  length : p.workers.length = min MAX_CONCURRENT_PREFETCHES p.count
  done : p.stopped = false → .returned ∈ p.workers → p.count ≤ p.nextIndex

section

variable {cancelled : ε} {p : Pool ε}

/-- The workers are started before anything else can happen. -/
theorem spawnAll_sound (left : Nat) (sound : Sound cancelled p p.fetching)
    (current : p.expected = p.stagingGeneration)
    (done : p.stopped = false → .returned ∈ p.workers → p.count ≤ p.nextIndex) :
    Sound cancelled (spawnAll cancelled left p) (spawnAll cancelled left p).fetching ∧
      (spawnAll cancelled left p).workers.length = p.workers.length + left ∧
      (spawnAll cancelled left p).count = p.count ∧
      ((spawnAll cancelled left p).stopped = false →
        .returned ∈ (spawnAll cancelled left p).workers →
        (spawnAll cancelled left p).count ≤ (spawnAll cancelled left p).nextIndex) := by
  induction left generalizing p with
  | zero => exact ⟨sound, rfl, rfl, done⟩
  | succ left ih =>
    obtain ⟨looped, workers, count, expected, generation, nextIndex, stopped, returned⟩ :=
      sound.loop current
    have spawned : p.spawn cancelled = { (p.loop cancelled).2 with
        workers := (p.loop cancelled).2.workers ++ [(p.loop cancelled).1] } := rfl
    have fetching : (p.spawn cancelled).fetching =
        p.fetching ++ (p.loop cancelled).1.index?.toList := by
      unfold Pool.fetching
      rw [spawned, workers, List.filterMap_append]
      cases h : (p.loop cancelled).1.index? <;> simp [h]
    have next := @ih (p.spawn cancelled) (by
        rw [fetching]
        exact { looped with }) (by
        rw [spawned]
        exact expected.trans (current.trans generation.symm)) (by
        rw [spawned]
        intro running here
        dsimp only at running here ⊢
        rw [stopped] at running
        rw [count]
        rw [workers] at here
        rcases List.mem_append.mp here with old | new
        · exact (done running old).trans nextIndex
        · rcases returned (List.mem_singleton.mp new).symm with old | through
          · rw [running] at old
            cases old
          · exact through.trans nextIndex)
    obtain ⟨nextSound, length, nextCount, nextDone⟩ := next
    refine ⟨nextSound, ?_, ?_, nextDone⟩
    · show (spawnAll cancelled left (p.spawn cancelled)).workers.length = _
      rw [length, spawned, workers, List.length_append, List.length_singleton]
      omega
    · exact nextCount.trans (by rw [spawned, count])

theorem whole_start (count stagingGeneration : Nat) :
    Whole cancelled (prefetchAssets cancelled count stagingGeneration) := by
  have start : Sound cancelled
      { count, expected := stagingGeneration, stagingGeneration : Pool ε } [] := by
    constructor
    case claimed => simp [claims]
    case held => exact List.Perm.refl _
    case failure => rfl
    case stopped => rfl
    case current => simp [seen]
    case order => exact le_refl _
    case quiet =>
      intro before index after split
      cases before <;> cases split
  obtain ⟨sound, length, count, done⟩ := spawnAll_sound
    (min MAX_CONCURRENT_PREFETCHES count) start rfl (fun _ none => by cases none)
  exact ⟨sound, length.trans (by simp [prefetchAssets, count]), done⟩

theorem Sound.perm {held held' : List Nat} (sound : Sound cancelled p held)
    (same : held.Perm held') : Sound cancelled p held' :=
  { sound with held := sound.held.trans (same.append_left _) }

theorem Whole.step {event : Event ε} {p' : Pool ε} (whole : Whole cancelled p)
    (stepped : step cancelled p event = some p') : Whole cancelled p' ∧ p'.count = p.count := by
  cases event with
  | cancel =>
    cases stepped
    refine ⟨⟨⟨?_, ?_, ?_, whole.sound.stopped, ?_, Nat.le_succ_of_le whole.sound.order,
      quiet_append _ rfl whole.sound.quiet⟩, whole.length, whole.done⟩, rfl⟩
    · show claims (p.log ++ [.cancelled]) = _
      rw [claims_append]
      exact (List.append_nil _).trans whole.sound.claimed
    · show (claims (p.log ++ [.cancelled])).Perm (settles (p.log ++ [.cancelled]) ++ p.fetching)
      rw [claims_append, settles_append]
      simpa [Entry.claim?, Entry.settle?] using whole.sound.held
    · show p.failure = (seen cancelled (p.log ++ [.cancelled])).failure
      rw [seen_append]
      exact whole.sound.failure
    · show (seen cancelled (p.log ++ [.cancelled])).cancelled =
        decide (p.expected ≠ p.stagingGeneration + 1)
      rw [seen_append]
      exact (decide_eq_true (Nat.ne_of_lt (Nat.lt_succ_of_le whole.sound.order))).symm
  | settle worker outcome =>
    unfold downloads.step at stepped
    dsimp only at stepped
    cases found : p.workers[worker]? with
    | none =>
      rw [found] at stepped
      cases stepped
    | some w =>
    cases w with
    | returned =>
      rw [found] at stepped
      cases stepped
    | fetching index =>
      rw [found] at stepped
      dsimp only at stepped
      cases goes : Pool.goOn cancelled outcome
        { p with log := p.log ++ [.settled index outcome] } with
      | mk next after =>
      rw [goes] at stepped
      cases stepped
      obtain ⟨inside, isWorker⟩ := List.getElem?_eq_some_iff.mp found
      have before : p.fetching.Perm
          (index :: (p.workers.eraseIdx worker).filterMap Worker.index?) := by
        have moved := (List.getElem_cons_eraseIdx_perm inside).symm.filterMap Worker.index?
        rw [isWorker] at moved
        exact moved
      obtain ⟨sound, turn⟩ := whole.sound.goOn before outcome goes
      refine ⟨⟨?_, ?_, ?_⟩, turn.count⟩
      · have changed := (List.set_perm_cons_eraseIdx (turn.workers ▸ inside) next).filterMap
          Worker.index?
        have erased : after.workers.eraseIdx worker = p.workers.eraseIdx worker := by
          rw [turn.workers]
        rw [erased] at changed
        have fetching : ((next :: p.workers.eraseIdx worker).filterMap Worker.index?).Perm
            ((p.workers.eraseIdx worker).filterMap Worker.index? ++ next.index?.toList) := by
          cases next with
          | fetching index => exact (List.perm_append_singleton _ _).symm
          | returned => exact (List.append_nil _).symm ▸ List.Perm.refl _
        exact { sound.perm (fetching.symm.trans changed.symm) with }
      · show (after.workers.set worker next).length = min _ after.count
        rw [List.length_set, turn.workers, turn.count]
        exact whole.length
      · intro running here
        dsimp only at running here ⊢
        rw [turn.workers] at here
        have old : p.stopped = false := by
          cases stopped : p.stopped with
          | false => rfl
          | true =>
            rw [turn.stopped stopped] at running
            cases running
        rcases List.mem_or_eq_of_mem_set here with before | isNext
        · rw [turn.count]
          exact (whole.done old before).trans turn.nextIndex
        · rcases turn.returned isNext.symm with stopped | through
          · rw [stopped] at running
            cases running
          · exact through

theorem Whole.run {events : List (Event ε)} {p' : Pool ε} (whole : Whole cancelled p)
    (ran : run cancelled p events = some p') : Whole cancelled p' ∧ p'.count = p.count := by
  induction events generalizing p with
  | nil =>
    cases ran
    exact ⟨whole, rfl⟩
  | cons event rest ih =>
    obtain ⟨next, stepped, others⟩ := Option.bind_eq_some_iff.mp ran
    obtain ⟨nextWhole, count⟩ := whole.step stepped
    obtain ⟨last, same⟩ := ih nextWhole others
    exact ⟨last, same.trans count⟩

/-! ## The end of the call -/

theorem result_pending_iff (p : Pool ε) : p.result = .pending ↔ p.fetching ≠ [] := by
  have idle : p.workers.all (· == .returned) = true ↔ p.fetching = [] := by
    unfold Pool.fetching
    rw [List.all_eq_true, List.filterMap_eq_nil_iff]
    apply forall₂_congr
    intro worker _
    cases worker <;> simp [Worker.index?]
  unfold Pool.result
  split
  · next returned =>
    have none := idle.mp returned
    split <;> simp [none]
  · next busy => simpa using mt idle.mpr busy

theorem successes_append (log : List (Entry ε)) (entry : Entry ε) :
    successes (log ++ [entry]) = successes log ++ entry.success?.toList := by
  unfold successes
  rw [List.filterMap_append]
  cases h : entry.success? <;> simp [h]

/-- The downloads that succeeded are some of those that settled. -/
theorem successes_sublist (log : List (Entry ε)) : (successes log).Sublist (settles log) := by
  induction log using List.reverseRecOn with
  | nil => exact List.Sublist.refl _
  | append_singleton log entry ih =>
    rw [successes_append, settles_append]
    apply ih.append
    match entry with
    | .claimed _ | .cancelled | .settled _ (.ok ()) => exact List.Sublist.refl _
    | .settled _ (.error _) => exact List.nil_sublist _

theorem seen_cancelled_iff (log : List (Entry ε)) :
    (seen cancelled log).cancelled = true ↔
      ∃ before after, log = before ++ .cancelled :: after := by
  rw [← List.mem_iff_append]
  induction log using List.reverseRecOn with
  | nil => simp [seen]
  | append_singleton log entry ih =>
    rw [seen_append, List.mem_append, List.mem_singleton]
    match entry with
    | .claimed _ => simpa [see] using ih
    | .cancelled => simp [see]
    | .settled _ (.error _) => simpa [see] using ih
    | .settled _ (.ok ()) =>
      cases old : (seen cancelled log).cancelled with
      | true => simpa [see, old] using ih.mp old
      | false => simpa [see, old] using ih

theorem CancelledAfterAll.before {log : List (Entry ε)} {entry : Entry ε}
    (last : CancelledAfterAll (log ++ [entry])) : CancelledAfterAll log := by
  intro before after split
  have whole := last before (after ++ [entry]) (by rw [split]; simp)
  rw [settles_append] at whole
  exact (List.append_eq_nil_iff.mp whole).1

/-- Nothing fails just when every download that settles succeeds, before any cancellation. -/
theorem firstFailure_none_iff (log : List (Entry ε)) :
    firstFailure cancelled log = none ↔ successes log = settles log ∧ CancelledAfterAll log := by
  unfold firstFailure
  induction log using List.reverseRecOn with
  | nil =>
    refine iff_of_true rfl ⟨rfl, ?_⟩
    intro before after split
    cases before <;> cases split
  | append_singleton log entry ih =>
    rw [seen_append, successes_append, settles_append]
    match entry with
    | .claimed index =>
      show (seen cancelled log).failure = none ↔ _ ++ [] = _ ++ [] ∧ _
      rw [ih, List.append_nil, List.append_nil]
      refine and_congr_right fun _ => ⟨?_, CancelledAfterAll.before⟩
      intro last before after split
      rcases split_append split with ⟨_, same, _⟩ | ⟨after', rfl, old⟩
      · cases same
      · rw [settles_append, last before after' old]
        rfl
    | .cancelled =>
      show (seen cancelled log).failure = none ↔ _ ++ [] = _ ++ [] ∧ _
      rw [ih, List.append_nil, List.append_nil]
      refine and_congr_right fun _ => ⟨?_, CancelledAfterAll.before⟩
      intro last before after split
      rcases split_append split with ⟨_, _, rfl⟩ | ⟨after', rfl, old⟩
      · rfl
      · rw [settles_append, last before after' old]
        rfl
    | .settled index (.error error) =>
      refine iff_of_false ?_ ?_
      · simp [see]
      · rintro ⟨same, _⟩
        have fewer := (successes_sublist log).length_le
        have lengths := congrArg List.length same
        simp only [Entry.success?, Entry.settle?, Option.toList_none, Option.toList_some,
          List.append_nil, List.length_append, List.length_singleton] at lengths
        omega
    | .settled index (.ok ()) =>
      have both : successes log ++ [index] = settles log ++ [index] ↔
          successes log = settles log := List.append_left_inj _
      show (see cancelled (seen cancelled log) (.settled index (.ok ()))).failure = none ↔
        successes log ++ [index] = settles log ++ [index] ∧ _
      rw [both]
      cases old : (seen cancelled log).cancelled with
      | true =>
        refine iff_of_false (by simp [see, old]) ?_
        rintro ⟨_, last⟩
        obtain ⟨before, after, split⟩ := (seen_cancelled_iff log).mp old
        have none := last before (after ++ [.settled index (.ok ())]) (by rw [split]; simp)
        rw [settles_append] at none
        exact absurd none (by simp [Entry.settle?])
      | false =>
        simp only [see, old, Bool.false_eq_true, if_false]
        rw [ih]
        refine and_congr_right fun _ => ⟨?_, CancelledAfterAll.before⟩
        intro last before after split
        rcases split_append split with ⟨_, same, _⟩ | ⟨after', _, isSplit⟩
        · cases same
        · rw [(seen_cancelled_iff log).mpr ⟨before, after', isSplit⟩] at old
          cases old

theorem Whole.resolves_iff (whole : Whole cancelled p) :
    p.result = .resolved ↔ AllPrefetched p.count p.log ∧ CancelledAfterAll p.log := by
  have pending := result_pending_iff p
  have result : p.result = .resolved ↔ p.fetching = [] ∧ p.stopped = false := by
    unfold Pool.result at pending ⊢
    cases busy : p.workers.all (· == .returned) <;> cases stopped : p.stopped <;>
      simp_all
  have failure : p.stopped = false ↔ successes p.log = settles p.log ∧ CancelledAfterAll p.log := by
    rw [whole.sound.stopped, ← @firstFailure_none_iff ε cancelled,
      ← whole.sound.failure]
    exact Option.isSome_eq_false_iff.trans Option.isNone_iff_eq_none
  have held := whole.sound.held
  rw [result, failure]
  constructor
  · rintro ⟨idle, same, last⟩
    have all : p.count ≤ p.nextIndex := by
      by_cases none : p.count = 0
      · omega
      · have length := whole.length
        cases workers : p.workers with
        | nil =>
          rw [workers] at length
          unfold MAX_CONCURRENT_PREFETCHES at length
          simp only [List.length_nil] at length
          omega
        | cons worker others =>
          apply whole.done (failure.mpr ⟨same, last⟩)
          have idle' := List.filterMap_eq_nil_iff.mp idle worker (by simp [workers])
          cases worker with
          | fetching index => cases idle'
          | returned => simp [workers]
    refine ⟨?_, last⟩
    unfold AllPrefetched
    rw [same, ← Nat.min_eq_right all, ← whole.sound.claimed]
    rw [idle, List.append_nil] at held
    exact held.symm
  · rintro ⟨all, last⟩
    have fewer := successes_sublist p.log
    have counts := held.length_eq
    have every := all.length_eq
    rw [whole.sound.claimed, List.length_append, List.length_range] at counts
    rw [List.length_range] at every
    have less := fewer.length_le
    have idle : p.fetching = [] := List.length_eq_zero_iff.mp (by omega)
    exact ⟨idle, fewer.eq_of_length (by omega), last⟩

end

/-- Two downloads at most run at a time, and each item is claimed once at most. The call resolves
just when each item was downloaded once without a failure and no download settled after a
cancellation. Nothing is claimed after a failure or a cancellation. The call rejects with the
failure that was noticed first, once everything that was claimed has settled. -/
theorem two_workers_download_each_item_once (cancelled : ε) (count stagingGeneration : Nat)
    (events : List (Event ε)) {p : Pool ε}
    (ran : run cancelled (prefetchAssets cancelled count stagingGeneration) events = some p) :
    p.fetching.length ≤ 2 ∧ (claims p.log).Nodup ∧
      (p.result = .resolved ↔ AllPrefetched count p.log ∧ CancelledAfterAll p.log) ∧
      (∀ before index after, p.log = before ++ .claimed index :: after →
        ∀ entry ∈ before, entry.Quiet) ∧
      (∀ failure, p.result = .rejected failure → failure.isSome = true ∧
        failure = firstFailure cancelled p.log ∧ p.fetching = [] ∧
          (settles p.log).Perm (claims p.log)) ∧
      (p.result = .pending ↔ p.fetching ≠ []) := by
  obtain ⟨whole, sameCount⟩ := (whole_start count stagingGeneration).run ran
  have isCount : p.count = count := by
    have started : (prefetchAssets cancelled count stagingGeneration).count = count := by
      have fresh : ∀ left (p : Pool ε), (spawnAll cancelled left p).count = p.count := by
        intro left
        induction left with
        | zero => exact fun _ => rfl
        | succ left ih =>
          intro p
          refine (ih _).trans ?_
          show (p.loop cancelled).2.count = p.count
          unfold Pool.loop
          split
          · rfl
          split
          · unfold Pool.fail
            split <;> rfl
          dsimp only
          split <;> rfl
      exact fresh _ _
    exact sameCount.trans started
  refine ⟨?_, ?_, ?_, whole.sound.quiet, ?_, result_pending_iff p⟩
  · have length := whole.length
    have fetching := List.length_filterMap_le Worker.index? p.workers
    unfold MAX_CONCURRENT_PREFETCHES at length
    unfold Pool.fetching
    omega
  · rw [whole.sound.claimed]
    exact List.nodup_range
  · rw [whole.resolves_iff, isCount]
  · intro failure rejected
    have idle : p.fetching = [] := by
      by_contra busy
      rw [(result_pending_iff p).mpr busy] at rejected
      cases rejected
    unfold Pool.result at rejected
    split at rejected
    · split at rejected
      · next stopped =>
        cases rejected
        have held := whole.sound.held
        rw [idle, List.append_nil] at held
        exact ⟨whole.sound.stopped.symm.trans stopped, whole.sound.failure, idle, held.symm⟩
      · cases rejected
    · cases rejected

/-- Two workers download three items. In the second run the first item fails, and the call rejects
with this failure once the item of the other worker is there. -/
theorem three_items_are_downloaded :
    (∃ p : Pool String, run "cancelled" (prefetchAssets "cancelled" 3 0)
        [.settle 1 (.ok ()), .settle 0 (.ok ()), .settle 1 (.ok ())] = some p ∧
      p.result = .resolved ∧ AllPrefetched 3 p.log ∧ (claims p.log).Nodup) ∧
    ∃ p : Pool String, run "cancelled" (prefetchAssets "cancelled" 3 0)
        [.settle 0 (.error "offline"), .settle 1 (.ok ())] = some p ∧
      p.result = .rejected (some "offline") ∧ p.fetching = [] ∧
        (settles p.log).Perm (claims p.log) := by
  constructor
  · let p : Pool String :=
      { count := 3, expected := 0, stagingGeneration := 0, nextIndex := 5,
        workers := [.returned, .returned],
        log := [.claimed 0, .claimed 1, .settled 1 (.ok ()), .claimed 2, .settled 0 (.ok ()),
                .settled 2 (.ok ())] }
    have ran : run "cancelled" (prefetchAssets "cancelled" 3 0)
        [.settle 1 (.ok ()), .settle 0 (.ok ()), .settle 1 (.ok ())] = some p := by
      simp [p, run, step, prefetchAssets, spawnAll, Pool.spawn, Pool.loop, Pool.goOn,
        Pool.assertStagingGeneration, MAX_CONCURRENT_PREFETCHES]
    obtain ⟨_, once, resolves, _⟩ := two_workers_download_each_item_once "cancelled" 3 0 _ ran
    exact ⟨p, ran, rfl, (resolves.mp rfl).1, once⟩
  · let p : Pool String :=
      { count := 3, expected := 0, stagingGeneration := 0, nextIndex := 2, stopped := true,
        failure := some "offline", workers := [.returned, .returned],
        log := [.claimed 0, .claimed 1, .settled 0 (.error "offline"), .settled 1 (.ok ())] }
    have ran : run "cancelled" (prefetchAssets "cancelled" 3 0)
        [.settle 0 (.error "offline"), .settle 1 (.ok ())] = some p := by
      simp [p, run, step, prefetchAssets, spawnAll, Pool.spawn, Pool.loop, Pool.goOn, Pool.fail,
        Pool.assertStagingGeneration, MAX_CONCURRENT_PREFETCHES]
    obtain ⟨_, _, _, _, rejects, _⟩ := two_workers_download_each_item_once "cancelled" 3 0 _ ran
    obtain ⟨_, _, idle, settled⟩ := rejects (some "offline") rfl
    exact ⟨p, ran, rfl, idle, settled⟩

/-- The staging is cancelled while the last item is downloaded. The download succeeds, and the
call rejects. -/
theorem a_cancelled_download_that_succeeds_rejects :
    ¬ ∀ (cancelled : String) (count stagingGeneration : Nat) (events : List (Event String))
      (p : Pool String),
      run cancelled (prefetchAssets cancelled count stagingGeneration) events = some p →
      (p.result = .resolved ↔ AllPrefetched count p.log) := by
  intro every
  have resolves := every "cancelled" 1 0 [.cancel, .settle 0 (.ok ())] _ rfl
  cases resolves.mpr (List.Perm.refl _)

end screengoblin.downloads
