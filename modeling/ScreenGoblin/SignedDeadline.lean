-- The watcher of a signed deadline (`watchSignedDeadline` in core/signed-deadline.ts of the
-- player). One timer looks at the wall clock again and again, and a fail-safe timer counts the
-- time that was left at the start, in chunks. So no correction of the wall clock extends the
-- lifetime. The host holds the timers and gives each event its readings of the clocks.
import Mathlib.Algebra.BigOperators.Group.List.Basic
import Mathlib.Algebra.Order.Field.Rat
import Mathlib.Tactic.Linarith

namespace screengoblin.deadlines

/-! ## The watcher -/

def MAX_WALL_CLOCK_CHECK_MS : Rat := 30000
def MAX_TIMER_DELAY_MS : Rat := 24 * 60 * 60000

/-- What a timer runs. The callback of the fail-safe timer closes on its delay. -/
inductive Callback where
  | checkWallClock
  | failSafe (delay : Rat)
  deriving DecidableEq

/-- A timer that the host holds. -/
structure Timer where
  id : Nat
  callback : Callback
  armedAt : Rat
  delay : Rat

/-- When the timer is due, on the monotonic clock. -/
def Timer.dueAt (t : Timer) : Rat := t.armedAt + t.delay

/-- The clocks at an event: `Date.now()`, and the monotonic clock of the host. -/
structure Reading where
  wall : Rat
  monotonic : Rat

structure Watcher where
  deadline : Rat
  failSafeRemaining : Rat
  wallTimer : Option Nat := none
  failSafeTimer : Option Nat := none
  finished : Bool := false
  /-- Both listeners are there. -/
  listening : Bool := false
  /-- The timers of the host, and the next number that it gives out. -/
  timers : List Timer := []
  issued : Nat := 0
  /-- How often `onElapsed` was called, and the delays of the fail-safe timers that fired. -/
  elapsed : Nat := 0
  chunks : List Rat := []

namespace Watcher

/-- `window.setTimeout`, with the number of the timer. -/
def setTimeout (callback : Callback) (delay : Rat) (r : Reading) (w : Watcher) : Nat × Watcher :=
  (w.issued, { w with
    timers := w.timers ++ [⟨w.issued, callback, r.monotonic, delay⟩], issued := w.issued + 1 })

/-- `if (timer !== undefined) window.clearTimeout(timer)` -/
def clearTimeout (timer : Option Nat) (w : Watcher) : Watcher :=
  match timer with
  | none => w
  | some id => { w with timers := w.timers.filter (·.id != id) }

def removeListeners (w : Watcher) : Watcher := { w with listening := false }

def cancelTimers (w : Watcher) : Watcher :=
  { (w.clearTimeout w.wallTimer).clearTimeout w.failSafeTimer with
    wallTimer := none, failSafeTimer := none }

def onElapsed (w : Watcher) : Watcher := { w with elapsed := w.elapsed + 1 }

def expire (w : Watcher) : Watcher :=
  if w.finished then w
  else { w with finished := true }.cancelTimers.removeListeners.onElapsed

def checkWallClock (r : Reading) (w : Watcher) : Watcher :=
  if w.finished then w
  else
    let w := { w.clearTimeout w.wallTimer with wallTimer := none }
    let remaining := w.deadline - r.wall
    if remaining ≤ 0 then w.expire
    else
      let (id, w) := w.setTimeout .checkWallClock (min remaining MAX_WALL_CLOCK_CHECK_MS) r
      { w with wallTimer := some id }

def scheduleFailSafe (r : Reading) (w : Watcher) : Watcher :=
  if w.finished then w
  else if w.failSafeRemaining ≤ 0 then w.expire
  else
    let delay := min w.failSafeRemaining MAX_TIMER_DELAY_MS
    let (id, w) := w.setTimeout (.failSafe delay) delay r
    { w with failSafeTimer := some id }

/-- The callback of the fail-safe timer. -/
def failSafe (delay : Rat) (r : Reading) (w : Watcher) : Watcher :=
  { w with
    failSafeTimer := none, failSafeRemaining := w.failSafeRemaining - delay,
    chunks := w.chunks ++ [delay] }.scheduleFailSafe r

/-- What the function that `watchSignedDeadline` returns does. -/
def dispose (w : Watcher) : Watcher :=
  if w.finished then w else { w with finished := true }.cancelTimers.removeListeners

end Watcher

/-- `initialRemaining`, at the first reading of the wall clock. -/
def initialRemaining (deadline first : Rat) : Rat := max 0 (deadline - first)

/-- The watcher with its listeners, at the first reading of the wall clock. -/
def listener (deadline first : Rat) : Watcher :=
  { deadline, failSafeRemaining := initialRemaining deadline first, listening := true }

/-- The watcher when `watchSignedDeadline` returns. Until then it has read the wall clock twice. -/
def watch (deadline first : Rat) (second : Reading) : Watcher :=
  ((listener deadline first).checkWallClock second).scheduleFailSafe second

/-- A deadline that is not finite (`none`) is refused. -/
def watchSignedDeadline (deadline : Option Rat) (first : Rat) (second : Reading) :
    Except String Watcher :=
  match deadline with
  | none => .error "Deadline must be finite"
  | some deadline => .ok (watch deadline first second)

/-! ## Runs -/

/-- What can happen to a watcher. -/
inductive Event where
  | timer (id : Nat)
  | visibilitychange
  | pageshow
  | dispose
  deriving DecidableEq

structure Move where
  event : Event
  reading : Reading

/-- One event. A timer that fires is no longer held. -/
def step (w : Watcher) (m : Move) : Watcher :=
  match m.event with
  | .timer id =>
    match w.timers.find? (·.id == id) with
    | none => w
    | some t =>
      let w := { w with timers := w.timers.filter (·.id != id) }
      match t.callback with
      | .checkWallClock => w.checkWallClock m.reading
      | .failSafe delay => w.failSafe delay m.reading
  | .visibilitychange | .pageshow => if w.listening then w.checkWallClock m.reading else w
  | .dispose => w.dispose

def after (w : Watcher) (moves : List Move) : Watcher := moves.foldl step w

/-- The move looks at the wall clock. -/
def Checks (w : Watcher) (m : Move) : Prop :=
  m.event = .visibilitychange ∨ m.event = .pageshow ∨ ∃ id, m.event = .timer id ∧
    w.wallTimer = some id

/-- The host keeps its times: a timer does not fire before it is due, and no event happens when a
timer is due for longer than `lag`. -/
def InTime (lag : Rat) (w : Watcher) (m : Move) : Prop :=
  (∀ id, m.event = .timer id → ∀ t ∈ w.timers, t.id = id → t.dueAt ≤ m.reading.monotonic) ∧
    ∀ t ∈ w.timers, m.reading.monotonic ≤ t.dueAt + lag

/-- A run in which every move is in time. -/
def RunsInTime (lag : Rat) (w : Watcher) (moves : List Move) : Prop :=
  ∀ before m rest, moves = before ++ m :: rest → InTime lag (after w before) m

/-! ## What one event preserves -/

/-- A watcher that waits holds two timers. -/
structure Waits (w : Watcher) (wall failSafe : Timer) : Prop where
  unfinished : w.finished = false
  quiet : w.elapsed = 0
  listening : w.listening = true
  timers : ∀ t, t ∈ w.timers ↔ t = wall ∨ t = failSafe
  apart : wall.id ≠ failSafe.id
  fresh : wall.id < w.issued ∧ failSafe.id < w.issued
  wallTimer : w.wallTimer = some wall.id
  failSafeTimer : w.failSafeTimer = some failSafe.id
  wallCallback : wall.callback = .checkWallClock
  wallDelay : 0 < wall.delay ∧ wall.delay ≤ MAX_WALL_CLOCK_CHECK_MS
  failSafeCallback : failSafe.callback = .failSafe failSafe.delay
  failSafeDelay : failSafe.delay = min w.failSafeRemaining MAX_TIMER_DELAY_MS
  remaining : 0 < w.failSafeRemaining

/-- A watcher that is through holds nothing. -/
structure Through (w : Watcher) : Prop where
  finished : w.finished = true
  timers : w.timers = []
  listening : w.listening = false
  once : w.elapsed ≤ 1

section

variable {w : Watcher} {r : Reading}

theorem clearTimeout_eq (timer : Option Nat) (w : Watcher) :
    w.clearTimeout timer = { w with timers := w.timers.filter fun t => timer != some t.id } := by
  cases timer with
  | none =>
    have all : w.timers.filter (fun t => none != some t.id) = w.timers := by simp
    rw [all]
    rfl
  | some id =>
    have same : w.timers.filter (fun t => some id != some t.id) =
        w.timers.filter (·.id != id) := by
      apply List.filter_congr
      intro t _
      rw [Bool.eq_iff_iff]
      simp only [bne_iff_ne, ne_eq, Option.some.injEq]
      exact not_congr eq_comm
    rw [same]
    rfl

/-- An expired watcher holds none of its timers. -/
theorem expire_eq (unfinished : w.finished = false) :
    w.expire = { w with
      finished := true, wallTimer := none, failSafeTimer := none, listening := false,
      elapsed := w.elapsed + 1,
      timers := (w.timers.filter fun t => w.wallTimer != some t.id).filter
        fun t => w.failSafeTimer != some t.id } := by
  unfold Watcher.expire Watcher.cancelTimers
  rw [if_neg (Bool.eq_false_iff.mp unfinished), clearTimeout_eq, clearTimeout_eq]
  rfl

/-- To dispose of a watcher is to expire it without the call. -/
theorem dispose_eq (unfinished : w.finished = false) :
    w.dispose = { w.expire with elapsed := w.elapsed } := by
  rw [expire_eq unfinished]
  unfold Watcher.dispose Watcher.cancelTimers
  rw [if_neg (Bool.eq_false_iff.mp unfinished), clearTimeout_eq, clearTimeout_eq]
  rfl

theorem checkWallClock_expires (unfinished : w.finished = false) (due : w.deadline ≤ r.wall) :
    w.checkWallClock r =
      { w with
        wallTimer := none, timers := w.timers.filter fun t => w.wallTimer != some t.id }.expire := by
  unfold Watcher.checkWallClock
  rw [if_neg (Bool.eq_false_iff.mp unfinished), clearTimeout_eq]
  dsimp only
  rw [if_pos (by linarith)]

theorem checkWallClock_waits (unfinished : w.finished = false) (early : r.wall < w.deadline) :
    w.checkWallClock r = { w with
      wallTimer := some w.issued, issued := w.issued + 1,
      timers := (w.timers.filter fun t => w.wallTimer != some t.id) ++
        [⟨w.issued, .checkWallClock, r.monotonic,
          min (w.deadline - r.wall) MAX_WALL_CLOCK_CHECK_MS⟩] } := by
  unfold Watcher.checkWallClock
  rw [if_neg (Bool.eq_false_iff.mp unfinished), clearTimeout_eq]
  dsimp only
  rw [if_neg (by linarith)]
  rfl

theorem scheduleFailSafe_waits (unfinished : w.finished = false) (left : 0 < w.failSafeRemaining) :
    w.scheduleFailSafe r = { w with
      failSafeTimer := some w.issued, issued := w.issued + 1,
      timers := w.timers ++ [⟨w.issued, .failSafe (min w.failSafeRemaining MAX_TIMER_DELAY_MS),
        r.monotonic, min w.failSafeRemaining MAX_TIMER_DELAY_MS⟩] } := by
  unfold Watcher.scheduleFailSafe
  rw [if_neg (Bool.eq_false_iff.mp unfinished), if_neg (not_le.mpr left)]
  rfl

theorem scheduleFailSafe_expires (unfinished : w.finished = false)
    (none : w.failSafeRemaining ≤ 0) : w.scheduleFailSafe r = w.expire := by
  unfold Watcher.scheduleFailSafe
  rw [if_neg (Bool.eq_false_iff.mp unfinished), if_pos none]

/-- The deadline and the count of the fail-safe timer are the same. -/
structure Same (w next : Watcher) : Prop where
  deadline : next.deadline = w.deadline
  failSafeRemaining : next.failSafeRemaining = w.failSafeRemaining
  chunks : next.chunks = w.chunks

theorem same_expire (w : Watcher) : Same w w.expire := by
  cases h : w.finished with
  | false =>
    rw [expire_eq h]
    exact ⟨rfl, rfl, rfl⟩
  | true =>
    unfold Watcher.expire
    rw [if_pos h]
    exact ⟨rfl, rfl, rfl⟩

theorem same_checkWallClock (w : Watcher) (r : Reading) : Same w (w.checkWallClock r) := by
  cases h : w.finished with
  | true =>
    unfold Watcher.checkWallClock
    rw [if_pos h]
    exact ⟨rfl, rfl, rfl⟩
  | false =>
    by_cases due : w.deadline ≤ r.wall
    · rw [checkWallClock_expires h due]
      have same := same_expire { w with
        wallTimer := none, timers := w.timers.filter fun t => w.wallTimer != some t.id }
      exact ⟨same.deadline, same.failSafeRemaining, same.chunks⟩
    · rw [checkWallClock_waits h (not_le.mp due)]
      exact ⟨rfl, rfl, rfl⟩

theorem same_scheduleFailSafe (w : Watcher) (r : Reading) : Same w (w.scheduleFailSafe r) := by
  cases h : w.finished with
  | true =>
    unfold Watcher.scheduleFailSafe
    rw [if_pos h]
    exact ⟨rfl, rfl, rfl⟩
  | false =>
    by_cases none : w.failSafeRemaining ≤ 0
    · rw [scheduleFailSafe_expires h none]
      exact same_expire w
    · rw [scheduleFailSafe_waits h (not_le.mp none)]
      exact ⟨rfl, rfl, rfl⟩

/-- A watcher with no timer but its own is through once it expires. -/
theorem through_expire (unfinished : w.finished = false) (quiet : w.elapsed = 0)
    (own : ∀ t ∈ w.timers, w.wallTimer = some t.id ∨ w.failSafeTimer = some t.id) :
    Through w.expire ∧ w.expire.elapsed = 1 := by
  have fired : w.expire.elapsed = 1 := by
    rw [expire_eq unfinished]
    show w.elapsed + 1 = 1
    rw [quiet]
  refine ⟨⟨?_, ?_, ?_, fired.le⟩, fired⟩
  · rw [expire_eq unfinished]
  · rw [expire_eq unfinished, List.filter_filter, List.filter_eq_nil_iff]
    intro t here
    rcases own t here with isWall | isFailSafe
    · simp [isWall]
    · simp [isFailSafe]
  · rw [expire_eq unfinished]

/-- A watcher that is through stays as it is. -/
theorem Through.step (through : Through w) (m : Move) : step w m = w := by
  obtain ⟨event, r⟩ := m
  unfold deadlines.step
  cases event with
  | timer id => rw [through.timers]; rfl
  | visibilitychange => rw [through.listening]; rfl
  | pageshow => rw [through.listening]; rfl
  | dispose => simp [Watcher.dispose, through.finished]

/-- A watcher whose wall timer is gone, or still there, before it looks at the wall clock. -/
structure Half (w : Watcher) (failSafe : Timer) : Prop where
  unfinished : w.finished = false
  quiet : w.elapsed = 0
  listening : w.listening = true
  timers : ∀ t, (t ∈ w.timers ∧ w.wallTimer ≠ some t.id) ↔ t = failSafe
  fresh : failSafe.id < w.issued
  failSafeTimer : w.failSafeTimer = some failSafe.id
  failSafeCallback : failSafe.callback = .failSafe failSafe.delay
  failSafeDelay : failSafe.delay = min w.failSafeRemaining MAX_TIMER_DELAY_MS
  remaining : 0 < w.failSafeRemaining

theorem Half.checks_late {failSafe : Timer} (half : Half w failSafe) (due : w.deadline ≤ r.wall) :
    Through (w.checkWallClock r) ∧ (w.checkWallClock r).elapsed = 1 := by
  rw [checkWallClock_expires half.unfinished due]
  apply through_expire
  · exact half.unfinished
  · exact half.quiet
  · intro t here
    obtain ⟨here, other⟩ := List.mem_filter.mp here
    rw [(half.timers t).mp ⟨here, bne_iff_ne.mp other⟩]
    exact .inr half.failSafeTimer

theorem Half.checks_early {failSafe : Timer} (half : Half w failSafe)
    (early : r.wall < w.deadline) : ∃ wall, Waits (w.checkWallClock r) wall failSafe := by
  rw [checkWallClock_waits half.unfinished early]
  refine ⟨⟨w.issued, .checkWallClock, r.monotonic,
    min (w.deadline - r.wall) MAX_WALL_CLOCK_CHECK_MS⟩, ?_⟩
  constructor
  case unfinished => exact half.unfinished
  case quiet => exact half.quiet
  case listening => exact half.listening
  case timers =>
    intro t
    rw [List.mem_append, List.mem_filter, List.mem_singleton, bne_iff_ne, half.timers t, or_comm]
  case apart => exact Nat.ne_of_gt half.fresh
  case fresh => exact ⟨Nat.lt_succ_self _, Nat.lt_succ_of_lt half.fresh⟩
  case wallTimer => rfl
  case failSafeTimer => exact half.failSafeTimer
  case wallCallback => rfl
  case wallDelay =>
    refine ⟨lt_min (by linarith) ?_, min_le_right _ _⟩
    unfold MAX_WALL_CLOCK_CHECK_MS
    norm_num
  case failSafeCallback => exact half.failSafeCallback
  case failSafeDelay => exact half.failSafeDelay
  case remaining => exact half.remaining

/-- A watcher that waits for its wall timer only. -/
structure Lone (w : Watcher) (wall : Timer) : Prop where
  unfinished : w.finished = false
  quiet : w.elapsed = 0
  listening : w.listening = true
  timers : ∀ t, t ∈ w.timers ↔ t = wall
  fresh : wall.id < w.issued
  wallTimer : w.wallTimer = some wall.id
  wallCallback : wall.callback = .checkWallClock
  wallDelay : 0 < wall.delay ∧ wall.delay ≤ MAX_WALL_CLOCK_CHECK_MS

theorem Lone.expires {wall : Timer} (lone : Lone w wall) (none : w.failSafeRemaining ≤ 0) :
    Through (w.scheduleFailSafe r) ∧ (w.scheduleFailSafe r).elapsed = 1 := by
  rw [scheduleFailSafe_expires lone.unfinished none]
  apply through_expire lone.unfinished lone.quiet
  intro t here
  rw [(lone.timers t).mp here]
  exact .inl lone.wallTimer

theorem Lone.waits {wall : Timer} (lone : Lone w wall) (left : 0 < w.failSafeRemaining) :
    ∃ failSafe, failSafe.armedAt = r.monotonic ∧ Waits (w.scheduleFailSafe r) wall failSafe := by
  rw [scheduleFailSafe_waits lone.unfinished left]
  refine ⟨⟨w.issued, .failSafe (min w.failSafeRemaining MAX_TIMER_DELAY_MS), r.monotonic,
    min w.failSafeRemaining MAX_TIMER_DELAY_MS⟩, rfl, ?_⟩
  constructor
  case unfinished => exact lone.unfinished
  case quiet => exact lone.quiet
  case listening => exact lone.listening
  case timers =>
    intro t
    rw [List.mem_append, List.mem_singleton, lone.timers t]
  case apart => exact Nat.ne_of_lt lone.fresh
  case fresh => exact ⟨Nat.lt_succ_of_lt lone.fresh, Nat.lt_succ_self _⟩
  case wallTimer => exact lone.wallTimer
  case failSafeTimer => rfl
  case wallCallback => exact lone.wallCallback
  case wallDelay => exact lone.wallDelay
  case failSafeCallback => rfl
  case failSafeDelay => rfl
  case remaining => exact left

/-! ## One event of a watcher that waits -/

/-- The fail-safe timer has fired once more. -/
structure Counts (w next : Watcher) (delay : Rat) : Prop where
  deadline : next.deadline = w.deadline
  failSafeRemaining : next.failSafeRemaining = w.failSafeRemaining - delay
  chunks : next.chunks = w.chunks ++ [delay]

/-- What an event makes of a watcher that waits. -/
inductive Outcome (w : Watcher) (wall failSafe : Timer) (m : Move) (next : Watcher) : Prop where
  | disposed (event : m.event = .dispose) (through : Through next) (quiet : next.elapsed = 0)
      (same : Same w next)
  | late (checks : Checks w m) (due : w.deadline ≤ m.reading.wall) (through : Through next)
      (fired : next.elapsed = 1) (same : Same w next)
  | early (checks : Checks w m) (early : m.reading.wall < w.deadline) (wall' : Timer)
      (waits : Waits next wall' failSafe) (same : Same w next)
  | last (event : m.event = .timer failSafe.id) (none : w.failSafeRemaining ≤ failSafe.delay)
      (through : Through next) (fired : next.elapsed = 1) (counts : Counts w next failSafe.delay)
  | rearmed (event : m.event = .timer failSafe.id) (left : failSafe.delay < w.failSafeRemaining)
      (failSafe' : Timer) (armed : failSafe'.armedAt = m.reading.monotonic)
      (waits : Waits next wall failSafe') (counts : Counts w next failSafe.delay)
  | ignored (id : Nat) (event : m.event = .timer id) (other : id ≠ wall.id ∧ id ≠ failSafe.id)
      (same : next = w)

theorem Waits.half {wall failSafe : Timer} (waits : Waits w wall failSafe) : Half w failSafe where
  unfinished := waits.unfinished
  quiet := waits.quiet
  listening := waits.listening
  timers t := by
    rw [waits.timers t, waits.wallTimer]
    constructor
    · rintro ⟨rfl | rfl, other⟩
      · exact absurd rfl other
      · rfl
    · rintro rfl
      exact ⟨.inr rfl, fun same => waits.apart (Option.some.inj same)⟩
  fresh := waits.fresh.2
  failSafeTimer := waits.failSafeTimer
  failSafeCallback := waits.failSafeCallback
  failSafeDelay := waits.failSafeDelay
  remaining := waits.remaining

/-- The same once the wall timer has fired. -/
theorem Waits.half_fired {wall failSafe : Timer} (waits : Waits w wall failSafe) :
    Half { w with timers := w.timers.filter (·.id != wall.id) } failSafe where
  unfinished := waits.unfinished
  quiet := waits.quiet
  listening := waits.listening
  timers t := by
    rw [← waits.half.timers t, waits.wallTimer]
    simp only [List.mem_filter, bne_iff_ne, ne_eq, Option.some.injEq]
    constructor
    · rintro ⟨⟨here, _⟩, other⟩
      exact ⟨here, other⟩
    · rintro ⟨here, other⟩
      exact ⟨⟨here, fun same => other same.symm⟩, other⟩
  fresh := waits.fresh.2
  failSafeTimer := waits.failSafeTimer
  failSafeCallback := waits.failSafeCallback
  failSafeDelay := waits.failSafeDelay
  remaining := waits.remaining

/-- Once the fail-safe timer has fired, only the wall timer is left. -/
theorem Waits.lone_fired {wall failSafe : Timer} (waits : Waits w wall failSafe)
    (failSafeRemaining : Rat) (chunks : List Rat) :
    Lone { w with
      timers := w.timers.filter (·.id != failSafe.id), failSafeTimer := none,
      failSafeRemaining, chunks } wall where
  unfinished := waits.unfinished
  quiet := waits.quiet
  listening := waits.listening
  timers t := by
    rw [List.mem_filter, waits.timers t, bne_iff_ne]
    constructor
    · rintro ⟨rfl | rfl, other⟩
      · rfl
      · exact absurd rfl other
    · rintro rfl
      exact ⟨.inl rfl, waits.apart⟩
  fresh := waits.fresh.1
  wallTimer := waits.wallTimer
  wallCallback := waits.wallCallback
  wallDelay := waits.wallDelay

/-- The timer of a number is the one of the two that has it. -/
theorem Waits.find {wall failSafe : Timer} (waits : Waits w wall failSafe) (id : Nat) :
    w.timers.find? (·.id == id) =
      if id = wall.id then some wall else if id = failSafe.id then some failSafe else none := by
  have held : ∀ t ∈ w.timers, t.id = id → w.timers.find? (·.id == id) = some t := by
    intro t here isId
    cases found : w.timers.find? (·.id == id) with
    | none => exact absurd isId (by simpa using List.find?_eq_none.mp found t here)
    | some t' =>
      have isId' : t'.id = id := by simpa using List.find?_some found
      rcases (waits.timers t).mp here with rfl | rfl <;>
        rcases (waits.timers t').mp (List.mem_of_find?_eq_some found) with rfl | rfl
      · rfl
      · exact absurd (isId.trans isId'.symm) waits.apart
      · exact absurd (isId'.trans isId.symm) waits.apart
      · rfl
  split
  · next isWall => exact held wall ((waits.timers wall).mpr (.inl rfl)) isWall.symm
  split
  · next isFailSafe => exact held failSafe ((waits.timers failSafe).mpr (.inr rfl)) isFailSafe.symm
  · next notWall notFailSafe =>
    rw [List.find?_eq_none]
    intro t here
    rcases (waits.timers t).mp here with rfl | rfl
    · simpa using Ne.symm notWall
    · simpa using Ne.symm notFailSafe

/-- A look at the wall clock, from a state with the fail-safe timer of `w`. -/
theorem outcome_check {wall failSafe : Timer} {m : Move} {w' : Watcher} (checks : Checks w m)
    (half : Half w' failSafe) (same : Same w w') :
    Outcome w wall failSafe m (w'.checkWallClock m.reading) := by
  have keeps := same_checkWallClock w' m.reading
  have kept : Same w (w'.checkWallClock m.reading) :=
    ⟨keeps.deadline.trans same.deadline, keeps.failSafeRemaining.trans same.failSafeRemaining,
      keeps.chunks.trans same.chunks⟩
  by_cases due : w.deadline ≤ m.reading.wall
  · obtain ⟨through, fired⟩ := half.checks_late (r := m.reading) (same.deadline ▸ due)
    exact .late checks due through fired kept
  · have before := not_le.mp due
    obtain ⟨wall', waits⟩ := half.checks_early (r := m.reading) (same.deadline.symm ▸ before)
    exact .early checks before wall' waits kept

theorem Waits.step {wall failSafe : Timer} (waits : Waits w wall failSafe) (m : Move) :
    Outcome w wall failSafe m (step w m) := by
  unfold deadlines.step
  cases event : m.event with
  | visibilitychange =>
    dsimp only
    rw [waits.listening]
    exact outcome_check (.inl event) waits.half ⟨rfl, rfl, rfl⟩
  | pageshow =>
    dsimp only
    rw [waits.listening]
    exact outcome_check (.inr (.inl event)) waits.half ⟨rfl, rfl, rfl⟩
  | dispose =>
    dsimp only
    have own := through_expire waits.unfinished waits.quiet (by
      intro t here
      rcases (waits.timers t).mp here with rfl | rfl
      · exact .inl waits.wallTimer
      · exact .inr waits.failSafeTimer)
    have same := same_expire w
    rw [dispose_eq waits.unfinished]
    refine .disposed event ⟨own.1.finished, own.1.timers, own.1.listening, ?_⟩ waits.quiet
      ⟨same.deadline, same.failSafeRemaining, same.chunks⟩
    show w.elapsed ≤ 1
    rw [waits.quiet]
    exact Nat.zero_le 1
  | timer id =>
    dsimp only
    rw [waits.find id]
    by_cases isWall : id = wall.id
    · rw [if_pos isWall, isWall]
      dsimp only
      rw [waits.wallCallback]
      exact outcome_check (.inr (.inr ⟨id, event, by rw [waits.wallTimer, isWall]⟩))
        waits.half_fired ⟨rfl, rfl, rfl⟩
    rw [if_neg isWall]
    by_cases isFailSafe : id = failSafe.id
    · rw [if_pos isFailSafe, isFailSafe]
      dsimp only
      rw [waits.failSafeCallback]
      dsimp only
      have lone := waits.lone_fired (w.failSafeRemaining - failSafe.delay)
        (w.chunks ++ [failSafe.delay])
      unfold Watcher.failSafe
      have same := same_scheduleFailSafe { w with
        timers := w.timers.filter (·.id != failSafe.id), failSafeTimer := none,
        failSafeRemaining := w.failSafeRemaining - failSafe.delay,
        chunks := w.chunks ++ [failSafe.delay] } m.reading
      have counts : Counts w _ failSafe.delay :=
        ⟨same.deadline, same.failSafeRemaining, same.chunks⟩
      rw [isFailSafe] at event
      by_cases none : w.failSafeRemaining ≤ failSafe.delay
      · obtain ⟨through, fired⟩ := lone.expires (r := m.reading) (sub_nonpos.mpr none)
        exact .last event none through fired counts
      · have left := not_le.mp none
        obtain ⟨failSafe', armed, waits'⟩ := lone.waits (r := m.reading) (sub_pos.mpr left)
        exact .rearmed event left failSafe' armed waits' counts
    · rw [if_neg isFailSafe]
      exact .ignored id event ⟨isWall, isFailSafe⟩ rfl

end

/-! ## Runs -/

/-- What holds of a watcher at every time. A fail-safe timer that was not the last had the full
delay. -/
structure Sound (deadline total : Rat) (w : Watcher) : Prop where
  deadline : w.deadline = deadline
  counted : w.chunks.sum + w.failSafeRemaining = total
  state : (∃ wall failSafe, Waits w wall failSafe) ∧ (∀ chunk ∈ w.chunks,
    chunk = MAX_TIMER_DELAY_MS) ∨ Through w

section

variable {deadline total : Rat} {w next : Watcher}

theorem Same.counted (same : Same w next) (counted : w.chunks.sum + w.failSafeRemaining = total) :
    next.chunks.sum + next.failSafeRemaining = total := by
  rw [same.chunks, same.failSafeRemaining]
  exact counted

theorem Counts.counted {delay : Rat} (counts : Counts w next delay)
    (counted : w.chunks.sum + w.failSafeRemaining = total) :
    next.chunks.sum + next.failSafeRemaining = total := by
  rw [counts.chunks, counts.failSafeRemaining, List.sum_append, List.sum_singleton]
  linarith

theorem Sound.step (sound : Sound deadline total w) (m : Move) :
    Sound deadline total (step w m) := by
  rcases sound.state with ⟨⟨wall, failSafe, waits⟩, full⟩ | through
  · cases waits.step m with
    | disposed _ through _ same =>
      exact ⟨same.deadline.trans sound.deadline, same.counted sound.counted, .inr through⟩
    | late _ _ through _ same =>
      exact ⟨same.deadline.trans sound.deadline, same.counted sound.counted, .inr through⟩
    | early _ _ wall' waits' same =>
      refine ⟨same.deadline.trans sound.deadline, same.counted sound.counted,
        .inl ⟨⟨wall', failSafe, waits'⟩, ?_⟩⟩
      rw [same.chunks]
      exact full
    | last _ _ through _ counts =>
      exact ⟨counts.deadline.trans sound.deadline, counts.counted sound.counted, .inr through⟩
    | rearmed _ left failSafe' _ waits' counts =>
      refine ⟨counts.deadline.trans sound.deadline, counts.counted sound.counted,
        .inl ⟨⟨wall, failSafe', waits'⟩, ?_⟩⟩
      have capped : failSafe.delay = MAX_TIMER_DELAY_MS := by
        have delay := waits.failSafeDelay
        rcases min_choice w.failSafeRemaining MAX_TIMER_DELAY_MS with whole | cap
        · rw [delay, whole] at left
          exact absurd left (lt_irrefl _)
        · rw [delay, cap]
      rw [counts.chunks]
      intro chunk here
      rcases List.mem_append.mp here with old | new
      · exact full chunk old
      · rw [List.mem_singleton.mp new, capped]
    | ignored _ _ _ same =>
      rw [same]
      exact sound
  · rw [through.step m]
    exact sound

theorem Sound.after (sound : Sound deadline total w) (moves : List Move) :
    Sound deadline total (after w moves) := by
  induction moves generalizing w with
  | nil => exact sound
  | cons m rest ih => exact ih (sound.step m)

theorem Sound.waits (sound : Sound deadline total w) (unfinished : w.finished = false) :
    (∃ wall failSafe, Waits w wall failSafe) ∧
      ∀ chunk ∈ w.chunks, chunk = MAX_TIMER_DELAY_MS := by
  rcases sound.state with waits | through
  · exact waits
  · rw [through.finished] at unfinished
    cases unfinished

end

/-- How `watchSignedDeadline` starts: it waits, or `onElapsed` was called at once. -/
theorem watch_starts (deadline first : Rat) (second : Reading) :
    Same (listener deadline first) (watch deadline first second) ∧
      ((∃ wall failSafe, failSafe.armedAt = second.monotonic ∧
          Waits (watch deadline first second) wall failSafe) ∨
        Through (watch deadline first second) ∧ (watch deadline first second).elapsed = 1) ∧
      (deadline ≤ second.wall → (watch deadline first second).elapsed = 1) := by
  have checked := same_checkWallClock (listener deadline first) second
  have scheduled := same_scheduleFailSafe ((listener deadline first).checkWallClock second) second
  have same : Same (listener deadline first) (watch deadline first second) :=
    ⟨scheduled.deadline.trans checked.deadline,
      scheduled.failSafeRemaining.trans checked.failSafeRemaining,
      scheduled.chunks.trans checked.chunks⟩
  have open_ : (listener deadline first).finished = false := rfl
  refine ⟨same, ?_⟩
  unfold watch
  by_cases due : deadline ≤ second.wall
  · rw [checkWallClock_expires open_ due]
    obtain ⟨through, fired⟩ := through_expire (w := { listener deadline first with
      wallTimer := none
      timers := (listener deadline first).timers.filter fun t =>
        (listener deadline first).wallTimer != some t.id }) rfl rfl (fun t here => by cases here)
    have stays : ∀ w : Watcher, w.finished = true → w.scheduleFailSafe second = w := by
      intro w finished
      unfold Watcher.scheduleFailSafe
      rw [if_pos finished]
    rw [stays _ through.finished]
    exact ⟨.inr ⟨through, fired⟩, fun _ => fired⟩
  · have early : second.wall < (listener deadline first).deadline := not_le.mp due
    rw [checkWallClock_waits open_ early]
    refine ⟨?_, fun late => absurd late due⟩
    have lone : Lone { listener deadline first with
        wallTimer := some 0, issued := 1
        timers := [⟨0, .checkWallClock, second.monotonic,
          min (deadline - second.wall) MAX_WALL_CLOCK_CHECK_MS⟩] }
        ⟨0, .checkWallClock, second.monotonic,
          min (deadline - second.wall) MAX_WALL_CLOCK_CHECK_MS⟩ := by
      constructor
      case timers => exact fun t => List.mem_singleton
      case wallDelay =>
        refine ⟨lt_min (sub_pos.mpr early) ?_, min_le_right _ _⟩
        unfold MAX_WALL_CLOCK_CHECK_MS
        norm_num
      case fresh => exact Nat.zero_lt_one
      all_goals rfl
    have total : (0 : Rat) ≤ initialRemaining deadline first := le_max_left _ _
    rcases total.eq_or_lt with none | left
    · exact .inr (lone.expires (r := second) none.symm.le)
    · obtain ⟨failSafe, armed, waits⟩ := lone.waits (r := second) left
      exact .inl ⟨_, failSafe, armed, waits⟩

theorem sound_watch (deadline first : Rat) (second : Reading) :
    Sound deadline (initialRemaining deadline first) (watch deadline first second) := by
  obtain ⟨same, state, _⟩ := watch_starts deadline first second
  refine ⟨same.deadline, ?_, ?_⟩
  · rw [same.chunks, same.failSafeRemaining]
    exact zero_add _
  · rcases state with ⟨wall, failSafe, _, waits⟩ | ⟨through, _⟩
    · refine .inl ⟨⟨wall, failSafe, waits⟩, ?_⟩
      rw [same.chunks]
      intro chunk none
      cases none
    · exact .inr through

theorem after_append (w : Watcher) (early late : List Move) :
    after w (early ++ late) = after (after w early) late := by
  unfold after
  rw [List.foldl_append]

theorem Through.after {w : Watcher} (through : Through w) (moves : List Move) :
    after w moves = w := by
  induction moves with
  | nil => rfl
  | cons m rest ih =>
    show deadlines.after (deadlines.step w m) rest = w
    rw [through.step m]
    exact ih

theorem not_checks_dispose {w : Watcher} {m : Move} (event : m.event = .dispose) :
    ¬ Checks w m := by
  unfold Checks
  rw [event]
  simp

/-- No timer but the wall timer looks at the wall clock. -/
theorem Waits.not_checks {w : Watcher} {wall failSafe : Timer} (waits : Waits w wall failSafe)
    {m : Move} {id : Nat} (event : m.event = .timer id) (other : id ≠ wall.id) :
    ¬ Checks w m := by
  rintro (sees | sees | ⟨id', fires, isWall⟩)
  · rw [event] at sees
    cases sees
  · rw [event] at sees
    cases sees
  · rw [event] at fires
    cases fires
    exact other (Option.some.inj (isWall.symm.trans waits.wallTimer))

/-- A watcher that was disposed of is through, and `onElapsed` was not called. -/
theorem Sound.disposed {deadline total : Rat} {w : Watcher} (sound : Sound deadline total w)
    {m : Move} (event : m.event = .dispose) :
    Through (deadlines.step w m) ∧ (deadlines.step w m).elapsed = w.elapsed := by
  rcases sound.state with ⟨⟨wall, failSafe, waits⟩, _⟩ | through
  · cases waits.step m with
    | disposed _ through quiet => exact ⟨through, quiet.trans waits.quiet.symm⟩
    | late checks => exact absurd checks (not_checks_dispose event)
    | early checks => exact absurd checks (not_checks_dispose event)
    | last fires => rw [event] at fires; cases fires
    | rearmed fires => rw [event] at fires; cases fires
    | ignored _ fires => rw [event] at fires; cases fires
  · rw [through.step m]
    exact ⟨through, rfl⟩

/-- Without a call of the returned function a watcher ends only with `onElapsed`. -/
theorem ends_elapsed {w : Watcher} {moves : List Move}
    (state : (∃ wall failSafe, Waits w wall failSafe) ∨ Through w ∧ w.elapsed = 1)
    (kept : ∀ m ∈ moves, m.event ≠ .dispose) :
    (∃ wall failSafe, Waits (after w moves) wall failSafe) ∨
      Through (after w moves) ∧ (after w moves).elapsed = 1 := by
  induction moves generalizing w with
  | nil => exact state
  | cons m rest ih =>
    apply ih
    · rcases state with ⟨wall, failSafe, waits⟩ | ⟨through, fired⟩
      · cases waits.step m with
        | disposed event => exact absurd event (kept m List.mem_cons_self)
        | late _ _ through fired => exact .inr ⟨through, fired⟩
        | early _ _ wall' waits' => exact .inl ⟨wall', failSafe, waits'⟩
        | last _ _ through fired => exact .inr ⟨through, fired⟩
        | rearmed _ _ failSafe' _ waits' => exact .inl ⟨wall, failSafe', waits'⟩
        | ignored _ _ _ same =>
          rw [same]
          exact .inl ⟨wall, failSafe, waits⟩
      · rw [through.step m]
        exact .inr ⟨through, fired⟩
    · intro m' later
      exact kept m' (List.mem_cons_of_mem m later)

/-- The fail-safe timer was armed as soon as the chunks before it were over, up to the lags. -/
def Timely (start lag : Rat) (w : Watcher) : Prop :=
  (∃ wall failSafe, Waits w wall failSafe ∧
    failSafe.armedAt ≤ start + w.chunks.sum + w.chunks.length * lag) ∨ Through w

theorem timely_step {start lag : Rat} {w : Watcher} {m : Move} (timely : Timely start lag w)
    (inTime : InTime lag w m) : Timely start lag (step w m) := by
  rcases timely with ⟨wall, failSafe, waits, armed⟩ | through
  · cases waits.step m with
    | disposed _ through => exact .inr through
    | late _ _ through => exact .inr through
    | early _ _ wall' waits' same =>
      refine .inl ⟨wall', failSafe, waits', ?_⟩
      rw [same.chunks]
      exact armed
    | last _ _ through => exact .inr through
    | rearmed _ _ failSafe' armed' waits' counts =>
      refine .inl ⟨wall, failSafe', waits', ?_⟩
      have due := inTime.2 failSafe ((waits.timers failSafe).mpr (.inr rfl))
      unfold Timer.dueAt at due
      rw [armed', counts.chunks, List.sum_append, List.sum_singleton, List.length_append,
        List.length_singleton]
      push_cast
      linarith
    | ignored _ _ _ same =>
      rw [same]
      exact .inl ⟨wall, failSafe, waits, armed⟩
  · rw [through.step m]
    exact .inr through

theorem timely_after {start lag : Rat} {w : Watcher} {moves : List Move}
    (timely : Timely start lag w) (runs : RunsInTime lag w moves) :
    Timely start lag (after w moves) := by
  induction moves generalizing w with
  | nil => exact timely
  | cons m rest ih =>
    apply ih (timely_step timely (runs [] m rest rfl))
    intro before m' later split
    exact runs (m :: before) m' later (by rw [split]; rfl)

/-- What a signed deadline is promised by a watcher `w` after some moves. -/
structure Honoured (deadline first : Rat) (second : Reading) (moves : List Move)
    (w : Watcher) : Prop where
  once : w.elapsed ≤ 1
  /-- `onElapsed` is not called after the returned function was. -/
  disposed : ∀ before r rest, moves = before ++ ⟨.dispose, r⟩ :: rest →
    w.elapsed = (after (watch deadline first second) before).elapsed
  /-- Nothing else ends the watcher. -/
  ends : (∀ m ∈ moves, m.event ≠ .dispose) → (w.finished = true ↔ w.elapsed = 1)
  armed : w.finished = false → ∃ wall failSafe, Waits w wall failSafe
  /-- The fail-safe timer ends the watcher when its chunks are all that was left at the start. -/
  chunks : ∀ wall failSafe m, Waits w wall failSafe → m.event = .timer failSafe.id →
    ((step w m).elapsed = 1 ↔ (step w m).chunks.sum = initialRemaining deadline first)
  /-- With a host that is late by `lag` at most, nothing happens to a watcher that waits later
  than the time left at the start, and one lag for each chunk. -/
  bounded : ∀ lag, RunsInTime lag (watch deadline first second) moves → w.finished = false →
    ∀ m, InTime lag w m → m.reading.monotonic ≤
      second.monotonic + initialRemaining deadline first + (w.chunks.length + 1) * lag
  full : w.finished = false → w.chunks.length * MAX_TIMER_DELAY_MS < initialRemaining deadline first
  /-- A look at the wall clock calls `onElapsed` just when the deadline is over. -/
  checked : w.finished = false → ∀ m, Checks w m →
    ((step w m).elapsed = 1 ↔ deadline ≤ m.reading.wall)
  started : deadline ≤ second.wall → (watch deadline first second).elapsed = 1

/-- Every run honours the deadline, whatever the wall clock reads. -/
theorem a_signed_deadline_is_honoured (deadline first : Rat) (second : Reading)
    (moves : List Move) :
    Honoured deadline first second moves (after (watch deadline first second) moves) := by
  obtain ⟨fresh, start, started⟩ := watch_starts deadline first second
  have first_ := sound_watch deadline first second
  have sound := first_.after moves
  constructor
  case once =>
    rcases sound.state with ⟨⟨_, _, waits⟩, _⟩ | through
    · rw [waits.quiet]
      exact Nat.zero_le 1
    · exact through.once
  case disposed =>
    rintro before r rest rfl
    rw [after_append]
    obtain ⟨through, quiet⟩ := (first_.after before).disposed (m := ⟨.dispose, r⟩) rfl
    show (after (step _ _) rest).elapsed = _
    rw [through.after rest, quiet]
  case ends =>
    intro kept
    rcases ends_elapsed (start.imp (fun ⟨wall, failSafe, _, waits⟩ => ⟨wall, failSafe, waits⟩) id)
      kept with ⟨_, _, waits⟩ | ⟨through, fired⟩
    · rw [waits.unfinished, waits.quiet]
      simp
    · rw [through.finished, fired]
      simp
  case armed => exact fun unfinished => (sound.waits unfinished).1
  case chunks =>
    intro wall failSafe m waits event
    have counted := (sound.step m).counted
    cases waits.step m with
    | disposed other => rw [event] at other; cases other
    | late checks => exact absurd checks (waits.not_checks event waits.apart.symm)
    | early checks => exact absurd checks (waits.not_checks event waits.apart.symm)
    | last _ none _ fired counts =>
      refine iff_of_true fired ?_
      have whole : failSafe.delay ≤ (after (watch deadline first second) moves).failSafeRemaining :=
        waits.failSafeDelay ▸ min_le_left _ _
      rw [counts.failSafeRemaining] at counted
      linarith
    | rearmed _ left _ _ waits' counts =>
      refine iff_of_false (by rw [waits'.quiet]; simp) ?_
      rw [counts.failSafeRemaining] at counted
      intro whole
      linarith
    | ignored id fires other =>
      rw [event] at fires
      cases fires
      exact absurd rfl other.2
  case bounded =>
    intro lag runs unfinished m inTime
    have timely : Timely second.monotonic lag (watch deadline first second) := by
      rcases start with ⟨wall, failSafe, armed, waits⟩ | ⟨through, _⟩
      · refine .inl ⟨wall, failSafe, waits, ?_⟩
        have none : (watch deadline first second).chunks = [] := fresh.chunks
        rw [none, armed]
        simp
      · exact .inr through
    rcases timely_after timely runs with ⟨wall, failSafe, waits, armed⟩ | through
    · have due := inTime.2 failSafe ((waits.timers failSafe).mpr (.inr rfl))
      have delay : failSafe.delay ≤ (after (watch deadline first second) moves).failSafeRemaining :=
        waits.failSafeDelay ▸ min_le_left _ _
      have counted := sound.counted
      unfold Timer.dueAt at due
      linarith
    · rw [through.finished] at unfinished
      cases unfinished
  case full =>
    intro unfinished
    obtain ⟨⟨wall, failSafe, waits⟩, full⟩ := sound.waits unfinished
    have counted := sound.counted
    have remaining := waits.remaining
    rw [List.eq_replicate_of_mem full, List.sum_replicate, nsmul_eq_mul] at counted
    linarith
  case checked =>
    intro unfinished m checks
    obtain ⟨⟨wall, failSafe, waits⟩, _⟩ := sound.waits unfinished
    have isDeadline := sound.deadline
    cases waits.step m with
    | disposed event => exact absurd checks (not_checks_dispose event)
    | late _ due _ fired => exact iff_of_true fired (isDeadline ▸ due)
    | early _ early _ waits' =>
      refine iff_of_false (by rw [waits'.quiet]; simp) ?_
      rw [← isDeadline]
      exact not_le.mpr early
    | last event => exact absurd checks (waits.not_checks event waits.apart.symm)
    | rearmed event => exact absurd checks (waits.not_checks event waits.apart.symm)
    | ignored id event other => exact absurd checks (waits.not_checks event other.1)
  case started => exact started

end screengoblin.deadlines
