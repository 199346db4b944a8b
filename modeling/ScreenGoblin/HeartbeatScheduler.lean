-- The heartbeat scheduler of the player (core/heartbeat-scheduler.ts): one recursive timer and
-- at most one request. The host holds the timers it was asked for and the runs that wait for a
-- send or for the error handler. Every call of the host is one event, with one reading of the
-- clock and one random value. The products of a delay are rounded as doubles are. The instants are
-- milliseconds whose sums are exact.
import Mathlib.Algebra.Order.Field.Rat
import Mathlib.Tactic.Linarith

namespace screengoblin.heartbeat

/-! ## The data -/

def MIN_INTERVAL_SECONDS : Rat := 5
def MAX_INTERVAL_SECONDS : Rat := 86400
def MAX_TIMER_DELAY_MS : Rat := 2147000000

structure HeartbeatSchedulerOptions where
  initialIntervalSeconds : Option Rat := none
  retryBaseSeconds : Option Rat := none
  retryMaxSeconds : Option Rat := none

/-- Why a send failed: a `PlayerApiFailure`, or any other thing that was thrown. -/
inductive Reason where
  | playerApiFailure (retryable : Bool) (retryAfterMs : Option Rat)
  | other

/-- A timer that the host holds. Its callback knows `dueAt`. -/
structure Timer where
  id : Nat
  dueAt : Rat
  delay : Rat
  deriving DecidableEq

/-- Where a call of `run` waits: for `send`, or for `onError` with the delay it chose. -/
inductive Stage where
  | sending
  | reporting (delay : Rat)
  deriving DecidableEq

/-- A call of `run` that has not returned. `aborted` is the signal of its controller. -/
structure Run where
  controller : Nat
  aborted : Bool
  stage : Stage
  deriving DecidableEq

/-- What an observer of the requests sees: a send starts, or a send fails and sets the instant
before which no other may start. -/
inductive Sight where
  | sent (now : Rat)
  | failed (notBefore : Rat)
  deriving DecidableEq

structure Scheduler where
  retryBaseSeconds : Rat
  retryMaxSeconds : Rat
  timer : Option Nat := none
  timerDueAt : Option Rat := none
  controller : Option Nat := none
  started : Bool := false
  suspended : Bool := false
  running : Bool := false
  wakePending : Bool := false
  consecutiveFailures : Nat := 0
  cadenceSeconds : Rat
  notBefore : Rat := 0
  immediateOnResume : Bool := false
  /-- The timers and the runs of the host, and the next number it gives out. -/
  timers : List Timer := []
  runs : List Run := []
  issued : Nat := 0
  /-- The last reading of the clock, and what happened so far, the newest first. -/
  clock : Rat := 0
  sights : List Sight := []

structure Reading where
  now : Rat
  random : Rat

/-! ## Delays -/

/-- The exponent of the greatest power of two that is at most a positive number. -/
def binaryExponent (x : Rat) : Int :=
  let near : Int := (x.num.natAbs.log2 : Int) - (x.den.log2 : Int)
  if (2 : Rat) ^ near ≤ x then near else near - 1

/-- The number of 53 bits next to a number, and of two of them the even one. -/
def double (x : Rat) : Rat :=
  if x = 0 then 0
  else
    let unit : Rat := 2 ^ (binaryExponent |x| - 52)
    let below := (x / unit).floor
    let rest := x / unit - below
    if rest < 1 / 2 ∨ rest = 1 / 2 ∧ below % 2 = 0 then below * unit else (below + 1) * unit

/-- `Math.round` -/
def round (x : Rat) : Rat := (x + 1 / 2).floor

def boundInterval (seconds : Rat) : Rat :=
  min MAX_INTERVAL_SECONDS (max MIN_INTERVAL_SECONDS (round seconds))

def boundedRandom (r : Reading) : Rat := min 1 (max 0 r.random)

def jitter (r : Reading) (seconds : Rat) : Rat :=
  let factor := double (double (9 / 10) + double (boundedRandom r * double (1 / 5)))
  min (MAX_INTERVAL_SECONDS * 1000) (round (double (double (seconds * factor) * 1000)))

-- without the rounding this would be 11863
example : jitter { now := 0, random := 1 / 16 } 13 = 11862 := by decide +kernel

def create (options : HeartbeatSchedulerOptions) : Scheduler :=
  let retryBaseSeconds := max MIN_INTERVAL_SECONDS
    (options.retryBaseSeconds.getD MIN_INTERVAL_SECONDS)
  { cadenceSeconds := boundInterval (options.initialIntervalSeconds.getD 60)
    retryBaseSeconds
    retryMaxSeconds := min MAX_INTERVAL_SECONDS
      (max retryBaseSeconds (options.retryMaxSeconds.getD 300)) }

namespace Scheduler

def catchUpDelay (s : Scheduler) (r : Reading) : Rat :=
  round (double (double (s.cadenceSeconds * boundedRandom r) * 1000))

def failureDelay (s : Scheduler) (r : Reading) (reason : Reason) : Rat :=
  let backoffSeconds := min s.retryMaxSeconds
    (s.retryBaseSeconds * 2 ^ (s.consecutiveFailures - 1))
  let jitteredBackoff := jitter r backoffSeconds
  match reason with
  | .playerApiFailure _ (some retryAfterMs) =>
    if retryAfterMs ≥ 0 then max retryAfterMs jitteredBackoff else jitteredBackoff
  | _ => jitteredBackoff

def cooldownRemaining (s : Scheduler) (r : Reading) : Rat := max 0 (s.notBefore - r.now)

/-! ## The timer -/

def clearScheduledTimer (s : Scheduler) : Scheduler :=
  match s.timer with
  | none => s
  | some id =>
    { s with timers := s.timers.filter (·.id ≠ id), timer := none, timerDueAt := none }

def armTimer (s : Scheduler) (r : Reading) (dueAt : Rat) : Scheduler :=
  let delay := min MAX_TIMER_DELAY_MS (max 0 (dueAt - r.now))
  { s with timer := some s.issued, timers := ⟨s.issued, dueAt, delay⟩ :: s.timers,
           issued := s.issued + 1 }

def dueAt (s : Scheduler) (r : Reading) (milliseconds : Rat) : Rat :=
  max (r.now + max 0 milliseconds) s.notBefore

def schedule (s : Scheduler) (r : Reading) (milliseconds : Rat) (pullForwardOnly : Bool) :
    Scheduler :=
  if !s.started || s.suspended then s
  else if pullForwardOnly && s.timerDueAt.any (· ≤ s.dueAt r milliseconds) then s
  else
    { s.clearScheduledTimer with timerDueAt := some (s.dueAt r milliseconds) }.armTimer r
      (s.dueAt r milliseconds)

def scheduleCatchUp (s : Scheduler) (r : Reading) : Scheduler :=
  s.schedule r (s.catchUpDelay r) true

/-! ## Runs -/

/-- `requestRun` and the start of `run`, up to the call of `send`. -/
def requestRun (s : Scheduler) (r : Reading) : Scheduler :=
  if !s.started || s.suspended || s.running then s
  else
    { s with running := true, controller := some s.issued,
             runs := ⟨s.issued, false, .sending⟩ :: s.runs, issued := s.issued + 1,
             sights := .sent r.now :: s.sights }

/-- The `finally` of `run`. -/
def leave (s : Scheduler) (run : Run) : Scheduler :=
  { s with controller := if s.controller = some run.controller then none else s.controller,
           running := false, runs := s.runs.erase run }

/-- What `run` does after its `try`. -/
def next (s : Scheduler) (r : Reading) (aborted : Bool) (delay : Rat) : Scheduler :=
  if !s.started || s.suspended || aborted then s
  else if s.wakePending then { s with wakePending := false }.scheduleCatchUp r
  else s.schedule r delay false

/-- `send` resolves. -/
def succeed (s : Scheduler) (r : Reading) (run : Run) (nextHeartbeatSeconds : Rat) : Scheduler :=
  let cadenceSeconds := boundInterval nextHeartbeatSeconds
  let s := { s with consecutiveFailures := 0, notBefore := 0, cadenceSeconds }
  (s.leave run).next r run.aborted (jitter r cadenceSeconds)

/-- A failure that is not an abort: how many stand in a row now, and how long to wait. -/
def backOff (s : Scheduler) (r : Reading) (reason : Reason) : Scheduler × Rat :=
  match reason with
  | .playerApiFailure false _ => ({ s with consecutiveFailures := 0 }, jitter r s.cadenceSeconds)
  | reason =>
    let s := { s with consecutiveFailures := s.consecutiveFailures + 1 }
    (s, s.failureDelay r reason)

/-- `send` rejects. After an abort the run is over, otherwise it waits for `onError`. -/
def fail (s : Scheduler) (r : Reading) (run : Run) (reason : Reason) : Scheduler :=
  if run.aborted then s.leave run
  else
    let (s, delay) := s.backOff r reason
    { s with notBefore := r.now + delay, sights := .failed (r.now + delay) :: s.sights
             runs := s.runs.map fun other =>
              if other = run then { other with stage := .reporting delay } else other }

/-- `onError` settles. When it rejects, `run` ends with that exception. -/
def report (s : Scheduler) (r : Reading) (run : Run) (delay : Rat) (rejected : Bool) : Scheduler :=
  if rejected then s.leave run else (s.leave run).next r run.aborted delay

/-! ## The calls -/

def start (s : Scheduler) (r : Reading) (active immediate : Bool) : Scheduler :=
  if s.started then s
  else
    let s := { s with started := true, suspended := !active, immediateOnResume := immediate }
    if !active then s
    else if immediate then { s with immediateOnResume := false }.requestRun r
    else s.scheduleCatchUp r

def suspend (s : Scheduler) : Scheduler :=
  if !s.started then s
  else { s with suspended := true, wakePending := false }.clearScheduledTimer

def trigger (s : Scheduler) (r : Reading) : Scheduler :=
  if !s.started || s.suspended then s
  else if s.running then { s with wakePending := true }
  else s.scheduleCatchUp r

def resume (s : Scheduler) (r : Reading) : Scheduler :=
  if !s.started then s
  else
    let s := { s with suspended := false }
    if s.immediateOnResume && s.cooldownRemaining r = 0 then
      { s with immediateOnResume := false }.requestRun r
    else s.trigger r

/-- `controller?.abort()` -/
def abort (s : Scheduler) : Scheduler :=
  { s with runs := s.runs.map fun run =>
            if s.controller = some run.controller then { run with aborted := true } else run }

def stop (s : Scheduler) : Scheduler :=
  let s := { s with started := false, suspended := true, wakePending := false }
  { s.clearScheduledTimer.abort with controller := none, immediateOnResume := false }

/-- The callback of a timer. -/
def fire (s : Scheduler) (r : Reading) (timer : Timer) : Scheduler :=
  let s := { s with timers := s.timers.filter (·.id ≠ timer.id), timer := none }
  if s.timerDueAt ≠ some timer.dueAt then s
  else if r.now < timer.dueAt then s.armTimer r timer.dueAt
  else { s with timerDueAt := none }.requestRun r

end Scheduler

/-! ## Events -/

inductive Event where
  | start (active immediate : Bool)
  | stop
  | suspend
  | resume
  | trigger
  /-- The host runs the callback of a timer it holds. -/
  | fire (id : Nat)
  /-- The `send` of a run settles. -/
  | succeed (controller : Nat) (nextHeartbeatSeconds : Rat)
  | fail (controller : Nat) (reason : Reason)
  /-- The `onError` of a run settles. -/
  | report (controller : Nat) (rejected : Bool)

structure Move where
  event : Event
  reading : Reading

def Scheduler.held (s : Scheduler) (id : Nat) : Option Timer := s.timers.find? (·.id = id)

def Scheduler.inFlight (s : Scheduler) (controller : Nat) : Option Run :=
  s.runs.find? (·.controller = controller)

/-- A settled run that still sends. -/
def Scheduler.sending (s : Scheduler) (controller : Nat) : Option Run :=
  (s.inFlight controller).filter (·.stage = .sending)

/-- One event. An event about a timer or a promise that is not there does nothing. -/
def Scheduler.take (s : Scheduler) (r : Reading) : Event → Scheduler
  | .start active immediate => s.start r active immediate
  | .stop => s.stop
  | .suspend => s.suspend
  | .resume => s.resume r
  | .trigger => s.trigger r
  | .fire id => match s.held id with
    | some timer => s.fire r timer
    | none => s
  | .succeed controller seconds => match s.sending controller with
    | some run => s.succeed r run seconds
    | none => s
  | .fail controller reason => match s.sending controller with
    | some run => s.fail r run reason
    | none => s
  | .report controller rejected => match s.inFlight controller with
    | some ⟨c, aborted, .reporting delay⟩ =>
      s.report r ⟨c, aborted, .reporting delay⟩ delay rejected
    | _ => s

def step (s : Scheduler) (m : Move) : Scheduler :=
  { s with clock := m.reading.now }.take m.reading m.event

def after (s : Scheduler) (moves : List Move) : Scheduler := moves.foldl step s

end screengoblin.heartbeat
