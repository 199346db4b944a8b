-- The laws of the heartbeat scheduler: at most one run is in flight and at most one timer is
-- held, and a scheduler that is awake waits for a run or for a timer, unless a run ended without
-- asking for the next one.
import ScreenGoblin.HeartbeatScheduler

namespace screengoblin.heartbeat

/-! ## Runs of the scheduler -/

/-- Every move meets the condition in the state it is made in. -/
def Along (ok : Scheduler → Move → Prop) (s : Scheduler) (moves : List Move) : Prop :=
  ∀ early m late, moves = early ++ m :: late → ok (after s early) m

theorem after_append (s : Scheduler) (early late : List Move) :
    after s (early ++ late) = after (after s early) late := by
  simp [after]

theorem Along.first {ok : Scheduler → Move → Prop} {s : Scheduler} {m : Move} {moves : List Move}
    (h : Along ok s (m :: moves)) : ok s m :=
  h [] m moves rfl

theorem Along.rest {ok : Scheduler → Move → Prop} {s : Scheduler} {m : Move} {moves : List Move}
    (h : Along ok s (m :: moves)) : Along ok (step s m) moves := by
  intro early m' late split
  exact h (m :: early) m' late (by rw [split, List.cons_append])

theorem Along.start {ok : Scheduler → Move → Prop} {s : Scheduler} {early late : List Move}
    (h : Along ok s (early ++ late)) : Along ok s early := by
  intro before m between split
  exact h before m (between ++ late) (by rw [split]; simp)

theorem Along.nil {ok : Scheduler → Move → Prop} {s : Scheduler} : Along ok s [] := by
  intro early m late split
  cases early <;> cases split

theorem Along.cons {ok : Scheduler → Move → Prop} {s : Scheduler} {m : Move} {moves : List Move}
    (first : ok s m) (rest : Along ok (step s m) moves) : Along ok s (m :: moves) := by
  intro early m' late split
  cases early with
  | nil =>
    cases split
    exact first
  | cons m early =>
    rw [List.cons_append, List.cons.injEq] at split
    obtain ⟨rfl, split⟩ := split
    exact rest early m' late split

theorem Along.append {ok : Scheduler → Move → Prop} {s : Scheduler} {early late : List Move}
    (h : Along ok s early) (h' : Along ok (after s early) late) : Along ok s (early ++ late) := by
  induction early generalizing s with
  | nil => exact h'
  | cons m early ih => exact Along.cons h.first (ih h.rest h')

/-- What each move keeps under its condition holds at the end of a run. -/
theorem after_keeps (Inv : Scheduler → Prop) (ok : Scheduler → Move → Prop)
    (keeps : ∀ s m, Inv s → ok s m → Inv (step s m)) (moves : List Move) :
    ∀ s, Inv s → Along ok s moves → Inv (after s moves) := by
  induction moves with
  | nil => intro s h _; exact h
  | cons m moves ih =>
    intro s h met
    exact ih (step s m) (keeps s m h met.first) met.rest

/-! ## The shape of a state -/

def Scheduler.awake (s : Scheduler) : Bool := s.started && !s.suspended

/-- The flag `running` tells whether a run is in flight, and there is never a second one. The
host holds at most the timer the scheduler knows. Nothing is scheduled while it rests. -/
structure Tidy (s : Scheduler) : Prop where
  runs : (s.running = false ∧ s.runs = []) ∨ (s.running = true ∧ ∃ run, s.runs = [run])
  timers : (s.timer = none ∧ s.timerDueAt = none ∧ s.timers = []) ∨
    ∃ t : Timer, s.timer = some t.id ∧ s.timerDueAt = some t.dueAt ∧ s.timers = [t]
  rest : s.awake = false → s.timer = none

/-- The scheduler with one timer, for the given instant. -/
def Scheduler.rearmed (s : Scheduler) (r : Reading) (dueAt : Rat) : Scheduler :=
  { s with timer := some s.issued, timerDueAt := some dueAt,
           timers := [⟨s.issued, dueAt, min MAX_TIMER_DELAY_MS (max 0 (dueAt - r.now))⟩],
           issued := s.issued + 1 }

theorem Tidy.create (options : HeartbeatSchedulerOptions) : Tidy (create options) where
  runs := Or.inl ⟨rfl, rfl⟩
  timers := Or.inl ⟨rfl, rfl, rfl⟩
  rest := fun _ => rfl

/-- `clearScheduledTimer` leaves no timer, as the host holds no other than the known one. -/
theorem clear_eq {s : Scheduler} (timers : (s.timer = none ∧ s.timerDueAt = none ∧ s.timers = []) ∨
    ∃ t : Timer, s.timer = some t.id ∧ s.timerDueAt = some t.dueAt ∧ s.timers = [t]) :
    s.clearScheduledTimer = { s with timer := none, timerDueAt := none, timers := [] } := by
  unfold Scheduler.clearScheduledTimer
  rcases timers with ⟨timer, due, held⟩ | ⟨t, timer, due, held⟩
  · rw [timer]
    cases s
    simp_all
  · simp [timer, held]

theorem Tidy.one_run {s : Scheduler} (h : Tidy s) : s.runs.length ≤ 1 := by
  rcases h.runs with ⟨_, none⟩ | ⟨_, run, one⟩
  · simp [none]
  · simp [one]

theorem Tidy.running_iff {s : Scheduler} (h : Tidy s) : s.running = true ↔ s.runs ≠ [] := by
  rcases h.runs with ⟨flag, none⟩ | ⟨flag, run, one⟩
  · simp [flag, none]
  · simp [flag, one]

theorem Tidy.timer_iff {s : Scheduler} (h : Tidy s) : s.timer = none ↔ s.timerDueAt = none := by
  rcases h.timers with ⟨timer, due, _⟩ | ⟨t, timer, due, _⟩
  · simp [timer, due]
  · simp [timer, due]

theorem Tidy.in_flight {s : Scheduler} (h : Tidy s) {controller : Nat} {run : Run}
    (found : s.inFlight controller = some run) : s.runs = [run] ∧ s.running = true := by
  have member := List.mem_of_find?_eq_some found
  rcases h.runs with ⟨_, none⟩ | ⟨flag, other, one⟩
  · simp [none] at member
  · rw [one, List.mem_singleton] at member
    exact ⟨by rw [one, member], flag⟩

theorem Tidy.sending {s : Scheduler} (h : Tidy s) {controller : Nat} {run : Run}
    (found : s.sending controller = some run) :
    s.runs = [run] ∧ s.running = true ∧ run.stage = .sending := by
  unfold Scheduler.sending at found
  rw [Option.filter_eq_some_iff] at found
  obtain ⟨one, flag⟩ := h.in_flight found.1
  exact ⟨one, flag, by simpa using found.2⟩

theorem Tidy.held {s : Scheduler} (h : Tidy s) {id : Nat} {t : Timer} (found : s.held id = some t) :
    s.timer = some t.id ∧ s.timerDueAt = some t.dueAt ∧ s.timers = [t] := by
  have member := List.mem_of_find?_eq_some found
  rcases h.timers with ⟨_, _, none⟩ | ⟨other, timer, due, one⟩
  · simp [none] at member
  · rw [one, List.mem_singleton] at member
    subst member
    exact ⟨timer, due, one⟩

/-- An armed timer means that the scheduler is awake. -/
theorem Tidy.armed_awake {s : Scheduler} (h : Tidy s) {id : Nat} (armed : s.timer = some id) :
    s.awake = true := by
  cases asleep : s.awake with
  | true => rfl
  | false => rw [h.rest asleep] at armed; cases armed

/-! ## What the parts do -/

/-- `schedule` does nothing in a scheduler that rests, or keeps a timer that is due no later, or
leaves exactly the timer it was asked for. -/
theorem Tidy.schedule_cases {s : Scheduler} (h : Tidy s) (r : Reading) (ms : Rat) (pull : Bool) :
    (s.awake = false ∧ s.schedule r ms pull = s) ∨
    (s.awake = true ∧ pull = true ∧ (∃ due, s.timerDueAt = some due ∧ due ≤ s.dueAt r ms) ∧
      s.schedule r ms pull = s) ∨
    (s.awake = true ∧ s.schedule r ms pull = s.rearmed r (s.dueAt r ms)) := by
  unfold Scheduler.schedule Scheduler.awake
  by_cases asleep : (!s.started || s.suspended) = true
  · left
    rw [if_pos asleep]
    refine ⟨?_, rfl⟩
    cases hs : s.started <;> simp_all
  · right
    rw [if_neg asleep]
    have awake : (s.started && !s.suspended) = true := by
      cases hs : s.started <;> simp_all
    by_cases keep : (pull && s.timerDueAt.any (· ≤ s.dueAt r ms)) = true
    · left
      rw [if_pos keep]
      rw [Bool.and_eq_true, Option.any_eq_true] at keep
      obtain ⟨pulled, due, known, early⟩ := keep
      exact ⟨awake, pulled, ⟨due, known, by simpa using early⟩, rfl⟩
    · right
      rw [if_neg keep, clear_eq h.timers]
      exact ⟨awake, rfl⟩

/-- `requestRun` does nothing in a scheduler that rests or runs, and sends otherwise. -/
theorem requestRun_cases (s : Scheduler) (r : Reading) :
    ((s.awake = false ∨ s.running = true) ∧ s.requestRun r = s) ∨
    (s.awake = true ∧ s.running = false ∧ s.requestRun r =
      { s with running := true, controller := some s.issued,
               runs := ⟨s.issued, false, .sending⟩ :: s.runs, issued := s.issued + 1,
               sights := .sent r.now :: s.sights }) := by
  unfold Scheduler.requestRun Scheduler.awake
  cases started : s.started <;> cases suspended : s.suspended <;> cases running : s.running <;>
    simp

theorem leave_eq {s : Scheduler} {run : Run} (one : s.runs = [run]) :
    ∃ controller, s.leave run =
      { s with controller := controller, running := false, runs := [] } := by
  refine ⟨if s.controller = some run.controller then none else s.controller, ?_⟩
  unfold Scheduler.leave
  simp [one]

/-! ## The shape is kept -/

theorem Tidy.rearmed {s : Scheduler} (h : Tidy s) (awake : s.awake = true) (r : Reading)
    (dueAt : Rat) : Tidy (s.rearmed r dueAt) where
  runs := h.runs
  timers := Or.inr ⟨_, rfl, rfl, rfl⟩
  rest := fun asleep => by
    rw [show (s.rearmed r dueAt).awake = s.awake from rfl, awake] at asleep
    cases asleep

theorem Tidy.schedule {s : Scheduler} (h : Tidy s) (r : Reading) (ms : Rat) (pull : Bool) :
    Tidy (s.schedule r ms pull) := by
  rcases h.schedule_cases r ms pull with ⟨_, same⟩ | ⟨_, _, _, same⟩ | ⟨awake, same⟩
  · rw [same]; exact h
  · rw [same]; exact h
  · rw [same]; exact h.rearmed awake r _

/-- A change that touches neither the timer nor the runs and lets no scheduler with a timer
rest keeps the shape. -/
theorem Tidy.same {s s' : Scheduler} (h : Tidy s) (runs : s'.runs = s.runs)
    (running : s'.running = s.running) (timer : s'.timer = s.timer)
    (due : s'.timerDueAt = s.timerDueAt) (held : s'.timers = s.timers)
    (rest : s'.awake = false → s.awake = false) : Tidy s' where
  runs := by rw [runs, running]; exact h.runs
  timers := by rw [timer, due, held]; exact h.timers
  rest := fun asleep => by rw [timer]; exact h.rest (rest asleep)

theorem Tidy.requestRun {s : Scheduler} (h : Tidy s) (r : Reading) : Tidy (s.requestRun r) := by
  rcases requestRun_cases s r with ⟨_, same⟩ | ⟨awake, idle, same⟩
  · rw [same]; exact h
  · rw [same]
    have none : s.runs = [] := by
      rcases h.runs with ⟨_, none⟩ | ⟨flag, _⟩
      · exact none
      · rw [idle] at flag; cases flag
    exact ⟨Or.inr ⟨rfl, _, by rw [none]⟩, h.timers, h.rest⟩

theorem Tidy.leave {s : Scheduler} (h : Tidy s) {run : Run} (one : s.runs = [run]) :
    Tidy (s.leave run) := by
  obtain ⟨controller, same⟩ := leave_eq one
  rw [same]
  exact ⟨Or.inl ⟨rfl, rfl⟩, h.timers, h.rest⟩

theorem Tidy.catchUp {s : Scheduler} (h : Tidy s) (r : Reading) : Tidy (s.scheduleCatchUp r) :=
  h.schedule r _ true

theorem Tidy.next {s : Scheduler} (h : Tidy s) (r : Reading) (aborted : Bool) (delay : Rat) :
    Tidy (s.next r aborted delay) := by
  unfold Scheduler.next
  split
  · exact h
  split
  · apply Tidy.catchUp
    exact h.same rfl rfl rfl rfl rfl id
  · exact h.schedule r delay false

theorem Tidy.trigger {s : Scheduler} (h : Tidy s) (r : Reading) : Tidy (s.trigger r) := by
  unfold Scheduler.trigger
  split
  · exact h
  split
  · exact h.same rfl rfl rfl rfl rfl id
  · exact h.catchUp r

theorem Tidy.start {s : Scheduler} (h : Tidy s) (r : Reading) (active immediate : Bool) :
    Tidy (s.start r active immediate) := by
  unfold Scheduler.start
  split
  · exact h
  rename_i fresh
  have asleep : s.awake = false := by simp [Scheduler.awake, fresh]
  dsimp only
  split
  · exact h.same rfl rfl rfl rfl rfl fun _ => asleep
  split
  · apply Tidy.requestRun
    exact h.same rfl rfl rfl rfl rfl fun _ => asleep
  · apply Tidy.catchUp
    exact h.same rfl rfl rfl rfl rfl fun _ => asleep

/-- A scheduler without a timer keeps its shape, however it is told to rest. -/
theorem Tidy.emptied {s s' : Scheduler} (h : Tidy s) (runs : s'.runs = s.runs)
    (running : s'.running = s.running) (timer : s'.timer = none) (due : s'.timerDueAt = none)
    (held : s'.timers = []) : Tidy s' where
  runs := by rw [runs, running]; exact h.runs
  timers := Or.inl ⟨timer, due, held⟩
  rest := fun _ => timer

theorem Tidy.suspend {s : Scheduler} (h : Tidy s) : Tidy s.suspend := by
  unfold Scheduler.suspend
  split
  · exact h
  · rw [clear_eq]
    · exact h.emptied rfl rfl rfl rfl rfl
    · exact h.timers

theorem Tidy.resume {s : Scheduler} (h : Tidy s) (r : Reading) : Tidy (s.resume r) := by
  unfold Scheduler.resume
  split
  · exact h
  rename_i started
  have asleep : ({ s with suspended := false } : Scheduler).awake = false → s.awake = false := by
    intro asleep
    simp [Scheduler.awake] at asleep started
    rw [started] at asleep
    cases asleep
  dsimp only
  split
  · apply Tidy.requestRun
    exact h.same rfl rfl rfl rfl rfl asleep
  · apply Tidy.trigger
    exact h.same rfl rfl rfl rfl rfl asleep

/-- `abort` marks runs, it starts and ends none. -/
theorem Tidy.abort {s : Scheduler} (h : Tidy s) : Tidy s.abort := by
  refine ⟨?_, h.timers, h.rest⟩
  rcases h.runs with ⟨flag, none⟩ | ⟨flag, run, one⟩
  · exact Or.inl ⟨flag, by simp [Scheduler.abort, none]⟩
  · exact Or.inr ⟨flag, _, by simp [Scheduler.abort, one]; rfl⟩

theorem Tidy.stop {s : Scheduler} (h : Tidy s) : Tidy s.stop := by
  unfold Scheduler.stop
  dsimp only
  rw [clear_eq]
  · refine Tidy.same (Tidy.abort ?_) rfl rfl rfl rfl rfl id
    exact h.emptied rfl rfl rfl rfl rfl
  · exact h.timers

/-- The callback of the timer of a tidy state waits on, or asks for a run. -/
theorem Tidy.fire_eq {s : Scheduler} (h : Tidy s) {id : Nat} {t : Timer}
    (found : s.held id = some t) (r : Reading) :
    s.fire r t = if r.now < t.dueAt then s.rearmed r t.dueAt
      else { s with timer := none, timerDueAt := none, timers := [] }.requestRun r := by
  obtain ⟨timer, due, one⟩ := h.held found
  unfold Scheduler.fire Scheduler.armTimer Scheduler.rearmed
  simp [due, one]

theorem Tidy.fire {s : Scheduler} (h : Tidy s) {id : Nat} {t : Timer} (found : s.held id = some t)
    (r : Reading) : Tidy (s.fire r t) := by
  rw [h.fire_eq found]
  split
  · exact h.rearmed (h.armed_awake (h.held found).1) r _
  · apply Tidy.requestRun
    exact h.emptied rfl rfl rfl rfl rfl

theorem Tidy.succeed {s : Scheduler} (h : Tidy s) {run : Run} (one : s.runs = [run]) (r : Reading)
    (seconds : Rat) : Tidy (s.succeed r run seconds) := by
  unfold Scheduler.succeed
  dsimp only
  apply Tidy.next
  refine Tidy.leave ?_ one
  exact h.same rfl rfl rfl rfl rfl id

theorem backOff_eq (s : Scheduler) (r : Reading) (reason : Reason) :
    ∃ failures, (s.backOff r reason).1 = { s with consecutiveFailures := failures } := by
  unfold Scheduler.backOff
  cases reason with
  | other => exact ⟨_, rfl⟩
  | playerApiFailure retryable retryAfterMs => cases retryable <;> exact ⟨_, rfl⟩

/-- A failure that is no abort lets the run wait for `onError` and sets the floor. -/
theorem fail_eq {s : Scheduler} {run : Run} (one : s.runs = [run]) (going : run.aborted = false)
    (r : Reading) (reason : Reason) :
    ∃ delay failures, s.fail r run reason =
      { s with consecutiveFailures := failures, notBefore := r.now + delay,
               sights := .failed (r.now + delay) :: s.sights,
               runs := [{ run with stage := .reporting delay }] } := by
  obtain ⟨failures, same⟩ := backOff_eq s r reason
  refine ⟨(s.backOff r reason).2, failures, ?_⟩
  unfold Scheduler.fail
  rw [if_neg (by simp [going])]
  simp [same, one]

theorem Tidy.fail {s : Scheduler} (h : Tidy s) {run : Run} (one : s.runs = [run]) (r : Reading)
    (reason : Reason) : Tidy (s.fail r run reason) := by
  cases going : run.aborted with
  | true =>
    unfold Scheduler.fail
    rw [if_pos going]
    exact h.leave one
  | false =>
    obtain ⟨delay, failures, same⟩ := fail_eq one going r reason
    have flag : s.running = true := h.running_iff.mpr (by simp [one])
    rw [same]
    exact ⟨Or.inr ⟨flag, _, rfl⟩, h.timers, h.rest⟩

theorem Tidy.report {s : Scheduler} (h : Tidy s) {run : Run} (one : s.runs = [run]) (r : Reading)
    (delay : Rat) (rejected : Bool) : Tidy (s.report r run delay rejected) := by
  unfold Scheduler.report
  split
  · exact h.leave one
  · exact (h.leave one).next r _ _

/-- Every event keeps the shape. -/
theorem Tidy.take {s : Scheduler} (h : Tidy s) (r : Reading) (event : Event) :
    Tidy (s.take r event) := by
  cases event with
  | start active immediate => exact h.start r active immediate
  | stop => exact h.stop
  | suspend => exact h.suspend
  | resume => exact h.resume r
  | trigger => exact h.trigger r
  | fire id =>
    rw [Scheduler.take]
    cases found : s.held id with
    | none => exact h
    | some t => exact h.fire found r
  | succeed controller seconds =>
    rw [Scheduler.take]
    cases found : s.sending controller with
    | none => exact h
    | some run => exact h.succeed (h.sending found).1 r seconds
  | fail controller reason =>
    rw [Scheduler.take]
    cases found : s.sending controller with
    | none => exact h
    | some run => exact h.fail (h.sending found).1 r reason
  | report controller rejected =>
    rw [Scheduler.take]
    cases found : s.inFlight controller with
    | none => exact h
    | some run =>
      obtain ⟨c, aborted, stage⟩ := run
      cases stage with
      | sending => exact h
      | reporting delay => exact h.report (h.in_flight found).1 r delay rejected

theorem Tidy.moved {s : Scheduler} (h : Tidy s) (m : Move) : Tidy (step s m) := by
  apply Tidy.take
  exact h.same rfl rfl rfl rfl rfl id

/-- Every reachable state has the shape. -/
theorem every_state_is_tidy (options : HeartbeatSchedulerOptions) (moves : List Move) :
    Tidy (after (create options) moves) := by
  apply after_keeps Tidy (fun _ _ => True)
  · intro s m h _
    exact h.moved m
  · exact Tidy.create options
  · intro _ _ _ _
    trivial

/-! ## A scheduler that is awake goes on -/

/-- The timer of an idle scheduler sends when it is due. -/
theorem Tidy.a_due_timer_sends {s : Scheduler} (h : Tidy s) (idle : s.runs = []) {id : Nat}
    {t : Timer} (found : s.held id = some t) {r : Reading} (due : t.dueAt ≤ r.now) :
    (s.fire r t).sights = .sent r.now :: s.sights := by
  have awake : s.awake = true := h.armed_awake (h.held found).1
  have rested : s.running = false := by
    cases flag : s.running with
    | false => rfl
    | true => exact absurd idle (h.running_iff.mp flag)
  rw [h.fire_eq found, if_neg (not_lt.mpr due)]
  have asked := requestRun_cases
    { s with timer := none, timerDueAt := none, timers := [] } r
  rcases asked with ⟨asleep | running, _⟩ | ⟨_, _, same⟩
  · exact absurd (awake.symm.trans asleep) (by simp)
  · exact absurd (rested.symm.trans running) (by simp)
  · rw [same]

/-- The host holds the timer that the scheduler knows. -/
def Armed (s : Scheduler) : Prop :=
  ∃ t ∈ s.timers, s.timer = some t.id ∧ s.timerDueAt = some t.dueAt

instance (s : Scheduler) : Decidable (Armed s) :=
  inferInstanceAs (Decidable (∃ t ∈ s.timers, s.timer = some t.id ∧ s.timerDueAt = some t.dueAt))

/-- A scheduler that is started and not suspended has a run in flight, or an armed timer. -/
def GoesOn (s : Scheduler) : Prop :=
  s.started = true → s.suspended = false → s.runs = [] → Armed s

/-- A run is over and leaves without asking for a next one: its signal is aborted, or its error
handler rejects. -/
def Scheduler.quits (s : Scheduler) : Event → Bool
  | .succeed controller _ => (s.sending controller).any (·.aborted)
  | .fail controller _ => (s.sending controller).any (·.aborted)
  | .report controller rejected =>
    (s.inFlight controller).any fun run => run.stage ≠ .sending && (run.aborted || rejected)
  | _ => false

/-- The run quits a scheduler that is awake, and no timer is armed. -/
def Strands (s : Scheduler) (m : Move) : Prop :=
  s.started = true ∧ s.suspended = false ∧ s.timer = none ∧ s.quits m.event = true

theorem Tidy.armed_iff {s : Scheduler} (h : Tidy s) : Armed s ↔ s.timer ≠ none := by
  unfold Armed
  rcases h.timers with ⟨timer, _, held⟩ | ⟨t, timer, due, held⟩
  · simp [timer, held]
  · simp [timer, due, held]

/-- What `GoesOn` says of a tidy state. -/
def Lively (s : Scheduler) : Prop := s.awake = true → s.timer ≠ none ∨ s.running = true

theorem Tidy.goesOn_iff {s : Scheduler} (h : Tidy s) : GoesOn s ↔ Lively s := by
  unfold GoesOn Lively Scheduler.awake
  rw [h.armed_iff, h.running_iff, Bool.and_eq_true, Bool.not_eq_true']
  constructor
  · intro goes ⟨started, awake⟩
    by_cases idle : s.runs = []
    · exact Or.inl (goes started awake idle)
    · exact Or.inr idle
  · intro lively started awake idle
    rcases lively ⟨started, awake⟩ with armed | busy
    · exact armed
    · exact absurd idle busy

/-- `schedule` leaves a timer in a scheduler that is awake. -/
theorem Tidy.lively_schedule {s : Scheduler} (h : Tidy s) (r : Reading) (ms : Rat) (pull : Bool) :
    Lively (s.schedule r ms pull) := by
  intro awake
  left
  rcases h.schedule_cases r ms pull with ⟨asleep, same⟩ | ⟨_, _, ⟨due, known, _⟩, same⟩ | ⟨_, same⟩
  · rw [same, asleep] at awake
    cases awake
  · rw [same]
    intro none
    rw [h.timer_iff.mp none] at known
    cases known
  · rw [same]
    simp [Scheduler.rearmed]

theorem lively_requestRun (s : Scheduler) (r : Reading) : Lively (s.requestRun r) := by
  intro awake
  right
  rcases requestRun_cases s r with ⟨asleep | running, same⟩ | ⟨_, _, same⟩
  · rw [same, asleep] at awake
    cases awake
  · rw [same]; exact running
  · rw [same]

theorem lively_asleep {s : Scheduler} (asleep : s.awake = false) : Lively s := by
  intro awake
  rw [asleep] at awake
  cases awake

theorem Tidy.lively_next {s : Scheduler} (h : Tidy s) (r : Reading) (delay : Rat) :
    Lively (s.next r false delay) := by
  unfold Scheduler.next
  split
  · rename_i asleep
    apply lively_asleep
    simp only [Bool.or_false, Bool.or_eq_true, Bool.not_eq_true'] at asleep
    rcases asleep with asleep | asleep <;> simp [Scheduler.awake, asleep]
  split
  · apply Tidy.lively_schedule
    exact h.same rfl rfl rfl rfl rfl id
  · exact h.lively_schedule r delay false

theorem Tidy.lively_trigger {s : Scheduler} (h : Tidy s) (r : Reading) : Lively (s.trigger r) := by
  unfold Scheduler.trigger
  split
  · rename_i asleep
    apply lively_asleep
    simp only [Bool.or_eq_true, Bool.not_eq_true'] at asleep
    rcases asleep with asleep | asleep <;> simp [Scheduler.awake, asleep]
  split
  · rename_i running
    exact fun _ => Or.inr running
  · exact h.lively_schedule r _ true

theorem Tidy.lively_start {s : Scheduler} (h : Tidy s) (lively : Lively s) (r : Reading)
    (active immediate : Bool) : Lively (s.start r active immediate) := by
  unfold Scheduler.start
  split
  · exact lively
  rename_i fresh
  have asleep : s.awake = false := by simp [Scheduler.awake, fresh]
  dsimp only
  split
  · rename_i inactive
    apply lively_asleep
    simp [Scheduler.awake, inactive]
  split
  · apply lively_requestRun
  · apply Tidy.lively_schedule
    exact h.same rfl rfl rfl rfl rfl fun _ => asleep

theorem Tidy.lively_resume {s : Scheduler} (h : Tidy s) (lively : Lively s) (r : Reading) :
    Lively (s.resume r) := by
  unfold Scheduler.resume
  split
  · exact lively
  rename_i started
  dsimp only
  split
  · apply lively_requestRun
  · apply Tidy.lively_trigger
    refine h.same rfl rfl rfl rfl rfl ?_
    intro asleep
    simp [Scheduler.awake] at asleep started
    rw [started] at asleep
    cases asleep

theorem Tidy.lively_fire {s : Scheduler} (h : Tidy s) {id : Nat} {t : Timer}
    (found : s.held id = some t) (r : Reading) : Lively (s.fire r t) := by
  rw [h.fire_eq found]
  split
  · intro _
    left
    simp [Scheduler.rearmed]
  · apply lively_requestRun

/-- A failure that is no abort leaves its run in flight. -/
theorem Tidy.lively_fail {s : Scheduler} (h : Tidy s) {run : Run} (one : s.runs = [run])
    (going : run.aborted = false) (r : Reading) (reason : Reason) :
    Lively (s.fail r run reason) := by
  obtain ⟨delay, failures, same⟩ := fail_eq one going r reason
  intro _
  right
  rw [same]
  exact h.running_iff.mpr (by simp [one])

/-- Every event but a run that quits leaves a lively state. -/
theorem Tidy.lively_take {s : Scheduler} (h : Tidy s) (lively : Lively s) (r : Reading)
    {event : Event} (stays : s.quits event = false) : Lively (s.take r event) := by
  cases event with
  | start active immediate => exact h.lively_start lively r active immediate
  | stop =>
    apply lively_asleep
    simp [Scheduler.take, Scheduler.stop, Scheduler.abort, Scheduler.awake, clear_eq, h.timers]
  | suspend =>
    rw [Scheduler.take, Scheduler.suspend]
    split
    · exact lively
    · apply lively_asleep
      simp [Scheduler.awake, clear_eq, h.timers]
  | resume => exact h.lively_resume lively r
  | trigger => exact h.lively_trigger r
  | fire id =>
    rw [Scheduler.take]
    cases found : s.held id with
    | none => exact lively
    | some t => exact h.lively_fire found r
  | succeed controller seconds =>
    rw [Scheduler.take]
    cases found : s.sending controller with
    | none => exact lively
    | some run =>
      have going : run.aborted = false := by simpa [Scheduler.quits, found] using stays
      dsimp only
      unfold Scheduler.succeed
      dsimp only
      rw [going]
      apply Tidy.lively_next
      refine Tidy.leave ?_ (h.sending found).1
      exact h.same rfl rfl rfl rfl rfl id
  | fail controller reason =>
    rw [Scheduler.take]
    cases found : s.sending controller with
    | none => exact lively
    | some run =>
      have going : run.aborted = false := by simpa [Scheduler.quits, found] using stays
      exact h.lively_fail (h.sending found).1 going r reason
  | report controller rejected =>
    rw [Scheduler.take]
    cases found : s.inFlight controller with
    | none => exact lively
    | some run =>
      obtain ⟨c, aborted, stage⟩ := run
      cases stage with
      | sending => exact lively
      | reporting delay =>
        have going : aborted = false ∧ rejected = false := by
          simpa [Scheduler.quits, found] using stays
        dsimp only
        rw [going.1, going.2]
        rw [going.1] at found
        exact (h.leave (h.in_flight found).1).lively_next r delay

/-- A run that quits changes no timer and wakes nothing. -/
theorem quits_eq (s : Scheduler) (r : Reading) {event : Event}
    (quits : s.quits event = true) : (s.take r event).awake = s.awake ∧
      (s.take r event).timer = s.timer ∧ (s.take r event).running = false := by
  cases event with
  | start active immediate => cases quits
  | stop => cases quits
  | suspend => cases quits
  | resume => cases quits
  | trigger => cases quits
  | fire id => cases quits
  | succeed controller seconds =>
    rw [Scheduler.quits, Option.any_eq_true] at quits
    obtain ⟨run, found, aborted⟩ := quits
    simp [Scheduler.take, found, Scheduler.succeed, Scheduler.next, aborted, Scheduler.leave,
      Scheduler.awake]
  | fail controller reason =>
    rw [Scheduler.quits, Option.any_eq_true] at quits
    obtain ⟨run, found, aborted⟩ := quits
    simp [Scheduler.take, found, Scheduler.fail, aborted, Scheduler.leave, Scheduler.awake]
  | report controller rejected =>
    rw [Scheduler.quits, Option.any_eq_true] at quits
    obtain ⟨⟨c, aborted, stage⟩, found, ends⟩ := quits
    cases stage with
    | sending => simp at ends
    | reporting delay =>
      have ends : aborted = true ∨ rejected = true := by simpa using ends
      cases rejected with
      | true => simp [Scheduler.take, found, Scheduler.report, Scheduler.leave, Scheduler.awake]
      | false =>
        have aborted : aborted = true := by simpa using ends
        simp [Scheduler.take, found, Scheduler.report, Scheduler.next, aborted, Scheduler.leave,
          Scheduler.awake]

/-- A move leaves a lively state exactly when it strands nothing. -/
theorem Tidy.lively_step {s : Scheduler} (h : Tidy s) (lively : Lively s) (m : Move) :
    Lively (step s m) ↔ ¬ Strands s m := by
  have tidy : Tidy { s with clock := m.reading.now } := h.same rfl rfl rfl rfl rfl id
  have same : ({ s with clock := m.reading.now } : Scheduler).quits m.event = s.quits m.event := by
    cases m.event <;> rfl
  have awake : s.awake = true ↔ s.started = true ∧ s.suspended = false := by
    simp [Scheduler.awake]
  unfold Strands
  cases quits : s.quits m.event with
  | false =>
    have now := tidy.lively_take lively m.reading (same.trans quits)
    exact ⟨fun _ strands => by simp at strands, fun _ => now⟩
  | true =>
    obtain ⟨sleep, timer, idle⟩ := quits_eq _ m.reading (same.trans quits)
    have awake' : (step s m).awake = s.awake := sleep
    have timer' : (step s m).timer = s.timer := timer
    have idle' : (step s m).running = false := idle
    unfold Lively
    rw [awake', timer', idle', awake]
    constructor
    · rintro goes ⟨started, active, none, _⟩
      rcases goes ⟨started, active⟩ with armed | busy
      · exact armed none
      · cases busy
    · intro kept ⟨started, active⟩
      exact Or.inl fun none => kept ⟨started, active, none, rfl⟩

/-- In all states of a run, a scheduler that is started, not suspended and without a run in
flight has an armed timer, exactly when no run quits while the scheduler is started, not
suspended and without a timer. -/
theorem the_scheduler_goes_on_iff_no_run_strands_it (options : HeartbeatSchedulerOptions)
    (moves : List Move) :
    (∀ early late, moves = early ++ late → GoesOn (after (create options) early)) ↔
      Along (fun s m => ¬ Strands s m) (create options) moves := by
  constructor
  · intro goes early m late split
    have tidy := every_state_is_tidy options early
    have before := tidy.goesOn_iff.mp (goes early (m :: late) split)
    have later : after (create options) (early ++ [m]) = step (after (create options) early) m :=
      after_append _ early [m]
    have reached := goes (early ++ [m]) late (by rw [split]; simp)
    rw [later] at reached
    exact (tidy.lively_step before m).mp ((tidy.moved m).goesOn_iff.mp reached)
  · intro met early late split
    rw [split] at met
    have kept : Tidy (after (create options) early) ∧ Lively (after (create options) early) := by
      apply after_keeps (fun s => Tidy s ∧ Lively s) _ ?_ early _ _ met.start
      · intro s m inv fine
        exact ⟨inv.1.moved m, (inv.1.lively_step inv.2 m).mpr fine⟩
      · exact ⟨Tidy.create options, lively_asleep rfl⟩
    exact kept.1.goesOn_iff.mpr kept.2

/-- Stopped and started again while the aborted request is in flight: the new start asks for no
run as the old one is not over, and the old one asks for no next one as it is aborted. -/
theorem a_restart_during_a_request_strands_the_scheduler :
    ¬ ∀ (options : HeartbeatSchedulerOptions) (moves : List Move),
      GoesOn (after (create options) moves) := by
  intro goes
  have stuck := goes {} [⟨.start true true, ⟨0, 0⟩⟩, ⟨.stop, ⟨1, 0⟩⟩,
    ⟨.start true true, ⟨2, 0⟩⟩, ⟨.fail 0 .other, ⟨3, 0⟩⟩]
  unfold GoesOn at stuck
  revert stuck
  decide +kernel

end screengoblin.heartbeat
