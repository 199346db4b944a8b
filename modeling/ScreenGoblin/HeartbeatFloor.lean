-- The Retry-After floor of the heartbeat scheduler: a send respects the instant that the last
-- failure set, unless a start passes the cooldown by, or the end of a failed run keeps a timer
-- that is older than the failure.
import ScreenGoblin.HeartbeatLaws

namespace screengoblin.heartbeat

/-! ## No send before the floor -/

/-- The instant before which no send may start, as the most recent failure set it. -/
def lastFloor : List Sight → Option Rat
  | [] => none
  | .failed notBefore :: _ => some notBefore
  | .sent _ :: sights => lastFloor sights

/-- No send started before the floor of the most recent failure before it. -/
def KeepsFloor (sights : List Sight) : Prop :=
  ∀ later now earlier floor, sights = later ++ .sent now :: earlier →
    lastFloor earlier = some floor → floor ≤ now

theorem keepsFloor_failed {sights : List Sight} (h : KeepsFloor sights) (notBefore : Rat) :
    KeepsFloor (.failed notBefore :: sights) := by
  intro later now earlier floor split last
  cases later with
  | nil => cases split
  | cons sight later =>
    obtain ⟨_, split⟩ := List.cons.inj split
    exact h later now earlier floor split last

theorem keepsFloor_sent {sights : List Sight} {now : Rat} :
    KeepsFloor (.sent now :: sights) ↔
      KeepsFloor sights ∧ ∀ floor, lastFloor sights = some floor → floor ≤ now := by
  constructor
  · intro h
    refine ⟨fun later now' earlier floor split => ?_, fun floor => ?_⟩
    · exact h (.sent now :: later) now' earlier floor (by rw [split, List.cons_append])
    · exact h [] now sights floor rfl
  · rintro ⟨h, fine⟩ later now' earlier floor split last
    cases later with
    | nil =>
      obtain ⟨same, rfl⟩ := List.cons.inj split
      cases same
      exact fine floor last
    | cons sight later =>
      obtain ⟨_, split⟩ := List.cons.inj split
      exact h later now' earlier floor split last

/-- The floor is over at the instant, or there is none. -/
def Passed (s : Scheduler) (instant : Rat) : Prop :=
  ∀ floor, lastFloor s.sights = some floor → floor ≤ instant

/-- What holds of the floor in a state, whatever its timer is due for. -/
structure Mild (s : Scheduler) : Prop where
  tidy : Tidy s
  started : 0 ≤ s.clock
  kept : KeepsFloor s.sights
  floor : (s.notBefore = 0 ∧ Passed s s.clock) ∨ lastFloor s.sights = some s.notBefore
  sending : ∀ run ∈ s.runs, run.stage = .sending → Passed s s.clock

/-- The timer is due after the floor. -/
def Late (s : Scheduler) : Prop :=
  ∀ due, s.timerDueAt = some due → Passed s due ∨ Passed s s.clock

/-- While a failed run waits for its error handler, a timer that is older than the failure may
still be armed. At any other time the timer is late enough. -/
structure Cool (s : Scheduler) : Prop extends Mild s where
  late : (∃ run ∈ s.runs, run.aborted = false ∧ run.stage ≠ .sending) ∨ Late s

/-- A move that lets a send start before the floor: an immediate start during the cooldown, or
the end of a failed run that keeps a timer which is due before the cooldown is over. -/
def Hurries (s : Scheduler) (m : Move) : Bool :=
  match m.event with
  | .start active immediate =>
    !s.started && active && immediate && !s.running && m.reading.now < s.notBefore
  | .report controller rejected =>
    (s.inFlight controller).any (fun run => run.stage ≠ .sending && !run.aborted) &&
      (rejected || s.wakePending) && s.timerDueAt.any (· < s.notBefore) &&
        m.reading.now < s.notBefore
  | _ => false

/-- The clock of a run starts at zero and does not go back. -/
def Steady (options : HeartbeatSchedulerOptions) (moves : List Move) : Prop :=
  Along (fun s m => s.clock ≤ m.reading.now) (create options) moves

theorem Cool.create (options : HeartbeatSchedulerOptions) : Cool (create options) where
  tidy := Tidy.create options
  started := le_refl 0
  kept := fun later _ _ _ split => by cases later <;> cases split
  floor := Or.inl ⟨rfl, fun _ none => by cases none⟩
  sending := fun _ none => by cases none
  late := Or.inr fun _ none => by cases none

theorem Passed.mono {s : Scheduler} {a b : Rat} (h : Passed s a) (le : a ≤ b) : Passed s b :=
  fun floor last => le_trans (h floor last) le

/-- The cooldown that the code knows is that of the last failure, or it is over. -/
theorem Mild.passed {s : Scheduler} (h : Mild s) {instant : Rat} (le : s.notBefore ≤ instant) :
    Passed s instant ∨ Passed s s.clock := by
  rcases h.floor with ⟨_, passed⟩ | last
  · exact Or.inr passed
  · left
    intro floor last'
    rw [last] at last'
    cases last'
    exact le

theorem Mild.passed_now {s : Scheduler} (h : Mild s) (le : s.notBefore ≤ s.clock) :
    Passed s s.clock :=
  (h.passed le).elim id id

/-- The floor is ahead when the cooldown is. -/
theorem Mild.last_floor {s : Scheduler} (h : Mild s) {now : Rat} (later : s.clock ≤ now)
    (ahead : now < s.notBefore) : lastFloor s.sights = some s.notBefore := by
  rcases h.floor with ⟨zero, _⟩ | last
  · rw [zero] at ahead
    exact absurd (le_trans h.started later) (not_le.mpr ahead)
  · exact last

theorem Mild.waited {s : Scheduler} (h : Mild s) {now : Rat} (later : s.clock ≤ now) :
    Mild { s with clock := now } where
  tidy := h.tidy.same rfl rfl rfl rfl rfl id
  started := le_trans h.started later
  kept := h.kept
  floor := h.floor.imp (fun gone => ⟨gone.1, gone.2.mono later⟩) id
  sending := fun run member stage => (h.sending run member stage).mono later

theorem Cool.waited {s : Scheduler} (h : Cool s) {now : Rat} (later : s.clock ≤ now) :
    Cool { s with clock := now } where
  toMild := h.toMild.waited later
  late := h.late.imp id fun late due known => (late due known).imp id fun gone => gone.mono later

/-- What an event may change without a word about the floor. -/
theorem Mild.same {s s' : Scheduler} (h : Mild s) (tidy : Tidy s') (clock : s'.clock = s.clock)
    (sights : s'.sights = s.sights) (notBefore : s'.notBefore = s.notBefore)
    (runs : s'.runs = s.runs) : Mild s' where
  tidy := tidy
  started := by rw [clock]; exact h.started
  kept := by rw [sights]; exact h.kept
  floor := by
    unfold Passed
    rw [clock, sights, notBefore]
    exact h.floor
  sending := by
    unfold Passed
    rw [clock, sights, runs]
    exact h.sending

theorem Cool.same {s s' : Scheduler} (h : Cool s) (tidy : Tidy s') (clock : s'.clock = s.clock)
    (sights : s'.sights = s.sights) (notBefore : s'.notBefore = s.notBefore)
    (runs : s'.runs = s.runs) (due : s'.timerDueAt = s.timerDueAt) : Cool s' where
  toMild := h.toMild.same tidy clock sights notBefore runs
  late := by
    unfold Late Passed
    rw [clock, sights, runs, due]
    exact h.late

/-- Without a timer nothing is too early. -/
theorem Mild.untimed {s : Scheduler} (h : Mild s) (none : s.timerDueAt = none) : Cool s where
  toMild := h
  late := Or.inr fun due known => by rw [none] at known; cases known

theorem Mild.rearmed {s : Scheduler} (h : Mild s) (awake : s.awake = true) (r : Reading)
    {dueAt : Rat} (le : s.notBefore ≤ dueAt) : Cool (s.rearmed r dueAt) where
  toMild := h.same (h.tidy.rearmed awake r dueAt) rfl rfl rfl rfl
  late := Or.inr fun due known => by
    cases known
    exact h.passed le

/-- A timer that is set anew is late enough. -/
theorem Mild.schedule {s : Scheduler} (h : Mild s) (r : Reading) (ms : Rat) :
    Cool (s.schedule r ms false) := by
  rcases h.tidy.schedule_cases r ms false with ⟨asleep, same⟩ | ⟨_, pull, _⟩ | ⟨awake, same⟩
  · rw [same]
    exact h.untimed (h.tidy.timer_iff.mp (h.tidy.rest asleep))
  · cases pull
  · rw [same]
    exact h.rearmed awake r (le_max_right _ _)

theorem Cool.catchUp {s : Scheduler} (h : Cool s) (r : Reading) : Cool (s.scheduleCatchUp r) := by
  unfold Scheduler.scheduleCatchUp
  rcases h.tidy.schedule_cases r (s.catchUpDelay r) true with
    ⟨_, same⟩ | ⟨_, _, _, same⟩ | ⟨awake, same⟩
  · rw [same]; exact h
  · rw [same]; exact h
  · rw [same]
    exact h.toMild.rearmed awake r (le_max_right _ _)

/-- A send may start when the floor is over. -/
theorem Cool.requestRun {s : Scheduler} (h : Cool s) {r : Reading} (now : s.clock = r.now)
    (gone : s.running = false → Passed s s.clock) : Cool (s.requestRun r) := by
  have tidy := h.tidy.requestRun r
  rcases requestRun_cases s r with ⟨_, same⟩ | ⟨awake, idle, same⟩
  · rw [same]; exact h
  · rw [same] at tidy ⊢
    have passed := gone idle
    have none : s.runs = [] := by
      by_contra busy
      rw [h.tidy.running_iff.mpr busy] at idle
      cases idle
    refine ⟨⟨tidy, h.started, ?_, h.floor, fun _ _ _ => passed⟩, Or.inr ?_⟩
    · rw [keepsFloor_sent, ← now]
      exact ⟨h.kept, passed⟩
    · rcases h.late with ⟨run, member, _⟩ | late
      · rw [none] at member; cases member
      · exact late

theorem Cool.trigger {s : Scheduler} (h : Cool s) (r : Reading) : Cool (s.trigger r) := by
  unfold Scheduler.trigger
  split
  · exact h
  split
  · exact h.same (h.tidy.same rfl rfl rfl rfl rfl id) rfl rfl rfl rfl rfl
  · exact h.catchUp r

theorem Cool.start {s : Scheduler} (h : Cool s) {r : Reading} (now : s.clock = r.now)
    {active immediate : Bool} (calm : Hurries s ⟨.start active immediate, r⟩ = false) :
    Cool (s.start r active immediate) := by
  have tidy := h.tidy.start r active immediate
  unfold Scheduler.start at tidy ⊢
  split
  · exact h
  rename_i fresh
  have asleep : s.awake = false := by simp [Scheduler.awake, fresh]
  dsimp only
  split
  · exact h.same (h.tidy.same rfl rfl rfl rfl rfl fun _ => asleep) rfl rfl rfl rfl rfl
  rename_i active
  split
  · rename_i immediate
    apply Cool.requestRun
    · exact h.same (h.tidy.same rfl rfl rfl rfl rfl fun _ => asleep) rfl rfl rfl rfl rfl
    · exact now
    · intro idle
      have idle : s.running = false := idle
      have gone : s.notBefore ≤ s.clock := by
        simp_all [Hurries]
      exact h.passed_now gone
  · apply Cool.catchUp
    exact h.same (h.tidy.same rfl rfl rfl rfl rfl fun _ => asleep) rfl rfl rfl rfl rfl

theorem Cool.suspend {s : Scheduler} (h : Cool s) : Cool s.suspend := by
  have tidy := h.tidy.suspend
  unfold Scheduler.suspend at tidy ⊢
  split
  · exact h
  · rename_i started
    rw [if_neg started, clear_eq] at tidy
    · rw [clear_eq]
      · exact Mild.untimed (h.toMild.same tidy rfl rfl rfl rfl) rfl
      · exact h.tidy.timers
    · exact h.tidy.timers

theorem Cool.resume {s : Scheduler} (h : Cool s) {r : Reading} (now : s.clock = r.now) :
    Cool (s.resume r) := by
  unfold Scheduler.resume
  split
  · exact h
  rename_i started
  have asleep : ({ s with suspended := false } : Scheduler).awake = false → s.awake = false := by
    intro asleep
    simp [Scheduler.awake] at asleep started
    rw [started] at asleep
    cases asleep
  dsimp only
  split
  · rename_i owed
    apply Cool.requestRun
    · exact h.same (h.tidy.same rfl rfl rfl rfl rfl asleep) rfl rfl rfl rfl rfl
    · exact now
    · intro _
      apply h.passed_now
      simp [Scheduler.cooldownRemaining] at owed
      rw [now]
      linarith [owed.2]
  · apply Cool.trigger
    exact h.same (h.tidy.same rfl rfl rfl rfl rfl asleep) rfl rfl rfl rfl rfl

theorem Cool.stop {s : Scheduler} (h : Cool s) : Cool s.stop := by
  have tidy := h.tidy.stop
  unfold Scheduler.stop at tidy ⊢
  dsimp only at tidy ⊢
  rw [clear_eq] at tidy ⊢
  · apply Mild.untimed
    · refine ⟨tidy, h.started, h.kept, h.floor, ?_⟩
      intro run member stage
      obtain ⟨old, known, same⟩ := List.mem_map.mp member
      apply h.sending old known
      rw [← stage, ← same]
      split <;> rfl
    · rfl
  · exact h.tidy.timers
  · exact h.tidy.timers

theorem Cool.fire {s : Scheduler} (h : Cool s) {id : Nat} {t : Timer}
    (found : s.held id = some t) {r : Reading} (now : s.clock = r.now) : Cool (s.fire r t) := by
  have tidy := h.tidy.fire found r
  rw [h.tidy.fire_eq found] at tidy ⊢
  obtain ⟨timer, due, held⟩ := h.tidy.held found
  split
  · rename_i early
    rw [if_pos early] at tidy
    exact h.same tidy rfl rfl rfl rfl due.symm
  · rename_i ripe
    apply Cool.requestRun
    · apply Mild.untimed
      · exact h.toMild.same (h.tidy.emptied rfl rfl rfl rfl rfl) rfl rfl rfl rfl
      · rfl
    · exact now
    · intro idle
      have idle : s.running = false := idle
      rcases h.late with ⟨run, member, _⟩ | late
      · have busy := h.tidy.running_iff.mpr (List.ne_nil_of_mem member)
        rw [idle] at busy
        cases busy
      · rcases late t.dueAt due with gone | gone
        · apply gone.mono
          show t.dueAt ≤ s.clock
          rw [now]
          exact not_lt.mp ripe
        · exact gone

theorem Mild.leave {s : Scheduler} (h : Mild s) {run : Run} (one : s.runs = [run]) :
    Mild (s.leave run) := by
  have tidy := h.tidy.leave one
  obtain ⟨controller, same⟩ := leave_eq one
  rw [same] at tidy ⊢
  exact ⟨tidy, h.started, h.kept, h.floor, fun _ none => by cases none⟩

theorem Mild.left {s : Scheduler} (h : Mild s) {run : Run} (one : s.runs = [run])
    (late : Late s) : Cool (s.leave run) where
  toMild := h.leave one
  late := Or.inr late

/-- When a run is over, the next one waits for the floor: a new timer does, and a timer that is
kept was late enough. -/
theorem Mild.next {s : Scheduler} (h : Mild s) (r : Reading) (aborted : Bool) (delay : Rat)
    (late : aborted = true ∨ s.wakePending = true → Late s) : Cool (s.next r aborted delay) := by
  unfold Scheduler.next
  split
  · rename_i ends
    cases flag : aborted with
    | true => exact ⟨h, Or.inr (late (Or.inl flag))⟩
    | false =>
      apply h.untimed
      apply h.tidy.timer_iff.mp
      apply h.tidy.rest
      simp only [flag, Bool.or_false, Bool.or_eq_true, Bool.not_eq_true'] at ends
      rcases ends with ends | ends <;> simp [Scheduler.awake, ends]
  split
  · rename_i wake
    apply Cool.catchUp
    refine ⟨h.same (h.tidy.same rfl rfl rfl rfl rfl id) rfl rfl rfl rfl, Or.inr ?_⟩
    exact late (Or.inr wake)
  · exact h.schedule r delay

/-- A run that sends is no run that waits for its error handler. -/
theorem Cool.late_of_sending {s : Scheduler} (h : Cool s) {run : Run} (one : s.runs = [run])
    (waits : run.aborted = true ∨ run.stage = .sending) : Late s := by
  rcases h.late with ⟨other, member, going, stage⟩ | late
  · rw [one, List.mem_singleton] at member
    subst member
    rcases waits with aborted | sends
    · rw [going] at aborted; cases aborted
    · exact absurd sends stage
  · exact late

theorem Cool.succeed {s : Scheduler} (h : Cool s) {run : Run} (one : s.runs = [run])
    (sends : run.stage = .sending) (r : Reading) (seconds : Rat) :
    Cool (s.succeed r run seconds) := by
  unfold Scheduler.succeed
  dsimp only
  have passed : Passed s s.clock := h.sending run (by simp [one]) sends
  have late : Late s := h.late_of_sending one (Or.inr sends)
  obtain ⟨controller, same⟩ := leave_eq (s := { s with
    consecutiveFailures := 0, notBefore := 0, cadenceSeconds := boundInterval seconds }) one
  apply Mild.next
  · refine Mild.leave ?_ one
    exact ⟨h.tidy.same rfl rfl rfl rfl rfl id, h.started, h.kept, Or.inl ⟨rfl, passed⟩, h.sending⟩
  · intro _
    rw [same]
    exact late

theorem Cool.fail {s : Scheduler} (h : Cool s) {run : Run} (one : s.runs = [run])
    (sends : run.stage = .sending) (r : Reading) (reason : Reason) :
    Cool (s.fail r run reason) := by
  have tidy := h.tidy.fail one r reason
  cases going : run.aborted with
  | true =>
    unfold Scheduler.fail
    rw [if_pos going]
    exact h.toMild.left one (h.late_of_sending one (Or.inr sends))
  | false =>
    obtain ⟨delay, failures, same⟩ := fail_eq one going r reason
    rw [same] at tidy ⊢
    refine ⟨⟨tidy, h.started, keepsFloor_failed h.kept _, Or.inr rfl, ?_⟩, Or.inl ?_⟩
    · intro other member stage
      rw [List.mem_singleton] at member
      subst member
      cases stage
    · exact ⟨_, List.mem_singleton_self _, going, by simp⟩

theorem Cool.report {s : Scheduler} (h : Cool s) {controller c : Nat} {aborted : Bool}
    {delay : Rat} (found : s.inFlight controller = some ⟨c, aborted, .reporting delay⟩)
    {r : Reading} (now : s.clock = r.now) {rejected : Bool}
    (calm : Hurries s ⟨.report controller rejected, r⟩ = false) :
    Cool (s.report r ⟨c, aborted, .reporting delay⟩ delay rejected) := by
  have one := (h.tidy.in_flight found).1
  have late : aborted = true ∨ rejected = true ∨ s.wakePending = true → Late s := by
    intro kept due known
    cases going : aborted with
    | true => exact h.late_of_sending one (Or.inl going) due known
    | false =>
      rw [going] at found
      by_cases ripe : s.notBefore ≤ due
      · exact h.passed ripe
      · right
        apply h.passed_now
        rw [now]
        by_contra ahead
        simp_all [Hurries]
  obtain ⟨kept, same⟩ := leave_eq one
  unfold Scheduler.report
  split
  · rename_i ends
    exact h.toMild.left one (late (Or.inr (Or.inl ends)))
  · apply (h.toMild.leave one).next
    intro ends
    rw [same] at ends ⊢
    exact late (ends.imp id Or.inr)

/-- A move that does not hurry keeps the floor. -/
theorem Cool.moved {s : Scheduler} (before : Cool s) (m : Move)
    (later : s.clock ≤ m.reading.now) (calm : Hurries s m = false) : Cool (step s m) := by
  obtain ⟨event, r⟩ := m
  have h : Cool { s with clock := r.now } := before.waited later
  unfold step
  dsimp only
  cases event with
  | start active immediate => exact h.start rfl calm
  | stop => exact h.stop
  | suspend => exact h.suspend
  | resume => exact h.resume rfl
  | trigger => exact h.trigger r
  | fire id =>
    rw [Scheduler.take]
    cases found : Scheduler.held { s with clock := r.now } id with
    | none => exact h
    | some t => exact h.fire found rfl
  | succeed controller seconds =>
    rw [Scheduler.take]
    cases found : Scheduler.sending { s with clock := r.now } controller with
    | none => exact h
    | some run =>
      obtain ⟨one, _, sends⟩ := h.tidy.sending found
      exact h.succeed one sends r seconds
  | fail controller reason =>
    rw [Scheduler.take]
    cases found : Scheduler.sending { s with clock := r.now } controller with
    | none => exact h
    | some run =>
      obtain ⟨one, _, sends⟩ := h.tidy.sending found
      exact h.fail one sends r reason
  | report controller rejected =>
    rw [Scheduler.take]
    cases found : Scheduler.inFlight { s with clock := r.now } controller with
    | none => exact h
    | some run =>
      obtain ⟨c, aborted, stage⟩ := run
      cases stage with
      | sending => exact h
      | reporting delay => exact h.report found rfl calm

/-- An immediate start during the cooldown sends before the floor. -/
theorem Cool.hurried_start {s : Scheduler} (h : Cool s) {r : Reading} (later : s.clock ≤ r.now)
    {active immediate : Bool} (hurry : Hurries s ⟨.start active immediate, r⟩ = true) :
    ¬ KeepsFloor (step s ⟨.start active immediate, r⟩).sights := by
  simp only [Hurries, Bool.and_eq_true, Bool.not_eq_true', decide_eq_true_eq] at hurry
  obtain ⟨⟨⟨⟨fresh, rfl⟩, rfl⟩, idle⟩, ahead⟩ := hurry
  have sent : (step s ⟨.start true true, r⟩).sights = .sent r.now :: s.sights := by
    simp [step, Scheduler.take, Scheduler.start, Scheduler.requestRun, fresh, idle]
  rw [sent, keepsFloor_sent]
  intro kept
  exact absurd (kept.2 _ (h.last_floor later ahead)) (not_le.mpr ahead)

/-- A failed run that ends with a rejection or a wakeup keeps a timer that is due too early. -/
theorem Cool.hurried_report {s : Scheduler} (h : Cool s) {r : Reading} {controller : Nat}
    {rejected : Bool} (hurry : Hurries s ⟨.report controller rejected, r⟩ = true) :
    ∃ t : Timer, t.dueAt < s.notBefore ∧ r.now < s.notBefore ∧
      (step s ⟨.report controller rejected, r⟩).held t.id = some t ∧
      (step s ⟨.report controller rejected, r⟩).runs = [] ∧
      (step s ⟨.report controller rejected, r⟩).clock = r.now ∧
      (step s ⟨.report controller rejected, r⟩).sights = s.sights := by
  simp only [Hurries, Bool.and_eq_true, Option.any_eq_true, decide_eq_true_eq] at hurry
  obtain ⟨⟨⟨⟨⟨c, aborted, stage⟩, found, waits⟩, ends⟩, due, known, early⟩, ahead⟩ := hurry
  have one := (h.tidy.in_flight found).1
  obtain ⟨t, timer, due', held⟩ : ∃ t : Timer, s.timer = some t.id ∧
      s.timerDueAt = some t.dueAt ∧ s.timers = [t] := by
    rcases h.tidy.timers with ⟨_, none, _⟩ | armed
    · rw [none] at known; cases known
    · exact armed
  rw [due'] at known
  cases known
  refine ⟨t, early, ahead, ?_⟩
  cases stage with
  | sending => simp at waits
  | reporting delay =>
    have going : aborted = false := by simpa using waits
    subst going
    have awake := h.tidy.armed_awake timer
    have active : s.started = true ∧ s.suspended = false := by
      simpa [Scheduler.awake] using awake
    have found' : Scheduler.inFlight { s with clock := r.now } controller =
      some ⟨c, false, .reporting delay⟩ := found
    have moved : step s ⟨.report controller rejected, r⟩ =
        Scheduler.report { s with clock := r.now } r ⟨c, false, .reporting delay⟩ delay
          rejected := by
      simp only [step, Scheduler.take, found']
    obtain ⟨kept, left⟩ := leave_eq (s := { s with clock := r.now }) one
    rw [moved, Scheduler.report, left]
    cases rejected with
    | true => simp [Scheduler.held, held]
    | false =>
      have wake : s.wakePending = true := by simpa using ends
      have keeps : ∀ ms, t.dueAt ≤ max (r.now + max 0 ms) s.notBefore :=
        fun ms => le_trans (le_of_lt early) (le_max_right _ _)
      simp [Scheduler.next, Scheduler.held, held, active, wake, Scheduler.scheduleCatchUp,
        Scheduler.schedule, Scheduler.dueAt, due', -le_sup_iff, keeps]

/-- The first move that hurries leads, with at most one more event, to a send before the floor. -/
theorem Cool.hurried {s : Scheduler} (h : Cool s) {m : Move} (later : s.clock ≤ m.reading.now)
    (hurry : Hurries s m = true) :
    ∃ more, Along (fun s m => s.clock ≤ m.reading.now) (step s m) more ∧
      ¬ KeepsFloor (after (step s m) more).sights := by
  obtain ⟨event, r⟩ := m
  cases event with
  | start active immediate =>
    exact ⟨[], Along.nil, h.hurried_start later hurry⟩
  | report controller rejected =>
    obtain ⟨t, early, ahead, held, idle, clock, same⟩ := h.hurried_report hurry
    have tidy : Tidy (step s ⟨.report controller rejected, r⟩) := h.tidy.moved _
    generalize step s ⟨.report controller rejected, r⟩ = s' at held idle clock same tidy
    refine ⟨[⟨.fire t.id, ⟨max r.now t.dueAt, 0⟩⟩], ?_, ?_⟩
    · exact Along.cons (clock.le.trans (le_max_left _ _)) Along.nil
    · have sent : (after s' [⟨.fire t.id, ⟨max r.now t.dueAt, 0⟩⟩]).sights =
          .sent (max r.now t.dueAt) :: s.sights := by
        rw [← same]
        have tidy' : Tidy { s' with clock := max r.now t.dueAt } :=
          tidy.same rfl rfl rfl rfl rfl id
        have held' : Scheduler.held { s' with clock := max r.now t.dueAt } t.id = some t := held
        simp only [after, List.foldl_cons, List.foldl_nil, step, Scheduler.take, held']
        exact tidy'.a_due_timer_sends idle held' (le_max_right _ _)
      rw [sent, keepsFloor_sent]
      intro kept
      have gone := kept.2 _ (h.last_floor later ahead)
      exact absurd gone (not_le.mpr (max_lt ahead early))
  | stop => cases hurry
  | suspend => cases hurry
  | resume => cases hurry
  | trigger => cases hurry
  | fire id => cases hurry
  | succeed controller seconds => cases hurry
  | fail controller reason => cases hurry

theorem every_calm_state_is_cool (options : HeartbeatSchedulerOptions) (moves : List Move)
    (steady : Steady options moves)
    (calm : Along (fun s m => Hurries s m = false) (create options) moves) :
    Cool (after (create options) moves) := by
  apply after_keeps Cool (fun s m => s.clock ≤ m.reading.now ∧ Hurries s m = false)
  · intro s m cool fine
    exact cool.moved m fine.1 fine.2
  · exact Cool.create options
  · intro early m late split
    exact ⟨steady early m late split, calm early m late split⟩

/-- There is never more than one send in flight. No send starts before the floor of the last
failure as long as no move hurries, and the first move that hurries can lead to such a send. -/
theorem one_send_at_a_time_and_after_the_floor_unless_a_move_hurries
    (options : HeartbeatSchedulerOptions) (moves : List Move) (steady : Steady options moves) :
    (after (create options) moves).runs.length ≤ 1 ∧
      (Along (fun s m => Hurries s m = false) (create options) moves →
        KeepsFloor (after (create options) moves).sights) ∧
      ∀ early m late, moves = early ++ m :: late →
        Along (fun s m => Hurries s m = false) (create options) early →
        Hurries (after (create options) early) m = true →
        ∃ more, Steady options (early ++ m :: more) ∧
          ¬ KeepsFloor (after (create options) (early ++ m :: more)).sights := by
  refine ⟨(every_state_is_tidy options moves).one_run, ?_, ?_⟩
  · intro calm
    exact (every_calm_state_is_cool options moves steady calm).kept
  · intro early m late split calm hurry
    have steady' : Steady options early := by
      unfold Steady at steady
      rw [split] at steady
      exact steady.start
    have cool := every_calm_state_is_cool options early steady' calm
    have later := steady early m late split
    obtain ⟨more, goes, breaks⟩ := cool.hurried later hurry
    refine ⟨more, ?_, ?_⟩
    · exact steady'.append (Along.cons later goes)
    · rw [after_append]
      exact breaks

/-- A busy server asks for two minutes. The player stops the scheduler and starts it again. -/
def earlyRestart : List Move :=
  [⟨.start true true, ⟨0, 0⟩⟩, ⟨.fail 0 (.playerApiFailure true (some 120000)), ⟨0, 0⟩⟩,
    ⟨.report 0 false, ⟨0, 0⟩⟩, ⟨.stop, ⟨1, 0⟩⟩, ⟨.start true true, ⟨2, 0⟩⟩]

theorem earlyRestart_steady : Steady {} earlyRestart := by
  unfold earlyRestart
  refine Along.cons ?_ (Along.cons ?_ (Along.cons ?_ (Along.cons ?_ (Along.cons ?_ Along.nil))))
  all_goals decide +kernel

theorem a_restart_sends_before_the_floor :
    ¬ ∀ (options : HeartbeatSchedulerOptions) (moves : List Move), Steady options moves →
      (after (create options) moves).runs.length ≤ 1 ∧
        KeepsFloor (after (create options) moves).sights := by
  intro keeps
  have sights : (after (create {}) earlyRestart).sights = [.sent 2, .failed 120000, .sent 0] := by
    decide +kernel
  have early := (keeps {} earlyRestart earlyRestart_steady).2 [] 2 _ 120000 sights rfl
  exact absurd early (by decide +kernel)

/-- A busy server asks for two minutes, and the player waits for them. -/
def patientRun : List Move :=
  [⟨.start true true, ⟨0, 0⟩⟩, ⟨.fail 0 (.playerApiFailure true (some 120000)), ⟨0, 0⟩⟩,
    ⟨.report 0 false, ⟨0, 0⟩⟩, ⟨.fire 1, ⟨120000, 0⟩⟩]

/-- The floor holds in a run that waits for it. -/
theorem a_patient_run_sends_at_the_floor :
    (after (create {}) patientRun).sights = [.sent 120000, .failed 120000, .sent 0] ∧
      (after (create {}) patientRun).runs.length ≤ 1 ∧
      KeepsFloor (after (create {}) patientRun).sights := by
  have steady : Steady {} patientRun := by
    unfold patientRun
    refine Along.cons ?_ (Along.cons ?_ (Along.cons ?_ (Along.cons ?_ Along.nil)))
    all_goals decide +kernel
  have calm : Along (fun s m => Hurries s m = false) (create {}) patientRun := by
    unfold patientRun
    refine Along.cons ?_ (Along.cons ?_ (Along.cons ?_ (Along.cons ?_ Along.nil)))
    all_goals decide +kernel
  obtain ⟨one, floor, _⟩ :=
    one_send_at_a_time_and_after_the_floor_unless_a_move_hurries {} patientRun steady
  exact ⟨by decide +kernel, one, floor calm⟩

end screengoblin.heartbeat
