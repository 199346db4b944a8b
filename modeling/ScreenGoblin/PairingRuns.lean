-- Whole runs of a pairing. The log has what was stored and what was sent, in order, and a run is
-- sound while the answers and the timers of the platform come in time.
import ScreenGoblin.PairingLaws

open jsvalues

namespace screengoblin.pairing

variable {config : Config}

/-! ## The log -/

/-- The record was stored. -/
def Known (log : List Entry) (r : Recovery) : Prop := ∃ since, Entry.persisted since r ∈ log

/-- What a stored record and a sent request promise, after the entries before them. -/
def EntryOk (config : Config) (before : List Entry) : Entry → Prop
  | .persisted time r => Durable config time r ∧
    ∀ approval last e, r.approval = some approval →
      timeOf config.platform approval "expiresAt" = some last → r.expiresAt = some e → e ≤ last
  | .requested time session body => Known before session.recovery ∧
    body = session.recovery.finalBody ∧ time ≤ session.pollingDeadline

def Sound (config : Config) (log : List Entry) : Prop :=
  ∀ before entry after, log = before ++ entry :: after → EntryOk config before entry

theorem sound_nil : Sound config [] := by
  intro before entry after split
  simp at split

theorem Sound.add {log : List Entry} {entry : Entry} (sound : Sound config log)
    (ok : EntryOk config log entry) : Sound config (log ++ [entry]) := by
  intro before x after split
  rcases List.eq_nil_or_concat after with rfl | ⟨rest, last, rfl⟩
  · obtain ⟨rfl, same⟩ := List.append_inj' split rfl
    cases same
    exact ok
  · have shape : log ++ [entry] = (before ++ x :: rest) ++ [last] := by
      rw [split]
      simp
    exact sound before x rest (List.append_inj' shape rfl).1

theorem Known.add {log : List Entry} {r : Recovery} (known : Known log r) (entry : Entry) :
    Known (log ++ [entry]) r := by
  obtain ⟨since, member⟩ := known
  exact ⟨since, List.mem_append_left _ member⟩

/-! ## The invariant -/

/-- The expiry of the stored claim is that of the server, unless the loop ends by it. -/
def Follows (config : Config) (stored : Option Recovery) (deadline : Int) : Prop :=
  ∀ r e, stored = some r → r.stage = .pending → r.expiresAt = some e →
    deadline ≤ e ∨ ∃ approval last, r.approval = some approval ∧
      timeOf config.platform approval "expiresAt" = some last ∧ e = min last deadline

structure SessionOk (config : Config) (clock : Int) (log : List Entry)
    (stored : Option Recovery) (session : Session) : Prop where
  isSealed : Sealed config.platform config.apiBaseUrl session.recovery
  known : Known log session.recovery
  deadline : session.pollingDeadline ≤ clock + DEFAULT_APPROVAL_MAX_WAIT_MS
  follows : Follows config stored session.pollingDeadline

/-- The record that `onPending` is given. -/
structure BoundedOk (config : Config) (clock : Int) (stored : Option Recovery) (session : Session)
    (bounded : Recovery) : Prop where
  durable : Durable config clock bounded
  expiry : ∃ approval last, bounded.approval = some approval ∧
    timeOf config.platform approval "expiresAt" = some last ∧
    bounded.expiresAt = some (min last session.pollingDeadline)
  shrinks : ∀ r e e', stored = some r → r.stage = .pending → r.expiresAt = some e →
    bounded.expiresAt = some e' → e' ≤ e

/-- The stored record is none or this one. -/
def Holds (stored : Option Recovery) (recovery : Recovery) : Prop :=
  ∀ r, stored = some r → r = recovery

/-- What is known while a call waits. -/
def PhaseOk (config : Config) (clock : Int) (log : List Entry) (stored : Option Recovery) :
    Phase → Prop
  | .idle => True
  | .identifying code _ => isSixDigits code = true
  | .challenging pairing => PairingValid pairing
  | .signing pairing challenge => PairingValid pairing ∧ ChallengeValid challenge
  | .preparing recovery written => recovery.stage = .prepared ∧ recovery.approval = none ∧
    Durable config clock recovery ∧ (written = true → Known log recovery ∧ Holds stored recovery)
  | .reidentifying recovery _ => Sealed config.platform config.apiBaseUrl recovery ∧
    recovery.stage ≠ .other ∧ Known log recovery ∧ Holds stored recovery ∧
    ∃ e, recovery.expiresAt = some e ∧ e ≤ clock + DEFAULT_APPROVAL_MAX_WAIT_MS
  | .requesting session => SessionOk config clock log stored session
  | .reporting session bounded _ => SessionOk config clock log stored session ∧
    BoundedOk config clock stored session bounded
  | .pausing session since milliseconds => SessionOk config clock log stored session ∧
    since + milliseconds ≤ session.pollingDeadline
  | .finished (.ok credentials) => ∃ r, Known log r ∧
    getString credentials.response "keyId" = some r.expectedKeyId ∧
    credentials.installationId = r.expectedKeyId
  | .finished (.error _) => True

structure Inv (config : Config) (s : State) : Prop where
  sound : Sound config s.log
  stored : ∀ r, s.stored = some r → Known s.log r
  phase : PhaseOk config s.clock s.log s.stored s.phase

theorem inv_start : Inv config {} := by
  refine ⟨sound_nil, ?_, trivial⟩
  intro r isStored
  cases isStored

theorem SessionOk.later {clock later : Int} {log : List Entry} {stored : Option Recovery}
    {session : Session} (ok : SessionOk config clock log stored session) (after : clock ≤ later) :
    SessionOk config later log stored session := by
  have deadline := ok.deadline
  exact ⟨ok.isSealed, ok.known, by omega, ok.follows⟩

theorem BoundedOk.later {clock later : Int} {stored : Option Recovery} {session : Session}
    {bounded : Recovery} (ok : BoundedOk config clock stored session bounded)
    (after : clock ≤ later) : BoundedOk config later stored session bounded :=
  ⟨ok.durable.later after, ok.expiry, ok.shrinks⟩

/-- The clock moves on. -/
theorem PhaseOk.later {clock later : Int} {log : List Entry} {stored : Option Recovery}
    {phase : Phase} (ok : PhaseOk config clock log stored phase) (after : clock ≤ later) :
    PhaseOk config later log stored phase := by
  cases phase with
  | preparing recovery written =>
    obtain ⟨prepared, none, durable, known⟩ := ok
    exact ⟨prepared, none, durable.later after, known⟩
  | reidentifying recovery body =>
    obtain ⟨isSealed, stage, known, holds, e, expiry, within⟩ := ok
    exact ⟨isSealed, stage, known, holds, e, expiry, by omega⟩
  | requesting session => exact SessionOk.later ok after
  | reporting session bounded written => exact ⟨ok.1.later after, ok.2.later after⟩
  | pausing session since milliseconds => exact ⟨ok.1.later after, ok.2⟩
  | finished result =>
    cases result with
    | ok credentials => exact ok
    | error thrown => trivial
  | _ => exact ok

/-- The stored record is removed. -/
theorem PhaseOk.discard {clock : Int} {log : List Entry} {stored : Option Recovery} {phase : Phase}
    (ok : PhaseOk config clock log stored phase) : PhaseOk config clock log none phase := by
  have session {session : Session} (ok : SessionOk config clock log stored session) :
      SessionOk config clock log none session :=
    ⟨ok.isSealed, ok.known, ok.deadline, fun _ _ isStored => by cases isStored⟩
  cases phase with
  | preparing recovery written =>
    obtain ⟨prepared, none, durable, known⟩ := ok
    exact ⟨prepared, none, durable, fun isWritten => ⟨(known isWritten).1, fun _ isStored => by
      cases isStored⟩⟩
  | reidentifying recovery body =>
    obtain ⟨isSealed, stage, known, -, expiry⟩ := ok
    exact ⟨isSealed, stage, known, fun _ isStored => (by cases isStored), expiry⟩
  | requesting session' => exact session ok
  | reporting session' bounded written =>
    exact ⟨session ok.1, ok.2.durable, ok.2.expiry, fun _ _ _ isStored => by cases isStored⟩
  | pausing session' since milliseconds => exact ⟨session ok.1, ok.2⟩
  | finished result =>
    cases result with
    | ok credentials => exact ok
    | error thrown => trivial
  | _ => exact ok

theorem Inv.later {s : State} (inv : Inv config s) {now : Int} (after : s.clock ≤ now) :
    Inv config { s with clock := now } :=
  ⟨inv.sound, inv.stored, inv.phase.later after⟩

/-! ## The parts of a step -/

/-- The invariant holds again, and the step has stored nothing. -/
structure Kept (config : Config) (s s' : State) : Prop where
  inv : Inv config s'
  stored : s'.stored = s.stored

section

variable {s : State} {session : Session}

theorem Inv.phased (inv : Inv config s) {phase : Phase}
    (ok : PhaseOk config s.clock s.log s.stored phase) : Kept config s { s with phase := phase } :=
  ⟨⟨inv.sound, inv.stored, ok⟩, rfl⟩

theorem Inv.fail (inv : Inv config s) (thrown : Thrown) : Kept config s (s.fail thrown) :=
  inv.phased trivial

theorem Inv.beginRequest (inv : Inv config s)
    (ok : SessionOk config s.clock s.log s.stored session)
    (timely : s.clock ≤ session.pollingDeadline) :
    Kept config s (beginRequest session s) := by
  unfold pairing.beginRequest
  split
  · exact inv.fail _
  · refine ⟨⟨inv.sound.add ⟨ok.known, rfl, timely⟩, ?_, ?_⟩, rfl⟩
    · intro r isStored
      exact (inv.stored r isStored).add _
    · exact ⟨ok.isSealed, ok.known.add _, ok.deadline, ok.follows⟩

theorem Inv.beginPause (inv : Inv config s) {milliseconds : Int}
    (ok : SessionOk config s.clock s.log s.stored session)
    (within : s.clock + milliseconds ≤ session.pollingDeadline) :
    Kept config s (beginPause session milliseconds s) := by
  unfold pairing.beginPause
  split
  · exact inv.fail _
  · exact inv.phased ⟨ok, within⟩

theorem Inv.resumePairing {recovery : Recovery} (inv : Inv config s)
    (known : Known s.log recovery) (holds : Holds s.stored recovery) :
    Kept config s (resumePairing config recovery s) := by
  unfold pairing.resumePairing
  split
  · exact inv.fail _
  · rename_i body valid
    obtain ⟨isSealed, stage, -, e, expiry, -, within⟩ := sealed_of_validate valid
    exact inv.phased ⟨isSealed, stage, known, holds, e, expiry, within⟩

/-- The loop begins with a deadline that is no later than that of a pending claim. -/
theorem Inv.reidentified {recovery : Recovery} {body : JsValue}
    {answer : Except Thrown (Option DeviceIdentity)} (inv : Inv config s)
    (ok : PhaseOk config s.clock s.log s.stored (.reidentifying recovery body))
    (wait : config.pairingApprovalMaxWaitMs ≤ DEFAULT_APPROVAL_MAX_WAIT_MS)
    (timely : recovery.stage = .pending → ∀ e, recovery.expiresAt = some e → s.clock ≤ e) :
    Kept config s (reidentified config recovery body answer s) := by
  obtain ⟨isSealed, stage, known, holds, e, expiry, within⟩ := ok
  have positive := config.wait_positive
  unfold pairing.reidentified
  dsimp only
  split
  · exact inv.fail _
  · exact inv.fail _
  split
  · exact inv.fail _
  cases isStage : recovery.stage with
  | other => exact absurd isStage stage
  | prepared =>
    have deadline : pollingDeadline config recovery s.clock =
        s.clock + config.pairingApprovalMaxWaitMs := if_pos isStage
    apply inv.beginRequest
    · refine ⟨isSealed, known, by dsimp only; omega, ?_⟩
      intro r e' isStored pending
      rw [holds r isStored, isStage] at pending
      cases pending
    · dsimp only
      omega
  | pending =>
    have early := timely isStage e expiry
    have deadline : pollingDeadline config recovery s.clock =
        min e (s.clock + config.pairingApprovalMaxWaitMs) := by
      unfold pollingDeadline
      rw [isStage, expiry]
      rfl
    apply inv.beginRequest
    · refine ⟨isSealed, known, by dsimp only; omega, ?_⟩
      intro r e' isStored _ expiry'
      rw [holds r isStored, expiry] at expiry'
      cases expiry'
      dsimp only
      left
      omega
    · dsimp only
      omega


/-- A response does not prolong the claim that is stored, or the loop ends by the stored expiry. -/
def fresh (config : Config) (stored : Option Recovery) (session : Session) (response : JsValue) :
    Bool :=
  match stored with
  | none => true
  | some r => r.stage != .pending || r.expiresAt.all (session.pollingDeadline ≤ ·) ||
    match r.approval.bind fun approval => timeOf config.platform approval "expiresAt",
      timeOf config.platform response "expiresAt" with
    | some last, some x => x ≤ last
    | _, _ => true

/-- A pending response makes a record that is durable, within the expiry of the server, and no
longer than the stored one. -/
theorem SessionOk.bounded {clock : Int} {log : List Entry} {stored : Option Recovery}
    {response : JsValue} {x : Int} (ok : SessionOk config clock log stored session)
    (isFresh : fresh config stored session response = true)
    (valid : validatePendingPairingResponse config.platform response
      session.recovery.expectedKeyId clock = .ok x) :
    BoundedOk config clock stored session (boundedRecovery session response x) := by
  have time := (getString_status_of_pending valid).2.1
  refine ⟨durable_bounded ok.isSealed ok.deadline valid, ⟨response, x, rfl, time, rfl⟩, ?_⟩
  intro r e e' isStored pending expiry expiry'
  have isMin : e' = min x session.pollingDeadline := (Option.some.inj expiry').symm
  rcases ok.follows r e isStored pending expiry with
    late | ⟨approval, last, isApproval, isLast, same⟩
  · omega
  unfold fresh at isFresh
  rw [isStored] at isFresh
  simp only [pending, bne_self_eq_false, Bool.false_or, expiry, Option.all_some, isApproval,
    Option.bind_some, isLast, time, Bool.or_eq_true, decide_eq_true_eq] at isFresh
  omega

theorem Inv.answered {answer : Except Thrown (Nat × JsValue)} (inv : Inv config s)
    (ok : SessionOk config s.clock s.log s.stored session)
    (isFresh : ∀ status response, answer = .ok (status, response) →
      fresh config s.stored session response = true) :
    Kept config s (answered config session answer s) := by
  unfold pairing.answered
  split
  · exact inv.fail _
  · split
    · exact inv.fail _
    dsimp only
    split
    · exact inv.fail _
    · apply inv.beginPause ok
      omega
  · rename_i status response
    split
    · split
      · exact inv.fail _
      split
      · exact inv.fail _
      · rename_i x valid
        exact inv.phased ⟨ok, ok.bounded (isFresh status response rfl) valid⟩
    split
    · exact inv.fail _
    split
    · exact inv.fail _
    · rename_i same valid
      obtain ⟨rfl, key⟩ := validatePairingResponse_key valid
      exact inv.phased ⟨session.recovery, ok.known, key, ok.isSealed.installation⟩

theorem Inv.reported {bounded : Recovery} (inv : Inv config s)
    (ok : SessionOk config s.clock s.log s.stored session)
    (isBounded : BoundedOk config s.clock s.stored session bounded) :
    Kept config s (reported config session bounded s) := by
  obtain ⟨approval, last, -, -, expiry⟩ := isBounded.expiry
  unfold pairing.reported
  dsimp only
  split
  · exact inv.fail _
  · apply inv.beginPause ok
    rw [expiry, Option.getD_some]
    omega

theorem Inv.identified {code installationId : JsString}
    {answer : Except Thrown (Option DeviceIdentity)} (inv : Inv config s)
    (six : isSixDigits code = true) :
    Kept config s (identified config code installationId answer s) := by
  unfold pairing.identified
  split
  · exact inv.fail _
  · exact inv.fail _
  rename_i identity valid
  obtain ⟨key, publicKey⟩ := getDeviceIdentity_valid valid
  split
  · exact inv.fail _
  rename_i same
  split
  · exact inv.fail _
  split
  · exact inv.fail _
  · exact inv.phased ⟨six, not_not.mp same, key, publicKey⟩

theorem Inv.challenged {request : Pairing} {answer : Except Thrown JsValue} (inv : Inv config s)
    (valid : PairingValid request) : Kept config s (challenged config request answer s) := by
  unfold pairing.challenged
  split
  · exact inv.fail _
  split
  · exact inv.fail _
  · rename_i challenge found
    exact inv.phased ⟨valid, validateChallenge_valid found⟩

theorem Inv.signed {request : Pairing} {challenge : Challenge} {answer : Except Thrown Signature}
    (inv : Inv config s) (valid : PairingValid request) (challenges : ChallengeValid challenge)
    (secure : secureApiBaseUrl config.platform (trim config.apiBaseUrl) = true)
    (wait : config.pairingApprovalMaxWaitMs ≤ DEFAULT_APPROVAL_MAX_WAIT_MS)
    (short : ∀ signature body, answer = .ok signature →
      finalBody config request challenge signature = .ok body → textLength body ≤ 16384) :
    Kept config s (signed config request challenge answer s) := by
  unfold pairing.signed
  split
  · exact inv.fail _
  rename_i signature signs
  split
  · exact inv.fail _
  rename_i body made
  have given := signDeviceChallenge_answer signs
  refine inv.phased ⟨rfl, rfl, ?_, fun written => by cases written⟩
  exact durable_prepared valid challenges (signDeviceChallenge_valid signs) made secure
    (short signature body given made) wait

end

/-! ## Steps -/

/-- A code has six digits, and a body is no longer than the check allows. The identity of a claim
that is pending is known before the claim expires, no pending response prolongs the claim, and a
pause ends by the deadline. -/
def allowed (config : Config) (s : State) (now : Int) : Event → Bool
  | .pair code _ => isSixDigits code
  | .signature (.ok signature) =>
    match s.phase with
    | .signing pairing challenge =>
      match finalBody config pairing challenge signature with
      | .ok body => textLength body ≤ 16384
      | .error _ => true
    | _ => true
  | .identity _ =>
    match s.phase with
    | .reidentifying recovery _ => recovery.stage != .pending || recovery.expiresAt.all (now ≤ ·)
    | _ => true
  | .response (.ok (_, response)) =>
    match s.phase with
    | .requesting session => fresh config s.stored session response
    | _ => true
  | .paused =>
    match s.phase with
    | .pausing session _ _ => now ≤ session.pollingDeadline
    | _ => true
  | _ => true

def allAllowed (config : Config) (s : State) : List (Int × Event) → Bool
  | [] => true
  | (now, event) :: rest => allowed config s now event &&
    (step config s now event).all fun s' => allAllowed config s' rest

/-- A claim that stays pending expires no later than before. -/
def Shrinks (stored stored' : Option Recovery) : Prop :=
  ∀ r r' e e', stored = some r → stored' = some r' → r.stage = .pending → r'.stage = .pending →
    r.expiresAt = some e → r'.expiresAt = some e' → e' ≤ e

theorem Shrinks.same (stored : Option Recovery) : Shrinks stored stored := by
  intro r r' e e' isStored isStored' _ _ expiry expiry'
  rw [isStored] at isStored'
  cases isStored'
  rw [expiry] at expiry'
  cases expiry'
  exact Int.le_refl _

theorem Kept.shrinks {s s' : State} (kept : Kept config s s') :
    Inv config s' ∧ Shrinks s.stored s'.stored := by
  refine ⟨kept.inv, ?_⟩
  rw [kept.stored]
  exact Shrinks.same _

/-- A record of the log is stored. -/
theorem Inv.persist {s : State} (inv : Inv config s) {recovery : Recovery} {phase : Phase}
    (ok : EntryOk config s.log (.persisted s.clock recovery))
    (phaseOk : PhaseOk config s.clock (s.log ++ [.persisted s.clock recovery]) (some recovery)
      phase) : Inv config { s.persist recovery with phase := phase } := by
  refine ⟨inv.sound.add ok, ?_, phaseOk⟩
  intro r isStored
  cases isStored
  exact ⟨s.clock, List.mem_append_right _ (List.mem_singleton_self _)⟩

/-- `onPending` stores the record that it was given. -/
theorem Inv.persistBounded {s : State} {session : Session} {bounded : Recovery} (inv : Inv config s)
    (ok : SessionOk config s.clock s.log s.stored session)
    (isBounded : BoundedOk config s.clock s.stored session bounded) :
    Inv config { s.persist bounded with phase := .reporting session bounded true } := by
  obtain ⟨approval, last, isApproval, isLast, expiry⟩ := isBounded.expiry
  refine inv.persist ⟨isBounded.durable, ?_⟩ ⟨?_, isBounded.durable, ⟨_, _, isApproval, isLast,
    expiry⟩, ?_⟩
  · intro approval' last' e isApproval' isLast' expiry'
    rw [isApproval] at isApproval'
    cases isApproval'
    rw [isLast] at isLast'
    cases isLast'
    rw [expiry] at expiry'
    cases expiry'
    exact min_le_left _ _
  · refine ⟨ok.isSealed, ok.known.add _, ok.deadline, ?_⟩
    intro r e isStored _ expiry'
    cases isStored
    rw [expiry] at expiry'
    cases expiry'
    exact .inr ⟨approval, last, isApproval, isLast, rfl⟩
  · exact fun r e e' isStored pending => Shrinks.same (some bounded) r bounded e e' isStored rfl
      pending (by cases isStored; exact pending)

theorem next_inv {s s' : State} {event : Event} (inv : Inv config s)
    (secure : secureApiBaseUrl config.platform (trim config.apiBaseUrl) = true)
    (wait : config.pairingApprovalMaxWaitMs ≤ DEFAULT_APPROVAL_MAX_WAIT_MS)
    (isAllowed : allowed config s s.clock event = true)
    (stepped : s.phase.next config s event = some s') :
    Inv config s' ∧ Shrinks s.stored s'.stored := by
  have ok := inv.phase
  generalize isPhase : s.phase = phase at ok stepped
  unfold Phase.next at stepped
  split at stepped <;> cases stepped
  · exact (inv.identified ok).shrinks
  · exact (inv.challenged ok).shrinks
  · refine (inv.signed ok.1 ok.2 secure wait ?_).shrinks
    intro signature body given made
    rw [given] at isAllowed
    simpa only [allowed, isPhase, made, decide_eq_true_eq] using isAllowed
  · obtain ⟨prepared, none, durable, -⟩ := ok
    rename_i recovery _
    refine ⟨inv.persist ⟨durable, ?_⟩ ⟨prepared, none, durable, fun _ => ⟨?_, ?_⟩⟩, ?_⟩
    · intro approval last e isApproval
      rw [none] at isApproval
      cases isApproval
    · exact ⟨_, List.mem_append_right _ (List.mem_singleton_self _)⟩
    · intro r isStored
      cases isStored
      rfl
    · intro r r' e e' _ isStored' _ pending
      cases isStored'
      rw [prepared] at pending
      cases pending
  · exact (inv.fail _).shrinks
  · obtain ⟨known, holds⟩ := ok.2.2.2 rfl
    exact (inv.resumePairing known holds).shrinks
  · refine (inv.reidentified ok wait ?_).shrinks
    intro pending e expiry
    simpa [allowed, isPhase, pending, expiry] using isAllowed
  · refine (inv.answered ok ?_).shrinks
    intro status response given
    rw [given] at isAllowed
    simpa only [allowed, isPhase] using isAllowed
  · refine ⟨inv.persistBounded ok.1 ok.2, ?_⟩
    intro r r' e e' isStored isStored' pending _ expiry expiry'
    cases isStored'
    exact ok.2.shrinks r e e' isStored pending expiry expiry'
  · exact (inv.fail _).shrinks
  · exact (inv.reported ok.1 ok.2).shrinks
  · refine (inv.beginRequest ok.1 ?_).shrinks
    simpa only [allowed, isPhase, decide_eq_true_eq] using isAllowed

theorem step_inv {s s' : State} {now : Int} {event : Event} (inv : Inv config s)
    (secure : secureApiBaseUrl config.platform (trim config.apiBaseUrl) = true)
    (wait : config.pairingApprovalMaxWaitMs ≤ DEFAULT_APPROVAL_MAX_WAIT_MS)
    (isAllowed : allowed config s now event = true) (stepped : step config s now event = some s') :
    Inv config s' ∧ Shrinks s.stored s'.stored := by
  unfold pairing.step at stepped
  split at stepped
  · cases stepped
  rename_i after
  have inv := inv.later (Int.not_lt.mp after)
  dsimp only at stepped
  split at stepped
  · split at stepped <;> cases stepped
    exact ⟨⟨inv.sound, inv.stored, isAllowed⟩, Shrinks.same _⟩
  · split at stepped
    · cases stepped
    rename_i recovery isStored
    split at stepped <;> cases stepped
    have started : Inv config { s with clock := now, aborted := false } :=
      ⟨inv.sound, inv.stored, inv.phase⟩
    refine (started.resumePairing (inv.stored recovery isStored) ?_).shrinks
    intro r isStored'
    rw [isStored] at isStored'
    cases isStored'
    rfl
  · split at stepped <;> cases stepped
    · exact ⟨⟨inv.sound, inv.stored, trivial⟩, Shrinks.same _⟩
    · exact ⟨⟨inv.sound, inv.stored, inv.phase⟩, Shrinks.same _⟩
  · cases stepped
    refine ⟨⟨inv.sound, ?_, inv.phase.discard⟩, ?_⟩
    · intro r isStored
      cases isStored
    · intro r r' e e' _ isStored'
      cases isStored'
  · cases stepped
    exact ⟨⟨inv.sound, inv.stored, trivial⟩, Shrinks.same _⟩
  · have isAllowed : allowed config { s with clock := now } now event = true := by
      cases event <;> exact isAllowed
    exact @next_inv config { s with clock := now } s' event inv secure wait isAllowed stepped

theorem run_inv {events : List (Int × Event)}
    (secure : secureApiBaseUrl config.platform (trim config.apiBaseUrl) = true)
    (wait : config.pairingApprovalMaxWaitMs ≤ DEFAULT_APPROVAL_MAX_WAIT_MS) :
    ∀ {s s' : State}, Inv config s → allAllowed config s events = true →
      run config s events = some s' → Inv config s' := by
  induction events with
  | nil =>
    intro s s' inv _ ran
    cases ran
    exact inv
  | cons first rest ih =>
    obtain ⟨now, event⟩ := first
    intro s s' inv areAllowed ran
    unfold run at ran
    unfold allAllowed at areAllowed
    rw [Bool.and_eq_true] at areAllowed
    obtain ⟨isAllowed, others⟩ := areAllowed
    cases stepped : pairing.step config s now event with
    | none =>
      rw [stepped] at ran
      cases ran
    | some next =>
      rw [stepped] at ran others
      exact ih (step_inv inv secure wait isAllowed stepped).1 others ran

/-! ## The end of the loop -/

/-- The deadline of a loop that goes on. -/
def Phase.deadline : Phase → Option Int
  | .requesting session | .reporting session _ _ | .pausing session _ _ =>
    some session.pollingDeadline
  | _ => none

/-- The answers that are left to a loop when its deadline is over. -/
def Phase.rank : Phase → Nat
  | .pausing _ _ _ => 3
  | .requesting _ => 2
  | .reporting _ _ _ => 1
  | _ => 0

def Event.answers : Event → Bool
  | .response _ | .paused | .called _ => true
  | _ => false

def Event.begins : Event → Bool
  | .pair _ _ | .resume => true
  | _ => false

/-- The loop is over, or it ends by this deadline. -/
def Ends (deadline : Int) : Phase → Prop
  | .idle | .finished _ => True
  | .requesting session | .pausing session _ _ => session.pollingDeadline ≤ deadline
  | .reporting session bounded _ => session.pollingDeadline ≤ deadline ∧
    bounded.expiresAt.getD 0 ≤ deadline
  | _ => False

theorem Inv.ends {s : State} {deadline : Int} (inv : Inv config s)
    (going : s.phase.deadline = some deadline) : Ends deadline s.phase := by
  have ok := inv.phase
  cases isPhase : s.phase with
  | requesting session =>
    rw [isPhase] at going
    cases going
    exact Int.le_refl _
  | pausing session since milliseconds =>
    rw [isPhase] at going
    cases going
    exact Int.le_refl _
  | reporting session bounded written =>
    rw [isPhase] at going ok
    cases going
    obtain ⟨approval, last, -, -, expiry⟩ := ok.2.expiry
    refine ⟨Int.le_refl _, ?_⟩
    rw [expiry]
    exact min_le_right _ _
  | _ =>
    rw [isPhase] at going
    cases going

theorem answered_late {session : Session} {answer : Except Thrown (Nat × JsValue)} {s : State}
    {deadline : Int} (ends : session.pollingDeadline ≤ deadline) (late : deadline ≤ s.clock) :
    Ends deadline (answered config session answer s).phase ∧
      (answered config session answer s).phase.rank ≤ 1 := by
  unfold answered
  split
  · exact ⟨trivial, Nat.zero_le _⟩
  · split
    · exact ⟨trivial, Nat.zero_le _⟩
    dsimp only
    rw [if_pos (by omega)]
    exact ⟨trivial, Nat.zero_le _⟩
  · split
    · split
      · exact ⟨trivial, Nat.zero_le _⟩
      split
      · exact ⟨trivial, Nat.zero_le _⟩
      · refine ⟨⟨ends, ?_⟩, Nat.le_refl _⟩
        show min _ session.pollingDeadline ≤ deadline
        omega
    split
    · exact ⟨trivial, Nat.zero_le _⟩
    split
    · exact ⟨trivial, Nat.zero_le _⟩
    · exact ⟨trivial, Nat.zero_le _⟩

/-- A step after the deadline uses up an answer, or is none. -/
theorem step_late {s s' : State} {now deadline : Int} {event : Event}
    (ends : Ends deadline s.phase) (late : deadline ≤ now) (goesOn : event.begins = false)
    (stepped : step config s now event = some s') :
    Ends deadline s'.phase ∧ s'.phase.rank + (if event.answers then 1 else 0) ≤ s.phase.rank := by
  unfold pairing.step at stepped
  split at stepped
  · cases stepped
  dsimp only at stepped
  split at stepped
  · cases goesOn
  · cases goesOn
  · split at stepped <;> cases stepped
    · exact ⟨trivial, Nat.zero_le _⟩
    · exact ⟨ends, Nat.le_refl _⟩
  · cases stepped
    exact ⟨ends, Nat.le_refl _⟩
  · cases stepped
    exact ⟨trivial, Nat.zero_le _⟩
  · generalize s.phase = phase at ends stepped
    unfold Phase.next at stepped
    split at stepped <;> cases stepped
    · exact ends.elim
    · exact ends.elim
    · exact ends.elim
    · exact ends.elim
    · exact ends.elim
    · exact ends.elim
    · exact ends.elim
    · refine ⟨(answered_late (s := { s with clock := now }) ends late).1, Nat.succ_le_succ ?_⟩
      exact (answered_late (s := { s with clock := now }) ends late).2
    · exact ⟨ends, Nat.le_refl _⟩
    · exact ⟨trivial, Nat.le_refl _⟩
    · unfold reported
      dsimp only
      rw [if_pos (by have := ends.2; omega)]
      exact ⟨trivial, Nat.le_refl _⟩
    · unfold beginRequest
      dsimp only
      split
      · exact ⟨trivial, Nat.le_succ_of_le (Nat.le_succ 1)⟩
      · exact ⟨ends, Nat.le_refl _⟩

/-- After the deadline no more answers are taken than are left. -/
theorem run_late {deadline : Int} {events : List (Int × Event)} :
    ∀ {s s' : State}, Ends deadline s.phase →
      (∀ e ∈ events, deadline ≤ e.1 ∧ e.2.begins = false) → run config s events = some s' →
      (events.filter fun e => e.2.answers).length ≤ s.phase.rank := by
  induction events with
  | nil =>
    intro s s' _ _ _
    exact Nat.zero_le _
  | cons first rest ih =>
    obtain ⟨now, event⟩ := first
    intro s s' ends late ran
    unfold run at ran
    cases stepped : pairing.step config s now event with
    | none =>
      rw [stepped] at ran
      cases ran
    | some next =>
      rw [stepped] at ran
      obtain ⟨isLate, goesOn⟩ := late _ List.mem_cons_self
      obtain ⟨ends', rank⟩ := step_late ends isLate goesOn stepped
      have others := ih ends' (fun e member => late e (List.mem_cons_of_mem _ member)) ran
      rw [List.filter_cons]
      split
      · rename_i answers
        rw [if_pos answers] at rank
        rw [List.length_cons]
        omega
      · omega

theorem rank_le (phase : Phase) : phase.rank ≤ 3 := by
  unfold Phase.rank
  split <;> omega

/-- While the answers and the timers come in time, each stored record is accepted until it expires,
each request sends the final body of a stored record and starts by the deadline, an expiry is no
later than that of the server and never grows, and the credentials are those of the expected key.
A pause is due by the deadline, and after it the loop takes three more answers at most. -/
theorem recovery_is_sound_while_the_answers_come_in_time (config : Config)
    (events : List (Int × Event)) (s : State)
    (secure : secureApiBaseUrl config.platform (trim config.apiBaseUrl) = true)
    (wait : config.pairingApprovalMaxWaitMs ≤ DEFAULT_APPROVAL_MAX_WAIT_MS)
    (areAllowed : allAllowed config {} events = true) (ran : run config {} events = some s) :
    Sound config s.log ∧
      (∀ credentials, s.phase = .finished (.ok credentials) → ∃ r, Known s.log r ∧
        getString credentials.response "keyId" = some r.expectedKeyId ∧
        credentials.installationId = r.expectedKeyId) ∧
      (∀ now event s', allowed config s now event = true → step config s now event = some s' →
        Shrinks s.stored s'.stored) ∧
      ∀ deadline, s.phase.deadline = some deadline →
        (∀ session since milliseconds, s.phase = .pausing session since milliseconds →
          since + milliseconds ≤ deadline) ∧
        ∀ later s', (∀ e ∈ later, deadline ≤ e.1 ∧ e.2.begins = false) →
          run config s later = some s' → (later.filter fun e => e.2.answers).length ≤ 3 := by
  have inv := run_inv secure wait inv_start areAllowed ran
  have ok := inv.phase
  refine ⟨inv.sound, ?_, ?_, ?_⟩
  · intro credentials isPhase
    rw [isPhase] at ok
    exact ok
  · intro now event s' isAllowed stepped
    exact (step_inv inv secure wait isAllowed stepped).2
  · intro deadline going
    refine ⟨?_, ?_⟩
    · intro session since milliseconds isPhase
      rw [isPhase] at ok going
      cases going
      exact ok.2
    · intro later s' late ran'
      exact Nat.le_trans (run_late (inv.ends going) late ran') (rank_le _)

/-! ## A television -/

def publicKey : List UInt8 :=
  [48, 89, 48, 19, 6, 7, 42, 134, 72, 206, 61, 2, 1, 6, 8, 42, 134, 72, 206, 61, 3, 1, 7, 3, 66, 0,
    4, 124, 187, 243, 224, 141, 62, 7, 183, 253, 253, 187, 71, 50, 57, 19, 76, 196, 50, 232, 250,
    202, 90, 137, 174, 165, 243, 226, 169, 0, 251, 139, 198, 229, 85, 118, 162, 252, 208, 133, 8,
    166, 187, 164, 77, 70, 224, 92, 208, 230, 232, 147, 173, 74, 38, 146, 16, 51, 180, 174, 180, 45,
    145, 45, 179]

/-- The SHA-256 digest of the key. -/
def fingerprint : List UInt8 :=
  [242, 74, 54, 230, 231, 14, 79, 248, 177, 237, 138, 115, 174, 117, 62, 138, 192, 244, 139, 107,
    143, 25, 4, 134, 14, 18, 4, 3, 164, 137, 158, 255]

def base64 (bytes : List UInt8) : JsString := units (base64url.encode bytes)

def tv : DeviceIdentity where
  algorithm := jsString "ES256"
  keyId := base64 fingerprint
  publicKeySpki := base64 publicKey
  securityLevel := jsString "strongbox"

def home : Config where
  platform := {
    parseUrl := fun text =>
      if text = jsString "https://signs.example" then
        some ⟨"https:", "signs.example", "", "", "", ""⟩
      else none
    instantOf := fun text =>
      if text = jsString "1970-01-01T00:01:00.000Z" then some 60000
      else if text = jsString "1970-01-01T00:02:00.000Z" then some 120000
      else none
    sha256 := fun bytes => if bytes = publicKey then fingerprint else []
    numbers := bodies.integerTexts }
  apiBaseUrl := jsString "https://signs.example"
  userAgent := jsString "Mozilla/5.0"
  playerVersion := jsString "1.0.0"
  poll_positive := by decide
  wait_positive := by decide

def offer : JsValue :=
  stringObject [("id", base64 (List.replicate 32 1)), ("challenge", base64 (List.replicate 32 2)),
    ("expiresAt", jsString "1970-01-01T00:01:00.000Z")]

def proof : Signature where
  signature := base64 (List.replicate 70 3)
  signatureFormat := jsString "ES256-DER"
  keyId := tv.keyId

/-- The first request of a new pairing is sent. -/
def begun : List (Int × Event) :=
  [(0, .pair (jsString "123456") tv.keyId), (10, .identity (.ok (some tv))),
    (20, .challenge (.ok offer)), (30, .signature (.ok proof)), (40, .write),
    (40, .called (.ok ())), (50, .identity (.ok (some tv)))]

def pending (expiresAt : String) : JsValue :=
  stringObject [("status", jsString "pending-approval"), ("grantId", jsString "grant-1"),
    ("candidateId", jsString "candidate-1"), ("keyId", tv.keyId), ("fingerprint", tv.keyId),
    ("expiresAt", jsString expiresAt)]

/-- The claim is pending, and the record is stored. -/
def waiting : List (Int × Event) :=
  begun ++ [(100, .response (.ok (202, pending "1970-01-01T00:01:00.000Z"))), (110, .write),
    (110, .called (.ok ()))]

def active : JsValue :=
  .object true [(jsString "authMode", .string (jsString "proof-v1")),
    (jsString "screenId", .string (jsString "screen-1")),
    (jsString "credentialId", .string (jsString "credential-1")),
    (jsString "keyId", .string tv.keyId),
    (jsString "apiBaseUrl", .string (jsString "https://signs.example")),
    (jsString "heartbeatIntervalSeconds", .number (.finite 30)),
    (jsString "manifestVerificationKey", .string (base64 (List.replicate 32 4)))] false

def activated : List (Int × Event) :=
  waiting ++ [(15110, .paused), (15200, .response (.ok (201, active)))]

theorem activated_allowed :
    (run home {} activated).any (fun s => s.stored.isSome && s.phase.free) = true ∧
      allAllowed home {} activated = true ∧
      secureApiBaseUrl home.platform (trim home.apiBaseUrl) = true := by
  decide +kernel

theorem a_pairing_is_activated_soundly :
    ∃ s, run home {} activated = some s ∧ Sound home s.log := by
  obtain ⟨runs, isAllowed, secure⟩ := activated_allowed
  rw [Option.any_eq_true] at runs
  obtain ⟨s, ran, -⟩ := runs
  exact ⟨s, ran, (recovery_is_sound_while_the_answers_come_in_time home activated s secure
    (Int.le_refl _) isAllowed ran).1⟩

def busy : Failure where
  message := "Player API returned HTTP 429"
  kind := .http
  retryable := true
  status := some 429
  retryAfterMs := some 3600000

/-- The server asks for an hour, and the timer that is due at the deadline fires three milliseconds
late. -/
def lateTimer : List (Int × Event) :=
  begun ++ [(100, .response (.error (.failure busy))), (600053, .paused)]

def late : Entry → Bool
  | .requested time session _ => session.pollingDeadline < time
  | _ => false

/-- The server prolongs the claim while it is pending. -/
def prolonged : List (Int × Event) :=
  waiting ++ [(15110, .paused),
    (15200, .response (.ok (202, pending "1970-01-01T00:02:00.000Z")))]

def pendingExpiry (s : State) : Option Int :=
  (s.stored.filter fun r => r.stage == .pending).bind Recovery.expiresAt

theorem late_and_prolonged :
    (run home {} lateTimer).any (fun s => s.log.any late) = true ∧
      (run home {} prolonged).map pendingExpiry = some (some 60000) ∧
      (run home {} (prolonged ++ [(15210, .write)])).map pendingExpiry = some (some 120000) := by
  decide +kernel

/-- A request starts after the deadline, and a claim that is pending expires later than before. -/
theorem a_request_starts_late_and_a_claim_is_prolonged :
    (∃ s time session body, run home {} lateTimer = some s ∧
      Entry.requested time session body ∈ s.log ∧ session.pollingDeadline < time) ∧
    ∃ s s', run home {} prolonged = some s ∧
      run home {} (prolonged ++ [(15210, .write)]) = some s' ∧
      pendingExpiry s = some 60000 ∧ pendingExpiry s' = some 120000 := by
  obtain ⟨isLate, first, second⟩ := late_and_prolonged
  refine ⟨?_, ?_⟩
  · rw [Option.any_eq_true] at isLate
    obtain ⟨s, ran, found⟩ := isLate
    rw [List.any_eq_true] at found
    obtain ⟨entry, member, after⟩ := found
    cases entry with
    | persisted time recovery => cases after
    | requested time session body =>
      exact ⟨s, time, session, body, ran, member, by simpa [late] using after⟩
  · rw [Option.map_eq_some_iff] at first second
    obtain ⟨s, ran, expiry⟩ := first
    obtain ⟨s', ran', expiry'⟩ := second
    exact ⟨s, s', ran, ran', expiry, expiry'⟩

end screengoblin.pairing
