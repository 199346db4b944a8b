-- The laws of the device command journal, for every history of a device: any operations on any
-- keys, any outcome of each commit, and any number of starts of the process.
import Mathlib
import ScreenGoblin.CommandJournal

open scripts Script histories

namespace screengoblin.journal

/-! ## Stored snapshots -/

/-- What a stored command keeps. -/
structure Snapshot.Valid (s : Snapshot) : Prop where
  generation : 0 ≤ s.credentialGeneration ∧ s.credentialGeneration ≤ maxSafeInteger
  sequence : 0 ≤ s.highestSequence ∧ s.highestSequence ≤ maxSafeInteger
  commandId : isCanonicalUuid s.commandId = true
  action : SUPPORTED_ACTIONS.contains s.action = true
  lifecycle : isCanonicalUuid s.acceptedRendererLifecycleId = true
  ack : s.pendingTerminalAck = true → s.state.isTerminal = true
  restart : s.restartRequired = (s.state == .RESTART_REQUIRED)
  actionState : Snapshot.actionStateValid s.action s.state = true

theorem requireNumber_ok {value : Int} {name : String} :
    requireNumber value name = .ok () ↔ 0 ≤ value ∧ value ≤ maxSafeInteger := by
  unfold requireNumber
  split
  · rename_i outside
    constructor
    · intro ok
      cases ok
    · rintro ⟨low, high⟩
      omega
  · rename_i inside
    refine ⟨fun _ => ?_, fun _ => rfl⟩
    omega

theorem canonicalUuid_ok {value : Option String} {name text : String} :
    canonicalUuid value name = .ok text ↔ value = some text ∧ isCanonicalUuid text = true := by
  unfold canonicalUuid
  cases value with
  | none => simp
  | some v =>
    simp only
    split
    · rename_i canonical
      simp only [Except.ok.injEq, Option.some.injEq]
      constructor
      · rintro rfl
        exact ⟨rfl, canonical⟩
      · rintro ⟨same, _⟩
        exact same
    · rename_i other
      simp only [reduceCtorEq, Option.some.injEq, false_iff, not_and]
      rintro rfl
      exact other

theorem supportedAction_ok {value : Option String} {action : String} :
    supportedAction value = .ok action ↔
      value = some action ∧ SUPPORTED_ACTIONS.contains action = true := by
  unfold supportedAction
  cases value with
  | none => simp
  | some v =>
    simp only
    split
    · rename_i supported
      simp only [Except.ok.injEq, Option.some.injEq]
      constructor
      · rintro rfl
        exact ⟨rfl, supported⟩
      · rintro ⟨same, _⟩
        exact same
    · rename_i other
      simp only [reduceCtorEq, Option.some.injEq, false_iff, not_and]
      rintro rfl
      exact other

/-- A number that `toString` wrote reads back. -/
theorem parseLong_toString {n : Int} (low : 0 ≤ n) (high : n ≤ maxSafeInteger) :
    parseLong (toString n) = some n := by
  obtain ⟨k, rfl⟩ := Int.eq_ofNat_of_zero_le low
  have chars : (toString (k : Int)).toList = Nat.toDigits 10 k := by
    show (Int.repr (k : Int)).toList = _
    exact Nat.toList_repr
  have digits : ∀ c ∈ Nat.toDigits 10 k, c.isDigit = true := by
    intro c hc
    exact Nat.isDigit_of_mem_toDigits (by decide) (by decide) hc
  have some_digit : (Nat.toDigits 10 k).isEmpty = false := by
    have := Nat.length_toDigits_pos (b := 10) (n := k)
    cases shape : Nat.toDigits 10 k with
    | nil =>
      rw [shape] at this
      cases this
    | cons c cs => rfl
  have parsed : parseDigits (Nat.toDigits 10 k) = some (k : Int) := by
    unfold parseDigits
    rw [some_digit, List.all_eq_true.mpr digits, Nat.ofDigitChars_ten_toDigits]
    rfl
  have unsigned : parseSigned (Nat.toDigits 10 k) = some (k : Int) := by
    unfold parseSigned
    split
    · rename_i rest shape
      have := digits '-' (by rw [shape]; exact List.mem_cons_self)
      cases this
    · rename_i rest shape
      have := digits '+' (by rw [shape]; exact List.mem_cons_self)
      cases this
    · exact parsed
  unfold parseLong
  rw [chars, unsigned]
  unfold maxSafeInteger at high
  simp only [Option.filter_some, Bool.and_eq_true, decide_eq_true_eq, ite_eq_left_iff]
  omega

theorem parseStoredNumber_toString {n : Int} (low : 0 ≤ n) (high : n ≤ maxSafeInteger) :
    parseStoredNumber (some (toString n)) = .ok n := by
  have checked : requireNumber n "number" = .ok () := requireNumber_ok.mpr ⟨low, high⟩
  simp only [parseStoredNumber, parseLong_toString low high, checked, if_true]

theorem parseStoredNumber_ok {value : Option String} {n : Int}
    (ok : parseStoredNumber value = .ok n) : 0 ≤ n ∧ n ≤ maxSafeInteger := by
  unfold parseStoredNumber at ok
  split at ok
  · cases ok
  · split at ok
    · cases ok
    · rename_i number _
      split at ok
      · cases ok
      · rename_i checked
        split at ok
        · cases ok
          exact requireNumber_ok.mp checked
        · cases ok

theorem parseStoredUuid_ok {value : Option String} {text : String} :
    parseStoredUuid value = .ok text ↔ value = some text ∧ isCanonicalUuid text = true := by
  rw [← @canonicalUuid_ok value "stored UUID"]
  unfold parseStoredUuid
  split
  · rename_i same
    rw [same]
  · rename_i same
    rw [same]
    simp

theorem parseStoredAction_ok {value : Option String} {action : String} :
    parseStoredAction value = .ok action ↔
      value = some action ∧ SUPPORTED_ACTIONS.contains action = true := by
  rw [← supportedAction_ok]
  unfold parseStoredAction
  split
  · rename_i same
    rw [same]
  · rename_i same
    rw [same]
    simp

theorem valueOf_name (state : CommandState) :
    CommandState.valueOf (some state.name) = .ok state := by
  cases state <;> rfl

theorem parseBoolean_toString (b : Bool) : parseBoolean (some (toString b)) = .ok b := by
  cases b <;> rfl

/-- What the journal stores, it reads back. -/
theorem parse_encode {s : Snapshot} (valid : s.Valid) : Snapshot.parse s.encode = .ok (some s) := by
  have keys : hasStateKeys s.encode = true := rfl
  have fields : s.encode.isEmpty = false ∧
      s.encode.lookup "schemaVersion" = some (toString schemaVersion) ∧
      s.encode.lookup "credentialGeneration" = some (toString s.credentialGeneration) ∧
      s.encode.lookup "highestSequence" = some (toString s.highestSequence) ∧
      s.encode.lookup "commandId" = some s.commandId ∧
      s.encode.lookup "action" = some s.action ∧
      s.encode.lookup "acceptedRendererLifecycleId" = some s.acceptedRendererLifecycleId ∧
      s.encode.lookup "state" = some s.state.name ∧
      s.encode.lookup "pendingTerminalAck" = some (toString s.pendingTerminalAck) ∧
      s.encode.lookup "restartRequired" = some (toString s.restartRequired) :=
    ⟨rfl, rfl, rfl, rfl, rfl, rfl, rfl, rfl, rfl, rfl⟩
  obtain ⟨stored, version, generation, sequence, commandId, action, lifecycle, state, ack,
    restart⟩ := fields
  unfold Snapshot.parse
  rw [stored, keys, version, generation, sequence, commandId, action, lifecycle, state, ack,
    restart, parseStoredNumber_toString valid.generation.1 valid.generation.2,
    parseStoredNumber_toString valid.sequence.1 valid.sequence.2,
    parseStoredUuid_ok.mpr ⟨rfl, valid.commandId⟩,
    parseStoredAction_ok.mpr ⟨rfl, valid.action⟩,
    parseStoredUuid_ok.mpr ⟨rfl, valid.lifecycle⟩, valueOf_name, parseBoolean_toString,
    parseBoolean_toString]
  have flags : ((s.pendingTerminalAck && !s.state.isTerminal) ||
      s.restartRequired != (s.state == .RESTART_REQUIRED) ||
      !Snapshot.actionStateValid s.action s.state) = false := by
    rw [valid.restart, valid.actionState]
    have := valid.ack
    cases pending : s.pendingTerminalAck
    · simp
    · simp [this pending]
  simp only [Bool.not_true, Bool.false_eq_true, if_false, ne_eq, not_true_eq_false]
  show (if _ then _ else _) = _
  rw [flags]
  rfl

theorem bind_ok {α β : Type} {x : Except Failure α} {f : α → Except Failure β} {b : β}
    (ok : (x >>= f) = .ok b) : ∃ a, x = .ok a ∧ f a = .ok b := by
  cases x with
  | error failure => cases ok
  | ok a => exact ⟨a, rfl, ok⟩

/-- Only a valid command reads back. -/
theorem parse_valid {values : Values} {s : Snapshot}
    (parsed : Snapshot.parse values = .ok (some s)) : s.Valid := by
  unfold Snapshot.parse at parsed
  split at parsed
  · cases parsed
  · split at parsed
    · cases parsed
    · split at parsed
      · cases parsed
      · obtain ⟨generation, hgeneration, parsed⟩ := bind_ok parsed
        obtain ⟨sequence, hsequence, parsed⟩ := bind_ok parsed
        obtain ⟨commandId, hcommandId, parsed⟩ := bind_ok parsed
        obtain ⟨action, haction, parsed⟩ := bind_ok parsed
        obtain ⟨lifecycle, hlifecycle, parsed⟩ := bind_ok parsed
        obtain ⟨state, hstate, parsed⟩ := bind_ok parsed
        obtain ⟨ack, hack, parsed⟩ := bind_ok parsed
        obtain ⟨restart, hrestart, parsed⟩ := bind_ok parsed
        simp only at parsed
        split at parsed
        · cases parsed
        · rename_i fine
          cases parsed
          simp only [Bool.or_eq_true, Bool.and_eq_true, Bool.not_eq_true', bne_iff_ne, ne_eq,
            not_or, not_and, Bool.not_eq_false, Decidable.not_not] at fine
          exact {
            generation := parseStoredNumber_ok hgeneration
            sequence := parseStoredNumber_ok hsequence
            commandId := (parseStoredUuid_ok.mp hcommandId).2
            action := (parseStoredAction_ok.mp haction).2
            lifecycle := (parseStoredUuid_ok.mp hlifecycle).2
            ack := fine.1.1
            restart := fine.1.2
            actionState := fine.2 }

/-! ## What one operation does -/

/-- The commands that an operation may store in place of the durable one. -/
inductive Transition : Request → Option Snapshot → Snapshot → Prop
  | accepted {generation sequence : Int} {commandId action lifecycle : String}
      {current : Option Snapshot}
      (valid : (acceptedSnapshot generation sequence commandId action lifecycle).Valid)
      (admitted : ∀ c, current = some c →
        admission c generation sequence commandId action = .ok false) :
      Transition
        (.accept generation sequence (some commandId) (some action) (some lifecycle)) current
        (acceptedSnapshot generation sequence commandId action lifecycle)
  | refreshed {sequence : Int} {commandId : Option String} {succeeded : Bool} {current : Snapshot}
      (valid : current.Valid) (refresh : current.action = REFRESH_CONTENT)
      (pending : current.state = .REFRESH_REQUIRED) :
      Transition (.completeRefresh sequence commandId succeeded) (some current)
        (terminal current succeeded)
  | restarted {sequence : Int} {commandId : Option String} {lifecycle : String}
      {current : Snapshot} (valid : current.Valid) (restart : current.action = RESTART_RENDERER)
      (pending : current.state = .RESTART_REQUIRED)
      (different : lifecycle ≠ current.acceptedRendererLifecycleId) :
      Transition (.confirmRendererRestarted sequence commandId (some lifecycle)) (some current)
        (terminal current true)
  | delivered {sequence : Int} {commandId : Option String} {current : Snapshot}
      (valid : current.Valid) (pending : current.pendingTerminalAck = true)
      (ended : current.state.isTerminal = true) :
      Transition (.markAcknowledgementDelivered sequence commandId) (some current)
        (delivered current)

/-- What an operation can do to a device, and what it answers. -/
inductive Performs (p : Persistence) (d : Device) :
    Request → Except Failure (Option Result) → Device → Prop
  | stopped {request : Request} {failure : Failure} : Performs p d request (.error failure) d
  | repeated {generation sequence : Int} {commandId action lifecycle : Option String}
      {current : Snapshot} (certain : p.storageKey ∉ d.uncertainStorageKeys) :
      Performs p d (.accept generation sequence commandId action lifecycle)
        (.ok (some (Result.new current true))) d
  | noted {result : Option Result} (certain : p.storageKey ∉ d.uncertainStorageKeys) :
      Performs p d .pendingAcknowledgement (.ok result) d
  | stored {request : Request} {current : Option Snapshot} {next : Snapshot}
      (certain : p.storageKey ∉ d.uncertainStorageKeys)
      (parsed : Snapshot.parse (d.values p.storageKey) = .ok current)
      (allowed : Transition request current next) (sure : p.replace = .done) :
      Performs p d request (.ok (some (Result.new next false))) (d.replaced p next.encode)
  | unsure {request : Request} {current : Option Snapshot} {next : Snapshot} {failure : Failure}
      (certain : p.storageKey ∉ d.uncertainStorageKeys)
      (parsed : Snapshot.parse (d.values p.storageKey) = .ok current)
      (allowed : Transition request current next) (notSure : p.replace ≠ .done) :
      Performs p d request (.error failure) (d.replaced p next.encode)

variable {p : Persistence} {d : Device}

theorem load_gives :
    Gives (fun current d' => d' = d ∧ p.storageKey ∉ d.uncertainStorageKeys ∧
      Snapshot.parse (d.values p.storageKey) = .ok current) (fun _ d' => d' = d) (load p) d := by
  unfold load
  rw [gives_bind, gives_look, gives_bind, gives_ensure]
  refine ⟨?_, fun _ => rfl⟩
  intro certain
  rw [Bool.not_eq_true', List.contains_eq_mem, decide_eq_false_iff_not] at certain
  cases p.read with
  | thrown failure => exact gives_stop.mpr rfl
  | null => exact gives_stop.mpr rfl
  | values =>
    simp only [gives_bind, gives_look]
    rw [gives_lift]
    exact ⟨fun current parsed => ⟨rfl, certain, parsed⟩, fun _ _ => rfl⟩

theorem required_gives :
    Gives (fun current d' => d' = d ∧ p.storageKey ∉ d.uncertainStorageKeys ∧
      Snapshot.parse (d.values p.storageKey) = .ok (some current)) (fun _ d' => d' = d)
      (required p) d := by
  unfold required
  rw [gives_bind]
  refine load_gives.imp ?_ fun _ _ same => same
  rintro current d' ⟨rfl, certain, parsed⟩
  cases current with
  | none => exact gives_stop.mpr rfl
  | some current => exact gives_pure.mpr ⟨rfl, certain, parsed⟩

/-- A stored command ends an operation: the rest of each proof is the way to it. -/
theorem persist_gives {request : Request} {current : Option Snapshot} {next : Snapshot}
    (certain : p.storageKey ∉ d.uncertainStorageKeys)
    (parsed : Snapshot.parse (d.values p.storageKey) = .ok current)
    (allowed : Transition request current next) :
    Gives (fun result d' => Performs p d request (.ok (some result)) d')
      (fun failure d' => Performs p d request (.error failure) d')
      (persist p next >>= fun _ => pure (Result.new next false)) d := by
  unfold persist
  simp only [gives_bind, gives_change, gives_ensure, gives_pure, decide_eq_true_eq,
    decide_eq_false_iff_not]
  refine ⟨?_, ?_⟩
  · intro sure
    exact .stored certain parsed allowed sure
  · intro notSure
    exact .unsure certain parsed allowed notSure

theorem accept_gives (generation sequence : Int) (commandId action lifecycle : Option String) :
    Gives (fun result d' =>
        Performs p d (.accept generation sequence commandId action lifecycle)
          (.ok (some result)) d')
      (fun failure d' =>
        Performs p d (.accept generation sequence commandId action lifecycle) (.error failure) d')
      (accept p generation sequence commandId action lifecycle) d := by
  unfold accept
  simp only [gives_bind, gives_lift]
  refine ⟨?_, fun _ _ => .stopped⟩
  rintro ⟨⟩ hgeneration
  refine ⟨?_, fun _ _ => .stopped⟩
  rintro ⟨⟩ hsequence
  refine ⟨?_, fun _ _ => .stopped⟩
  intro id hid
  refine ⟨?_, fun _ _ => .stopped⟩
  intro act hact
  refine ⟨?_, fun _ _ => .stopped⟩
  intro cycle hcycle
  obtain ⟨rfl, canonical⟩ := canonicalUuid_ok.mp hid
  obtain ⟨rfl, supported⟩ := supportedAction_ok.mp hact
  obtain ⟨rfl, canonical'⟩ := canonicalUuid_ok.mp hcycle
  have valid : (acceptedSnapshot generation sequence id act cycle).Valid := by
    refine ⟨requireNumber_ok.mp hgeneration, requireNumber_ok.mp hsequence, canonical, supported,
      canonical', ?_, rfl, ?_⟩
    · intro pending
      cases pending
    · unfold SUPPORTED_ACTIONS at supported
      simp only [List.contains_cons, List.contains_nil, Bool.or_false, Bool.or_eq_true,
        beq_iff_eq] at supported
      rcases supported with rfl | rfl <;> rfl
  refine load_gives.imp ?_ ?_
  · rintro current d' ⟨rfl, certain, parsed⟩
    cases current with
    | none =>
      refine persist_gives certain parsed (.accepted valid ?_)
      intro c none
      cases none
    | some current =>
      simp only [gives_bind, gives_lift]
      refine ⟨?_, fun _ _ => .stopped⟩
      intro duplicate admitted
      cases duplicate with
      | true => exact gives_pure.mpr (.repeated certain)
      | false =>
        refine persist_gives certain parsed (.accepted valid ?_)
        rintro c ⟨⟩
        exact admitted
  · rintro failure d' rfl
    exact .stopped

theorem completeRefresh_gives (sequence : Int) (commandId : Option String) (succeeded : Bool) :
    Gives (fun result d' =>
        Performs p d (.completeRefresh sequence commandId succeeded) (.ok (some result)) d')
      (fun failure d' =>
        Performs p d (.completeRefresh sequence commandId succeeded) (.error failure) d')
      (completeRefresh p sequence commandId succeeded) d := by
  unfold completeRefresh
  rw [gives_bind]
  refine required_gives.imp ?_ ?_
  · rintro current d' ⟨rfl, certain, parsed⟩
    rw [gives_bind, gives_lift]
    refine ⟨fun _ _ => ?_, fun _ _ => .stopped⟩
    rw [gives_bind, gives_ensure]
    refine ⟨?_, fun _ => .stopped⟩
    intro pending
    rw [Bool.and_eq_true, decide_eq_true_eq, beq_iff_eq] at pending
    exact persist_gives certain parsed (.refreshed (parse_valid parsed) pending.1 pending.2)
  · rintro failure d' rfl
    exact .stopped

theorem confirmRendererRestarted_gives (sequence : Int) (commandId lifecycle : Option String) :
    Gives (fun result d' =>
        Performs p d (.confirmRendererRestarted sequence commandId lifecycle)
          (.ok (some result)) d')
      (fun failure d' =>
        Performs p d (.confirmRendererRestarted sequence commandId lifecycle) (.error failure) d')
      (confirmRendererRestarted p sequence commandId lifecycle) d := by
  unfold confirmRendererRestarted
  rw [gives_bind]
  refine required_gives.imp ?_ ?_
  · rintro current d' ⟨rfl, certain, parsed⟩
    rw [gives_bind, gives_lift]
    refine ⟨fun _ _ => ?_, fun _ _ => .stopped⟩
    rw [gives_bind, gives_lift]
    refine ⟨?_, fun _ _ => .stopped⟩
    intro cycle hcycle
    obtain ⟨rfl, _⟩ := canonicalUuid_ok.mp hcycle
    rw [gives_bind, gives_ensure]
    refine ⟨?_, fun _ => .stopped⟩
    intro pending
    simp only [Bool.and_eq_true, decide_eq_true_eq, beq_iff_eq] at pending
    rw [gives_bind, gives_ensure]
    refine ⟨?_, fun _ => .stopped⟩
    intro different
    rw [decide_eq_true_eq] at different
    exact persist_gives certain parsed
      (.restarted (parse_valid parsed) pending.1.1 pending.1.2 different)
  · rintro failure d' rfl
    exact .stopped

theorem markAcknowledgementDelivered_gives (sequence : Int) (commandId : Option String) :
    Gives (fun result d' =>
        Performs p d (.markAcknowledgementDelivered sequence commandId) (.ok (some result)) d')
      (fun failure d' =>
        Performs p d (.markAcknowledgementDelivered sequence commandId) (.error failure) d')
      (markAcknowledgementDelivered p sequence commandId) d := by
  unfold markAcknowledgementDelivered
  rw [gives_bind]
  refine required_gives.imp ?_ ?_
  · rintro current d' ⟨rfl, certain, parsed⟩
    rw [gives_bind, gives_lift]
    refine ⟨fun _ _ => ?_, fun _ _ => .stopped⟩
    rw [gives_bind, gives_ensure]
    refine ⟨?_, fun _ => .stopped⟩
    intro pending
    rw [Bool.and_eq_true] at pending
    exact persist_gives certain parsed (.delivered (parse_valid parsed) pending.1 pending.2)
  · rintro failure d' rfl
    exact .stopped

theorem pendingAcknowledgement_gives :
    Gives (fun result d' => Performs p d .pendingAcknowledgement (.ok result) d')
      (fun failure d' => Performs p d .pendingAcknowledgement (.error failure) d')
      (pendingAcknowledgement p) d := by
  unfold pendingAcknowledgement
  rw [gives_bind]
  refine load_gives.imp ?_ ?_
  · rintro current d' ⟨rfl, certain, parsed⟩
    cases current with
    | none => exact gives_pure.mpr (.noted certain)
    | some current => exact gives_pure.mpr (.noted certain)
  · rintro failure d' rfl
    exact .stopped

theorem gives_some {α : Type} {Q : Option α → Device → Prop} {E : Failure → Device → Prop}
    {m : Journal α} (gives : Gives (fun a d' => Q (some a) d') E m d) :
    Gives Q E (some <$> m) d := by
  show Gives Q E (m >>= fun a => pure (some a)) d
  rw [gives_bind]
  refine gives.imp ?_ fun _ _ stopped => stopped
  intro a d' holds
  exact gives_pure.mpr holds

theorem perform_performs (request : Request) :
    Performs p d request (request.perform p d).1 (request.perform p d).2 := by
  have gives : Gives (fun result d' => Performs p d request (.ok result) d')
      (fun failure d' => Performs p d request (.error failure) d') (request.perform p) d := by
    cases request with
    | accept generation sequence commandId action lifecycle =>
      exact gives_some (accept_gives generation sequence commandId action lifecycle)
    | completeRefresh sequence commandId succeeded =>
      exact gives_some (completeRefresh_gives sequence commandId succeeded)
    | confirmRendererRestarted sequence commandId lifecycle =>
      exact gives_some (confirmRendererRestarted_gives sequence commandId lifecycle)
    | pendingAcknowledgement => exact pendingAcknowledgement_gives
    | markAcknowledgementDelivered sequence commandId =>
      exact gives_some (markAcknowledgementDelivered_gives sequence commandId)
  rcases ran : request.perform p d with ⟨answer, d'⟩
  cases answer with
  | ok result => exact gives.ok ran
  | error failure => exact gives.error ran

/-! ## The durable command -/

/-- The command that the storage holds under a key, if it is readable. -/
def Device.command (d : Device) (key : String) : Option Snapshot :=
  match Snapshot.parse (d.values key) with
  | .ok current => current
  | .error _ => none

/-- The durable (generation, sequence). -/
def Device.number (d : Device) (key : String) : WithBot Number :=
  (d.command key).map Snapshot.number

theorem command_of_parsed {key : String} {current : Option Snapshot}
    (parsed : Snapshot.parse (d.values key) = .ok current) : d.command key = current := by
  unfold Device.command
  rw [parsed]

theorem command_valid {key : String} {c : Snapshot} (held : d.command key = some c) : c.Valid := by
  unfold Device.command at held
  split at held
  · rename_i current parsed
    subst held
    exact parse_valid parsed
  · cases held

theorem number_of_command {key : String} {c : Snapshot} (held : d.command key = some c) :
    d.number key = (c.number : WithBot Number) := by
  unfold Device.number
  rw [held]
  rfl

theorem Transition.valid {request : Request} {current : Option Snapshot} {next : Snapshot}
    (allowed : Transition request current next) : next.Valid := by
  cases allowed with
  | accepted valid _ => exact valid
  | refreshed valid refresh pending =>
    rename_i succeeded _
    refine ⟨valid.generation, valid.sequence, valid.commandId, valid.action, valid.lifecycle,
      ?_, ?_, ?_⟩ <;> cases succeeded <;> simp [terminal, CommandState.isTerminal,
      Snapshot.actionStateValid, refresh]
  | restarted valid restart pending different =>
    refine ⟨valid.generation, valid.sequence, valid.commandId, valid.action, valid.lifecycle,
      ?_, ?_, ?_⟩ <;> simp [terminal, CommandState.isTerminal, Snapshot.actionStateValid]
  | @delivered _ _ current valid pending ended =>
    refine ⟨valid.generation, valid.sequence, valid.commandId, valid.action, valid.lifecycle,
      ?_, ?_, valid.actionState⟩
    · intro still
      cases still
    · show false = (current.state == .RESTART_REQUIRED)
      cases shape : current.state <;> rw [shape] at ended <;> simp_all [CommandState.isTerminal]

theorem command_replaced {key : String} {next : Snapshot} (valid : next.Valid) :
    (d.replaced p next.encode).command key =
      if key = p.storageKey ∧ p.replace.written then some next else d.command key := by
  by_cases here : key = p.storageKey ∧ p.replace.written
  · rw [if_pos here]
    apply command_of_parsed
    show Snapshot.parse (if _ then _ else _) = _
    rw [if_pos here, parse_encode valid]
  · rw [if_neg here]
    unfold Device.command
    show (match Snapshot.parse (if _ then _ else _) with
      | .ok current => current
      | .error _ => none) = _
    rw [if_neg here]

/-- An operation leaves the command under a key as it is, or stores one that it may store. -/
theorem performs_command {request : Request} {answer : Except Failure (Option Result)} {d' : Device}
    (performs : Performs p d request answer d') (key : String) :
    d'.command key = d.command key ∨ ∃ next, p.storageKey = key ∧
      Transition request (d.command key) next ∧ d'.command key = some next := by
  have replaced : ∀ {current : Option Snapshot} {next : Snapshot},
      Snapshot.parse (d.values p.storageKey) = .ok current → Transition request current next →
      (d.replaced p next.encode).command key = d.command key ∨ ∃ next', p.storageKey = key ∧
        Transition request (d.command key) next' ∧
        (d.replaced p next.encode).command key = some next' := by
    intro current next parsed allowed
    rw [command_replaced allowed.valid]
    split
    · rename_i here
      rw [here.1, command_of_parsed parsed]
      exact .inr ⟨next, rfl, allowed, rfl⟩
    · exact .inl rfl
  cases performs with
  | stopped => exact .inl rfl
  | repeated certain => exact .inl rfl
  | noted certain => exact .inl rfl
  | stored certain parsed allowed sure => exact replaced parsed allowed
  | unsure certain parsed allowed notSure => exact replaced parsed allowed

theorem step_command (key : String) (m : Move) (d : Device) :
    (Device.step m d).2.command key = d.command key ∨
      ∃ p request next, m = .call p request ∧ p.storageKey = key ∧
        Transition request (d.command key) next ∧
        (Device.step m d).2.command key = some next := by
  cases m with
  | restart => exact .inl rfl
  | call p request =>
    rcases performs_command (perform_performs (p := p) (d := d) request) key with
      same | ⟨next, here, allowed, stored⟩
    · exact .inl same
    · exact .inr ⟨p, request, next, rfl, here, allowed, stored⟩

/-! ## Numbers -/

theorem admission_ok {c : Snapshot} {generation sequence : Int} {commandId action : String}
    (admitted : admission c generation sequence commandId action = .ok false) :
    c.number < toLex (generation, sequence) ∧
      (c.credentialGeneration = generation → isBusy c = false) := by
  unfold admission at admitted
  unfold Snapshot.number
  rw [Prod.Lex.toLex_lt_toLex]
  simp only
  split at admitted
  · cases admitted
  · split at admitted
    · cases admitted
    · split at admitted
      · split at admitted <;> cases admitted
      · split at admitted
        · cases admitted
        · rename_i newer noRollback noRepeat notBusy
          refine ⟨?_, ?_⟩
          · omega
          · intro same
            cases busy : isBusy c with
            | false => rfl
            | true => exact absurd ⟨same.symm, busy⟩ notBusy

/-- A command that is not busy has ended, and its acknowledgement is delivered. -/
theorem ended_of_not_busy {c : Snapshot} (valid : c.Valid) (free : isBusy c = false) :
    c.state.isTerminal = true ∧ c.pendingTerminalAck = false := by
  unfold isBusy at free
  rw [Bool.or_eq_false_iff, Bool.or_eq_false_iff, valid.restart] at free
  obtain ⟨⟨notRestart, acked⟩, notRefresh⟩ := free
  refine ⟨?_, acked⟩
  cases shape : c.state <;> rw [shape] at notRestart notRefresh <;>
    simp_all [CommandState.isTerminal]

/-- An accepted command is new, and an operation on a command keeps its number. -/
theorem transition_number {request : Request} {current : Option Snapshot} {next : Snapshot}
    (allowed : Transition request current next) :
    (∃ generation sequence commandId action lifecycle,
      request = .accept generation sequence commandId action (some lifecycle) ∧
      next.number = toLex (generation, sequence) ∧
      next.acceptedRendererLifecycleId = lifecycle ∧ next.state.isTerminal = false ∧
      ∀ c, current = some c → c.number < next.number ∧
        (c.credentialGeneration = generation → isBusy c = false)) ∨
    ((∀ generation sequence commandId action lifecycle,
      request ≠ .accept generation sequence commandId action lifecycle) ∧
    ∃ c, current = some c ∧ next.number = c.number ∧
      next.acceptedRendererLifecycleId = c.acceptedRendererLifecycleId) := by
  cases allowed with
  | @accepted generation sequence commandId action lifecycle _ valid admitted =>
    refine .inl ⟨generation, sequence, some commandId, some action, lifecycle, rfl, rfl, rfl,
      ?_, ?_⟩
    · show (if action = RESTART_RENDERER then CommandState.RESTART_REQUIRED
        else .REFRESH_REQUIRED).isTerminal = false
      split <;> rfl
    · intro c held
      exact admission_ok (admitted c held)
  | refreshed valid refresh pending =>
    exact .inr ⟨by simp, _, rfl, rfl, rfl⟩
  | restarted valid restart pending different =>
    exact .inr ⟨by simp, _, rfl, rfl, rfl⟩
  | delivered valid pending ended =>
    exact .inr ⟨by simp, _, rfl, rfl, rfl⟩

/-! ## What a history shows -/

abbrev JournalEntry := Entry Device Move Answer

/-- The entry is this operation on the key. -/
def Asks (e : JournalEntry) (key : String) (request : Request) : Prop :=
  ∃ p, e.move = .call p request ∧ p.storageKey = key

/-- `accept` answers that the command is new. -/
def AnswersNew (e : JournalEntry) (key : String) (n : Number) : Prop :=
  ∃ generation sequence commandId action lifecycle result,
    n = toLex (generation, sequence) ∧
    Asks e key (.accept generation sequence commandId action lifecycle) ∧
    e.answer = some (.ok (some result)) ∧ result.duplicate = false

/-- `accept` makes the command the durable one, under a lifecycle, whatever it answers. -/
def Accepts (e : JournalEntry) (key : String) (n : Number) (lifecycle : String) : Prop :=
  ∃ generation sequence commandId action,
    n = toLex (generation, sequence) ∧
    Asks e key (.accept generation sequence commandId action (some lifecycle)) ∧
    e.before.number key ≠ (n : WithBot Number) ∧ e.after.number key = (n : WithBot Number)

/-- The durable command reaches a terminal state. -/
def Finishes (e : JournalEntry) (key : String) (n : Number) : Prop :=
  ∃ c c', e.before.command key = some c ∧ c.number = n ∧ c.state.isTerminal = false ∧
    e.after.command key = some c' ∧ c'.number = n ∧ c'.state.isTerminal = true

/-- The terminal acknowledgement of the durable command is marked as delivered. -/
def Delivers (e : JournalEntry) (key : String) (n : Number) : Prop :=
  ∃ sequence commandId c c', Asks e key (.markAcknowledgementDelivered sequence commandId) ∧
    e.before.command key = some c ∧ c.number = n ∧ c.state.isTerminal = true ∧
    c.pendingTerminalAck = true ∧
    e.after.command key = some c' ∧ c'.number = n ∧ c'.pendingTerminalAck = false

/-- A restart is confirmed under a lifecycle: the answer says so, or the storage does. -/
def Confirms (e : JournalEntry) (key : String) (n : Number) (lifecycle : String) : Prop :=
  ∃ sequence commandId,
    Asks e key (.confirmRendererRestarted sequence commandId (some lifecycle)) ∧
    ((∃ result, e.answer = some (.ok (some result)) ∧
      n = toLex (result.credentialGeneration, result.sequence)) ∨ Finishes e key n)

/-- `replace` was called for the key, and did not return true. -/
def CommitUncertain (e : JournalEntry) (key : String) : Prop :=
  ∃ p request, e.move = .call p request ∧ p.storageKey = key ∧ p.replace ≠ .done ∧
    e.after.commits = (key, p.replace) :: e.before.commits

structure JournalLaw (key : String) (entries : List JournalEntry) : Prop where
  number_rises : ∀ e ∈ entries, e.after.number key = e.before.number key ∨
    (e.before.number key < e.after.number key ∧ ∃ n lifecycle, Accepts e key n lifecycle)
  new_is_durable : ∀ e ∈ entries, ∀ n, AnswersNew e key n →
    ∃ lifecycle, Accepts e key n lifecycle
  accepted_once : entries.Pairwise fun e e' => ∀ n lifecycle n' lifecycle',
    Accepts e key n lifecycle → Accepts e' key n' lifecycle' → n < n'
  answered_once : entries.Pairwise fun e e' => ∀ n, AnswersNew e key n → ¬ AnswersNew e' key n
  next_after_end : ∀ e ∈ entries, ∀ n lifecycle, Accepts e key n lifecycle →
    ∀ c, e.before.command key = some c → c.credentialGeneration = (ofLex n).1 →
    c.state.isTerminal = true ∧ c.pendingTerminalAck = false
  acknowledged_between : ∀ past e between e' rest,
    entries = past ++ e :: (between ++ e' :: rest) → ∀ n lifecycle n' lifecycle',
    Accepts e key n lifecycle → Accepts e' key n' lifecycle' → (ofLex n).1 = (ofLex n').1 →
    ∃ early f middle m late, between = early ++ f :: (middle ++ m :: late) ∧
      Finishes f key n ∧ Delivers m key n
  ends_by_confirmation : ∀ e ∈ entries, ∀ c c', e.before.command key = some c →
    c.state = .RESTART_REQUIRED → e.after.command key = some c' → c'.number = c.number →
    c'.state ≠ .RESTART_REQUIRED → ∃ sequence commandId lifecycle,
      Asks e key (.confirmRendererRestarted sequence commandId (some lifecycle)) ∧
      lifecycle ≠ c.acceptedRendererLifecycleId
  other_lifecycle : ∀ past e between e' rest,
    entries = past ++ e :: (between ++ e' :: rest) → ∀ n lifecycle lifecycle',
    Accepts e key n lifecycle → Confirms e' key n lifecycle' → lifecycle' ≠ lifecycle
  uncertain_fails : ∀ e ∈ entries, CommitUncertain e key → ∃ failure,
    e.answer = some (.error failure)
  closed_until_restart : ∀ past e between e' rest,
    entries = past ++ e :: (between ++ e' :: rest) → CommitUncertain e key →
    (∀ x ∈ between, x.move ≠ .restart) → ∀ request, Asks e' key request →
    ∃ failure, e'.answer = some (.error failure)

/-! ## One entry -/

variable {key lifecycle : String} {n : Number} {m : Move}

theorem number_lt (newer : ∀ c, d.command key = some c → c.number < n) :
    d.number key < (n : WithBot Number) := by
  cases held : d.command key with
  | none =>
    unfold Device.number
    rw [held]
    exact WithBot.bot_lt_coe n
  | some c =>
    rw [number_of_command held, WithBot.coe_lt_coe]
    exact newer c held

/-- The durable number stays, or an accepted command raises it. -/
theorem entry_number (key : String) (m : Move) (d : Device) :
    (Device.step m d).2.number key = d.number key ∨
      (d.number key < (Device.step m d).2.number key ∧
        ∃ n lifecycle, Accepts (entry Device.step d m) key n lifecycle) := by
  rcases step_command key m d with same | ⟨p, request, next, rfl, here, allowed, stored⟩
  · refine .inl ?_
    unfold Device.number
    rw [same]
  · have after := number_of_command stored
    rcases transition_number allowed with ⟨generation, sequence, commandId, action, lifecycle, rfl,
      number, _, _, newer⟩ | ⟨_, c, held, number, _⟩
    · have rises : d.number key < (next.number : WithBot Number) :=
        number_lt fun c held => (newer c held).1
      refine .inr ⟨?_, next.number, lifecycle, ?_⟩
      · rw [after]
        exact rises
      · exact ⟨generation, sequence, commandId, action, number, ⟨p, rfl, here⟩, rises.ne, after⟩
    · refine .inl ?_
      rw [after, number_of_command held, number]

theorem number_keeps {b : WithBot Number} (m : Move) (d : Device) (low : b ≤ d.number key) :
    b ≤ (Device.step m d).2.number key := by
  rcases entry_number key m d with same | ⟨rises, _⟩
  · rw [same]
    exact low
  · exact low.trans rises.le

/-- What the acceptance of a command needs, and what it leaves. -/
theorem accepts_entry (accepts : Accepts (entry Device.step d m) key n lifecycle) :
    d.number key < (n : WithBot Number) ∧
    (∃ next, (Device.step m d).2.command key = some next ∧ next.number = n ∧
      next.acceptedRendererLifecycleId = lifecycle ∧ next.state.isTerminal = false) ∧
    ∀ c, d.command key = some c → c.credentialGeneration = (ofLex n).1 →
      c.state.isTerminal = true ∧ c.pendingTerminalAck = false := by
  obtain ⟨generation, sequence, commandId, action, rfl, ⟨p, called, here⟩, before, after⟩ := accepts
  replace called : m = _ := called
  replace before : d.number key ≠ _ := before
  replace after : (Device.step m d).2.number key = _ := after
  rcases step_command key m d with same | ⟨p', request, next, called', _, allowed, stored⟩
  · refine absurd ?_ before
    rw [← after]
    unfold Device.number
    rw [same]
  · rw [called] at called'
    cases called'
    rcases transition_number allowed with ⟨_, _, _, _, _, asked, number, cycle, open', newer⟩ |
      ⟨notAccept, _⟩
    · cases asked
      refine ⟨?_, ⟨next, stored, number, cycle, open'⟩, ?_⟩
      · rw [← number]
        exact number_lt fun c held => (newer c held).1
      · intro c held same
        exact ended_of_not_busy (command_valid held) ((newer c held).2 same)
    · exact absurd rfl (notAccept _ _ _ _ _)

theorem answersNew_entry (answers : AnswersNew (entry Device.step d m) key n) :
    ∃ lifecycle, Accepts (entry Device.step d m) key n lifecycle := by
  obtain ⟨generation, sequence, commandId, action, lifecycle, result, rfl, ⟨p, called, rfl⟩, answer,
    isNew⟩ := answers
  replace called : m = _ := called
  subst called
  have performs := perform_performs (p := p) (d := d)
    (.accept generation sequence commandId action lifecycle)
  replace answer : some (Request.perform p _ d).1 = _ := answer
  rw [Option.some.injEq] at answer
  rw [answer] at performs
  generalize reached : (Request.perform p _ d).2 = d' at performs
  cases performs with
  | repeated certain => cases isNew
  | @stored _ current next certain parsed allowed sure =>
    have held := command_of_parsed parsed
    rcases transition_number allowed with ⟨_, _, _, _, cycle, asked, number, _, _, newer⟩ |
      ⟨notAccept, _⟩
    · cases asked
      refine ⟨cycle, generation, sequence, commandId, action, rfl, ⟨p, rfl, rfl⟩, ?_, ?_⟩
      · rw [← number]
        refine ne_of_lt (number_lt ?_)
        intro c found
        exact (newer c (held.symm.trans found)).1
      · rw [← number]
        apply number_of_command
        show (Request.perform p _ d).2.command p.storageKey = some next
        rw [reached, command_replaced allowed.valid, if_pos ⟨rfl, by rw [sure]; rfl⟩]
    · exact absurd rfl (notAccept _ _ _ _ _)

/-- A confirmation speaks of the durable command, and not of its own lifecycle. -/
theorem confirms_entry (confirms : Confirms (entry Device.step d m) key n lifecycle) :
    ∃ c, d.command key = some c ∧ c.number = n ∧ lifecycle ≠ c.acceptedRendererLifecycleId := by
  obtain ⟨sequence, commandId, ⟨p, called, rfl⟩, shown⟩ := confirms
  replace called : m = _ := called
  subst called
  have performs := perform_performs (p := p) (d := d)
    (.confirmRendererRestarted sequence commandId (some lifecycle))
  rcases shown with ⟨result, answer, rfl⟩ | ⟨c, c', before, rfl, still, after, same, ended⟩
  · replace answer : some (Request.perform p _ d).1 = _ := answer
    rw [Option.some.injEq] at answer
    rw [answer] at performs
    generalize (Request.perform p _ d).2 = d' at performs
    cases performs with
    | stored certain parsed allowed sure =>
      cases allowed with
      | restarted valid restart pending different =>
        exact ⟨_, command_of_parsed parsed, rfl, different⟩
  · replace before : d.command p.storageKey = _ := before
    rcases performs_command performs p.storageKey with kept | ⟨next, _, allowed, stored⟩
    · replace after : (Request.perform p _ d).2.command p.storageKey = _ := after
      rw [kept, before] at after
      cases after
      rw [still] at ended
      cases ended
    · rw [before] at allowed
      cases allowed with
      | restarted valid restart pending different => exact ⟨c, before, rfl, different⟩

/-- Only a confirmation under another lifecycle ends a restart. -/
theorem restart_entry {c c' : Snapshot} (held : d.command key = some c)
    (pending : c.state = .RESTART_REQUIRED) (after : (Device.step m d).2.command key = some c')
    (same : c'.number = c.number) (ended : c'.state ≠ .RESTART_REQUIRED) :
    ∃ sequence commandId lifecycle, Asks (entry Device.step d m) key
        (.confirmRendererRestarted sequence commandId (some lifecycle)) ∧
      lifecycle ≠ c.acceptedRendererLifecycleId := by
  rcases step_command key m d with kept | ⟨p, request, next, rfl, here, allowed, stored⟩
  · rw [kept, held] at after
    cases after
    exact absurd pending ended
  · rw [stored] at after
    cases after
    rw [held] at allowed
    cases allowed with
    | accepted valid admitted =>
      have newer := (admission_ok (admitted c rfl)).1
      rw [← same] at newer
      exact absurd newer (lt_irrefl _)
    | refreshed valid refresh pending' =>
      rw [pending] at pending'
      cases pending'
    | @restarted sequence commandId lifecycle _ valid restart pending' different =>
      exact ⟨sequence, commandId, lifecycle, ⟨p, rfl, here⟩, different⟩
    | delivered valid waiting over' =>
      rw [pending] at over'
      cases over'

/-! ## From one command to the next -/

/-- The command that waits for its result. -/
def Working (key : String) (n : Number) (d : Device) : Prop :=
  ∃ c, d.command key = some c ∧ c.number = n ∧ c.state.isTerminal = false

/-- The command that waits for the delivery of its acknowledgement. -/
def Reporting (key : String) (n : Number) (d : Device) : Prop :=
  ∃ c, d.command key = some c ∧ c.number = n ∧ c.state.isTerminal = true ∧
    c.pendingTerminalAck = true

/-- A later generation has taken the place of the command. -/
def Superseded (key : String) (n : Number) (d : Device) : Prop :=
  ∃ c, d.command key = some c ∧ (ofLex n).1 < c.credentialGeneration

theorem generation_le {a b : Number} (le : a ≤ b) : (ofLex a).1 ≤ (ofLex b).1 :=
  Prod.Lex.monotone_fst a b le

theorem superseded_keeps (d : Device) (m : Move) (gone : Superseded key n d) :
    Superseded key n (Device.step m d).2 := by
  obtain ⟨c, held, later⟩ := gone
  have high := number_keeps m d (number_of_command held).ge
  cases after : (Device.step m d).2.command key with
  | none =>
    unfold Device.number at high
    rw [after] at high
    exact absurd high (WithBot.not_coe_le_bot _)
  | some c' =>
    rw [number_of_command after, WithBot.coe_le_coe] at high
    exact ⟨c', after, later.trans_le (generation_le high)⟩

/-- A newer command cannot take the place of a busy one of its generation. -/
theorem superseded_by {c : Snapshot} {generation sequence : Int} {next : Snapshot}
    (newer : c.number < next.number ∧ (c.credentialGeneration = generation → isBusy c = false))
    (number : next.number = toLex (generation, sequence)) (busy : isBusy c = true)
    (stored : d.command key = some next) : Superseded key c.number d := by
  have le := generation_le newer.1.le
  rw [number] at le
  have same : next.credentialGeneration = generation := congrArg (fun n => (ofLex n).1) number
  refine ⟨next, stored, ?_⟩
  rw [same]
  refine lt_of_le_of_ne le ?_
  intro here
  rw [newer.2 here] at busy
  cases busy

theorem busy_of_working {c : Snapshot} (valid : c.Valid) (still : c.state.isTerminal = false) :
    isBusy c = true := by
  cases busy : isBusy c with
  | true => rfl
  | false =>
    rw [(ended_of_not_busy valid busy).1] at still
    cases still

theorem busy_of_reporting {c : Snapshot} (valid : c.Valid) (waiting : c.pendingTerminalAck = true) :
    isBusy c = true := by
  cases busy : isBusy c with
  | true => rfl
  | false =>
    rw [(ended_of_not_busy valid busy).2] at waiting
    cases waiting

/-- A command stops waiting for its result when it ends, or when a later generation comes. -/
theorem working_stays (d : Device) (m : Move) (working : Working key n d) :
    Working key n (Device.step m d).2 ∨ Superseded key n (Device.step m d).2 ∨
      (Finishes (entry Device.step d m) key n ∧ Reporting key n (Device.step m d).2) := by
  obtain ⟨c, held, rfl, still⟩ := working
  rcases step_command key m d with kept | ⟨p, request, next, rfl, here, allowed, stored⟩
  · exact .inl ⟨c, kept.trans held, rfl, still⟩
  · rw [held] at allowed
    have ends : ∀ succeeded, next = terminal c succeeded →
        Finishes (entry Device.step d (.call p request)) key c.number ∧
          Reporting key c.number (Device.step (.call p request) d).2 := by
      rintro succeeded rfl
      have over' : (terminal c succeeded).state.isTerminal = true := by cases succeeded <;> rfl
      exact ⟨⟨c, _, held, rfl, still, stored, rfl, over'⟩, _, stored, rfl, over', rfl⟩
    cases allowed with
    | accepted valid admitted =>
      exact .inr (.inl (superseded_by (admission_ok (admitted c rfl)) rfl
        (busy_of_working (command_valid held) still) stored))
    | refreshed valid refresh pending => exact .inr (.inr (ends _ rfl))
    | restarted valid restart pending different => exact .inr (.inr (ends _ rfl))
    | delivered valid waiting over' =>
      rw [over'] at still
      cases still

/-- An ended command waits until its acknowledgement is delivered, or a later generation comes. -/
theorem reporting_stays (d : Device) (m : Move) (reporting : Reporting key n d) :
    Reporting key n (Device.step m d).2 ∨ Superseded key n (Device.step m d).2 ∨
      (Delivers (entry Device.step d m) key n ∧ True) := by
  obtain ⟨c, held, rfl, over', waiting⟩ := reporting
  rcases step_command key m d with kept | ⟨p, request, next, rfl, here, allowed, stored⟩
  · exact .inl ⟨c, kept.trans held, rfl, over', waiting⟩
  · rw [held] at allowed
    cases allowed with
    | accepted valid admitted =>
      exact .inr (.inl (superseded_by (admission_ok (admitted c rfl)) rfl
        (busy_of_reporting (command_valid held) waiting) stored))
    | refreshed valid refresh pending =>
      rw [pending] at over'
      cases over'
    | restarted valid restart pending different =>
      rw [pending] at over'
      cases over'
    | @delivered sequence commandId _ valid waiting' ended =>
      have delivers : Delivers (entry Device.step d (.call p _)) key c.number :=
        ⟨sequence, commandId, c, _, ⟨p, rfl, here⟩, held, rfl, over', waiting, stored, rfl, rfl⟩
      exact .inr (.inr ⟨delivers, trivial⟩)

/-- The next command of a generation finds neither. -/
theorem next_needs_end {n' : Number} (accepts : Accepts (entry Device.step d m) key n' lifecycle)
    (same : (ofLex n).1 = (ofLex n').1) :
    ¬ Working key n d ∧ ¬ Reporting key n d ∧ ¬ Superseded key n d := by
  obtain ⟨rises, _, free⟩ := accepts_entry accepts
  refine ⟨?_, ?_, ?_⟩
  · rintro ⟨c, held, rfl, still⟩
    rw [(free c held same).1] at still
    cases still
  · rintro ⟨c, held, rfl, _, waiting⟩
    rw [(free c held same).2] at waiting
    cases waiting
  · rintro ⟨c, held, later⟩
    rw [number_of_command held, WithBot.coe_lt_coe] at rises
    have le : c.credentialGeneration ≤ (ofLex n').1 := generation_le rises.le
    omega

variable {past between rest : List JournalEntry} {e e' : JournalEntry} {moves : List Move}
  {n' : Number} {lifecycle' : String}

theorem ends_and_is_acknowledged
    (split : trace Device.step d moves = past ++ e :: (between ++ e' :: rest))
    (first : Accepts e key n lifecycle) (second : Accepts e' key n' lifecycle')
    (same : (ofLex n).1 = (ofLex n').1) :
    ∃ early f middle m late, between = early ++ f :: (middle ++ m :: late) ∧
      Finishes f key n ∧ Delivers m key n := by
  obtain ⟨t, shown, ms, rfl, shown'⟩ := trace_between split
  rw [shown] at first
  rw [shown'] at second
  obtain ⟨_, ⟨c, held, number, _, still⟩, _⟩ := accepts_entry first
  obtain ⟨notWorking, notReporting, notSuperseded⟩ := next_needs_end second same
  have working : Working key n e.after := by
    rw [shown]
    exact ⟨c, held, number, still⟩
  rcases passes_through (E := fun f => Finishes f key n) working_stays superseded_keeps ms e.after
    working with stuck | gone | ⟨early, f, more, split', reached, finishes, reporting⟩
  · exact absurd stuck notWorking
  · exact absurd gone notSuperseded
  · rw [reached] at notReporting notSuperseded
    rcases passes_through (E := fun m => Delivers m key n) (Q := fun _ => True) reporting_stays
      superseded_keeps more f.after reporting with
      stuck | gone | ⟨middle, m, late, split'', _, delivers, _⟩
    · exact absurd stuck notReporting
    · exact absurd gone notSuperseded
    · refine ⟨early, f, middle, m, trace Device.step m.after late, ?_, finishes, delivers⟩
      rw [split', split'']

/-! ## The lifecycle of a restart -/

/-- The durable command is this one, accepted under this lifecycle, or a later one. -/
def Since (key : String) (n : Number) (lifecycle : String) (d : Device) : Prop :=
  (∃ c, d.command key = some c ∧ c.number = n ∧ c.acceptedRendererLifecycleId = lifecycle) ∨
    (n : WithBot Number) < d.number key

theorem since_keeps (d : Device) (m : Move) (since : Since key n lifecycle d) :
    Since key n lifecycle (Device.step m d).2 := by
  rcases since with ⟨c, held, rfl, rfl⟩ | later
  · rcases step_command key m d with kept | ⟨p, request, next, rfl, here, allowed, stored⟩
    · exact .inl ⟨c, kept.trans held, rfl, rfl⟩
    · rcases transition_number allowed with ⟨_, _, _, _, _, _, _, _, _, newer⟩ |
        ⟨_, c', held', number, cycle⟩
      · refine .inr ?_
        rw [number_of_command stored, WithBot.coe_lt_coe]
        exact (newer c held).1
      · rw [held] at held'
        cases held'
        exact .inl ⟨next, stored, number, cycle⟩
  · exact .inr (later.trans_le (number_keeps m d le_rfl))

theorem confirmed_elsewhere
    (split : trace Device.step d moves = past ++ e :: (between ++ e' :: rest))
    (first : Accepts e key n lifecycle) (second : Confirms e' key n lifecycle') :
    lifecycle' ≠ lifecycle := by
  obtain ⟨t, shown, ms, rfl, shown'⟩ := trace_between split
  rw [shown] at first
  rw [shown'] at second
  obtain ⟨_, ⟨next, stored, number, cycle, _⟩, _⟩ := accepts_entry first
  have since : Since key n lifecycle e.after := by
    rw [shown]
    exact .inl ⟨next, stored, number, cycle⟩
  obtain ⟨c, held, rfl, different⟩ := confirms_entry second
  rcases final_keeps since_keeps ms e.after since with ⟨c', held', _, cycle'⟩ | later
  · rw [held] at held'
    cases held'
    rw [cycle'] at different
    exact different
  · rw [number_of_command held] at later
    exact absurd later (lt_irrefl _)

/-! ## After an uncertain commit -/

theorem uncertain_entry (uncertain : CommitUncertain (entry Device.step d m) key) :
    (∃ failure, (Device.step m d).1 = some (.error failure)) ∧
      key ∈ (Device.step m d).2.uncertainStorageKeys := by
  obtain ⟨p, request, called, rfl, notSure, commits⟩ := uncertain
  replace called : m = _ := called
  subst called
  have performs := perform_performs (p := p) (d := d) request
  replace commits : (request.perform p d).2.commits = _ :: d.commits := commits
  show (∃ failure, some (request.perform p d).1 = _) ∧
    p.storageKey ∈ (request.perform p d).2.uncertainStorageKeys
  generalize (request.perform p d).1 = answer at performs ⊢
  generalize (request.perform p d).2 = d' at performs commits ⊢
  have longer : d.commits ≠ (p.storageKey, p.replace) :: d.commits := by
    intro same
    have := congrArg List.length same
    rw [List.length_cons] at this
    omega
  cases performs with
  | stopped => exact absurd commits longer
  | repeated certain => exact absurd commits longer
  | noted certain => exact absurd commits longer
  | stored certain parsed allowed sure => exact absurd sure notSure
  | @unsure _ _ _ failure certain parsed allowed _ =>
    refine ⟨⟨failure, rfl⟩, ?_⟩
    show p.storageKey ∈ if p.replace = .done then _ else _
    rw [if_neg notSure]
    exact List.mem_cons_self

theorem uncertain_keeps (d : Device) (m : Move) (runs : m ≠ .restart)
    (closed : key ∈ d.uncertainStorageKeys) :
    key ∈ (Device.step m d).2.uncertainStorageKeys := by
  have replaced : ∀ (p : Persistence) (values : Values),
      key ∈ (d.replaced p values).uncertainStorageKeys := by
    intro p values
    unfold Device.replaced
    simp only
    split
    · exact closed
    · exact List.mem_cons_of_mem _ closed
  cases m with
  | restart => exact absurd rfl runs
  | call p request =>
    have performs := perform_performs (p := p) (d := d) request
    show key ∈ (request.perform p d).2.uncertainStorageKeys
    generalize (request.perform p d).2 = d' at performs ⊢
    generalize (request.perform p d).1 = answer at performs
    cases performs with
    | stopped => exact closed
    | repeated certain => exact closed
    | noted certain => exact closed
    | stored certain parsed allowed sure => exact replaced p _
    | unsure certain parsed allowed notSure => exact replaced p _

theorem closed_fails {request : Request} (closed : p.storageKey ∈ d.uncertainStorageKeys) :
    ∃ failure, (request.perform p d).1 = .error failure := by
  have performs := perform_performs (p := p) (d := d) request
  generalize (request.perform p d).1 = answer at performs ⊢
  generalize (request.perform p d).2 = d' at performs
  cases performs with
  | stopped => exact ⟨_, rfl⟩
  | repeated certain => exact absurd closed certain
  | noted certain => exact absurd closed certain
  | stored certain parsed allowed sure => exact absurd closed certain
  | unsure certain parsed allowed notSure => exact ⟨_, rfl⟩

theorem closed_after_uncertain {request : Request}
    (split : trace Device.step d moves = past ++ e :: (between ++ e' :: rest))
    (uncertain : CommitUncertain e key) (runs : ∀ x ∈ between, x.move ≠ .restart)
    (asked : Asks e' key request) : ∃ failure, e'.answer = some (.error failure) := by
  obtain ⟨t, shown, ms, rfl, shown'⟩ := trace_between split
  rw [shown] at uncertain
  have closed : key ∈ e.after.uncertainStorageKeys := by
    rw [shown]
    exact (uncertain_entry uncertain).2
  have still := final_keeps_while uncertain_keeps ms e.after runs closed
  obtain ⟨p, called, rfl⟩ := asked
  obtain ⟨failure, answered⟩ := @closed_fails p _ request still
  refine ⟨failure, ?_⟩
  rw [shown', called]
  exact congrArg some answered

/-! ## The law -/

theorem durable_answers (key : String) (d : Device) (moves : List Move) :
    ∀ e ∈ trace Device.step d moves, ∀ n, AnswersNew e key n →
      ∃ lifecycle, Accepts e key n lifecycle :=
  trace_all (fun _ _ _ => answersNew_entry) moves d

theorem accepted_in_order (key : String) (d : Device) (moves : List Move) :
    (trace Device.step d moves).Pairwise fun e e' => ∀ n lifecycle n' lifecycle',
      Accepts e key n lifecycle → Accepts e' key n' lifecycle' → n < n' := by
  apply trace_pairwise
  intro d m ms e' later n lifecycle n' lifecycle' first second
  have low : (n : WithBot Number) ≤ (Device.step m d).2.number key := by
    obtain ⟨_, ⟨next, stored, number, _⟩, _⟩ := accepts_entry first
    rw [number_of_command stored, number]
  have still := trace_keeps (P := fun d => (n : WithBot Number) ≤ d.number key)
    (fun d m low => number_keeps m d low) ms _ low e' later
  have rises := trace_all
    (E := fun e => ∀ lifecycle, Accepts e key n' lifecycle → e.before.number key < n')
    (fun d m lifecycle accepts => (accepts_entry accepts).1) ms _ e' later lifecycle' second
  exact WithBot.coe_lt_coe.mp (still.trans_lt rises)

/-- Every history of a device keeps the law of the journal, for every storage key. -/
theorem the_journal_keeps_its_law (key : String) (d : Device) (moves : List Move) :
    JournalLaw key (trace Device.step d moves) where
  number_rises := trace_all (fun d m => entry_number key m d) moves d
  new_is_durable := durable_answers key d moves
  accepted_once := accepted_in_order key d moves
  answered_once := by
    refine (accepted_in_order key d moves).imp_of_mem ?_
    intro e e' member member' ordered n first second
    obtain ⟨lifecycle, accepts⟩ := durable_answers key d moves e member n first
    obtain ⟨lifecycle', accepts'⟩ := durable_answers key d moves e' member' n second
    exact lt_irrefl n (ordered n lifecycle n lifecycle' accepts accepts')
  next_after_end := trace_all (fun d m n lifecycle accepts => (accepts_entry accepts).2.2) moves d
  acknowledged_between := by
    intro past e between e' rest split n lifecycle n' lifecycle' first second same
    exact ends_and_is_acknowledged split first second same
  ends_by_confirmation := trace_all
    (fun d m c c' held pending after same ended => restart_entry held pending after same ended)
    moves d
  other_lifecycle := by
    intro past e between e' rest split n lifecycle lifecycle' first second
    exact confirmed_elsewhere split first second
  uncertain_fails := trace_all (fun d m uncertain => (uncertain_entry uncertain).1) moves d
  closed_until_restart := by
    intro past e between e' rest split uncertain runs request asked
    exact closed_after_uncertain split uncertain runs asked

/-- A restart whose commit is not sure, on a device that holds nothing. The journal fails until the
process starts again, and then takes the command for a duplicate. -/
example :
    let first := some "11111111-1111-4111-8111-111111111111"
    let before := some "aaaaaaaa-aaaa-4aaa-8aaa-aaaaaaaaaaaa"
    let after := some "bbbbbbbb-bbbb-4bbb-8bbb-bbbbbbbbbbbb"
    let sure : Persistence := ⟨"commands", .values, .done⟩
    let unsure : Persistence := ⟨"commands", .values, .returnedFalse true⟩
    let moves : List Move :=
      [.call unsure (.accept 1 5 first (some RESTART_RENDERER) before),
        .call sure .pendingAcknowledgement, .restart,
        .call sure (.accept 1 5 first (some RESTART_RENDERER) after),
        .call sure (.confirmRendererRestarted 5 first after)]
    (trace Device.step ⟨fun _ => [], [], []⟩ moves).map (fun e =>
      e.answer.map fun answer => answer.toOption.map fun result =>
        result.map fun r => (r.duplicate, r.state)) =
      [some none, some none, none, some (some (some (true, .RESTART_REQUIRED))),
        some (some (some (false, .SUCCEEDED)))] := by
  decide +kernel

end screengoblin.journal
