-- The enrollment of devices over every run of the calls on devices: keys that are bound once, one
-- credential in use and one pending grant for each screen, whatever runs between the steps.
import ScreenGoblin.EnrollmentSteps
import ScreenGoblin.DeviceProofRuns

open js collections lineages scripts scripts.Script screengoblin.schedule

namespace screengoblin.server

variable {R : DeviceRuntime} {held : Option PairingClaim}

/-! ## Stores over a step -/

/-- A step that changes none of these records. -/
theorem enrolls_of_same {n m : Nat} {s t : MemoryStore} (ok : EnrollmentOk R n s) (le : n ≤ m)
    (screens : t.screens = s.screens) (pairings : t.pairings = s.pairings)
    (attempts : t.pairingAttempts = s.pairingAttempts)
    (credentials : t.deviceCredentials = s.deviceCredentials)
    (used : t.usedDeviceKeyIds = s.usedDeviceKeyIds) : Enrolls R held n m s t := by
  have later := ok.later le
  refine enrolls_of_grows ⟨?_, ?_, ?_, ?_, ?_, ?_, ?_, ?_, ?_, ?_, ?_⟩ ⟨?_, ?_, ?_, ?_⟩ ?_
  · rw [screens]
    exact later.screens
  · rw [pairings]
    exact later.grants
  · rw [attempts]
    exact later.attempts
  · rw [attempts]
    exact later.attemptGrants
  · rw [attempts, pairings]
    exact later.within
  · rw [credentials]
    exact later.keys
  · rw [credentials, used]
    exact later.usedKeys
  · rw [credentials]
    exact later.credentialScreens
  · rw [credentials]
    exact later.oneLive
  · rw [pairings]
    exact later.onePending
  · rw [pairings]
    exact fun g hg x pending => (later.targets g hg x pending).of_devices screens credentials
  · rw [screens]
    exact fun x hx => .inl ⟨x, hx, Std.Refl.refl x⟩
  · rw [pairings]
    exact fun g hg => .inl ⟨g, hg, Std.Refl.refl g⟩
  · rw [attempts]
    exact fun a ha _ => ⟨a, ha, Std.Refl.refl a⟩
  · rw [credentials]
    exact remains_refl _
  · rw [credentials]
    exact fun c hc => ⟨c, hc, Std.Refl.refl c⟩

theorem Enrolls.weaken {n m : Nat} {s t : MemoryStore} (h : Enrolls R none n m s t) :
    Enrolls R held n m s t := by
  refine ⟨h.ok, h.grows, ?_⟩
  intro c' hc'
  refine (h.made c' hc').imp_right ?_
  rintro ⟨attempt, grant, made⟩
  exact ⟨attempt, grant, made.attempted, made.granted, made.own, made.pending, made.enrollment,
    made.organization, made.authorized.imp_right fun open' => by cases open'.2⟩

/-- A call keeps the store in order. -/
theorem Reaches.enrolls {s s' : AuditedStore} (reaches : Reaches R held s s')
    (ok : EnrollmentOk R s.idsDrawn s.toMemoryStore)
    (claims : ∀ claim, held = some claim → ClaimOk R s.idsDrawn s.toMemoryStore claim) :
    Enrolls R held s.idsDrawn s'.idsDrawn s.toMemoryStore s'.toMemoryStore := by
  obtain ⟨t, change, made⟩ := reaches.changes.change
  rw [made]
  have drawn : Fades t (t.drawnTo s'.idsDrawn) :=
    ⟨descends_refl _, descends_refl _, descends_refl _, fun a ha _ => ⟨a, ha, Std.Refl.refl a⟩,
      descends_refl _, remains_refl _, fun _ h => h, descends_refl _⟩
  exact (change.enrolls ok reaches.changes.drawn claims).fades ok drawn

theorem Idle.enrolls {s s' : AuditedStore} (idle : Idle s s')
    (ok : EnrollmentOk R s.idsDrawn s.toMemoryStore) :
    Enrolls R held s.idsDrawn s'.idsDrawn s.toMemoryStore s'.toMemoryStore :=
  enrolls_of_same ok idle.drawn idle.screens idle.pairings idle.pairingAttempts
    idle.deviceCredentials ((congrArg MemoryStore.usedDeviceKeyIds idle.same).trans rfl)

theorem Elsewhere.enrolls (elsewhere : Elsewhere) {s : AuditedStore}
    (ok : EnrollmentOk R s.idsDrawn s.toMemoryStore) :
    Enrolls R held s.idsDrawn (elsewhere.change s).idsDrawn s.toMemoryStore
      (elsewhere.change s).toMemoryStore :=
  enrolls_of_same ok (elsewhere.idsDrawn s) (elsewhere.screens s) (elsewhere.pairings s)
    (elsewhere.pairingAttempts s) (elsewhere.deviceCredentials s) (elsewhere.usedDeviceKeyIds s)

/-! ## Claims -/

theorem ended_id (grant : PairingRecord) : grant.ended.id = grant.id := by
  unfold PairingRecord.ended
  split
  · rfl
  · rfl

theorem ended_status (grant : PairingRecord) : grant.ended.status ≠ .pending := by
  unfold PairingRecord.ended
  by_cases pending : (grant.status == .pending) = true
  · rw [if_pos pending]
    exact fun h => by cases h
  · rw [if_neg pending]
    exact fun h => pending (beq_iff_eq.mpr h)

/-- A claim that a call holds, after another step. -/
theorem ClaimOk.later {n m : Nat} {s t : MemoryStore} {claim : PairingClaim}
    (claimOk : ClaimOk R n s claim) (le : n ≤ m) (enrolls : Enrolls R held n m s t) :
    ClaimOk R m t (claim.current t) := by
  unfold PairingClaim.current
  cases found : t.pairings.find? fun grant => grant.id == claim.pairing.id with
  | none =>
    rw [List.find?_eq_none] at found
    refine ⟨?_, ?_⟩
    · show DrawnBefore R.freshId m claim.pairing.ended.id
      rw [ended_id]
      exact claimOk.drawn.later le
    · rintro (pending | ⟨g, hg, same⟩)
      · exact absurd pending (ended_status claim.pairing)
      · have same' : g.id = claim.pairing.id := same.trans (ended_id claim.pairing)
        exact absurd (beq_iff_eq.mpr same') (found g hg)
  | some g' =>
    have is := List.find?_some found
    rw [beq_iff_eq] at is
    have member := List.mem_of_find?_eq_some found
    -- the grant is one of before, and its attempt is still there
    have before : ∃ g ∈ s.pairings, g.id = claim.pairing.id := by
      rcases enrolls.grows.grants g' member with ⟨g, hg, later⟩ | fresh
      · exact ⟨g, hg, later.id.symm.trans is⟩
      · rw [is] at fresh
        exact absurd claimOk.drawn fresh
    obtain ⟨-, attempted, own⟩ := claimOk.stored (.inr before)
    obtain ⟨a', ha', later⟩ :=
      enrolls.grows.together claim.attempt attempted ⟨g', member, is.trans own.symm⟩
    have named : t.pairingAttempts.find? (fun attempt => attempt.id == claim.attempt.id) =
        some a' :=
      enrolls.ok.attempts.unique.find ha' _ (beq_iff_eq.mpr later.id) fun b hb =>
        (beq_iff_eq.mp hb).trans later.id.symm
    rw [named]
    refine ⟨?_, fun _ => ⟨member, ha', later.grant.trans (own.trans is.symm)⟩⟩
    show DrawnBefore R.freshId m g'.id
    rw [is]
    exact claimOk.drawn.later le

/-- A call finds both records of its claim in the store. -/
theorem findPairingClaim_gives (input : PairingProofInput) (s : AuditedStore) :
    Gives (fun claim s' => s' = s ∧ claim.attempt ∈ s.pairingAttempts ∧
        claim.pairing ∈ s.pairings ∧ claim.attempt.pairingCodeId = claim.pairing.id)
      (fun _ s' => s' = s) (findPairingClaim input) s := by
  unfold findPairingClaim
  rw [gives_bind, gives_found]
  refine ⟨?_, fun _ => rfl⟩
  intro attempt attempted
  rw [gives_bind, gives_found]
  refine ⟨?_, fun _ => rfl⟩
  intro pairing granted
  rw [gives_bind, gives_refuseIf]
  refine ⟨?_, fun _ => rfl⟩
  intro _
  rw [gives_pure]
  have own := List.find?_some granted
  simp only [Bool.and_eq_true, beq_iff_eq] at own
  exact ⟨rfl, List.mem_of_find?_eq_some attempted, List.mem_of_find?_eq_some granted,
    own.1.1.symm⟩

/-! ## The invariant -/

/-- The claims of the calls that wait. -/
def DevicePhase.claim : DevicePhase → Option PairingClaim
  | .claiming _ _ claim => some claim
  | _ => none

structure EnrolledOk (R : DeviceRuntime) (d : Devices) : Prop where
  store : EnrollmentOk R d.store.idsDrawn d.store.toMemoryStore
  claims : ∀ phase ∈ d.phases, ∀ claim, phase.claim = some claim →
    ClaimOk R d.store.idsDrawn d.store.toMemoryStore claim

/-- The claim that a step holds: the one of a call whose signature was verified. -/
def heldBy (d : Devices) : DeviceEvent → Option PairingClaim
  | .goOn i (.ok true) => d.phases[i]?.bind (·.claim)
  | _ => none

theorem EnrolledOk.withStore {d : Devices} (ok : EnrolledOk R d) {s : AuditedStore}
    (le : d.store.idsDrawn ≤ s.idsDrawn)
    (enrolls : Enrolls R held d.store.idsDrawn s.idsDrawn d.store.toMemoryStore s.toMemoryStore) :
    EnrolledOk R (d.withStore s) := by
  refine ⟨enrolls.ok, ?_⟩
  intro phase member claim is
  obtain ⟨old, hold, rfl⟩ := List.mem_map.mp member
  cases old with
  | claiming input audit before =>
    cases is
    exact (ok.claims _ hold before rfl).later le enrolls
  | _ => cases is

theorem EnrolledOk.push {d : Devices} (ok : EnrolledOk R d) {phase : DevicePhase}
    (claims : ∀ claim, phase.claim = some claim →
      ClaimOk R d.store.idsDrawn d.store.toMemoryStore claim) : EnrolledOk R (d.push phase) := by
  refine ⟨ok.store, ?_⟩
  intro other member claim is
  rcases List.mem_append.mp member with member | member
  · exact ok.claims other member claim is
  · rw [List.mem_singleton.mp member] at is
    exact claims claim is

theorem EnrolledOk.setPhase {d : Devices} (ok : EnrolledOk R d) (i : Nat) {phase : DevicePhase}
    (none : phase.claim = none) : EnrolledOk R (d.setPhase i phase) := by
  refine ⟨ok.store, ?_⟩
  intro other member claim is
  rcases List.mem_or_eq_of_mem_set member with member | rfl
  · exact ok.claims other member claim is
  · rw [none] at is
    cases is

/-! ## Steps -/

/-- A step that keeps the invariant. -/
structure EnrolledStep (R : DeviceRuntime) (held : Option PairingClaim) (d d' : Devices) :
    Prop where
  ok : EnrolledOk R d'
  enrolls : Enrolls R held d.store.idsDrawn d'.store.idsDrawn d.store.toMemoryStore
    d'.store.toMemoryStore

section
variable {d : Devices} (ok : EnrolledOk R d)
include ok

/-- A call goes on, and the store with it. -/
theorem enrolledStep_setPhase {s : AuditedStore} (le : d.store.idsDrawn ≤ s.idsDrawn)
    (enrolls : Enrolls R held d.store.idsDrawn s.idsDrawn d.store.toMemoryStore s.toMemoryStore)
    (i : Nat) (phase : DevicePhase) (none : phase.claim = none) :
    EnrolledStep R held d ((d.withStore s).setPhase i phase) :=
  ⟨(ok.withStore le enrolls).setPhase i none, enrolls⟩

/-- A step that leaves the store alone. -/
theorem enrolledStep_still (i : Nat) {phase : DevicePhase} (none : phase.claim = none) :
    EnrolledStep R held d (d.setPhase i phase) :=
  ⟨ok.setPhase i none, enrolls_of_same ok.store (le_refl _) rfl rfl rfl rfl rfl⟩

theorem enrolledStep_endIssue (i : Nat) (input : DeviceAuthChallengeInput)
    (authenticated : Option ActiveDevice) :
    EnrolledStep R held d (endIssue R i input authenticated d) := by
  unfold endIssue
  have gives := issueDeviceAuthChallenge_gives (R := R) input authenticated d.store
  cases ran : issueDeviceAuthChallenge R input authenticated d.store with
  | mk result s =>
    dsimp only
    cases result with
    | error halt => exact absurd (gives.error ran) id
    | ok answer =>
      rcases gives.ok ran with ⟨rfl, idle⟩ | ⟨active, challenge, -, rfl, made⟩
      · have went : EnrolledStep R held d _ :=
          enrolledStep_setPhase ok idle.drawn (idle.enrolls ok.store) i (.issued none) rfl
        exact ⟨⟨went.ok.store, went.ok.claims⟩, went.enrolls⟩
      · have drawn : s.idsDrawn = d.store.idsDrawn + 1 :=
          (congrArg MemoryStore.idsDrawn made.pushed).trans rfl
        have enrolls : Enrolls R held d.store.idsDrawn s.idsDrawn d.store.toMemoryStore
            s.toMemoryStore :=
          enrolls_of_same ok.store (by omega)
            ((congrArg MemoryStore.screens made.pushed).trans rfl)
            ((congrArg MemoryStore.pairings made.pushed).trans rfl)
            ((congrArg MemoryStore.pairingAttempts made.pushed).trans rfl)
            ((congrArg MemoryStore.deviceCredentials made.pushed).trans rfl)
            ((congrArg MemoryStore.usedDeviceKeyIds made.pushed).trans rfl)
        have went := enrolledStep_setPhase ok (by omega) enrolls i (.issued (some challenge)) rfl
        exact ⟨⟨went.ok.store, went.ok.claims⟩, went.enrolls⟩

theorem enrolledStep_endProof (i : Nat) (input : DeviceProofInput)
    (data : Option HeartbeatUpdateInput) (lookup : Option ProofLookup) (verified : Bool) :
    EnrolledStep R held d (endProof R i input data lookup verified d) := by
  unfold endProof
  have gives := consumeDeviceProof_gives (R := R) input lookup verified d.store
  cases ran : consumeDeviceProof R.toRuntime input lookup verified d.store with
  | mk result s =>
    dsimp only
    cases result with
    | error halt => exact absurd (gives.error ran) id
    | ok answer =>
      rcases gives.ok ran with ⟨rfl, idle⟩ | ⟨found, active, -, -, rfl, consumed⟩
      · exact enrolledStep_setPhase ok idle.drawn (idle.enrolls ok.store) i _ rfl
      · have is := consumed.consumed
        have drawn : s.idsDrawn = d.store.idsDrawn :=
          (congrArg MemoryStore.idsDrawn is).trans rfl
        have enrolls : Enrolls R held d.store.idsDrawn s.idsDrawn d.store.toMemoryStore
            s.toMemoryStore :=
          enrolls_of_same ok.store drawn.ge ((congrArg MemoryStore.screens is).trans rfl)
            ((congrArg MemoryStore.pairings is).trans rfl)
            ((congrArg MemoryStore.pairingAttempts is).trans rfl)
            ((congrArg MemoryStore.deviceCredentials is).trans rfl)
            ((congrArg MemoryStore.usedDeviceKeyIds is).trans rfl)
        have went := enrolledStep_setPhase ok drawn.ge enrolls i (.accepted data active) rfl
        exact ⟨⟨went.ok.store, went.ok.claims⟩, went.enrolls⟩

theorem enrolledStep_endAccepted (i : Nat) (data : Option HeartbeatUpdateInput)
    (active : ActiveDevice) : EnrolledStep R held d (endAccepted R i data active d) := by
  cases data with
  | none => exact enrolledStep_still ok i rfl
  | some data =>
    unfold endAccepted
    dsimp only
    have performs : Performs R none d.store (recordHeartbeat R.toRuntime data active) d.store :=
      recordHeartbeat_performs data active d.store
    obtain ⟨shown, answers⟩ := recordHeartbeat_ok (R := R) data active d.store
    cases ran : recordHeartbeat R.toRuntime data active d.store with
    | mk result s =>
      rw [ran] at answers
      dsimp only at answers ⊢
      subst answers
      have reaches := performs.ok ran
      have enrolls := reaches.enrolls ok.store fun claim h => by cases h
      have went : EnrolledStep R held d _ := enrolledStep_setPhase ok reaches.changes.drawn
        enrolls.weaken i (.proved (some data) (some shown)) rfl
      exact ⟨⟨went.ok.store, went.ok.claims⟩, went.enrolls⟩

/-- Only a claim whose signature was verified makes anything of it. -/
theorem enrolledStep_endClaim {i : Nat} {input : PairingProofInput}
    {audit : PairingClaimAuditContext} {claim : PairingClaim} {verified : Bool}
    (was : d.phases[i]? = some (.claiming input audit claim))
    (own : verified = true → held = some claim) :
    EnrolledStep R held d (endClaim R i input audit claim verified d) := by
  unfold endClaim
  cases verified with
  | false =>
    exact enrolledStep_setPhase ok (le_refl _)
      (enrolls_of_same ok.store (le_refl _) rfl rfl rfl rfl rfl) i _ rfl
  | true =>
    have reaches : Reaches R held d.store
        (settlePairingClaim R.toRuntime input audit claim true d.store).2 := by
      rw [own rfl]
      have performs := settlePairingClaim_performs (R := R) input audit claim true d.store
      cases ran : settlePairingClaim R.toRuntime input audit claim true d.store with
      | mk result s =>
        cases result with
        | ok outcome => exact performs.ok ran
        | error halt => exact performs.error ran
    have enrolls := reaches.enrolls ok.store fun other is => by
      rw [own rfl] at is
      cases is
      exact ok.claims _ (List.mem_of_getElem? was) claim rfl
    exact enrolledStep_setPhase ok reaches.changes.drawn enrolls i _ rfl

theorem enrolledStep_goOn {d' : Devices} {i : Nat} {answer : Except String Bool}
    {phase : DevicePhase} (was : d.phases[i]? = some phase)
    (went : goOn R i answer d phase = some d') :
    EnrolledStep R (heldBy d (.goOn i answer)) d d' := by
  cases phase with
  | issuing input authenticated =>
    cases went
    exact enrolledStep_endIssue ok i input authenticated
  | accepted data active =>
    cases went
    exact enrolledStep_endAccepted ok i data active
  | proving input data lookup =>
    cases lookup with
    | none =>
      cases went
      exact enrolledStep_endProof ok i input data none false
    | some lookup =>
      cases answer with
      | ok verified =>
        cases went
        exact enrolledStep_endProof ok i input data (some lookup) verified
      | error reason =>
        cases went
        exact enrolledStep_still ok i rfl
  | claiming input audit claim =>
    cases answer with
    | ok verified =>
      cases went
      apply enrolledStep_endClaim ok was
      rintro rfl
      show d.phases[i]?.bind _ = some claim
      rw [was]
      rfl
    | error reason =>
      cases went
      exact enrolledStep_still ok i rfl
  | issued challenge => cases went
  | proved data active => cases went
  | claimed outcome => cases went
  | rejected => cases went

theorem enrolledStep_beginClaim (input : PairingProofInput) (audit : PairingClaimAuditContext) :
    EnrolledStep R held d (beginClaim input audit d) := by
  unfold beginClaim
  have gives := findPairingClaim_gives input d.store
  cases ran : findPairingClaim input d.store with
  | mk result s =>
    dsimp only
    cases result with
    | error halt =>
      have idle : Idle d.store s := by
        rw [gives.error ran]
        exact Idle.refl d.store
      have enrolls : Enrolls R held _ _ _ _ := idle.enrolls ok.store
      exact ⟨(ok.withStore idle.drawn enrolls).push (fun claim h => by cases h), enrolls⟩
    | ok claim =>
      obtain ⟨rfl, attempted, granted, own⟩ := gives.ok ran
      have enrolls : Enrolls R held _ _ _ _ := (Idle.refl d.store).enrolls ok.store
      refine ⟨(ok.withStore (le_refl _) enrolls).push ?_, enrolls⟩
      intro other is
      cases is
      exact ⟨ok.store.grants.drawn claim.pairing granted, fun _ => ⟨granted, attempted, own⟩⟩

theorem enrolledStep_of_step {d' : Devices} {event : DeviceEvent}
    (stepped : stepDevices R d event = some d') : EnrolledStep R (heldBy d event) d d' := by
  cases event with
  | call call =>
    cases stepped
    have reaches := deviceCall_reaches (R := R) call d.store
    have enrolls := reaches.enrolls ok.store fun claim h => by cases h
    exact ⟨ok.withStore reaches.changes.drawn enrolls, enrolls⟩
  | elsewhere change =>
    cases stepped
    have enrolls : Enrolls R none _ _ _ _ := change.enrolls ok.store
    exact ⟨ok.withStore (change.idsDrawn d.store) enrolls, enrolls⟩
  | issue input =>
    cases stepped
    have idle := idle_authenticateDeviceCredential R.toRuntime input.screenId input.keyId d.store
    have enrolls : Enrolls R none _ _ _ _ := idle.enrolls ok.store
    exact ⟨(ok.withStore idle.drawn enrolls).push (fun claim h => by cases h), enrolls⟩
  | prove input data =>
    cases stepped
    have idle := idle_findDeviceProof R.toRuntime input d.store
    have enrolls : Enrolls R none _ _ _ _ := idle.enrolls ok.store
    exact ⟨(ok.withStore idle.drawn enrolls).push (fun claim h => by cases h), enrolls⟩
  | pair input audit =>
    cases stepped
    exact enrolledStep_beginClaim ok input audit
  | goOn i answer =>
    obtain ⟨phase, was, went⟩ := Option.bind_eq_some_iff.mp stepped
    exact enrolledStep_goOn ok was went

end

theorem enrolledOk_run {d d' : Devices} (ok : EnrolledOk R d) (events : List DeviceEvent)
    (ran : runDevices R d events = some d') : EnrolledOk R d' := by
  induction events generalizing d with
  | nil =>
    cases ran
    exact ok
  | cons event rest ih =>
    obtain ⟨d1, stepped, ran⟩ := Option.bind_eq_some_iff.mp ran
    exact ih (enrolledStep_of_step ok stepped).ok ran

/-! ## The law -/

/-- What a step of the calls leaves of the devices, and where a new credential comes from. -/
structure EnrollmentStep (d : Devices) (event : DeviceEvent) (d' : Devices) : Prop where
  generations : ∀ x ∈ d.store.screens, ∀ y ∈ d'.store.screens, y.id = x.id →
    x.generation ≤ y.generation
  kept : Remains LaterCredential d.store.deviceCredentials d'.store.deviceCredentials
  made : ∀ c' ∈ d'.store.deviceCredentials,
    (∃ c ∈ d.store.deviceCredentials, LaterCredential c c') ∨
      ∃ attempt grant, MadeOf (heldBy d event) d.store.toMemoryStore c' attempt grant

/-- Over every run of the calls on devices, a key is bound to one credential for good, a screen has
at most one credential in use and at most one pending grant, and its generation never falls. A
credential does not come back, and a new one is made of an attempt on a pending grant. -/
theorem an_enrollment_stays_in_order (users : List SessionUser) (events : List DeviceEvent)
    {d : Devices} (ran : runDevices R (Devices.start (storeOf users)) events = some d) :
    KeysUnique (·.keyId) d.store.deviceCredentials ∧
      (∀ org screenId, d.store.deviceCredentials.countP (isLiveOn org screenId) ≤ 1) ∧
      (∀ screenId, d.store.pairings.countP (isPendingFor screenId) ≤ 1) ∧
      ∀ event d', stepDevices R d event = some d' → EnrollmentStep d event d' := by
  have empty : EnrolledOk R (Devices.start (storeOf users)) :=
    ⟨enrollmentOk_empty R _ rfl rfl rfl rfl, fun phase member => by cases member⟩
  have ok := enrolledOk_run empty events ran
  refine ⟨ok.store.keys, ok.store.oneLive, ok.store.onePending, ?_⟩
  intro event d' stepped
  have enrolls := (enrolledStep_of_step ok stepped).enrolls
  refine ⟨?_, enrolls.grows.kept, enrolls.made⟩
  intro x hx y hy same
  rcases enrolls.grows.screens y hy with ⟨x', hx', later⟩ | fresh
  · rw [ok.store.screens.unique.eq hx hx' (same.symm.trans later.id)]
    exact later.generation
  · rw [same] at fresh
    exact absurd (ok.store.screens.drawn x hx) fresh

/-! ## An example -/

def spareKey : DeviceCredentialEnrollment :=
  { lobbyKey with keyId := "q1Xo0m3m2b0cJXhV0nq3yq8xUqgE1f6mYk0S1T2u3v4" }

def byAnn : UserMutationAuditContext :=
  { actorUserId := "ann", ipAddress := none, requestId := none }

/-- A device is paired, and an operator replaces it with another one. -/
def replacement : List DeviceEvent :=
  [.call (.tryCreatePairing "acme" posterChecksum (mondayAt 10)),
   .call (.issuePairingChallenge
     { codeHash := posterChecksum, credential := lobbyKey, challengeHashSha256 := releaseDigest,
       transcriptDigestSha256 := candidateDigest, expiresAt := mondayAt 9 + 45000 }),
   .pair { codeHash := posterChecksum, pairingAttemptId := uuid 1,
           challengeHashSha256 := releaseDigest, transcriptDigestSha256 := candidateDigest,
           keyId := lobbyKey.keyId, device := lobbyPlayer }
     { ipAddress := none, requestId := none, metadata := [] },
   .goOn 0 (.ok true),
   .call (.requestScreenReenrollment "acme" (uuid 2) candidateDigest (mondayAt 10) "Replaced"
     byAnn),
   .call (.issuePairingChallenge
     { codeHash := candidateDigest, credential := spareKey, challengeHashSha256 := assignmentDigest,
       transcriptDigestSha256 := candidateDigest, expiresAt := mondayAt 9 + 45000 }),
   .pair { codeHash := candidateDigest, pairingAttemptId := uuid 7,
           challengeHashSha256 := assignmentDigest, transcriptDigestSha256 := candidateDigest,
           keyId := spareKey.keyId, device := lobbyPlayer }
     { ipAddress := none, requestId := none, metadata := [] },
   .goOn 1 (.ok true),
   .call (.activateReenrollment "acme" (uuid 2) (uuid 5) (uuid 7) byAnn)]

theorem a_replaced_device_is_out_of_use :
    ∃ d, runDevices lobbyRuntime (Devices.start (storeOf [member "ann" .owner])) replacement =
        some d ∧ d.store.deviceCredentials.map (·.isLive) = [false, true] ∧
      d.store.screens.map (·.generation) = [2] ∧
      KeysUnique (·.keyId) d.store.deviceCredentials := by
  have ended : (runDevices lobbyRuntime (Devices.start (storeOf [member "ann" .owner]))
      replacement).map (fun d =>
        (d.store.deviceCredentials.map (·.isLive), d.store.screens.map (·.generation))) =
      some ([false, true], [2]) := by decide +kernel
  obtain ⟨d, ran, is⟩ := Option.map_eq_some_iff.mp ended
  obtain ⟨live, generations⟩ := Prod.mk.inj is
  have order := an_enrollment_stays_in_order [member "ann" .owner] replacement ran
  exact ⟨d, ran, live, generations, order.1⟩

end screengoblin.server
