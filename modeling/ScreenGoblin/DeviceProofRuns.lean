-- One-time proofs: over every run of the calls on devices, a challenge that was issued is
-- consumed by at most one proof, for the device and the request that it was issued for.
import ScreenGoblin.DeviceLineages

open js collections lineages scripts scripts.Script screengoblin.schedule

namespace screengoblin.server

variable {R : DeviceRuntime}

/-! ## Challenges that are used up -/

theorem Spent.id {c c' : DeviceAuthChallengeRecord} (h : Spent c c') : c'.id = c.id := by
  rcases h with rfl | ⟨-, t, rfl⟩
  · rfl
  · rfl

/-- A challenge that is used up stays so. -/
theorem Spent.consumed {c c' : DeviceAuthChallengeRecord} (h : Spent c c')
    (consumed : c.consumedAt.isSome = true) : c'.consumedAt.isSome = true := by
  rcases h with rfl | ⟨-, t, rfl⟩
  · exact consumed
  · rfl

/-- The store later, without a new challenge. -/
structure Spends (s s' : AuditedStore) : Prop where
  challenges : Descends Spent s.deviceAuthChallenges s'.deviceAuthChallenges
  drawn : s.idsDrawn ≤ s'.idsDrawn
  reads : s.clockReads ≤ s'.clockReads

theorem Reaches.spends {held : Option PairingClaim} {s s' : AuditedStore}
    (reaches : Reaches R held s s') : Spends s s' := by
  obtain ⟨t, change, made⟩ := reaches.changes.change
  refine ⟨?_, reaches.changes.drawn, reaches.reads⟩
  have same : s'.deviceAuthChallenges = t.deviceAuthChallenges :=
    (congrArg MemoryStore.deviceAuthChallenges made).trans rfl
  rw [same]
  exact change.challenges

theorem Idle.spends {s s' : AuditedStore} (idle : Idle s s') : Spends s s' := by
  refine ⟨?_, idle.drawn, idle.reads⟩
  rw [idle.deviceAuthChallenges]
  exact descends_refl _

/-! ## Live challenges -/

def isLiveChallenge (credentialId : String) (operation : DeviceAuthOperation) (t : Int)
    (challenge : DeviceAuthChallengeRecord) : Bool :=
  challenge.credentialId == credentialId && challenge.operation == operation &&
    challenge.consumedAt.isNone && decide (t < challenge.expiresAt)

theorem liveChallenges_length (s : MemoryStore) (credentialId : String)
    (operation : DeviceAuthOperation) (t : Int) :
    (liveChallenges s credentialId operation t).length =
      s.deviceAuthChallenges.countP (isLiveChallenge credentialId operation t) := by
  rw [List.countP_eq_length_filter]
  rfl

/-- A challenge that is live later was live before. -/
theorem Spent.live {credentialId : String} {operation : DeviceAuthOperation} {t t' : Int}
    (later : t ≤ t') {c c' : DeviceAuthChallengeRecord} (h : Spent c c')
    (live : isLiveChallenge credentialId operation t' c' = true) :
    isLiveChallenge credentialId operation t c = true := by
  unfold isLiveChallenge at *
  simp only [Bool.and_eq_true, decide_eq_true_eq] at *
  rcases h with rfl | ⟨-, consumedAt, rfl⟩
  · exact ⟨live.1, later.trans_lt live.2⟩
  · cases live.1.2

/-- Every device has at most four live challenges for an operation, from the last reading of the
clock on. -/
def AtMostFour (R : DeviceRuntime) (s : AuditedStore) : Prop :=
  ∀ t, (∀ k < s.clockReads, R.clock k ≤ t) → ∀ credentialId operation,
    (liveChallenges s.toMemoryStore credentialId operation t).length ≤ 4

theorem Spends.atMostFour {s s' : AuditedStore} (spends : Spends s s') (four : AtMostFour R s) :
    AtMostFour R s' := by
  intro t last credentialId operation
  have before := four t (fun k lt => last k (lt.trans_le spends.reads)) credentialId operation
  rw [liveChallenges_length] at *
  exact (spends.challenges.countP_le fun _ _ => Spent.live (le_refl t)).trans before

/-- A device that may have another challenge has at most three. -/
theorem atMostFour_challenged {input : DeviceAuthChallengeInput} {s s' : AuditedStore}
    {active : ActiveDevice} {challenge : DeviceAuthChallengeRecord}
    (made : Challenged R input s s' active challenge) (four : AtMostFour R s) :
    AtMostFour R s' := by
  intro t last credentialId operation
  have created : R.clock s.clockReads ≤ t := last _ (by rw [made.reads]; exact Nat.lt_succ_self _)
  have before := four t (fun k lt => last k (by rw [made.reads]; omega)) credentialId operation
  have may := made.may
  unfold mayIssueChallenge at may
  simp only [Bool.and_eq_true, decide_eq_true_eq] at may
  have few := may.2
  have challenges : s'.deviceAuthChallenges =
      (pruneOldDeviceAuthChallenges R.toPlatform (R.clock s.clockReads)
        s.toMemoryStore).deviceAuthChallenges ++ [challenge] :=
    (congrArg MemoryStore.deviceAuthChallenges made.pushed).trans rfl
  have pruned : Descends Spent s.deviceAuthChallenges (pruneOldDeviceAuthChallenges R.toPlatform
      (R.clock s.clockReads) s.toMemoryStore).deviceAuthChallenges := descends_filter _
  rw [liveChallenges_length] at *
  rw [challenges, List.countP_append, List.countP_singleton]
  by_cases own : isLiveChallenge credentialId operation t challenge = true
  · rw [if_pos own]
    unfold isLiveChallenge at own
    simp only [Bool.and_eq_true, beq_iff_eq, made.made, newDeviceAuthChallenge] at own
    rw [own.1.1.1, own.1.1.2] at few
    have kept := pruned.countP_le fun _ _ =>
      @Spent.live credentialId operation _ _ created _ _
    omega
  · rw [if_neg own]
    exact (pruned.countP_le fun _ _ => Spent.live (le_refl t)).trans before

/-! ## The invariant -/

/-- The proof of the call was accepted. -/
def DevicePhase.isAccepted : DevicePhase → Bool
  | .accepted _ _ | .proved _ (some _) => true
  | _ => false

/-- The heartbeat of the call was written. -/
def DevicePhase.hasBeaten : DevicePhase → Bool
  | .proved (some _) (some _) => true
  | _ => false

theorem isAccepted_of_hasBeaten {phase : DevicePhase} (beaten : phase.hasBeaten = true) :
    phase.isAccepted = true := by
  unfold DevicePhase.hasBeaten at beaten
  split at beaten
  · rfl
  · cases beaten

@[simp]
theorem isAccepted_current (s : MemoryStore) (phase : DevicePhase) :
    (phase.current s).isAccepted = phase.isAccepted := by
  cases phase <;> rfl

@[simp]
theorem hasBeaten_current (s : MemoryStore) (phase : DevicePhase) :
    (phase.current s).hasBeaten = phase.hasBeaten := by
  cases phase <;> rfl

theorem isAccepted_withStore (d : Devices) (s : AuditedStore) (i : Nat) :
    ((d.withStore s).phases[i]?).any (·.isAccepted) = (d.phases[i]?).any (·.isAccepted) := by
  show ((d.phases.map _)[i]?).any _ = _
  rw [List.getElem?_map, Option.any_map]
  simp only [isAccepted_current]

theorem hasBeaten_withStore (d : Devices) (s : AuditedStore) (i : Nat) :
    ((d.withStore s).phases[i]?).any (·.hasBeaten) = (d.phases[i]?).any (·.hasBeaten) := by
  show ((d.phases.map _)[i]?).any _ = _
  rw [List.getElem?_map, Option.any_map]
  simp only [hasBeaten_current]

/-- The issued challenge is for the credential, the operation and the request of the proof. -/
structure IssuedFor (challenge : DeviceAuthChallengeRecord) (input : DeviceProofInput) : Prop where
  id : challenge.id = input.challengeId
  credential : challenge.credentialId = input.credentialId
  operation : challenge.operation = input.operation
  hash : challenge.challengeHashSha256 = input.challengeHashSha256
  request : challenge.requestDigestSha256 = input.requestDigestSha256

structure ProofsOk (R : DeviceRuntime) (d : Devices) : Prop where
  unique : KeysUnique (·.id) d.store.deviceAuthChallenges
  drawn : ∀ c ∈ d.store.deviceAuthChallenges, ∃ k < d.store.idsDrawn, c.id = R.randomToken k
  issued : ∀ c ∈ d.store.deviceAuthChallenges, ∃ c0 ∈ d.issued, Spent c0 c
  acceptedDrawn : ∀ a ∈ d.accepted, ∃ k < d.store.idsDrawn, a.input.challengeId = R.randomToken k
  spent : ∀ a ∈ d.accepted, ∀ c ∈ d.store.deviceAuthChallenges, c.id = a.input.challengeId →
    c.consumedAt.isSome = true
  once : (d.accepted.map (·.input.challengeId)).Nodup
  calls : (d.accepted.map (·.call)).Nodup
  issuedFor : ∀ a ∈ d.accepted, ∃ c ∈ d.issued, IssuedFor c a.input
  four : AtMostFour R d.store
  phases : ∀ i, i ∈ d.accepted.map (·.call) ↔ (d.phases[i]?).any (·.isAccepted) = true
  beats : ∀ i, i ∈ d.beats ↔ (d.phases[i]?).any (·.hasBeaten) = true
  beatsOnce : d.beats.Nodup

theorem proofsOk_start (s : AuditedStore) (fresh : s.deviceAuthChallenges = []) :
    ProofsOk R (Devices.start s) := by
  have none : (Devices.start s).store.deviceAuthChallenges = [] := fresh
  refine ⟨?_, ?_, ?_, ?_, ?_, List.nodup_nil, List.nodup_nil, ?_, ?_, ?_, ?_, List.nodup_nil⟩
  · rw [none]
    exact List.nodup_nil
  · intro c hc
    rw [none] at hc
    cases hc
  · intro c hc
    rw [none] at hc
    cases hc
  · intro a ha
    cases ha
  · intro a ha
    cases ha
  · intro a ha
    cases ha
  · intro t _ credentialId operation
    rw [liveChallenges_length, none]
    exact Nat.zero_le 4
  · simp [Devices.start]
  · simp [Devices.start]

/-- The store moves on, and no call does. -/
theorem ProofsOk.withStore {d : Devices} (ok : ProofsOk R d) {s : AuditedStore}
    (spends : Spends d.store s) : ProofsOk R (d.withStore s) := by
  refine ⟨spends.challenges.keysUnique (fun _ _ => Spent.id) ok.unique, ?_, ?_, ?_, ?_, ok.once,
    ok.calls, ok.issuedFor, spends.atMostFour ok.four, ?_, ?_, ok.beatsOnce⟩
  · intro c hc
    obtain ⟨c0, hc0, later⟩ := spends.challenges.mem hc
    obtain ⟨k, below, named⟩ := ok.drawn c0 hc0
    exact ⟨k, below.trans_le spends.drawn, later.id.trans named⟩
  · intro c hc
    obtain ⟨c1, hc1, later⟩ := spends.challenges.mem hc
    obtain ⟨c0, hc0, before⟩ := ok.issued c1 hc1
    exact ⟨c0, hc0, IsTrans.trans _ _ _ before later⟩
  · intro a ha
    obtain ⟨k, below, named⟩ := ok.acceptedDrawn a ha
    exact ⟨k, below.trans_le spends.drawn, named⟩
  · intro a ha c hc same
    obtain ⟨c0, hc0, later⟩ := spends.challenges.mem hc
    exact later.consumed (ok.spent a ha c0 hc0 (later.id.symm.trans same))
  · intro i
    exact (ok.phases i).trans (by rw [isAccepted_withStore])
  · intro i
    exact (ok.beats i).trans (by rw [hasBeaten_withStore])

/-- A new call, which has proved nothing yet. -/
theorem ProofsOk.push {d : Devices} (ok : ProofsOk R d) {phase : DevicePhase}
    (plain : phase.isAccepted = false) (quiet : phase.hasBeaten = false) :
    ProofsOk R (d.push phase) := by
  refine ⟨ok.unique, ok.drawn, ok.issued, ok.acceptedDrawn, ok.spent, ok.once, ok.calls,
    ok.issuedFor, ok.four, ?_, ?_, ok.beatsOnce⟩
  · intro i
    show i ∈ d.accepted.map (·.call) ↔ ((d.phases ++ [phase])[i]?).any _ = true
    rw [ok.phases, List.getElem?_append]
    split
    · rfl
    · rename_i after
      rw [List.getElem?_eq_none (by omega)]
      cases i - d.phases.length with
      | zero => simp [plain]
      | succ k => simp
  · intro i
    show i ∈ d.beats ↔ ((d.phases ++ [phase])[i]?).any _ = true
    rw [ok.beats, List.getElem?_append]
    split
    · rfl
    · rename_i after
      rw [List.getElem?_eq_none (by omega)]
      cases i - d.phases.length with
      | zero => simp [quiet]
      | succ k => simp

/-- A call goes on without a new proof or a new heartbeat. -/
theorem ProofsOk.setPhase {d : Devices} (ok : ProofsOk R d) {i : Nat} {old phase : DevicePhase}
    (was : d.phases[i]? = some old) (same : phase.isAccepted = old.isAccepted)
    (quiet : phase.hasBeaten = old.hasBeaten) : ProofsOk R (d.setPhase i phase) := by
  refine ⟨ok.unique, ok.drawn, ok.issued, ok.acceptedDrawn, ok.spent, ok.once, ok.calls,
    ok.issuedFor, ok.four, ?_, ?_, ok.beatsOnce⟩
  · intro j
    show j ∈ d.accepted.map (·.call) ↔ ((d.phases.set i phase)[j]?).any _ = true
    rw [ok.phases]
    by_cases at' : i = j
    · subst at'
      rw [List.getElem?_set_self', was]
      simp [same]
    · rw [List.getElem?_set_ne at']
  · intro j
    show j ∈ d.beats ↔ ((d.phases.set i phase)[j]?).any _ = true
    rw [ok.beats]
    by_cases at' : i = j
    · subst at'
      rw [List.getElem?_set_self', was]
      simp [quiet]
    · rw [List.getElem?_set_ne at']

/-! ## New challenges -/

theorem phases_withStore {d : Devices} {i : Nat} {phase : DevicePhase} (s : AuditedStore)
    (was : d.phases[i]? = some phase) :
    (d.withStore s).phases[i]? = some (phase.current s.toMemoryStore) := by
  show (d.phases.map _)[i]? = _
  rw [List.getElem?_map, was]
  rfl

theorem ProofsOk.challenged {d : Devices} (ok : ProofsOk R d) {input : DeviceAuthChallengeInput}
    {s : AuditedStore} {active : ActiveDevice} {challenge : DeviceAuthChallengeRecord}
    (made : Challenged R input d.store s active challenge) :
    ProofsOk R { d.withStore s with issued := d.issued ++ [challenge] } := by
  have challenges : s.deviceAuthChallenges =
      (pruneOldDeviceAuthChallenges R.toPlatform (R.clock d.store.clockReads)
        d.store.toMemoryStore).deviceAuthChallenges ++ [challenge] :=
    (congrArg MemoryStore.deviceAuthChallenges made.pushed).trans rfl
  have drawn : s.idsDrawn = d.store.idsDrawn + 1 :=
    (congrArg MemoryStore.idsDrawn made.pushed).trans rfl
  have named : challenge.id = R.randomToken d.store.idsDrawn := by
    rw [made.made]
    rfl
  have new : ∀ id, (∃ k < d.store.idsDrawn, id = R.randomToken k) → id ≠ challenge.id := by
    rintro id ⟨k, below, rfl⟩ same
    rw [named] at same
    have := R.randomToken_injective same
    omega
  have old : ∀ c ∈ s.deviceAuthChallenges, c ∈ d.store.deviceAuthChallenges ∨ c = challenge := by
    intro c hc
    rw [challenges, List.mem_append, List.mem_singleton] at hc
    exact hc.imp_left fun kept => List.mem_of_mem_filter kept
  refine ⟨?_, ?_, ?_, ?_, ?_, ok.once, ok.calls, ?_, atMostFour_challenged made ok.four, ?_, ?_,
    ok.beatsOnce⟩
  · show KeysUnique _ s.deviceAuthChallenges
    rw [challenges]
    exact (ok.unique.filter _).append fun b hb => new b.id (ok.drawn b (List.mem_of_mem_filter hb))
  · intro c hc
    show ∃ k < s.idsDrawn, _
    rw [drawn]
    rcases old c hc with hc | rfl
    · obtain ⟨k, below, is⟩ := ok.drawn c hc
      exact ⟨k, by omega, is⟩
    · exact ⟨_, Nat.lt_succ_self _, named⟩
  · intro c hc
    rcases old c hc with hc | rfl
    · obtain ⟨c0, hc0, later⟩ := ok.issued c hc
      exact ⟨c0, List.mem_append_left _ hc0, later⟩
    · exact ⟨c, List.mem_append_right _ (List.mem_singleton_self c), .inl rfl⟩
  · intro a ha
    obtain ⟨k, below, is⟩ := ok.acceptedDrawn a ha
    show ∃ k < s.idsDrawn, _
    rw [drawn]
    exact ⟨k, by omega, is⟩
  · intro a ha c hc same
    rcases old c hc with hc | rfl
    · exact ok.spent a ha c hc same
    · exact absurd same.symm (new _ (ok.acceptedDrawn a ha))
  · intro a ha
    obtain ⟨c0, hc0, is⟩ := ok.issuedFor a ha
    exact ⟨c0, List.mem_append_left _ hc0, is⟩
  · intro i
    exact (ok.phases i).trans (by rw [isAccepted_withStore])
  · intro i
    exact (ok.beats i).trans (by rw [hasBeaten_withStore])

theorem proofsOk_endIssue {d : Devices} (ok : ProofsOk R d) {i : Nat}
    {input : DeviceAuthChallengeInput} {authenticated : Option ActiveDevice}
    (was : d.phases[i]? = some (.issuing input authenticated)) :
    ProofsOk R (endIssue R i input authenticated d) := by
  unfold endIssue
  have gives := issueDeviceAuthChallenge_gives (R := R) input authenticated d.store
  cases ran : issueDeviceAuthChallenge R input authenticated d.store with
  | mk result s =>
    dsimp only
    cases result with
    | error halt => exact absurd (gives.error ran) id
    | ok answer =>
      have was' := phases_withStore s was
      rcases gives.ok ran with ⟨rfl, idle⟩ | ⟨active, challenge, -, rfl, made⟩
      · show ProofsOk R { (d.withStore s).setPhase i (.issued none) with
          issued := d.issued ++ [] }
        rw [List.append_nil]
        exact (ok.withStore idle.spends).setPhase was' rfl rfl
      · exact (ok.challenged made).setPhase was' rfl rfl

/-! ## Consumption -/

/-- What `consumeDeviceProof` finds in the store, when it accepts a proof. -/
structure CurrentProof (s : MemoryStore) (input : DeviceProofInput) (lookup : ProofLookup)
    (reading consumedAt : Int) (active : ActiveDevice) (challenge : DeviceAuthChallengeRecord) :
    Prop where
  inUse : activeDeviceCredential s input.credentialId reading = some active
  named : s.deviceAuthChallenges.find? (fun c => c.id == input.challengeId) = some challenge
  same : isSameProof lookup active challenge = true
  unexpired : ∀ expiresAt, active.credential.expiresAt = some expiresAt → consumedAt < expiresAt
  credential : challenge.credentialId = input.credentialId
  organization : challenge.organizationId = active.credential.organizationId
  open' : challenge.consumedAt = none
  live : consumedAt < challenge.expiresAt
  hash : challenge.challengeHashSha256 = input.challengeHashSha256
  operation : challenge.operation = input.operation
  request : challenge.requestDigestSha256 = input.requestDigestSha256

theorem currentProof_spec {s : MemoryStore} {input : DeviceProofInput} {lookup : ProofLookup}
    {reading consumedAt : Int} {active : ActiveDevice}
    (current : currentProof s input lookup reading consumedAt = some active) :
    ∃ challenge, CurrentProof s input lookup reading consumedAt active challenge := by
  unfold currentProof at current
  cases isActive : activeDeviceCredential s input.credentialId reading with
  | none => simp [isActive] at current
  | some active' =>
    cases named : s.deviceAuthChallenges.find? (fun c => c.id == input.challengeId) with
    | none => simp [isActive, named] at current
    | some challenge =>
      simp only [isActive, named, Option.bind_eq_bind, Option.bind_some] at current
      split at current
      · rename_i fits
        cases current
        simp only [fitsProof, Bool.and_eq_true, beq_iff_eq, decide_eq_true_eq,
          Option.isNone_iff_eq_none] at fits
        obtain ⟨⟨⟨⟨same, unexpired⟩, credential⟩, organization⟩, ⟨⟨⟨open', live⟩, hash⟩, operation⟩,
          request⟩ := fits
        refine ⟨challenge, isActive, named, same, ?_, credential, organization, open', live, hash,
          operation, request⟩
        intro expiresAt is
        rw [is] at unexpired
        simpa using unexpired
      · cases current

/-- A record of the store that a search by its identifier found. -/
theorem found_id {s : MemoryStore} {id : String} {challenge : DeviceAuthChallengeRecord}
    (named : s.deviceAuthChallenges.find? (fun c => c.id == id) = some challenge) :
    challenge ∈ s.deviceAuthChallenges ∧ challenge.id = id := by
  have is := List.find?_some named
  rw [beq_iff_eq] at is
  exact ⟨List.mem_of_find?_eq_some named, is⟩

theorem consumed_spends {input : DeviceProofInput} {lookup : ProofLookup} {s s' : AuditedStore}
    {active : ActiveDevice} (consumed : Consumed R input lookup s s' active) : Spends s s' := by
  obtain ⟨challenge, current⟩ := currentProof_spec consumed.current
  refine ⟨?_, ?_, ?_⟩
  · have challenges : s'.deviceAuthChallenges = _ :=
      congrArg MemoryStore.deviceAuthChallenges consumed.consumed
    rw [challenges]
    apply descends_updateFirst
    intro c _ found
    have same : challenge = c := Option.some.inj (current.named.symm.trans found)
    subst same
    exact .inr ⟨current.open', _, rfl⟩
  · exact le_of_eq (congrArg MemoryStore.idsDrawn consumed.consumed).symm
  · rw [consumed.reads]
    exact Nat.le_add_right _ 2

/-- An accepted proof takes its challenge away from every other one. -/
theorem ProofsOk.consumed {d : Devices} (ok : ProofsOk R d) {i : Nat} {input : DeviceProofInput}
    {lookup : ProofLookup} {s : AuditedStore} {active : ActiveDevice} {old phase : DevicePhase}
    (consumed : Consumed R input lookup d.store s active) (was : d.phases[i]? = some old)
    (unaccepted : old.isAccepted = false) (accepted : phase.isAccepted = true)
    (quiet : phase.hasBeaten = old.hasBeaten) :
    ProofsOk R { (d.withStore s).setPhase i phase with
      accepted := d.accepted ++
        [{ call := i, input := input, active := active,
           consumedAt := R.clock (d.store.clockReads + 1) }] } := by
  obtain ⟨challenge, current⟩ := currentProof_spec consumed.current
  obtain ⟨member, named⟩ := found_id current.named
  have later := ok.withStore (consumed_spends consumed)
  have spent : ∀ c ∈ s.deviceAuthChallenges, c.id = input.challengeId →
      c.consumedAt.isSome = true := by
    intro c hc same
    rw [congrArg MemoryStore.deviceAuthChallenges consumed.consumed] at hc
    rcases mem_updateFirst_of_unique (f := fun c => { c with
      consumedAt := some (R.clock (d.store.clockReads + 1)) }) ok.unique (fun _ => rfl)
      current.named hc with rfl | ⟨-, other⟩
    · rfl
    · exact absurd (same.trans named.symm) other
  refine ⟨later.unique, later.drawn, later.issued, ?_, ?_, ?_, ?_, ?_, later.four, ?_, ?_,
    later.beatsOnce⟩
  · intro a ha
    rcases List.mem_append.mp ha with ha | ha
    · exact later.acceptedDrawn a ha
    · rw [List.mem_singleton.mp ha]
      obtain ⟨k, below, is⟩ := ok.drawn challenge member
      exact ⟨k, below.trans_le (consumed_spends consumed).drawn, named.symm.trans is⟩
  · intro a ha c hc same
    rcases List.mem_append.mp ha with ha | ha
    · exact later.spent a ha c hc same
    · rw [List.mem_singleton.mp ha] at same
      exact spent c hc same
  · show ((d.accepted ++ [_]).map _).Nodup
    rw [List.map_append, List.nodup_append]
    refine ⟨ok.once, by simp, ?_⟩
    intro id before id' now same
    obtain ⟨a, ha, rfl⟩ := List.mem_map.mp before
    rw [List.map_singleton, List.mem_singleton] at now
    have dead := ok.spent a ha challenge member (named.trans (now.symm.trans same.symm))
    rw [current.open'] at dead
    cases dead
  · show ((d.accepted ++ [_]).map _).Nodup
    rw [List.map_append, List.nodup_append]
    refine ⟨ok.calls, by simp, ?_⟩
    intro j before j' now same
    rw [List.map_singleton, List.mem_singleton] at now
    rw [ok.phases, same.trans now, was] at before
    rw [Option.any_some, unaccepted] at before
    cases before
  · intro a ha
    rcases List.mem_append.mp ha with ha | ha
    · exact ok.issuedFor a ha
    · rw [List.mem_singleton.mp ha]
      obtain ⟨c0, hc0, before⟩ := ok.issued challenge member
      refine ⟨c0, hc0, ?_⟩
      rcases before with rfl | ⟨-, t, rfl⟩
      · exact ⟨named, current.credential, current.operation, current.hash, current.request⟩
      · exact ⟨named, current.credential, current.operation, current.hash, current.request⟩
  · intro j
    show j ∈ (d.accepted ++ [_]).map _ ↔ (((d.withStore s).phases.set i phase)[j]?).any _ = true
    rw [List.map_append, List.mem_append, List.map_singleton, List.mem_singleton, ok.phases]
    by_cases at' : i = j
    · subst at'
      rw [List.getElem?_set_self', phases_withStore s was]
      simp [accepted]
    · rw [List.getElem?_set_ne at', isAccepted_withStore]
      simp [Ne.symm at']
  · intro j
    show j ∈ d.beats ↔ (((d.withStore s).phases.set i phase)[j]?).any _ = true
    rw [ok.beats]
    by_cases at' : i = j
    · subst at'
      rw [List.getElem?_set_self', phases_withStore s was, was]
      simp [quiet]
    · rw [List.getElem?_set_ne at', hasBeaten_withStore]

theorem proofsOk_endProof {d : Devices} (ok : ProofsOk R d) {i : Nat} {input : DeviceProofInput}
    {data : Option HeartbeatUpdateInput} {lookup : Option ProofLookup} (verified : Bool)
    (was : d.phases[i]? = some (.proving input data lookup)) :
    ProofsOk R (endProof R i input data lookup verified d) := by
  unfold endProof
  have gives := consumeDeviceProof_gives (R := R) input lookup verified d.store
  cases ran : consumeDeviceProof R.toRuntime input lookup verified d.store with
  | mk result s =>
    dsimp only
    cases result with
    | error halt => exact absurd (gives.error ran) id
    | ok answer =>
      rcases gives.ok ran with ⟨rfl, idle⟩ | ⟨found, active, -, -, rfl, consumed⟩
      · exact (ok.withStore idle.spends).setPhase (phases_withStore s was) (by cases data <;> rfl)
          (by cases data <;> rfl)
      · exact ok.consumed consumed was rfl rfl rfl

/-! ## Heartbeats -/

theorem recordHeartbeat_ok (data : HeartbeatUpdateInput) (active : ActiveDevice)
    (s : AuditedStore) : ∃ shown, (recordHeartbeat R.toRuntime data active s).1 = .ok shown :=
  ⟨_, rfl⟩

theorem ProofsOk.beat {d : Devices} (ok : ProofsOk R d) {i : Nat} {data : HeartbeatUpdateInput}
    {active : ActiveDevice} (shown : ActiveDevice)
    (was : d.phases[i]? = some (.accepted (some data) active)) :
    ProofsOk R { d.setPhase i (.proved (some data) (some shown)) with
      beats := d.beats ++ [i] } := by
  refine ⟨ok.unique, ok.drawn, ok.issued, ok.acceptedDrawn, ok.spent, ok.once, ok.calls,
    ok.issuedFor, ok.four, ?_, ?_, ?_⟩
  · intro j
    show j ∈ d.accepted.map (·.call) ↔ ((d.phases.set i _)[j]?).any _ = true
    rw [ok.phases]
    by_cases at' : i = j
    · subst at'
      rw [List.getElem?_set_self', was]
      simp [DevicePhase.isAccepted]
    · rw [List.getElem?_set_ne at']
  · intro j
    show j ∈ d.beats ++ [i] ↔ ((d.phases.set i _)[j]?).any _ = true
    rw [List.mem_append, List.mem_singleton, ok.beats]
    by_cases at' : i = j
    · subst at'
      rw [List.getElem?_set_self', was]
      simp [DevicePhase.hasBeaten]
    · rw [List.getElem?_set_ne at']
      simp [Ne.symm at']
  · show (d.beats ++ [i]).Nodup
    rw [List.nodup_append]
    refine ⟨ok.beatsOnce, List.nodup_singleton i, ?_⟩
    intro j before j' now same
    rw [List.mem_singleton] at now
    rw [ok.beats, same.trans now, was] at before
    cases before

theorem proofsOk_endAccepted {d : Devices} (ok : ProofsOk R d) {i : Nat}
    {data : Option HeartbeatUpdateInput} {active : ActiveDevice}
    (was : d.phases[i]? = some (.accepted data active)) :
    ProofsOk R (endAccepted R i data active d) := by
  cases data with
  | none => exact ok.setPhase was rfl rfl
  | some data =>
    unfold endAccepted
    dsimp only
    have performs : Performs R none d.store (recordHeartbeat R.toRuntime data active) d.store :=
      recordHeartbeat_performs data active d.store
    obtain ⟨shown, answers⟩ := recordHeartbeat_ok (R := R) data active d.store
    cases ran : recordHeartbeat R.toRuntime data active d.store with
    | mk result s =>
      rw [ran] at answers
      dsimp only at answers ⊢
      subst answers
      exact (ok.withStore (performs.ok ran).spends).beat shown (phases_withStore s was)

/-! ## Steps -/

theorem proofsOk_endClaim {d : Devices} (ok : ProofsOk R d) {i : Nat} {input : PairingProofInput}
    {audit : PairingClaimAuditContext} {claim : PairingClaim} (verified : Bool)
    (was : d.phases[i]? = some (.claiming input audit claim)) :
    ProofsOk R (endClaim R i input audit claim verified d) := by
  unfold endClaim
  have reaches := settlePairingClaim_performs (R := R) input audit claim verified d.store
  cases ran : settlePairingClaim R.toRuntime input audit claim verified d.store with
  | mk result s =>
    have spends : Spends d.store s := by
      cases result with
      | ok outcome => exact (reaches.ok ran).spends
      | error halt => exact (reaches.error ran).spends
    exact (ok.withStore spends).setPhase (phases_withStore s was) rfl rfl

theorem Elsewhere.spends (elsewhere : Elsewhere) (s : AuditedStore) :
    Spends s (elsewhere.change s) := by
  refine ⟨?_, elsewhere.idsDrawn s, elsewhere.clockReads s⟩
  rw [elsewhere.deviceAuthChallenges]
  exact descends_refl _

theorem beginClaim_begins (input : PairingProofInput) (audit : PairingClaimAuditContext)
    (d : Devices) : ∃ phase, phase.isAccepted = false ∧ phase.hasBeaten = false ∧
      beginClaim input audit d = (d.withStore (findPairingClaim input d.store).2).push phase := by
  unfold beginClaim
  cases findPairingClaim input d.store with
  | mk claim s =>
    cases claim with
    | ok claim => exact ⟨_, rfl, rfl, rfl⟩
    | error halt => exact ⟨_, rfl, rfl, rfl⟩

theorem proofsOk_goOn {d d' : Devices} (ok : ProofsOk R d) {i : Nat} {verified : Except String Bool}
    {phase : DevicePhase} (was : d.phases[i]? = some phase)
    (went : goOn R i verified d phase = some d') : ProofsOk R d' := by
  cases phase with
  | issuing input authenticated =>
    cases went
    exact proofsOk_endIssue ok was
  | accepted data active =>
    cases went
    exact proofsOk_endAccepted ok was
  | proving input data lookup =>
    cases lookup with
    | none =>
      cases went
      exact proofsOk_endProof ok false was
    | some lookup =>
      cases verified with
      | ok verified =>
        cases went
        exact proofsOk_endProof ok verified was
      | error reason =>
        cases went
        exact ok.setPhase was rfl rfl
  | claiming input audit claim =>
    cases verified with
    | ok verified =>
      cases went
      exact proofsOk_endClaim ok verified was
    | error reason =>
      cases went
      exact ok.setPhase was rfl rfl
  | issued challenge => cases went
  | proved data active => cases went
  | claimed outcome => cases went
  | rejected => cases went

theorem proofsOk_step {d d' : Devices} (ok : ProofsOk R d) {event : DeviceEvent}
    (stepped : stepDevices R d event = some d') : ProofsOk R d' := by
  cases event with
  | call call =>
    cases stepped
    exact ok.withStore (deviceCall_reaches call d.store).spends
  | elsewhere change =>
    cases stepped
    exact ok.withStore (change.spends d.store)
  | issue input =>
    cases stepped
    exact (ok.withStore (idle_authenticateDeviceCredential R.toRuntime input.screenId input.keyId
      d.store).spends).push rfl rfl
  | prove input data =>
    cases stepped
    exact (ok.withStore (idle_findDeviceProof R.toRuntime input d.store).spends).push rfl rfl
  | pair input audit =>
    cases stepped
    obtain ⟨phase, plain, quiet, begun⟩ := beginClaim_begins input audit d
    rw [begun]
    exact (ok.withStore (idle_findPairingClaim input d.store).spends).push plain quiet
  | goOn i verified =>
    obtain ⟨phase, was, went⟩ := Option.bind_eq_some_iff.mp stepped
    exact proofsOk_goOn ok was went

theorem proofsOk_run {d d' : Devices} (ok : ProofsOk R d) (events : List DeviceEvent)
    (ran : runDevices R d events = some d') : ProofsOk R d' := by
  induction events generalizing d with
  | nil =>
    cases ran
    exact ok
  | cons event rest ih =>
    obtain ⟨d1, stepped, ran⟩ := Option.bind_eq_some_iff.mp ran
    exact ih (proofsOk_step ok stepped) ran

/-! ## What a step accepts -/

/-- The step accepts this proof. Its signature was verified, and the credential, the screen and
the challenge are in the store and are the ones that it was verified for. -/
structure Accepts (d : Devices) (event : DeviceEvent) (a : Acceptance) : Prop where
  verified : event = .goOn a.call (.ok true)
  waited : ∃ data lookup, d.phases[a.call]? = some (.proving a.input data (some lookup)) ∧
    a.active.screen.id = lookup.active.screen.id ∧
    a.active.generation = lookup.active.generation
  credential : a.active.credential ∈ d.store.deviceCredentials
  named : a.active.credential.id = a.input.credentialId
  live : a.active.credential.isLive = true
  unexpired : ∀ expiresAt, a.active.credential.expiresAt = some expiresAt →
    a.consumedAt < expiresAt
  screen : a.active.screen ∈ d.store.screens
  own : isScreen a.active.credential.organizationId a.active.credential.screenId
    a.active.screen = true
  challenge : ∃ c ∈ d.store.deviceAuthChallenges, IssuedFor c a.input ∧
    c.organizationId = a.active.credential.organizationId ∧ c.consumedAt = none ∧
    a.consumedAt < c.expiresAt

/-- The step writes the heartbeat of this call. -/
def Beats (d d' : Devices) (event : DeviceEvent) (i : Nat) : Prop :=
  ∃ verified data active lastSeenAt updatedAt, event = .goOn i verified ∧
    d.phases[i]? = some (.accepted (some data) active) ∧
    d'.store.screens = updateFirst (fun screen => screen.id == active.screen.id)
      (data.apply lastSeenAt updatedAt) d.store.screens

/-- What a step adds to the proofs and to the heartbeats. -/
structure ProofStep (d : Devices) (event : DeviceEvent) (d' : Devices) : Prop where
  accepted : d'.accepted = d.accepted ∨ ∃ a, Accepts d event a ∧ d'.accepted = d.accepted ++ [a]
  beats : d'.beats = d.beats ∨ ∃ i, Beats d d' event i ∧ d'.beats = d.beats ++ [i]
  /-- A call whose proof is verified changes no screen. -/
  silent : ∀ i verified input data lookup, event = .goOn i verified →
    d.phases[i]? = some (.proving input data lookup) → d'.store.screens = d.store.screens

theorem activeDeviceCredential_spec {s : MemoryStore} {credentialId : String} {reading : Int}
    {active : ActiveDevice} (inUse : activeDeviceCredential s credentialId reading = some active) :
    active.credential ∈ s.deviceCredentials ∧ active.credential.id = credentialId ∧
      isInUse reading active.credential = true ∧ active.screen ∈ s.screens ∧
      isScreen active.credential.organizationId active.credential.screenId
        active.screen = true := by
  unfold activeDeviceCredential at inUse
  obtain ⟨credential, used, inUse⟩ := Option.bind_eq_some_iff.mp inUse
  obtain ⟨screen, found, inUse⟩ := Option.bind_eq_some_iff.mp inUse
  cases inUse
  have is := List.find?_some used
  rw [Bool.and_eq_true, beq_iff_eq] at is
  exact ⟨List.mem_of_find?_eq_some used, is.1, is.2, List.mem_of_find?_eq_some found,
    List.find?_some found⟩

theorem isLive_of_isInUse {reading : Int} {credential : DeviceCredentialRecord}
    (used : isInUse reading credential = true) : credential.isLive = true := by
  unfold isInUse at used
  rw [Bool.and_eq_true] at used
  exact used.1

theorem accepts_of_consumed {d : Devices} {i : Nat} {input : DeviceProofInput}
    {data : Option HeartbeatUpdateInput} {lookup : ProofLookup} {s : AuditedStore}
    {active : ActiveDevice} (was : d.phases[i]? = some (.proving input data (some lookup)))
    (consumed : Consumed R input lookup d.store s active) :
    Accepts d (.goOn i (.ok true))
      ⟨i, input, active, R.clock (d.store.clockReads + 1)⟩ := by
  obtain ⟨challenge, current⟩ := currentProof_spec consumed.current
  obtain ⟨credential, named, used, screen, own⟩ := activeDeviceCredential_spec current.inUse
  obtain ⟨member, is⟩ := found_id current.named
  have same := current.same
  simp only [isSameProof, Bool.and_eq_true, beq_iff_eq] at same
  exact {
    verified := rfl
    waited := ⟨data, lookup, was, same.1.1.2, same.1.2⟩
    credential := credential
    named := named
    live := isLive_of_isInUse used
    unexpired := current.unexpired
    screen := screen
    own := own
    challenge := ⟨challenge, member, ⟨is, current.credential, current.operation, current.hash,
      current.request⟩, current.organization, current.open', current.live⟩ }

/-- A step that accepts nothing and writes no heartbeat. -/
theorem proofStep_plain {d d' : Devices} {event : DeviceEvent} (accepted : d'.accepted = d.accepted)
    (beats : d'.beats = d.beats)
    (silent : ∀ i verified input data lookup, event = .goOn i verified →
      d.phases[i]? ≠ some (.proving input data lookup)) : ProofStep d event d' :=
  ⟨.inl accepted, .inl beats, fun i verified input data lookup is was =>
    absurd was (silent i verified input data lookup is)⟩

theorem proofStep_endProof {d : Devices} {i : Nat} {input : DeviceProofInput}
    {data : Option HeartbeatUpdateInput} {lookup : Option ProofLookup} {verified : Bool}
    {answer : Except String Bool} (said : lookup.isSome = true → answer = .ok verified)
    (was : d.phases[i]? = some (.proving input data lookup)) :
    ProofStep d (.goOn i answer) (endProof R i input data lookup verified d) := by
  unfold endProof
  have gives := consumeDeviceProof_gives (R := R) input lookup verified d.store
  cases ran : consumeDeviceProof R.toRuntime input lookup verified d.store with
  | mk result s =>
    dsimp only
    cases result with
    | error halt => exact absurd (gives.error ran) id
    | ok value =>
      rcases gives.ok ran with ⟨rfl, idle⟩ | ⟨found, active, rfl, rfl, rfl, consumed⟩
      · exact ⟨.inl rfl, .inl rfl, fun _ _ _ _ _ _ _ => idle.screens⟩
      · rw [said rfl]
        refine ⟨.inr ⟨_, accepts_of_consumed was consumed, rfl⟩, .inl rfl, fun _ _ _ _ _ _ _ => ?_⟩
        exact (congrArg MemoryStore.screens consumed.consumed).trans rfl

theorem proofStep_endAccepted {d : Devices} {i : Nat} {data : Option HeartbeatUpdateInput}
    {active : ActiveDevice} {answer : Except String Bool}
    (was : d.phases[i]? = some (.accepted data active)) :
    ProofStep d (.goOn i answer) (endAccepted R i data active d) := by
  have silent : ∀ j verified input data lookup, DeviceEvent.goOn i answer = .goOn j verified →
      d.phases[j]? ≠ some (.proving input data lookup) := by
    intro j verified input data lookup is now
    cases is
    cases was.symm.trans now
  cases data with
  | none => exact proofStep_plain rfl rfl silent
  | some data =>
    refine ⟨.inl rfl, .inr ⟨i, ?_, rfl⟩, fun j verified input data lookup is now =>
      absurd now (silent j verified input data lookup is)⟩
    exact ⟨answer, data, active, _, _, rfl, was, rfl⟩

theorem proofStep_goOn {d d' : Devices} {i : Nat} {answer : Except String Bool}
    {phase : DevicePhase} (was : d.phases[i]? = some phase)
    (went : goOn R i answer d phase = some d') : ProofStep d (.goOn i answer) d' := by
  have other : (∀ input data lookup, phase ≠ .proving input data lookup) →
      ∀ j verified input data lookup, DeviceEvent.goOn i answer = .goOn j verified →
        d.phases[j]? ≠ some (.proving input data lookup) := by
    intro plain j verified input data lookup is now
    cases is
    exact plain input data lookup (Option.some.inj (was.symm.trans now))
  cases phase with
  | issuing input authenticated =>
    cases went
    exact proofStep_plain rfl rfl (other fun _ _ _ h => by cases h)
  | accepted data active =>
    cases went
    exact proofStep_endAccepted was
  | proving input data lookup =>
    cases lookup with
    | none =>
      cases went
      exact proofStep_endProof (fun h => by cases h) was
    | some lookup =>
      cases answer with
      | ok verified =>
        cases went
        exact proofStep_endProof (fun _ => rfl) was
      | error reason =>
        cases went
        exact ⟨.inl rfl, .inl rfl, fun _ _ _ _ _ _ _ => rfl⟩
  | claiming input audit claim =>
    cases answer with
    | ok verified =>
      cases went
      exact proofStep_plain rfl rfl (other fun _ _ _ h => by cases h)
    | error reason =>
      cases went
      exact proofStep_plain rfl rfl (other fun _ _ _ h => by cases h)
  | issued challenge => cases went
  | proved data active => cases went
  | claimed outcome => cases went
  | rejected => cases went

theorem proofStep_of_step {d d' : Devices} {event : DeviceEvent}
    (stepped : stepDevices R d event = some d') : ProofStep d event d' := by
  cases event with
  | goOn i answer =>
    obtain ⟨phase, was, went⟩ := Option.bind_eq_some_iff.mp stepped
    exact proofStep_goOn was went
  | pair input audit =>
    cases stepped
    obtain ⟨phase, -, -, begun⟩ := beginClaim_begins input audit d
    rw [begun]
    exact proofStep_plain rfl rfl fun _ _ _ _ _ h => by cases h
  | call call =>
    cases stepped
    exact proofStep_plain rfl rfl fun _ _ _ _ _ h => by cases h
  | elsewhere change =>
    cases stepped
    exact proofStep_plain rfl rfl fun _ _ _ _ _ h => by cases h
  | issue input =>
    cases stepped
    exact proofStep_plain rfl rfl fun _ _ _ _ _ h => by cases h
  | prove input data =>
    cases stepped
    exact proofStep_plain rfl rfl fun _ _ _ _ _ h => by cases h

/-- Over every run of the calls on devices, a challenge is consumed at most once, by a proof for
the credential, the operation and the request that it was issued for. Each accepted proof was
verified for the records that the store holds then, and a call writes its heartbeat once, after
its proof was accepted. A device has at most four challenges at a time that it can still use. -/
theorem a_device_proof_is_accepted_once (events : List DeviceEvent) (s : AuditedStore)
    (fresh : s.deviceAuthChallenges = []) {d : Devices}
    (ran : runDevices R (Devices.start s) events = some d) :
    (d.accepted.map (·.input.challengeId)).Nodup ∧
      (∀ a ∈ d.accepted, ∃ c ∈ d.issued, IssuedFor c a.input) ∧
      (d.accepted.map (·.call)).Nodup ∧ d.beats.Nodup ∧
      (∀ i ∈ d.beats, i ∈ d.accepted.map (·.call)) ∧ AtMostFour R d.store ∧
      ∀ event d', stepDevices R d event = some d' → ProofStep d event d' := by
  have ok := proofsOk_run (proofsOk_start s fresh) events ran
  refine ⟨ok.once, ok.issuedFor, ok.calls, ok.beatsOnce, ?_, ok.four, fun event d' stepped =>
    proofStep_of_step stepped⟩
  intro i beaten
  rw [ok.beats, Option.any_eq_true] at beaten
  obtain ⟨phase, was, has⟩ := beaten
  rw [ok.phases, was, Option.any_some]
  exact isAccepted_of_hasBeaten has

/-! ## An example -/

def lobbyRuntime : DeviceRuntime :=
  { cmsRuntime with randomToken := uuid, randomToken_injective := uuid_injective }

def lobbyKey : DeviceCredentialEnrollment :=
  { keyId := "NzbLsXh8uDCcd-6MNwXF4W_7noWXFZAfHkxZsRGC9Xs", publicKeySpki := "MFkwEwYHKoZIzj0CAQY",
    securityLevel := .strongbox, expiresAt := none }

def lobbyPlayer : DeviceMetadata :=
  { installationId := "player-1", model := "Box", osVersion := "14", playerVersion := "1.4.0" }

def lobbyBeat : HeartbeatUpdateInput :=
  { playerVersion := "1.4.0", manifestVersion := none, nowPlayingAssetId := none,
    uptimeSeconds := 60, freeStorageBytes := 1024, networkType := "ethernet" }

def lobbyProof : DeviceProofInput :=
  { credentialId := uuid 3, challengeId := uuid 5, challengeHashSha256 := releaseDigest,
    operation := .heartbeat, requestDigestSha256 := candidateDigest }

/-- A device is paired and gets a challenge, and two calls prove the same one. -/
def twoProofs : List DeviceEvent :=
  [.call (.tryCreatePairing "acme" posterChecksum (mondayAt 10)),
   .call (.issuePairingChallenge
     { codeHash := posterChecksum, credential := lobbyKey, challengeHashSha256 := releaseDigest,
       transcriptDigestSha256 := candidateDigest, expiresAt := mondayAt 9 + 45000 }),
   .pair { codeHash := posterChecksum, pairingAttemptId := uuid 1,
           challengeHashSha256 := releaseDigest, transcriptDigestSha256 := candidateDigest,
           keyId := lobbyKey.keyId, device := lobbyPlayer }
     { ipAddress := none, requestId := none, metadata := [] },
   .goOn 0 (.ok true),
   .issue { screenId := uuid 2, keyId := lobbyKey.keyId, challengeHashSha256 := releaseDigest,
            operation := .heartbeat, requestDigestSha256 := candidateDigest,
            expiresAt := mondayAt 9 + 60000 },
   .goOn 1 (.ok true),
   .prove lobbyProof (some lobbyBeat), .prove lobbyProof (some lobbyBeat),
   .goOn 3 (.ok true), .goOn 2 (.ok true), .goOn 3 (.ok true)]

theorem one_of_two_proofs_is_accepted :
    ∃ d, runDevices lobbyRuntime (Devices.start (storeOf [])) twoProofs = some d ∧
      d.accepted.map (·.call) = [3] ∧ d.beats = [3] ∧
      (d.accepted.map (·.input.challengeId)).Nodup := by
  have ended : (runDevices lobbyRuntime (Devices.start (storeOf [])) twoProofs).map (fun d =>
      (d.accepted.map (·.call), d.beats)) = some ([3], [3]) := by decide +kernel
  obtain ⟨d, ran, is⟩ := Option.map_eq_some_iff.mp ended
  obtain ⟨accepted, beats⟩ := Prod.mk.inj is
  have once := a_device_proof_is_accepted_once twoProofs (storeOf []) rfl ran
  exact ⟨d, ran, accepted, beats, once.1⟩

end screengoblin.server
