-- One lemma for each operation on devices: the change that it ends with.
import ScreenGoblin.DeviceSteps

open js collections scripts scripts.Script screengoblin.schedule

namespace screengoblin.server

variable {R : DeviceRuntime} {held : Option PairingClaim}

/-! ## Codes without a target -/

theorem tryCreatePairing_performs (org codeHash : String) (expiresAt : Int) (s : AuditedStore) :
    Performs R held s (tryCreatePairing R.toRuntime org codeHash expiresAt) s := by
  refine performs_bind (idle_now R.toRuntime) (Idle.refl s) fun currentTime s1 idle => ?_
  unfold Performs
  rw [gives_bind, gives_changeStore, gives_bind, gives_look, gives_bind, gives_refuseIf]
  refine ⟨fun _ => ?_, fun _ => ?_⟩
  · unfold drawId
    rw [gives_bind, gives_draw]
    dsimp only
    rw [gives_bind, gives_changeStore, gives_pure]
    refine ⟨⟨⟨_, .codeCreated s1.idsDrawn org codeHash expiresAt currentTime idle.drawn
      (Nat.lt_succ_self _), ?_⟩, idle.drawn.trans (Nat.le_succ _)⟩, idle.reads⟩
    show pushGrant _ { expireCode codeHash currentTime s1.toMemoryStore with
      idsDrawn := s1.idsDrawn + 1 } = _
    rw [idle.same]
    rfl
  · refine reaches_of_change idle (.codeExpired codeHash currentTime) ?_ (le_refl _)
    show expireCode codeHash currentTime s1.toMemoryStore = _
    rw [idle.same]
    rfl

theorem tryCreatePairingAndAudit_performs (org codeHash : String) (expiresAt : Int)
    (audit : UserMutationAuditContext) (s : AuditedStore) :
    Performs R held s (tryCreatePairingAndAudit R.toRuntime org codeHash expiresAt audit) s := by
  refine performs_bind (idle_found _ _) (Idle.refl s) fun _ s1 idle1 => ?_
  refine performs_bind (idle_now R.toRuntime) idle1 fun currentTime s2 idle2 => ?_
  have idle2 := idle1.trans idle2
  refine performs_look ?_
  refine performs_refuseIf idle2 fun _ => ?_
  refine performs_drawId fun s3 idle3 below => ?_
  refine performs_bind (idle_buildAuditRecord _ _) (idle2.trans idle3) fun _ s4 idle4 => ?_
  exact performs_changes ((idle2.trans idle3).trans idle4)
    (.codeCreated s2.idsDrawn org codeHash expiresAt currentTime idle2.drawn
      (below.trans_le idle4.drawn)) rfl (quiet_return _ _)

theorem idle_claimablePairing (R : Runtime) (codeHash : String) :
    Stays Idle (claimablePairing R codeHash) :=
  stays_bind (idle_now R) fun _ => idle_found _ _

theorem claimPairing_performs (codeHash : String) (device : DeviceMetadata) (tokenHash : String)
    (s : AuditedStore) :
    Performs R held s (claimPairing R.toRuntime codeHash device tokenHash) s := by
  unfold claimPairing claimPairingRecord
  refine performs_bind (idle_claimablePairing _ _) (Idle.refl s) fun pairing s1 idle1 => ?_
  refine performs_bind (idle_now R.toRuntime) idle1 fun timestamp s2 idle2 => ?_
  have idle2 := idle1.trans idle2
  refine performs_drawId fun s3 idle3 below => ?_
  exact performs_change (idle2.trans idle3)
    (.codeClaimed s2.idsDrawn pairing device tokenHash timestamp idle2.drawn below) rfl
    (stays_pure _)

theorem claimPairingAndAudit_performs (codeHash : String) (device : DeviceMetadata)
    (tokenHash : String) (audit : PairingClaimAuditContext) (s : AuditedStore) :
    Performs R held s (claimPairingAndAudit R.toRuntime codeHash device tokenHash audit) s := by
  refine performs_bind (idle_claimablePairing _ _) (Idle.refl s) fun _ s1 idle1 => ?_
  refine performs_drawId fun s2 idle2 below => ?_
  have drawn := idle1.drawn
  have idle2 := idle1.trans idle2
  refine performs_bind (idle_now R.toRuntime) idle2 fun timestamp s3 idle3 => ?_
  have below := below.trans_le idle3.drawn
  have idle3 := idle2.trans idle3
  refine performs_bind (idle_buildAuditRecord _ _) idle3 fun auditRecord s4 idle4 => ?_
  have below := below.trans_le idle4.drawn
  have idle4 := idle3.trans idle4
  refine Performs.quiet ?_ fun screen => quiet_return _ _
  unfold claimPairingRecord
  refine performs_bind (idle_claimablePairing _ _) idle4 fun pairing s5 idle5 => ?_
  refine performs_pure_bind ?_
  refine performs_pure_bind ?_
  exact performs_change (idle4.trans idle5)
    (.codeClaimed s1.idsDrawn pairing device tokenHash timestamp drawn
      (below.trans_le idle5.drawn)) rfl (stays_pure _)

/-! ## Enrollment -/

theorem requestScreenReenrollmentAndAudit_performs (org screenId codeHash : String)
    (expiresAt : Int) (reason : String) (audit : UserMutationAuditContext) (s : AuditedStore) :
    Performs R held s (requestScreenReenrollmentAndAudit R.toRuntime org screenId codeHash expiresAt
      reason audit) s := by
  refine performs_bind (idle_deviceActor _ _) (Idle.refl s) fun actor s1 idle1 => ?_
  refine performs_found idle1 fun screen found => ?_
  refine performs_bind (idle_now R.toRuntime) idle1 fun timestamp s2 idle2 => ?_
  have idle2 := idle1.trans idle2
  refine performs_look ?_
  refine performs_refuseIf idle2 fun _ => ?_
  refine performs_look ?_
  refine performs_drawId fun s3 idle3 below => ?_
  refine performs_bind (idle_buildAuditRecord _ _) (idle2.trans idle3) fun _ s4 idle4 => ?_
  rw [idle1.screens] at found
  exact performs_change ((idle2.trans idle3).trans idle4)
    (.reenrollmentBegun s2.idsDrawn org screenId codeHash screen expiresAt actor _ reason
      timestamp found idle2.drawn (below.trans_le idle4.drawn)) rfl (quiet_return _ _)

theorem idle_earlierResponse (existing : EnrollmentIdempotencyRecord)
    (actorUserId requestDigestSha256 : String) (timestamp : Int) :
    Stays Idle (earlierResponse existing actorUserId requestDigestSha256 timestamp) :=
  stays_bind (stays_ensure _ _) fun _ => stays_bind (stays_ensure _ _) fun _ => idle_found _ _

theorem replayEnrollment_performs (org : String) (existing : EnrollmentIdempotencyRecord)
    (audit : UserMutationAuditContext) (idempotency : ScreenEnrollmentIdempotencyInput)
    (timestamp : Int) {s0 s : AuditedStore} (before : Idle s0 s) : Performs R held s0
      (replayEnrollment R.toRuntime org existing audit idempotency timestamp) s := by
  refine performs_bind (idle_earlierResponse _ _ _ _) before fun response s1 idle1 => ?_
  have idle1 := before.trans idle1
  cases response with
  | bound credentialId => exact performs_refuse idle1 _
  | granted grantId codeCounter =>
    refine performs_found idle1 fun pairing _ => ?_
    exact performs_change idle1 (.pruned org timestamp _) rfl
      (stays_bind (stays_look _) fun _ => stays_pure _)

theorem requestScreenEnrollmentAndAudit_performs (org screenId reason : String)
    (audit : UserMutationAuditContext) (idempotency : ScreenEnrollmentIdempotencyInput)
    (s : AuditedStore) : Performs R held s
      (requestScreenEnrollmentAndAudit R.toRuntime org screenId reason audit idempotency) s := by
  refine performs_bind (idle_deviceActor _ _) (Idle.refl s) fun actor s1 idle1 => ?_
  refine performs_bind (idle_now R.toRuntime) idle1 fun timestamp s2 idle2 => ?_
  have idle2 := idle1.trans idle2
  refine performs_look ?_
  cases earlierCall .create org idempotency.keyHash s2.toMemoryStore with
  | some existing => exact replayEnrollment_performs org existing audit idempotency timestamp idle2
  | none =>
    refine performs_found idle2 fun target found => ?_
    refine performs_look ?_
    refine performs_refuseIf idle2 fun eligible => ?_
    refine performs_found idle2 fun selected _ => ?_
    refine performs_drawId fun s3 idle3 below => ?_
    refine performs_bind (idle_buildAuditRecord _ _) (idle2.trans idle3) fun _ s4 idle4 => ?_
    rw [idle2.screens] at found
    rw [idle2.same, Bool.not_eq_false'] at eligible
    have unenrolled : isUnenrolled s.toMemoryStore org target = true := eligible
    exact performs_change ((idle2.trans idle3).trans idle4)
      (.enrollmentBegun s2.idsDrawn org screenId selected.codeHash target
        (timestamp + 10 * 60000) actor reason idempotency.keyHash
        idempotency.requestDigestSha256 selected.counter timestamp found unenrolled idle2.drawn
        (below.trans_le idle4.drawn)) rfl (quiet_return _ _)

theorem issuePairingChallenge_performs (input : PairingChallengeInput) (s : AuditedStore) :
    Performs R held s (issuePairingChallenge R input) s := by
  refine performs_bind (idle_now R.toRuntime) (Idle.refl s) fun reading s1 idle1 => ?_
  refine performs_look ?_
  refine performs_bind (idle_now R.toRuntime) idle1 fun createdAt s2 idle2 => ?_
  have idle := idle1.trans idle2
  refine performs_look ?_
  cases fits : (s1.pairings.find? (isPendingCode input.codeHash reading)).filter
      (mayAttempt s2.toMemoryStore input createdAt) with
  | none => exact performs_pure idle none
  | some grant =>
    rw [Option.filter_eq_some_iff, idle1.pairings] at fits
    have member := List.mem_of_find?_eq_some fits.1
    refine performs_drawToken fun s3 idle3 below => ?_
    exact performs_change (idle.trans idle3)
      (.attemptBegun s2.idsDrawn input grant createdAt member idle.drawn below) rfl (stays_pure _)

/-! ## Activation -/

theorem activateReenrollmentCandidateAndAudit_performs (org screenId grantId candidateId : String)
    (audit : UserMutationAuditContext) (s : AuditedStore) : Performs R held s
      (activateReenrollmentCandidateAndAudit R.toRuntime org screenId grantId candidateId audit)
      s := by
  refine performs_bind (idle_deviceActor _ _) (Idle.refl s) fun _ s1 idle1 => ?_
  refine performs_look ?_
  refine performs_look ?_
  generalize candidateIs : s1.pairingAttempts.find? (fun attempt =>
    attempt.id == candidateId && attempt.organizationId == org) = candidate
  generalize namedIs : s1.pairings.find? (fun grant =>
    grant.id == grantId && some grant.id == candidate.map (·.pairingCodeId) &&
      isTarget screenId grant && grant.purpose == some .reenroll) = named
  refine performs_look ?_
  refine performs_refuseIf idle1 fun fresh => ?_
  cases bound : candidate.filter (·.isBound) with
  | some attempt =>
    exact ((idle_found _ _).gives s1).imp (fun _ _ idle => (idle1.trans idle).reaches)
      fun _ _ idle => (idle1.trans idle).reaches
  | none =>
    refine performs_found idle1 fun attempt isAttempt => ?_
    refine performs_found idle1 fun grant isGrant => ?_
    subst isAttempt isGrant
    refine performs_refuseIf idle1 fun proved => ?_
    refine performs_found idle1 fun screen found => ?_
    refine performs_refuseIf idle1 fun pending => ?_
    refine performs_bind (idle_now R.toRuntime) idle1 fun reading s2 idle2 => ?_
    have idle2 := idle1.trans idle2
    refine performs_refuseIf idle2 fun expected => ?_
    refine performs_look ?_
    refine performs_refuseIf idle2 fun unused => ?_
    refine performs_bind (idle_now R.toRuntime) idle2 fun timestamp s3 idle3 => ?_
    have idle3 := idle2.trans idle3
    refine performs_drawId fun s4 idle4 below => ?_
    have idle4 := idle3.trans idle4
    refine performs_bind (idle_buildAuditRecord _ _) idle4 fun _ s5 idle5 => ?_
    have member := List.mem_of_find?_eq_some candidateIs
    have within := List.find?_some candidateIs
    have granted := List.mem_of_find?_eq_some namedIs
    have own := List.find?_some namedIs
    rw [idle1.pairingAttempts] at member
    rw [idle1.pairings] at granted
    rw [idle1.screens] at found
    simp only [Bool.and_eq_true, beq_iff_eq, Option.map_some, Option.some.injEq, isTarget]
      at within own
    simp only [Option.any_some, Bool.not_eq_false', Option.any_eq_true] at fresh
    simp only [Bool.or_eq_false_iff, Option.isNone_eq_false_iff, Option.isSome_eq_false_iff,
      Option.isNone_iff_eq_none] at proved
    simp only [bne_eq_false_iff_eq, Bool.or_eq_false_iff] at pending expected
    obtain ⟨issuer, isIssuer, signs⟩ := fresh
    rw [idle1.same] at isIssuer
    rw [idle2.same] at unused
    exact performs_change (idle4.trans idle5)
      (.reenrolled s3.idsDrawn org screenId grant attempt screen timestamp member within.2 granted
        own.1.1.2 own.1.2 own.2 ⟨issuer, isIssuer, signs⟩ proved.1 proved.2 found pending
        expected.2 unused idle3.drawn (below.trans_le idle5.drawn)) rfl (quiet_answer _ _ _)

theorem replayActivation_performs (org screenId actorUserId : String)
    (existing : EnrollmentIdempotencyRecord)
    (idempotency : ScreenEnrollmentActivationIdempotencyInput) (timestamp : Int)
    {s0 s : AuditedStore} (before : Idle s0 s) : Performs R held s0
      (replayActivation R.toRuntime org screenId actorUserId existing idempotency timestamp) s := by
  refine performs_bind (idle_earlierResponse _ _ _ _) before fun response s1 idle1 => ?_
  have idle1 := before.trans idle1
  refine performs_found idle1 fun credential _ => ?_
  refine performs_found idle1 fun target _ => ?_
  refine performs_look ?_
  exact performs_change idle1 (.pruned org timestamp _) rfl (stays_pure _)

theorem activateScreenEnrollmentCandidateAndAudit_performs
    (org screenId grantId candidateId fingerprint : String) (audit : UserMutationAuditContext)
    (idempotency : ScreenEnrollmentActivationIdempotencyInput) (s : AuditedStore) :
    Performs R held s (activateScreenEnrollmentCandidateAndAudit R.toRuntime org screenId grantId
      candidateId fingerprint audit idempotency) s := by
  refine performs_bind (idle_deviceActor _ _) (Idle.refl s) fun actor s1 idle1 => ?_
  refine performs_bind (idle_now R.toRuntime) idle1 fun timestamp s2 idle2 => ?_
  have idle2 := idle1.trans idle2
  refine performs_look ?_
  cases earlierCall .activate org idempotency.keyHash s2.toMemoryStore with
  | some existing =>
    exact replayActivation_performs org screenId actor.id existing idempotency timestamp idle2
  | none =>
    refine performs_found idle2 fun target found => ?_
    refine performs_found idle2 fun grant isGrant => ?_
    refine performs_found idle2 fun attempt isAttempt => ?_
    refine performs_refuseIf idle2 fun _ => ?_
    refine performs_look ?_
    refine performs_refuseIf idle2 fun current => ?_
    refine performs_drawId fun s3 idle3 below => ?_
    have idle3 := idle2.trans idle3
    refine performs_bind (idle_buildAuditRecord _ _) idle3 fun _ s4 idle4 => ?_
    rw [idle2.screens] at found
    rw [idle2.pairings] at isGrant
    rw [idle2.pairingAttempts] at isAttempt
    rw [idle2.same, Bool.not_eq_false'] at current
    have own := List.find?_some isGrant
    have within := List.find?_some isAttempt
    simp only [Bool.and_eq_true, beq_iff_eq] at own within
    have named : grant.id = attempt.pairingCodeId := own.1.trans within.2.symm
    exact performs_change (idle3.trans idle4)
      (.enrolled s2.idsDrawn org screenId grant attempt target actor.id idempotency.keyHash
        idempotency.requestDigestSha256 timestamp (List.mem_of_find?_eq_some isAttempt)
        within.1.2 (List.mem_of_find?_eq_some isGrant) named own.2 found current idle2.drawn
        (below.trans_le idle4.drawn)) rfl (quiet_answer _ _ _)

/-! ## Cancellation and revocation -/

theorem cancelScreenReenrollmentAndAudit_performs (org screenId grantId : String)
    (audit : UserMutationAuditContext) (purpose : PairingPurpose) (s : AuditedStore) :
    Performs R held s
      (cancelScreenReenrollmentAndAudit R.toRuntime org screenId grantId audit purpose) s := by
  refine performs_bind (idle_deviceActor _ _) (Idle.refl s) fun _ s1 idle1 => ?_
  refine performs_found idle1 fun grant _ => ?_
  refine performs_bind (idle_buildAuditRecord _ _) idle1 fun _ s2 idle2 => ?_
  have idle2 := idle1.trans idle2
  refine performs_bind (idle_now R.toRuntime) idle2 fun timestamp s3 idle3 => ?_
  exact performs_change (idle2.trans idle3) (.cancelled grant.id timestamp) rfl
    (quiet_pushAudits _)

theorem revokeDeviceCredentialAndAudit_performs (org screenId : String)
    (audit : UserMutationAuditContext) (s : AuditedStore) :
    Performs R held s (revokeDeviceCredentialAndAudit R.toRuntime org screenId audit) s := by
  refine performs_bind (idle_deviceActor _ _) (Idle.refl s) fun _ s1 idle1 => ?_
  refine performs_look ?_
  refine performs_bind (idle_found _ _) idle1 fun _ s2 idle2 => ?_
  have idle2 := idle1.trans idle2
  cases named : (credentialToRevoke s1.toMemoryStore org screenId).filter (·.revokedAt.isNone) with
  | none =>
    refine performs_look ?_
    refine performs_refuseIf idle2 fun _ => ?_
    refine performs_bind (idle_now R.toRuntime) idle2 fun timestamp s3 idle3 => ?_
    have idle3 := idle2.trans idle3
    refine performs_bind (idle_buildAuditRecord _ _) idle3 fun _ s4 idle4 => ?_
    exact performs_change (idle3.trans idle4) (.revocationReasserted org screenId timestamp) rfl
      (quiet_return _ _)
  | some credential =>
    rw [Option.filter_eq_some_iff, idle1.same, Option.isNone_iff_eq_none] at named
    refine performs_bind (idle_now R.toRuntime) idle2 fun timestamp s3 idle3 => ?_
    have idle3 := idle2.trans idle3
    refine performs_bind (idle_buildAuditRecord _ _) idle3 fun _ s4 idle4 => ?_
    exact performs_change (idle3.trans idle4)
      (.revoked org screenId credential timestamp named.2 named.1) rfl (quiet_return _ _)

/-! ## Screens -/

/-- A call that reads the clock and changes the store. -/
theorem performs_timed {change : Int → MemoryStore → MemoryStore} {s : AuditedStore}
    (changed : ∀ timestamp, Changes R held s.toMemoryStore (change timestamp s.toMemoryStore)) :
    Performs R held s (do
      let timestamp ← now R.toRuntime
      changeStore (change timestamp)) s := by
  unfold Performs now
  rw [gives_bind, gives_draw, gives_changeStore]
  exact ⟨changed _, Nat.le_succ _⟩

theorem audited_changes {α : Type} {org actorUserId : String} {roles : List Role}
    {operation : MemoryStore → MemoryStore × Except String α} {s : MemoryStore}
    (changed : Changes R held s (operation s).1) :
    Changes R held s (audited org actorUserId roles operation s).1 := by
  unfold audited
  cases activeActor s org actorUserId roles with
  | none => exact changes_refl s
  | some actor => exact changed

theorem createScreen_changes (timestamp : Int) (org : String) (data : ScreenInput)
    (s : MemoryStore) : Changes R held s (createScreen R.toPlatform timestamp org data s).1 :=
  ⟨⟨_, .screenCreated s.idsDrawn _ rfl rfl (le_refl _) (Nat.lt_succ_self _), rfl⟩, Nat.le_succ _⟩

theorem createScreenAndAudit_changes (timestamp : Int) (org : String) (data : ScreenInput)
    (actorUserId : String) (s : MemoryStore) :
    Changes R held s (createScreenAndAudit R.toPlatform timestamp org data actorUserId s).1 := by
  apply audited_changes
  cases truthyText data.locationId with
  | none => exact createScreen_changes timestamp org _ s
  | some locationId =>
    dsimp only
    split
    · exact createScreen_changes timestamp org _ s
    · exact changes_refl s

theorem updateScreenAndAudit_changes (timestamp : Int) (org screenId : String)
    (patch : ScreenPatch) (actorUserId : String) (s : MemoryStore) :
    Changes R held s (updateScreenAndAudit timestamp org screenId patch actorUserId s).1 := by
  apply audited_changes
  cases s.screens.find? (isScreen org screenId) with
  | none => exact changes_refl s
  | some screen =>
    dsimp only
    split
    · exact ⟨⟨_, .screenUpdated (isScreen org screenId) (patch.apply timestamp)
        (fun _ => ⟨rfl, rfl, rfl⟩), rfl⟩, le_refl _⟩
    · exact changes_refl s

theorem deleteScreen_performs (org screenId : String) (s : AuditedStore) :
    Performs R held s (changeStore fun s => (deleteScreen org screenId s).1) s := by
  unfold Performs
  rw [gives_changeStore]
  exact ⟨⟨⟨_, .screenDeleted org screenId, rfl⟩, le_refl _⟩, le_refl _⟩

theorem deleteScreenAndAudit_drawnTo (timestamp : Int) (org screenId actorUserId : String)
    (s : MemoryStore) (n : Nat) :
    (deleteScreenAndAudit timestamp org screenId actorUserId (s.drawnTo n)).1 =
      (deleteScreenAndAudit timestamp org screenId actorUserId s).1.drawnTo n := by
  have actors : adminActor (s.drawnTo n) org actorUserId = adminActor s org actorUserId := rfl
  unfold deleteScreenAndAudit
  rw [actors]
  cases adminActor s org actorUserId with
  | none => rfl
  | some actor =>
    dsimp only
    have screens : (s.drawnTo n).screens = s.screens := rfl
    rw [screens]
    cases s.screens.find? (isScreen org screenId) with
    | none => rfl
    | some screen => rfl

theorem decommissionScreen_performs (org screenId : String) (audit : UserMutationAuditContext)
    (s : AuditedStore) :
    Performs R held s (decommissionScreen R.toRuntime org screenId audit) s := by
  refine performs_bind (idle_deviceActor _ _) (Idle.refl s) fun _ s1 idle1 => ?_
  refine performs_bind (idle_found _ _) idle1 fun _ s2 idle2 => ?_
  have idle2 := idle1.trans idle2
  refine performs_bind (idle_buildAuditRecord _ _) idle2 fun _ s3 idle3 => ?_
  have idle3 := idle2.trans idle3
  refine performs_bind (idle_now R.toRuntime) idle3 fun timestamp s4 idle4 => ?_
  exact performs_change (idle3.trans idle4)
    (.screenDecommissioned org screenId audit.actorUserId timestamp)
    (deleteScreenAndAudit_drawnTo _ _ _ _ _ _) (quiet_pushAudits _)

theorem heartbeat_performs (screenId : String) (data : HeartbeatUpdateInput) (s : AuditedStore) :
    Performs R held s (heartbeat R.toRuntime screenId data) s := by
  refine performs_look ?_
  cases s.screens.find? (fun screen => screen.id == screenId) with
  | none => exact performs_pure (Idle.refl s) none
  | some screen =>
    refine performs_bind (idle_now R.toRuntime) (Idle.refl s) fun lastSeenAt s1 idle1 => ?_
    refine performs_bind (idle_now R.toRuntime) idle1 fun updatedAt s2 idle2 => ?_
    exact performs_change (idle1.trans idle2)
      (.screenUpdated (fun screen => screen.id == screenId) (data.apply lastSeenAt updatedAt)
        fun _ => ⟨rfl, rfl, rfl⟩) rfl (stays_pure _)

theorem recordHeartbeat_performs (data : HeartbeatUpdateInput) (active : ActiveDevice)
    (s : AuditedStore) : Performs R held s (recordHeartbeat R.toRuntime data active) s := by
  refine performs_bind (idle_now R.toRuntime) (Idle.refl s) fun lastSeenAt s1 idle1 => ?_
  refine performs_bind (idle_now R.toRuntime) idle1 fun updatedAt s2 idle2 => ?_
  exact performs_change (idle1.trans idle2)
    (.screenUpdated (fun screen => screen.id == active.screen.id)
      (data.apply lastSeenAt updatedAt) fun _ => ⟨rfl, rfl, rfl⟩) rfl (stays_look _)

/-! ## Identities -/

theorem idle_identityMutationReason (audit : SystemIdentityMutationAuditContext) :
    Stays Idle (identityMutationReason audit) := by
  unfold identityMutationReason
  dsimp only
  split
  · exact stays_stop _
  · exact stays_pure _

theorem idle_identityAudit (R : Runtime) (organizationId action entityType entityId : String)
    (audit : SystemIdentityMutationAuditContext) (metadata : List (String × Value)) :
    Stays Idle (identityAudit R organizationId action entityType entityId audit metadata) :=
  stays_bind (idle_identityMutationReason audit) fun _ => idle_buildAuditRecord R _

theorem quiet_revokeSessions (timestamp : Int) (own : UserSessionRecord → Bool) :
    Stays Quiet (revokeSessions timestamp own) := fun _ => ⟨⟨rfl, le_refl _, le_refl _⟩, rfl⟩

/-- Sessions and the audit trail, and then the answer. -/
theorem quiet_identity {β : Type} (timestamp : Int) (own : UserSessionRecord → Bool)
    (records : List AuditRecord) (b : β) : Stays Quiet (do
      revokeSessions timestamp own
      pushAudits records
      return b : Operation β) :=
  stays_bind (quiet_revokeSessions timestamp own) fun _ => quiet_return records b

theorem rotateUserPasswordAndAudit_performs (userId passwordHash : String)
    (audit : SystemIdentityMutationAuditContext) (s : AuditedStore) :
    Performs R held s (rotateUserPasswordAndAudit R.toRuntime userId passwordHash audit) s := by
  refine performs_bind (stays_ensure _ _) (Idle.refl s) fun _ s1 idle1 => ?_
  refine performs_bind (idle_identityMutationReason _) idle1 fun _ s2 idle2 => ?_
  have idle2 := idle1.trans idle2
  refine performs_look ?_
  refine performs_found idle2 fun epoch _ => ?_
  refine performs_bind (idle_now R.toRuntime) idle2 fun timestamp s3 idle3 => ?_
  have idle3 := idle2.trans idle3
  refine performs_bind (stays_each (fun _ => idle_identityAudit _ _ _ _ _ _ _) _) idle3
    fun _ s4 idle4 => ?_
  exact performs_changes (idle3.trans idle4) (.issuerChanged userId _ timestamp _) rfl
    (quiet_identity _ _ _ _)

theorem disableUserAndAudit_performs (userId : String)
    (audit : SystemIdentityMutationAuditContext) (s : AuditedStore) :
    Performs R held s (disableUserAndAudit R.toRuntime userId audit) s := by
  refine performs_bind (idle_identityMutationReason _) (Idle.refl s) fun _ s1 idle1 => ?_
  refine performs_look ?_
  refine performs_found idle1 fun epoch _ => ?_
  refine performs_look ?_
  refine performs_refuseIf idle1 fun _ => ?_
  refine performs_bind (idle_now R.toRuntime) idle1 fun timestamp s2 idle2 => ?_
  have idle2 := idle1.trans idle2
  refine performs_bind (stays_each (fun _ => idle_identityAudit _ _ _ _ _ _ _) _) idle2
    fun _ s3 idle3 => ?_
  exact performs_changes (idle2.trans idle3) (.issuerChanged userId _ timestamp _) rfl
    (quiet_identity _ _ _ _)

theorem changeMembershipRoleAndAudit_performs (organizationId userId : String) (role : Role)
    (audit : SystemIdentityMutationAuditContext) (s : AuditedStore) : Performs R held s
      (changeMembershipRoleAndAudit R.toRuntime organizationId userId role audit) s := by
  refine performs_bind (idle_identityMutationReason _) (Idle.refl s) fun _ s1 idle1 => ?_
  refine performs_found idle1 fun membership _ => ?_
  refine performs_look ?_
  refine performs_refuseIf idle1 fun _ => ?_
  refine performs_bind (idle_now R.toRuntime) idle1 fun timestamp s2 idle2 => ?_
  have idle2 := idle1.trans idle2
  refine performs_bind (idle_identityAudit _ _ _ _ _ _ _) idle2 fun _ s3 idle3 => ?_
  exact performs_changes (idle2.trans idle3) (.issuerChanged userId [organizationId] timestamp _)
    rfl (stays_bind (quiet_revokeSessions _ _) fun _ => quiet_pushAudits _)

theorem removeMembershipAndAudit_performs (organizationId userId : String)
    (audit : SystemIdentityMutationAuditContext) (s : AuditedStore) : Performs R held s
      (removeMembershipAndAudit R.toRuntime organizationId userId audit) s := by
  refine performs_bind (idle_identityMutationReason _) (Idle.refl s) fun _ s1 idle1 => ?_
  refine performs_found idle1 fun membership _ => ?_
  refine performs_look ?_
  refine performs_refuseIf idle1 fun _ => ?_
  refine performs_bind (idle_now R.toRuntime) idle1 fun timestamp s2 idle2 => ?_
  have idle2 := idle1.trans idle2
  refine performs_bind (idle_identityAudit _ _ _ _ _ _ _) idle2 fun _ s3 idle3 => ?_
  have idle3 := idle2.trans idle3
  unfold Performs
  rw [gives_bind, gives_changeStore, gives_bind, gives_revokeSessions, gives_bind,
    gives_changeStore, gives_pushAudits]
  refine reaches_of_change idle3 (.issuerChanged userId [organizationId] timestamp
    (s.users.filter fun user => !isMembership organizationId userId user)) ?_ (le_refl _)
  show { revokePendingIssuerGrants userId [organizationId] timestamp s3.toMemoryStore with
    users := s3.users.filter fun user => !isMembership organizationId userId user } = _
  rw [idle3.same]
  rfl

theorem identityCall_performs (call : IdentityCall) (s : AuditedStore) :
    Performs R held s (call.perform R.toRuntime) s := by
  cases call with
  | rotateUserPassword userId passwordHash audit =>
    exact (rotateUserPasswordAndAudit_performs userId passwordHash audit s).ends
  | disableUser userId audit => exact (disableUserAndAudit_performs userId audit s).ends
  | changeMembershipRole organizationId userId role audit =>
    exact changeMembershipRoleAndAudit_performs organizationId userId role audit s
  | removeMembership organizationId userId audit =>
    exact removeMembershipAndAudit_performs organizationId userId audit s

/-- The records are built after the changes, so a call that stops there has changed the store. -/
theorem rotateBootstrapPasswordAndAudit_performs (userId organizationId : String)
    (input : BootstrapPasswordRotationInput) (audit : UserMutationAuditContext)
    (s : AuditedStore) : Performs R held s
      (rotateBootstrapPasswordAndAudit R.toRuntime userId organizationId input audit) s := by
  refine performs_bind (stays_ensure _ _) (Idle.refl s) fun _ s1 idle1 => ?_
  refine performs_bind (idle_now R.toRuntime) idle1 fun timestamp s2 idle2 => ?_
  have idle2 := idle1.trans idle2
  refine performs_look ?_
  refine performs_found idle2 fun current _ => ?_
  refine performs_found idle2 fun session _ => ?_
  refine performs_refuseIf idle2 fun _ => ?_
  refine performs_look ?_
  generalize affectedOrganizationIds s2 userId = organizationIds
  unfold Performs
  rw [gives_bind, gives_changeStore, gives_bind, gives_changeStore, gives_bind,
    gives_revokeSessions]
  have later : ∀ {s' s'' : AuditedStore}, Idle s' s'' → s'.toMemoryStore =
      changeUser userId (fun user =>
        { user with
          bootstrapPasswordExpiresAt := none
          passwordHash := input.passwordHash
          authenticationEpoch := current.authenticationEpoch + 1 })
        (revokePendingIssuerGrants userId organizationIds timestamp s2.toMemoryStore) →
      s'.clockReads = s2.clockReads → Reaches R held s s'' := by
    intro s' s'' idle changed reads
    have drawn : s2.idsDrawn = s'.idsDrawn := (congrArg MemoryStore.idsDrawn changed).symm.trans rfl
    refine ⟨⟨⟨_, .issuerChanged userId organizationIds timestamp s'.users, ?_⟩, ?_⟩, ?_⟩
    · rw [idle.same, changed, idle2.same]
      rfl
    · exact (idle2.drawn.trans (le_of_eq drawn)).trans idle.drawn
    · exact (idle2.reads.trans (le_of_eq reads.symm)).trans idle.reads
  have rest : ∀ organizationIds : List String, Stays Idle (do
      let auditRecords ← each (fun org => buildAuditRecord R.toRuntime
        (userEvent org { audit with actorUserId := userId } "auth.bootstrap_password_rotated"
          "user" userId [])) organizationIds
      pushAudits auditRecords
      return organizationIds : Operation (List String)) := fun organizationIds =>
    stays_bind (stays_each (fun _ => idle_buildAuditRecord _ _) _) fun _ =>
      stays_bind (idle_pushAudits _) fun _ => stays_pure _
  exact ((rest organizationIds).gives _).imp (fun _ _ idle => later idle rfl rfl)
    fun _ _ idle => later idle rfl rfl

/-! ## All calls in one step -/

theorem deviceCall_performs (call : DeviceCall) (s : AuditedStore) :
    Performs R held s (call.perform R) s := by
  cases call with
  | tryCreatePairing => exact (tryCreatePairing_performs _ _ _ s).ends
  | tryCreatePairingAndAudit => exact (tryCreatePairingAndAudit_performs _ _ _ _ s).ends
  | claimPairing => exact (claimPairing_performs _ _ _ s).ends
  | claimPairingAndAudit => exact (claimPairingAndAudit_performs _ _ _ _ s).ends
  | requestScreenReenrollment =>
    exact (requestScreenReenrollmentAndAudit_performs _ _ _ _ _ _ s).ends
  | requestScreenEnrollment => exact (requestScreenEnrollmentAndAudit_performs _ _ _ _ _ s).ends
  | issuePairingChallenge => exact (issuePairingChallenge_performs _ s).ends
  | activateReenrollment =>
    exact (activateReenrollmentCandidateAndAudit_performs _ _ _ _ _ s).ends
  | activateScreenEnrollment =>
    exact (activateScreenEnrollmentCandidateAndAudit_performs _ _ _ _ _ _ _ s).ends
  | cancelReenrollment => exact cancelScreenReenrollmentAndAudit_performs _ _ _ _ _ s
  | revokeDeviceCredential => exact (revokeDeviceCredentialAndAudit_performs _ _ _ s).ends
  | createScreen => exact performs_timed fun _ => createScreen_changes _ _ _ _
  | createScreenAndAudit => exact performs_timed fun _ => createScreenAndAudit_changes _ _ _ _ _
  | updateScreenAndAudit => exact performs_timed fun _ => updateScreenAndAudit_changes _ _ _ _ _ _
  | deleteScreen => exact deleteScreen_performs _ _ s
  | decommissionScreen => exact decommissionScreen_performs _ _ _ s
  | heartbeat => exact (heartbeat_performs _ _ s).ends
  | identity call => exact identityCall_performs call s
  | rotateBootstrapPassword =>
    exact (rotateBootstrapPasswordAndAudit_performs _ _ _ _ s).ends

theorem deviceCall_reaches (call : DeviceCall) (s : AuditedStore) :
    Reaches R none s (call.perform R s).2 := by
  have performs : Performs R none s (call.perform R) s := deviceCall_performs call s
  cases ran : call.perform R s with
  | mk result s' =>
    cases result with
    | ok a => exact performs.ok ran
    | error e => exact performs.error ran

/-! ## Claims -/

theorem idle_findPairingClaim (input : PairingProofInput) : Stays Idle (findPairingClaim input) :=
  stays_bind (idle_found _ _) fun _ => stays_bind (idle_found _ _) fun _ =>
    stays_bind (stays_ensure _ _) fun _ => stays_pure _

theorem proveCandidate_performs (input : PairingProofInput) (audit : PairingClaimAuditContext)
    (claim : PairingClaim) {s0 s : AuditedStore} (before : Idle s0 s) :
    Performs R held s0 (proveCandidate R.toRuntime input audit claim) s := by
  refine performs_look ?_
  refine performs_refuseIf before fun _ => ?_
  refine performs_bind (idle_now R.toRuntime) before fun provedAt s1 idle1 => ?_
  have idle1 := before.trans idle1
  refine performs_bind (idle_buildAuditRecord _ _) idle1 fun _ s2 idle2 => ?_
  exact performs_change (idle1.trans idle2)
    (.attemptProved claim.attempt.id input.device provedAt) rfl (quiet_return _ _)

theorem pairNewScreen_performs (input : PairingProofInput) (audit : PairingClaimAuditContext)
    (claim : PairingClaim) {s0 s : AuditedStore} (before : Idle s0 s)
    (purpose : claim.pairing.purpose = none) (pending : claim.pairing.status = .pending)
    (unused : ∀ credential ∈ s0.deviceCredentials, credential.keyId ≠ claim.attempt.keyId) :
    Performs R (some claim) s0 (pairNewScreen R.toRuntime input audit claim) s := by
  refine performs_bind (idle_now R.toRuntime) before fun timestamp s1 idle1 => ?_
  have idle1 := before.trans idle1
  refine performs_drawId fun s2 idle2 after => ?_
  have drawn := idle1.drawn
  have idle2 := idle1.trans idle2
  refine performs_drawId fun s3 idle3 below => ?_
  have idle3 := idle2.trans idle3
  refine performs_bind (idle_buildAuditRecord _ _) idle3 fun _ s4 idle4 => ?_
  exact performs_change (idle3.trans idle4)
    (.paired s1.idsDrawn s2.idsDrawn claim input.device timestamp rfl purpose pending unused drawn
      after (below.trans_le idle4.drawn)) rfl (quiet_answer _ _ _)

theorem settlePairingClaim_performs (input : PairingProofInput) (audit : PairingClaimAuditContext)
    (claim : PairingClaim) (verified : Bool) (s : AuditedStore) : Performs R (some claim) s
      (settlePairingClaim R.toRuntime input audit claim verified) s := by
  refine performs_refuseIf (Idle.refl s) fun _ => ?_
  split
  · exact performs_bind (idle_now R.toRuntime) (Idle.refl s) fun reading s1 idle1 =>
      ((idle_found _ _).gives s1).imp (fun _ _ idle => (idle1.trans idle).reaches)
        fun _ _ idle => (idle1.trans idle).reaches
  · refine performs_bind (idle_now R.toRuntime) (Idle.refl s) fun reading s1 idle1 => ?_
    split
    · exact performs_pure idle1 _
    · refine performs_bind (idle_now R.toRuntime) idle1 fun attemptReading s2 idle2 => ?_
      have idle2 := idle1.trans idle2
      refine performs_bind (idle_now R.toRuntime) idle2 fun grantReading s3 idle3 => ?_
      have idle3 := idle2.trans idle3
      refine performs_look ?_
      refine performs_refuseIf idle3 fun open' => ?_
      split
      · exact proveCandidate_performs input audit claim idle3
      · rename_i purpose
        simp only [Bool.or_eq_false_iff, bne_eq_false_iff_eq, List.any_eq_false, beq_iff_eq,
          idle3.deviceCredentials] at open'
        rw [Option.not_isSome_iff_eq_none] at purpose
        exact pairNewScreen_performs input audit claim idle3 purpose open'.1.2 open'.2

/-! ## Proofs -/

theorem idle_authenticateDeviceCredential (R : Runtime) (screenId keyId : String) :
    Stays Idle (authenticateDeviceCredential R screenId keyId) :=
  stays_bind (idle_now R) fun _ => stays_look _

theorem idle_findDeviceProof (R : Runtime) (input : DeviceProofInput) :
    Stays Idle (findDeviceProof R input) :=
  stays_bind (idle_now R) fun _ => stays_bind (idle_now R) fun _ => stays_look _

/-- A new challenge for a device, in the store `s'` after the store `s`. -/
structure Challenged (R : DeviceRuntime) (input : DeviceAuthChallengeInput) (s s' : AuditedStore)
    (active : ActiveDevice) (challenge : DeviceAuthChallengeRecord) : Prop where
  made : challenge = newDeviceAuthChallenge (R.randomToken s.idsDrawn) input active.credential
    (R.clock s.clockReads)
  may : mayIssueChallenge s.toMemoryStore input active.credential (R.clock s.clockReads) = true
  pushed : s'.toMemoryStore = (pushChallenge R.toPlatform challenge (R.clock s.clockReads)
    s.toMemoryStore).drawnTo (s.idsDrawn + 1)
  reads : s'.clockReads = s.clockReads + 1

theorem issueDeviceAuthChallenge_gives (input : DeviceAuthChallengeInput)
    (authenticated : Option ActiveDevice) (s : AuditedStore) :
    Gives (fun answer s' => (answer = none ∧ Idle s s') ∨
      ∃ active challenge, authenticated = some active ∧ answer = some challenge ∧
        Challenged R input s s' active challenge) (fun _ _ => False)
      (issueDeviceAuthChallenge R input authenticated) s := by
  unfold issueDeviceAuthChallenge now
  rw [gives_bind, gives_draw, gives_bind, gives_look]
  cases fits : authenticated.filter (fun active =>
      mayIssueChallenge s.toMemoryStore input active.credential (R.clock s.clockReads)) with
  | none =>
    dsimp only
    rw [gives_pure]
    exact .inl ⟨rfl, idle_now R.toRuntime s⟩
  | some active =>
    dsimp only
    unfold drawToken
    rw [gives_bind, gives_draw, gives_bind, gives_changeStore, gives_pure]
    rw [Option.filter_eq_some_iff] at fits
    exact .inr ⟨active, _, fits.1, rfl, rfl, fits.2, rfl, rfl⟩

/-- The consumption of a challenge, in the store `s'` after the store `s`. -/
structure Consumed (R : DeviceRuntime) (input : DeviceProofInput) (lookup : ProofLookup)
    (s s' : AuditedStore) (active : ActiveDevice) : Prop where
  current : currentProof s.toMemoryStore input lookup (R.clock s.clockReads)
    (R.clock (s.clockReads + 1)) = some active
  consumed : s'.toMemoryStore =
    consumeChallenge input.challengeId (R.clock (s.clockReads + 1)) s.toMemoryStore
  reads : s'.clockReads = s.clockReads + 2

theorem consumeDeviceProof_gives (input : DeviceProofInput) (lookup : Option ProofLookup)
    (verified : Bool) (s : AuditedStore) :
    Gives (fun answer s' => (answer = none ∧ Idle s s') ∨
      ∃ found active, lookup = some found ∧ verified = true ∧ answer = some active ∧
        Consumed R input found s s' active) (fun _ _ => False)
      (consumeDeviceProof R.toRuntime input lookup verified) s := by
  unfold consumeDeviceProof
  cases held : lookup.filter (fun _ => verified) with
  | none =>
    dsimp only
    rw [gives_pure]
    exact .inl ⟨rfl, Idle.refl s⟩
  | some found =>
    rw [Option.filter_eq_some_iff] at held
    unfold now
    dsimp only
    rw [gives_bind, gives_draw, gives_bind, gives_draw, gives_bind, gives_look]
    cases current : currentProof s.toMemoryStore input found (R.clock s.clockReads)
        (R.clock (s.clockReads + 1)) with
    | none =>
      dsimp only
      rw [gives_pure]
      exact .inl ⟨rfl, rfl, le_refl _, Nat.le_add_right _ 2⟩
    | some active =>
      dsimp only
      rw [gives_bind, gives_changeStore, gives_pure]
      exact .inr ⟨found, active, held.1, held.2, rfl, current, rfl, rfl⟩

end screengoblin.server
