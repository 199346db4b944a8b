-- Each change of the records of devices keeps them in order: grants, attempts, screens and
-- credentials, with a rule for each operation that makes a new record.
import ScreenGoblin.EnrollmentLaws

open js collections lineages scripts scripts.Script screengoblin.schedule

namespace screengoblin.server

variable {R : DeviceRuntime} {held : Option PairingClaim} {s : MemoryStore} {n : Nat}

/-! ## Searches and revocations -/

theorem found_screen {org screenId : String} {screen : ScreenRecord}
    (found : s.screens.find? (isScreen org screenId) = some screen) :
    screen ∈ s.screens ∧ screen.organizationId = org ∧ screen.id = screenId := by
  have is := List.find?_some found
  unfold isScreen at is
  rw [Bool.and_eq_true, beq_iff_eq, beq_iff_eq] at is
  exact ⟨List.mem_of_find?_eq_some found, is⟩

/-- The changed screen is the only one with its identifier. -/
theorem changed_screen {org screenId : String} {screen y : ScreenRecord}
    (change : ScreenRecord → ScreenRecord) (unique : KeysUnique (·.id) s.screens)
    (found : s.screens.find? (isScreen org screenId) = some screen)
    (keeps : ∀ x, (change x).id = x.id)
    (hy : y ∈ updateFirst (isScreen org screenId) change s.screens)
    (is : y.id = screenId) : y = change screen := by
  rcases mem_updateFirst_of_unique unique keeps found hy with same | ⟨-, other⟩
  · exact same
  · exact absurd (is.trans (found_screen found).2.2.symm) other

/-- A revoked grant is not pending. -/
theorem revokedGrants_ended {grants : PairingRecord → Bool} {l : List PairingRecord}
    {g : PairingRecord}
    (hg : g ∈ changeWhere (fun grant => grants grant && grant.status == .pending)
      (fun grant => { grant with status := .revoked }) l) (which : grants g = true) :
    g.status ≠ .pending := by
  obtain ⟨g0, -, is⟩ := mem_changeWhere.mp hg
  by_cases revoked : (grants g0 && g0.status == .pending) = true
  · rw [if_pos revoked] at is
    rw [is]
    exact fun h => by cases h
  · rw [if_neg revoked] at is
    rw [← is, Bool.and_eq_true, beq_iff_eq] at revoked
    exact fun pending => revoked ⟨which, pending⟩

theorem isPendingFor_iff {screenId : String} {g : PairingRecord} :
    isPendingFor screenId g = true ↔ g.targetScreenId = some screenId ∧ g.status = .pending := by
  unfold isPendingFor isTarget
  rw [Bool.and_eq_true, beq_iff_eq, beq_iff_eq]

/-- No credential of the screen is in use after they were superseded. -/
theorem supersedeCredentials_idle {org screenId : String} {timestamp : Int}
    {c : DeviceCredentialRecord}
    (hc : c ∈ (supersedeCredentials org screenId timestamp s).deviceCredentials) :
    isLiveOn org screenId c = false := by
  obtain ⟨c0, -, is⟩ := mem_changeWhere.mp hc
  by_cases superseded : (ofScreen org screenId c0 && !c0.detached) = true
  · rw [if_pos superseded] at is
    rw [is]
    unfold isLiveOn DeviceCredentialRecord.isLive
    simp
  · rw [if_neg superseded] at is
    rw [is, Bool.eq_false_iff]
    unfold isLiveOn DeviceCredentialRecord.isLive
    intro live
    apply superseded
    simp only [Bool.and_eq_true] at live ⊢
    exact ⟨live.1, live.2.1⟩

/-- What the store says of a screen without devices. -/
theorem isUnenrolled_spec {org : String} {screen : ScreenRecord}
    (unenrolled : isUnenrolled s org screen = true) :
    screen.generation = 0 ∧ ∀ c ∈ s.deviceCredentials, ofScreen org screen.id c = false := by
  unfold isUnenrolled at unenrolled
  simp only [Bool.and_eq_true, beq_iff_eq, Bool.not_eq_true', List.any_eq_false] at unenrolled
  refine ⟨unenrolled.1.1.1, ?_⟩
  intro c hc
  rw [Bool.eq_false_iff]
  exact unenrolled.2 c hc

/-- A screen at generation zero has no pending re-enrollment. -/
theorem reenroll_passed {grant : PairingRecord} {screenId : String} {screen : ScreenRecord}
    (target : TargetOk R n s grant screenId) (member : screen ∈ s.screens)
    (is : screen.id = screenId) (first : screen.generation = 0) :
    grant.purpose ≠ some .reenroll := by
  intro reenroll
  obtain ⟨expected, -, positive, at'⟩ := target.reenroll reenroll
  have reached := (at' screen member is).1
  omega

theorem keyIsUsed_spec {keyId : String} (unused : keyIsUsed s keyId = false) :
    ∀ c ∈ s.deviceCredentials, c.keyId ≠ keyId := by
  unfold keyIsUsed at unused
  rw [Bool.or_eq_false_iff] at unused
  intro c hc same
  have not := List.any_eq_false.mp unused.1 c hc
  rw [same] at not
  simp at not

/-- A claim ends its grant. -/
theorem fades_claimed (id screenId : String) :
    Fades s { s with
      pairings := updateFirst (fun grant => grant.id == id) (fun grant =>
        { grant with status := .claimed, screenId := some screenId }) s.pairings } :=
  fades_pairings (descends_updateFirst fun g _ _ => laterGrant_claimed g g.claimedAt screenId)

/-! ## New grants -/

section
variable (ok : EnrollmentOk R s.idsDrawn s)
include ok

theorem enrolls_codeCreated {k : Nat} {org codeHash : String} {expiresAt timestamp : Int}
    (drawn : s.idsDrawn ≤ k) (below : k < n) :
    Enrolls R held s.idsDrawn n s (pushGrant (untargetedGrant (R.freshId k) org codeHash expiresAt)
      (expireCode codeHash timestamp s)) := by
  have before := fades_expireCode timestamp s codeHash
  have fresh : ¬ DrawnBefore R.freshId s.idsDrawn (R.freshId k) :=
    not_drawnBefore R.freshId_injective drawn
  have pushed := (ok.fades before).pushGrant (m := n)
    (untargetedGrant (R.freshId k) org codeHash expiresAt) (drawn.trans below.le) fresh
    ⟨k, below, rfl⟩
    (fun screenId pending => by cases (isPendingFor_iff.mp pending).1)
  exact enrolls_of_grows pushed (before.grows.trans ok (grows_pushGrant fresh)) fun _ hc =>
    before.credentials.mem hc

/-- The grant of a re-enrollment is the only one that is pending for its screen. -/
theorem enrolls_reenrollmentBegun {k : Nat} {org screenId codeHash : String}
    {screen : ScreenRecord} {expiresAt : Int} {actor : SessionUser} {prior : Option String}
    {reason : String} {timestamp : Int}
    (found : s.screens.find? (isScreen org screenId) = some screen) (drawn : s.idsDrawn ≤ k)
    (below : k < n) :
    Enrolls R held s.idsDrawn n s (beginReenrollment R.toRuntime org screenId
      (targetedGrant (R.freshId k) org codeHash expiresAt .reenroll screenId
        (screen.credentialGeneration.getD 0 + 1) actor prior reason timestamp) timestamp s) := by
  unfold beginReenrollment
  have before := fades_beforeReenrollment R.toPlatform org screenId timestamp s
  have fresh : ¬ DrawnBefore R.freshId s.idsDrawn (R.freshId k) :=
    not_drawnBefore R.freshId_injective drawn
  obtain ⟨member, organization, is⟩ := found_screen found
  have okBefore := ok.fades before
  -- a pass over the grants leaves the screens as they are
  have screens : (pruneDeviceEnrollmentAuthority R.toPlatform org timestamp none s).screens =
      s.screens := rfl
  have only : ∀ y ∈ updateFirst (isScreen org screenId) (·.revoked timestamp)
      (pruneDeviceEnrollmentAuthority R.toPlatform org timestamp none s).screens,
      y.id = screenId → y = screen.revoked timestamp := by
    rw [screens]
    exact fun y hy own => changed_screen _ ok.screens.unique found (fun _ => rfl) hy own
  refine enrolls_of_grows (okBefore.pushGrant _ (drawn.trans below.le) fresh ⟨k, below, rfl⟩ ?_)
    (before.grows.trans ok (grows_pushGrant fresh)) fun _ hc => before.credentials.mem hc
  intro x pending
  obtain rfl : screenId = x := Option.some.inj (isPendingFor_iff.mp pending).1
  refine ⟨⟨?_, rfl, ?_, ?_⟩, ?_⟩
  · rw [← is]
    exact (ok.screens.drawn screen member).later (drawn.trans below.le)
  · intro y hy own
    rw [only y hy own]
    exact organization
  · intro _
    refine ⟨screen.credentialGeneration.getD 0 + 1, rfl, Nat.le_add_left 1 _, ?_⟩
    intro y hy own
    rw [only y hy own]
    exact ⟨le_refl _, fun _ c hc => supersedeCredentials_idle hc⟩
  · intro g hg
    rw [Bool.eq_false_iff]
    intro open'
    unfold isPendingFor at open'
    rw [Bool.and_eq_true, beq_iff_eq] at open'
    exact revokedGrants_ended hg open'.1 open'.2

/-- The grant of an enrollment is the only one that is pending for its screen. -/
theorem enrolls_enrollmentBegun {k : Nat} {org screenId codeHash : String} {target : ScreenRecord}
    {expiresAt : Int} {actor : SessionUser} {reason keyHash digest : String} {counter : Nat}
    {timestamp : Int} (found : s.screens.find? (isScreen org screenId) = some target)
    (unenrolled : isUnenrolled s org target = true) (drawn : s.idsDrawn ≤ k) (below : k < n) :
    Enrolls R held s.idsDrawn n s (beginEnrollment R.toRuntime org screenId
      (targetedGrant (R.freshId k) org codeHash expiresAt .newScreen screenId 0 actor none reason
        timestamp) actor.id keyHash digest counter timestamp s) := by
  have before := fades_beforeEnrollment R.toPlatform org screenId keyHash timestamp s
  have fresh : ¬ DrawnBefore R.freshId s.idsDrawn (R.freshId k) :=
    not_drawnBefore R.freshId_injective drawn
  obtain ⟨member, organization, is⟩ := found_screen found
  have okPruned := ok.fades (fades_prune R.toPlatform org timestamp s (some keyHash))
  unfold beginEnrollment
  refine (enrolls_of_grows (((ok.fades before).pushGrant _ (drawn.trans below.le) fresh
    ⟨k, below, rfl⟩ ?_)) (before.grows.trans ok (grows_pushGrant fresh)) fun _ hc =>
      before.credentials.mem hc).fades ok (fades_rememberEnrollment _ _ _ _ _ _ _ _)
  intro x pending
  obtain rfl : screenId = x := Option.some.inj (isPendingFor_iff.mp pending).1
  refine ⟨⟨?_, rfl, ?_, fun purpose => by cases purpose⟩, ?_⟩
  · rw [← is]
    exact (ok.screens.drawn target member).later (drawn.trans below.le)
  · intro y hy own
    obtain ⟨x, hx, later⟩ := before.screens.mem hy
    have same := ok.screens.unique.eq hx member (later.id.symm.trans (own.trans is.symm))
    rw [later.organization, same]
    exact organization
  · intro g hg
    rw [Bool.eq_false_iff]
    intro open'
    -- it would be a grant of an enrollment, and those were revoked
    obtain ⟨g0, hg0, later⟩ :=
      (fades_revokeGrants (pruneDeviceEnrollmentAuthority R.toPlatform org timestamp (some keyHash)
        s) (isNewScreenGrant org screenId) (·.boundCredentialId.isNone)
        (laterAttempt_cancelOnce timestamp)).grants.mem hg
    have about := okPruned.targets g0 hg0 screenId (later.pendingFor open')
    have kind := reenroll_passed about member is (isUnenrolled_spec unenrolled).1
    have own := about.own target member is
    have which : isNewScreenGrant org screenId g = true := by
      obtain ⟨purpose, named⟩ := Option.isSome_iff_exists.mp about.purpose
      unfold isNewScreenGrant isTarget
      rw [later.purpose, later.organization, ← own, organization, (isPendingFor_iff.mp open').1,
        named]
      cases purpose with
      | newScreen => simp
      | reenroll => exact absurd named kind
    exact revokedGrants_ended hg which (isPendingFor_iff.mp open').2

theorem enrolls_attemptBegun {k : Nat} {input : PairingChallengeInput} {grant : PairingRecord}
    {createdAt : Int} (member : grant ∈ s.pairings) (drawn : s.idsDrawn ≤ k) (below : k < n) :
    Enrolls R held s.idsDrawn n s
      (pushAttempt (newAttempt (R.randomToken k) input grant createdAt) s) := by
  have fresh : ¬ DrawnBefore R.randomToken s.idsDrawn (R.randomToken k) :=
    not_drawnBefore R.randomToken_injective drawn
  exact enrolls_of_grows
    (ok.pushAttempt (drawn.trans below.le) fresh ⟨k, below, rfl⟩ member rfl rfl)
    (grows_pushAttempt _) fun c hc => ⟨c, hc, Std.Refl.refl c⟩

/-! ## New credentials -/

/-- An activated re-enrollment moves the screen past the generation that its grant waits for. -/
theorem enrolls_reenrolled {org screenId : String} {grant : PairingRecord}
    {attempt : PairingAttemptRecord} {screen : ScreenRecord} {timestamp : Int}
    (member : attempt ∈ s.pairingAttempts) (within : attempt.organizationId = org)
    (granted : grant ∈ s.pairings) (own : grant.id = attempt.pairingCodeId)
    (target : grant.targetScreenId = some screenId) (purpose : grant.purpose = some .reenroll)
    (signed : IssuerSigns s org grant) (proved : attempt.provedAt.isSome = true)
    (open' : attempt.cancelledAt = none)
    (found : s.screens.find? (isScreen org screenId) = some screen)
    (pending : grant.status = .pending)
    (expected : grant.expectedGeneration = some screen.generation)
    (unused : keyIsUsed s attempt.keyId = false) (le : s.idsDrawn ≤ n) (credentialId : String) :
    Enrolls R held s.idsDrawn n s (finishReenrollment org screenId grant attempt
      (newCredential credentialId org screenId attempt timestamp) (screen.generation + 1) timestamp
      s) := by
  obtain ⟨stored, organization, is⟩ := found_screen found
  have same : grant.organizationId = org :=
    (ok.within attempt member grant granted own).trans within
  have waits := ok.targets grant granted screenId (isPendingFor_iff.mpr ⟨target, pending⟩)
  have before := fades_changeScreen org screenId s
    (·.enrolled attempt (screen.generation + 1) timestamp) fun x _ hx => by
      rw [found] at hx
      cases hx
      exact ⟨rfl, rfl, Nat.le_succ _⟩
  have idle : ∀ c ∈ s.deviceCredentials, isLiveOn org screenId c = false := by
    obtain ⟨e, named, -, at'⟩ := waits.reenroll purpose
    have here : screen.generation = e := Option.some.inj (expected.symm.trans named)
    rw [← same]
    exact (at' screen stored is).2 here
  have pushed := ((ok.later le).fades before).pushCredential
    (newCredential credentialId org screenId attempt timestamp)
    (keyIsUsed_spec unused) (by
      rw [← is]
      exact (ok.screens.drawn screen stored).later le) idle (by
      intro g hg waiting reenroll x hx at' named
      rw [changed_screen (·.enrolled attempt (screen.generation + 1) timestamp) ok.screens.unique
        found (fun _ => rfl) hx at'] at named
      obtain ⟨e, is', -, reached⟩ := (ok.targets g hg screenId waiting).reenroll reenroll
      have below := (reached screen stored is).1
      have above : e = screen.generation + 1 := Option.some.inj (is'.symm.trans named)
      omega)
  have made : MadeOf held s (newCredential credentialId org screenId attempt timestamp) attempt
      grant := by
    refine ⟨member, granted, own.symm, pending, rfl, same.symm, .inl ⟨target, proved, open', ?_⟩⟩
    rw [same]
    exact signed
  unfold finishReenrollment
  exact (enrolls_pushCredential ok pushed before.grows (fun c hc => before.credentials.mem hc)
    made).fades ok (fades_afterReenrollment _ _ _ _ _ _)

/-- An activated enrollment is the first one of its screen. -/
theorem enrolls_enrolled {org screenId : String} {grant : PairingRecord}
    {attempt : PairingAttemptRecord} {target : ScreenRecord} {timestamp : Int}
    (member : attempt ∈ s.pairingAttempts) (within : attempt.organizationId = org)
    (granted : grant ∈ s.pairings) (own : grant.id = attempt.pairingCodeId)
    (purpose : isNewScreenGrant org screenId grant = true)
    (found : s.screens.find? (isScreen org screenId) = some target)
    (current : canActivate s org target grant attempt timestamp = true) (le : s.idsDrawn ≤ n)
    (credentialId actorUserId keyHash digest : String) :
    Enrolls R held s.idsDrawn n s (finishEnrollment R.toRuntime org screenId grant attempt
      (newCredential credentialId org screenId attempt timestamp) actorUserId keyHash digest
      timestamp s) := by
  obtain ⟨stored, organization, is⟩ := found_screen found
  have same : grant.organizationId = org :=
    (ok.within attempt member grant granted own).trans within
  unfold canActivate at current
  simp only [Bool.and_eq_true, beq_iff_eq, decide_eq_true_eq, Option.isNone_iff_eq_none,
    Bool.not_eq_true'] at current
  obtain ⟨⟨⟨⟨⟨⟨⟨⟨signed, pending⟩, -⟩, proved⟩, open'⟩, -⟩, -⟩, unenrolled⟩, unused⟩ := current
  obtain ⟨first, noDevices⟩ := isUnenrolled_spec unenrolled
  have okPruned := ok.fades (fades_prune R.toPlatform org timestamp s (some keyHash))
  have before := fades_beforeActivation R.toPlatform org screenId keyHash timestamp s
    (·.enrolled attempt 1 timestamp) fun x _ hx => by
      rw [found] at hx
      cases hx
      refine ⟨rfl, rfl, ?_⟩
      rw [first]
      exact Nat.zero_le _
  have pushed := ((ok.later le).fades before).pushCredential
    (newCredential credentialId org screenId attempt timestamp)
    (by
      intro c hc again
      have used := ok.usedKeys c hc
      rw [again] at used
      rw [← List.contains_iff_mem] at used
      cases unused.symm.trans used) (by
      rw [← is]
      exact (ok.screens.drawn target stored).later le) (by
      intro c hc
      rw [Bool.eq_false_iff]
      intro live
      unfold isLiveOn at live
      rw [Bool.and_eq_true] at live
      have not := noDevices c hc
      rw [is] at not
      cases not.symm.trans live.1) (by
      intro g hg waiting reenroll
      exact absurd reenroll (reenroll_passed (okPruned.targets g hg screenId waiting) stored is
        first))
  have made : MadeOf held s (newCredential credentialId org screenId attempt timestamp) attempt
      grant := by
    unfold isNewScreenGrant isTarget at purpose
    simp only [Bool.and_eq_true, beq_iff_eq] at purpose
    refine ⟨member, granted, own.symm, pending, rfl, same.symm,
      .inl ⟨purpose.1.2, proved, open', ?_⟩⟩
    rw [same]
    rw [Option.any_eq_true] at signed
    exact signed
  unfold finishEnrollment
  exact (enrolls_pushCredential ok pushed before.grows (fun c hc => before.credentials.mem hc)
    made).fades ok (fades_afterActivation _ _ _ _ _ _ _ _ _ _)

/-! ## New screens -/

theorem enrolls_screenCreated {k : Nat} {screen : ScreenRecord} (new : screen.id = R.freshId k)
    (drawn : s.idsDrawn ≤ k) (below : k < n) :
    Enrolls R held s.idsDrawn n s { s with screens := s.screens ++ [screen] } := by
  have fresh : ¬ DrawnBefore R.freshId s.idsDrawn screen.id := by
    rw [new]
    exact not_drawnBefore R.freshId_injective drawn
  exact enrolls_of_grows (ok.pushScreen (drawn.trans below.le) fresh ⟨k, below, new⟩)
    (grows_pushScreen fresh) fun c hc => ⟨c, hc, Std.Refl.refl c⟩

theorem enrolls_codeClaimed {k : Nat} {pairing : PairingRecord} {screen : ScreenRecord}
    (new : screen.id = R.freshId k) (drawn : s.idsDrawn ≤ k) (below : k < n) :
    Enrolls R held s.idsDrawn n s (claimGrant pairing screen s) := by
  have before := fades_claimed (s := s) pairing.id screen.id
  have fresh : ¬ DrawnBefore R.freshId s.idsDrawn screen.id := by
    rw [new]
    exact not_drawnBefore R.freshId_injective drawn
  exact enrolls_of_grows
    ((ok.fades before).pushScreen (drawn.trans below.le) fresh ⟨k, below, new⟩)
    (before.grows.trans ok (grows_pushScreen fresh)) fun c hc => ⟨c, hc, Std.Refl.refl c⟩

end

/-- A claim that a call holds: while its grant is pending or in the store, the store has both of
its records. -/
structure ClaimOk (R : DeviceRuntime) (n : Nat) (s : MemoryStore) (claim : PairingClaim) :
    Prop where
  drawn : DrawnBefore R.freshId n claim.pairing.id
  stored : (claim.pairing.status = .pending ∨ ∃ g ∈ s.pairings, g.id = claim.pairing.id) →
    claim.pairing ∈ s.pairings ∧ claim.attempt ∈ s.pairingAttempts ∧
      claim.attempt.pairingCodeId = claim.pairing.id

/-- A claim makes a screen with its first credential. -/
theorem enrolls_paired (ok : EnrollmentOk R s.idsDrawn s) {k : Nat} {claim : PairingClaim}
    {screen : ScreenRecord} {timestamp : Int} {credentialId : String}
    (own : held = some claim) (claimOk : ClaimOk R s.idsDrawn s claim)
    (purpose : claim.pairing.purpose = none) (pending : claim.pairing.status = .pending)
    (unused : ∀ credential ∈ s.deviceCredentials, credential.keyId ≠ claim.attempt.keyId)
    (new : screen.id = R.freshId k) (drawn : s.idsDrawn ≤ k) (below : k < n) :
    Enrolls R held s.idsDrawn n s (pairScreen claim screen
      (newCredential credentialId claim.pairing.organizationId screen.id claim.attempt timestamp)
      timestamp s) := by
  obtain ⟨granted, attempted, on⟩ := claimOk.stored (.inl pending)
  have bound : ∀ a : PairingAttemptRecord, LaterAttempt a { a with
      consumedAt := some timestamp, boundCredentialId := some credentialId } :=
    fun _ => ⟨rfl, rfl, rfl⟩
  have before := (fades_claimed (s := s) claim.pairing.id screen.id).trans
    (fades_attempts (updateFirst (fun attempt => attempt.id == claim.attempt.id)
      (fun attempt => { attempt with
        consumedAt := some timestamp, boundCredentialId := some credentialId }) s.pairingAttempts)
      (descends_updateFirst fun a _ _ => bound a) (remains_updateFirst bound))
  have fresh : ¬ DrawnBefore R.freshId s.idsDrawn screen.id := by
    rw [new]
    exact not_drawnBefore R.freshId_injective drawn
  have okBefore := ok.fades before
  have pushed := (okBefore.pushScreen (drawn.trans below.le) fresh
    ⟨k, below, new⟩).pushCredential (newCredential credentialId
      claim.pairing.organizationId screen.id claim.attempt timestamp) unused ⟨k, below, new⟩ (by
      intro c hc
      rw [Bool.eq_false_iff]
      intro live
      apply fresh
      have same : c.screenId = screen.id := (isLiveOn_eq live).2
      rw [← same]
      exact ok.credentialScreens c hc) (by
      intro g hg waiting
      exact absurd (okBefore.targets g hg screen.id waiting).drawn fresh)
  have made : MadeOf held s (newCredential credentialId claim.pairing.organizationId screen.id
      claim.attempt timestamp) claim.attempt claim.pairing :=
    ⟨attempted, granted, on, pending, rfl, rfl, .inr ⟨purpose, own⟩⟩
  exact enrolls_pushCredential ok pushed (before.grows.trans ok (grows_pushScreen fresh))
    (fun c hc => before.credentials.mem hc) made

/-! ## All changes -/

theorem fades_screenUpdated {which : ScreenRecord → Bool} {change : ScreenRecord → ScreenRecord}
    (keeps : ∀ screen, (change screen).id = screen.id ∧
      (change screen).organizationId = screen.organizationId ∧
      (change screen).credentialGeneration = screen.credentialGeneration) :
    Fades s { s with screens := updateFirst which change s.screens } := by
  refine fades_devices (descends_updateFirst ?_) (descends_refl _) (remains_refl _)
    (descends_refl _)
  intro screen _ _
  obtain ⟨id, organization, generation⟩ := keeps screen
  refine ⟨id, organization, ?_⟩
  unfold ScreenRecord.generation
  rw [generation]

/-- Every change of a store that is in order leaves it so. -/
theorem DeviceChange.enrolls {t : MemoryStore} (change : DeviceChange R held s n t)
    (ok : EnrollmentOk R s.idsDrawn s) (le : s.idsDrawn ≤ n)
    (claims : ∀ claim, held = some claim → ClaimOk R s.idsDrawn s claim) :
    Enrolls R held s.idsDrawn n s t := by
  cases change with
  | unchanged => exact (fades_refl s).enrolls ok le
  | codeExpired codeHash timestamp => exact (fades_expireCode timestamp s codeHash).enrolls ok le
  | codeCreated k org codeHash expiresAt timestamp drawn below =>
    exact enrolls_codeCreated ok drawn below
  | codeClaimed k pairing device tokenHash timestamp drawn below =>
    exact enrolls_codeClaimed ok rfl drawn below
  | pruned org timestamp preserved =>
    exact (fades_prune R.toPlatform org timestamp s preserved).enrolls ok le
  | reenrollmentBegun k org screenId codeHash screen expiresAt actor prior reason timestamp found
      drawn below => exact enrolls_reenrollmentBegun ok found drawn below
  | enrollmentBegun k org screenId codeHash target expiresAt actor reason keyHash digest counter
      timestamp found unenrolled drawn below =>
    exact enrolls_enrollmentBegun ok found unenrolled drawn below
  | attemptBegun k input grant createdAt member drawn below =>
    exact enrolls_attemptBegun ok member drawn below
  | attemptProved attemptId device provedAt =>
    exact (fades_proveAttempt provedAt s attemptId device).enrolls ok le
  | reenrolled k org screenId grant attempt screen timestamp member within granted own target
      purpose signed proved open' found pending expected unused =>
    exact enrolls_reenrolled ok member within granted own target purpose signed proved open' found
      pending expected unused le _
  | enrolled k org screenId grant attempt target actorUserId keyHash digest timestamp member within
      granted own purpose found current =>
    exact enrolls_enrolled ok member within granted own purpose found current le _ _ _ _
  | paired k k' claim device timestamp own purpose pending unused drawn after below =>
    exact enrolls_paired ok own (claims claim own) purpose pending unused rfl drawn
      (after.trans below)
  | cancelled grantId timestamp =>
    exact (fades_revokeGrants s _ _ (laterAttempt_cancel timestamp)).enrolls ok le
  | revocationReasserted org screenId timestamp =>
    exact (fades_reassertRevocation org screenId timestamp s).enrolls ok le
  | revoked org screenId credential timestamp =>
    exact (fades_revokeCredential org screenId timestamp s credential).enrolls ok le
  | screenCreated k screen new unenrolled drawn below =>
    exact enrolls_screenCreated ok new drawn below
  | screenUpdated which change keeps => exact (fades_screenUpdated keeps).enrolls ok le
  | screenDeleted org screenId => exact (fades_deleteScreen org screenId s).enrolls ok le
  | screenDecommissioned org screenId actorUserId timestamp =>
    exact (fades_deleteScreenAndAudit org screenId timestamp s actorUserId).enrolls ok le
  | issuerChanged userId organizationIds timestamp users =>
    have fades := fades_revokePendingIssuerGrants timestamp s userId organizationIds
    have renamed : Fades s { revokePendingIssuerGrants userId organizationIds timestamp s with
        users := users } :=
      ⟨fades.screens, fades.grants, fades.attempts, fades.together, fades.credentials, fades.kept,
        fades.usedKeys, fades.challenges⟩
    exact renamed.enrolls ok le

end screengoblin.server
