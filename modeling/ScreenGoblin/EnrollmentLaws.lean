-- What holds of the records of devices at every moment: identifiers and keys of their own, one
-- credential in use and one pending grant for each screen.
import ScreenGoblin.DeviceLineages

open js collections lineages scripts scripts.Script screengoblin.schedule

namespace screengoblin.server

/-! ## The invariant -/

/-- A pending grant for the screen. -/
def isPendingFor (screenId : String) (grant : PairingRecord) : Bool :=
  isTarget screenId grant && grant.status == .pending

/-- A credential in use on the screen. -/
def isLiveOn (org screenId : String) (credential : DeviceCredentialRecord) : Bool :=
  ofScreen org screenId credential && credential.isLive

/-- A pending grant and its target. A re-enrollment began when the screen came to the expected
generation, and at that generation no credential is in use. -/
structure TargetOk (R : DeviceRuntime) (n : Nat) (s : MemoryStore) (grant : PairingRecord)
    (screenId : String) : Prop where
  drawn : DrawnBefore R.freshId n screenId
  purpose : grant.purpose.isSome = true
  own : ∀ screen ∈ s.screens, screen.id = screenId →
    screen.organizationId = grant.organizationId
  reenroll : grant.purpose = some .reenroll → ∃ expected,
    grant.expectedGeneration = some expected ∧ 1 ≤ expected ∧
      ∀ screen ∈ s.screens, screen.id = screenId → expected ≤ screen.generation ∧
        (screen.generation = expected → ∀ credential ∈ s.deviceCredentials,
          isLiveOn grant.organizationId screenId credential = false)

structure EnrollmentOk (R : DeviceRuntime) (n : Nat) (s : MemoryStore) : Prop where
  screens : Named R.freshId n (·.id) s.screens
  grants : Named R.freshId n (·.id) s.pairings
  attempts : Named R.randomToken n (·.id) s.pairingAttempts
  attemptGrants : ∀ attempt ∈ s.pairingAttempts, DrawnBefore R.freshId n attempt.pairingCodeId
  within : ∀ attempt ∈ s.pairingAttempts, ∀ grant ∈ s.pairings,
    grant.id = attempt.pairingCodeId → grant.organizationId = attempt.organizationId
  keys : KeysUnique (·.keyId) s.deviceCredentials
  usedKeys : ∀ credential ∈ s.deviceCredentials, credential.keyId ∈ s.usedDeviceKeyIds
  credentialScreens : ∀ credential ∈ s.deviceCredentials,
    DrawnBefore R.freshId n credential.screenId
  oneLive : ∀ org screenId, s.deviceCredentials.countP (isLiveOn org screenId) ≤ 1
  onePending : ∀ screenId, s.pairings.countP (isPendingFor screenId) ≤ 1
  targets : ∀ grant ∈ s.pairings, ∀ screenId, isPendingFor screenId grant = true →
    TargetOk R n s grant screenId

theorem enrollmentOk_empty (R : DeviceRuntime) {s : MemoryStore} (n : Nat)
    (screens : s.screens = []) (grants : s.pairings = []) (attempts : s.pairingAttempts = [])
    (credentials : s.deviceCredentials = []) : EnrollmentOk R n s := by
  refine ⟨?_, ?_, ?_, ?_, ?_, ?_, ?_, ?_, ?_, ?_, ?_⟩
  · rw [screens]
    exact named_nil
  · rw [grants]
    exact named_nil
  · rw [attempts]
    exact named_nil
  · simp [attempts]
  · simp [attempts]
  · rw [credentials]
    exact List.nodup_nil
  · simp [credentials]
  · simp [credentials]
  · simp [credentials]
  · simp [grants]
  · simp [grants]

variable {R : DeviceRuntime} {n m : Nat} {s t : MemoryStore}

theorem TargetOk.later {grant : PairingRecord} {screenId : String}
    (ok : TargetOk R n s grant screenId) (le : n ≤ m) : TargetOk R m s grant screenId :=
  ⟨ok.drawn.later le, ok.purpose, ok.own, ok.reenroll⟩

theorem EnrollmentOk.later (ok : EnrollmentOk R n s) (le : n ≤ m) : EnrollmentOk R m s :=
  ⟨ok.screens.later le, ok.grants.later le, ok.attempts.later le,
    fun a ha => (ok.attemptGrants a ha).later le, ok.within, ok.keys, ok.usedKeys,
    fun c hc => (ok.credentialScreens c hc).later le, ok.oneLive, ok.onePending,
    fun g hg x pending => (ok.targets g hg x pending).later le⟩

/-! ## Changes that add nothing -/

theorem LaterGrant.pendingFor {g g' : PairingRecord} (h : LaterGrant g g') {screenId : String}
    (pending : isPendingFor screenId g' = true) : isPendingFor screenId g = true := by
  unfold isPendingFor isTarget at *
  rw [Bool.and_eq_true, beq_iff_eq, beq_iff_eq] at *
  exact ⟨h.target.symm.trans pending.1, h.pending pending.2⟩

theorem LaterCredential.liveOn {c c' : DeviceCredentialRecord} (h : LaterCredential c c')
    {org screenId : String} (live : isLiveOn org screenId c' = true) :
    isLiveOn org screenId c = true := by
  unfold isLiveOn ofScreen at *
  rw [Bool.and_eq_true] at *
  rw [← h.organization, ← h.screen]
  exact ⟨live.1, h.live live.2⟩

theorem LaterCredential.keyId {c c' : DeviceCredentialRecord} (h : LaterCredential c c') :
    c'.keyId = c.keyId := congrArg (·.keyId) h.enrollment

theorem TargetOk.fades {g g' : PairingRecord} {screenId : String}
    (ok : TargetOk R n s g screenId) (fades : Fades s t) (later : LaterGrant g g') :
    TargetOk R n t g' screenId := by
  refine ⟨ok.drawn, ?_, ?_, ?_⟩
  · rw [later.purpose]
    exact ok.purpose
  · intro y hy is
    obtain ⟨x, hx, laterScreen⟩ := fades.screens.mem hy
    rw [laterScreen.organization, later.organization]
    exact ok.own x hx (laterScreen.id.symm.trans is)
  · intro reenroll
    obtain ⟨expected, named, positive, at'⟩ := ok.reenroll (later.purpose.symm.trans reenroll)
    refine ⟨expected, later.expected.trans named, positive, ?_⟩
    intro y hy is
    obtain ⟨x, hx, laterScreen⟩ := fades.screens.mem hy
    obtain ⟨reached, unused⟩ := at' x hx (laterScreen.id.symm.trans is)
    refine ⟨reached.trans laterScreen.generation, ?_⟩
    intro still c' hc'
    obtain ⟨c, hc, laterCredential⟩ := fades.credentials.mem hc'
    have before := unused (le_antisymm (laterScreen.generation.trans still.le) reached) c hc
    rw [later.organization, Bool.eq_false_iff]
    intro live
    rw [laterCredential.liveOn live] at before
    cases before

theorem EnrollmentOk.fades (ok : EnrollmentOk R n s) (fades : Fades s t) :
    EnrollmentOk R n t := by
  refine ⟨ok.screens.descends fades.screens fun _ _ h => h.id,
    ok.grants.descends fades.grants fun _ _ h => h.id,
    ok.attempts.descends fades.attempts fun _ _ h => h.id, ?_, ?_,
    fades.credentials.keysUnique (fun _ _ h => h.keyId) ok.keys, ?_, ?_, ?_, ?_, ?_⟩
  · intro a' ha'
    obtain ⟨a, ha, later⟩ := fades.attempts.mem ha'
    rw [later.grant]
    exact ok.attemptGrants a ha
  · intro a' ha' g' hg' own
    obtain ⟨a, ha, laterAttempt⟩ := fades.attempts.mem ha'
    obtain ⟨g, hg, laterGrant⟩ := fades.grants.mem hg'
    rw [laterGrant.organization, laterAttempt.organization]
    apply ok.within a ha g hg
    rw [← laterGrant.id, own, laterAttempt.grant]
  · intro c' hc'
    obtain ⟨c, hc, later⟩ := fades.credentials.mem hc'
    rw [later.keyId]
    exact fades.usedKeys (ok.usedKeys c hc)
  · intro c' hc'
    obtain ⟨c, hc, later⟩ := fades.credentials.mem hc'
    rw [later.screen]
    exact ok.credentialScreens c hc
  · intro org screenId
    exact (fades.credentials.countP_le fun _ _ h => h.liveOn).trans (ok.oneLive org screenId)
  · intro screenId
    exact (fades.grants.countP_le fun _ _ h => h.pendingFor).trans (ok.onePending screenId)
  · intro g' hg' screenId pending
    obtain ⟨g, hg, later⟩ := fades.grants.mem hg'
    exact (ok.targets g hg screenId (later.pendingFor pending)).fades fades later

/-! ## New records -/

theorem TargetOk.of_devices {grant : PairingRecord} {screenId : String}
    (ok : TargetOk R n s grant screenId) (screens : t.screens = s.screens)
    (credentials : t.deviceCredentials = s.deviceCredentials) : TargetOk R n t grant screenId := by
  refine ⟨ok.drawn, ok.purpose, ?_, ?_⟩
  · rw [screens]
    exact ok.own
  · rw [screens, credentials]
    exact ok.reenroll

theorem EnrollmentOk.pushGrant (ok : EnrollmentOk R n s) (grant : PairingRecord) (le : n ≤ m)
    (fresh : ¬ DrawnBefore R.freshId n grant.id) (drawn : DrawnBefore R.freshId m grant.id)
    (target : ∀ screenId, isPendingFor screenId grant = true → TargetOk R m s grant screenId ∧
      ∀ other ∈ s.pairings, isPendingFor screenId other = false) :
    EnrollmentOk R m (server.pushGrant grant s) := by
  have later := ok.later le
  refine ⟨later.screens, ok.grants.append le fresh drawn, later.attempts, later.attemptGrants,
    ?_, later.keys, later.usedKeys, later.credentialScreens, later.oneLive, ?_, ?_⟩
  · intro a ha g hg own
    rcases List.mem_append.mp hg with hg | hg
    · exact ok.within a ha g hg own
    · rw [List.mem_singleton.mp hg] at own
      rw [own] at fresh
      exact absurd (ok.attemptGrants a ha) fresh
  · intro screenId
    show (s.pairings ++ [grant]).countP _ ≤ 1
    rw [List.countP_append, List.countP_singleton]
    by_cases pending : isPendingFor screenId grant = true
    · have none : s.pairings.countP (isPendingFor screenId) = 0 :=
        List.countP_eq_zero.mpr fun other hg => by
          rw [(target screenId pending).2 other hg]
          exact Bool.false_ne_true
      rw [if_pos pending, none]
    · rw [if_neg pending]
      exact ok.onePending screenId
  · intro g hg screenId pending
    refine TargetOk.of_devices (s := s) ?_ rfl rfl
    rcases List.mem_append.mp hg with hg | hg
    · exact later.targets g hg screenId pending
    · rw [List.mem_singleton.mp hg] at pending ⊢
      exact (target screenId pending).1

theorem EnrollmentOk.pushAttempt {attempt : PairingAttemptRecord} {grant : PairingRecord}
    (ok : EnrollmentOk R n s) (le : n ≤ m) (fresh : ¬ DrawnBefore R.randomToken n attempt.id)
    (drawn : DrawnBefore R.randomToken m attempt.id) (member : grant ∈ s.pairings)
    (own : attempt.pairingCodeId = grant.id)
    (organization : attempt.organizationId = grant.organizationId) :
    EnrollmentOk R m (server.pushAttempt attempt s) := by
  have later := ok.later le
  refine ⟨later.screens, later.grants, ok.attempts.append le fresh drawn, ?_, ?_, later.keys,
    later.usedKeys, later.credentialScreens, later.oneLive, later.onePending, ?_⟩
  · intro a ha
    rcases List.mem_append.mp ha with ha | ha
    · exact later.attemptGrants a ha
    · rw [List.mem_singleton.mp ha, own]
      exact later.grants.drawn grant member
  · intro a ha g hg is
    rcases List.mem_append.mp ha with ha | ha
    · exact ok.within a ha g hg is
    · rw [List.mem_singleton.mp ha] at is ⊢
      rw [ok.grants.unique.eq hg member (is.trans own), organization]
  · intro g hg screenId pending
    exact (later.targets g hg screenId pending).of_devices rfl rfl

theorem EnrollmentOk.pushScreen {screen : ScreenRecord} (ok : EnrollmentOk R n s) (le : n ≤ m)
    (fresh : ¬ DrawnBefore R.freshId n screen.id) (drawn : DrawnBefore R.freshId m screen.id) :
    EnrollmentOk R m { s with screens := s.screens ++ [screen] } := by
  have later := ok.later le
  refine ⟨ok.screens.append le fresh drawn, later.grants, later.attempts, later.attemptGrants,
    later.within, later.keys, later.usedKeys, later.credentialScreens, later.oneLive,
    later.onePending, ?_⟩
  intro g hg screenId pending
  have target := ok.targets g hg screenId pending
  -- the target of a grant was drawn before, so it is not the new screen
  have old : ∀ x ∈ s.screens ++ [screen], x.id = screenId → x ∈ s.screens := by
    intro x hx is
    rcases List.mem_append.mp hx with hx | hx
    · exact hx
    · rw [List.mem_singleton.mp hx] at is
      rw [is] at fresh
      exact absurd target.drawn fresh
  refine ⟨target.drawn.later le, target.purpose, ?_, ?_⟩
  · intro x hx is
    exact target.own x (old x hx is) is
  · intro reenroll
    obtain ⟨expected, named, positive, at'⟩ := target.reenroll reenroll
    exact ⟨expected, named, positive, fun x hx is => at' x (old x hx is) is⟩

theorem isLiveOn_eq {org screenId : String} {credential : DeviceCredentialRecord}
    (live : isLiveOn org screenId credential = true) :
    credential.organizationId = org ∧ credential.screenId = screenId := by
  unfold isLiveOn ofScreen at live
  simp only [Bool.and_eq_true, beq_iff_eq] at live
  exact live.1

theorem EnrollmentOk.pushCredential (ok : EnrollmentOk R n s)
    (credential : DeviceCredentialRecord)
    (unused : ∀ c ∈ s.deviceCredentials, c.keyId ≠ credential.keyId)
    (drawn : DrawnBefore R.freshId n credential.screenId)
    (idle : ∀ c ∈ s.deviceCredentials,
      isLiveOn credential.organizationId credential.screenId c = false)
    (passed : ∀ g ∈ s.pairings, isPendingFor credential.screenId g = true →
      g.purpose = some .reenroll → ∀ screen ∈ s.screens, screen.id = credential.screenId →
        g.expectedGeneration ≠ some screen.generation) :
    EnrollmentOk R n (server.pushCredential credential s) := by
  refine ⟨ok.screens, ok.grants, ok.attempts, ok.attemptGrants, ok.within,
    ok.keys.append unused, ?_, ?_, ?_, ok.onePending, ?_⟩
  · intro c hc
    show c.keyId ∈ if s.usedDeviceKeyIds.contains credential.keyId then s.usedDeviceKeyIds
      else s.usedDeviceKeyIds ++ [credential.keyId]
    rcases List.mem_append.mp hc with hc | hc
    · have used := ok.usedKeys c hc
      split
      · exact used
      · exact List.mem_append_left _ used
    · rw [List.mem_singleton.mp hc]
      split
      · rename_i already
        exact List.contains_iff_mem.mp already
      · exact List.mem_append_right _ (List.mem_singleton_self _)
  · intro c hc
    rcases List.mem_append.mp hc with hc | hc
    · exact ok.credentialScreens c hc
    · rw [List.mem_singleton.mp hc]
      exact drawn
  · intro org screenId
    show (s.deviceCredentials ++ [credential]).countP _ ≤ 1
    rw [List.countP_append, List.countP_singleton]
    by_cases live : isLiveOn org screenId credential = true
    · obtain ⟨rfl, rfl⟩ := isLiveOn_eq live
      have none : s.deviceCredentials.countP
          (isLiveOn credential.organizationId credential.screenId) = 0 :=
        List.countP_eq_zero.mpr fun c hc => by
          rw [idle c hc]
          exact Bool.false_ne_true
      rw [if_pos live, none]
    · rw [if_neg live]
      exact ok.oneLive org screenId
  · intro g hg screenId pending
    have target := ok.targets g hg screenId pending
    refine ⟨target.drawn, target.purpose, target.own, ?_⟩
    intro reenroll
    obtain ⟨expected, named, positive, at'⟩ := target.reenroll reenroll
    refine ⟨expected, named, positive, ?_⟩
    intro x hx is
    refine ⟨(at' x hx is).1, ?_⟩
    intro still c hc
    rcases List.mem_append.mp hc with hc | hc
    · exact (at' x hx is).2 still c hc
    · rw [List.mem_singleton.mp hc, Bool.eq_false_iff]
      intro live
      obtain ⟨-, on⟩ := isLiveOn_eq live
      rw [← on] at pending is
      apply passed g hg pending reenroll x hx is
      rw [still, named]

/-! ## What a change leaves -/

/-- The store later: what is not a record of before is a new one. An attempt stays with its grant,
and a credential for good. -/
structure Grows (R : DeviceRuntime) (n : Nat) (s t : MemoryStore) : Prop where
  screens : ∀ y ∈ t.screens, (∃ x ∈ s.screens, LaterScreen x y) ∨ ¬ DrawnBefore R.freshId n y.id
  grants : ∀ g' ∈ t.pairings, (∃ g ∈ s.pairings, LaterGrant g g') ∨
    ¬ DrawnBefore R.freshId n g'.id
  together : ∀ a ∈ s.pairingAttempts, (∃ g ∈ t.pairings, g.id = a.pairingCodeId) →
    ∃ a' ∈ t.pairingAttempts, LaterAttempt a a'
  kept : Remains LaterCredential s.deviceCredentials t.deviceCredentials

theorem Fades.grows (fades : Fades s t) : Grows R n s t :=
  ⟨fun _ hy => .inl (fades.screens.mem hy), fun _ hg => .inl (fades.grants.mem hg),
    fades.together, fades.kept⟩

theorem Grows.trans {u : MemoryStore} (ok : EnrollmentOk R n s) (h : Grows R n s t)
    (h' : Grows R n t u) : Grows R n s u := by
  refine ⟨?_, ?_, ?_, h.kept.trans h'.kept⟩
  · intro z hz
    rcases h'.screens z hz with ⟨y, hy, later⟩ | fresh
    · rcases h.screens y hy with ⟨x, hx, before⟩ | fresh
      · exact .inl ⟨x, hx, IsTrans.trans _ _ _ before later⟩
      · rw [← later.id] at fresh
        exact .inr fresh
    · exact .inr fresh
  · intro g'' hg''
    rcases h'.grants g'' hg'' with ⟨g', hg', later⟩ | fresh
    · rcases h.grants g' hg' with ⟨g, hg, before⟩ | fresh
      · exact .inl ⟨g, hg, IsTrans.trans _ _ _ before later⟩
      · rw [← later.id] at fresh
        exact .inr fresh
    · exact .inr fresh
  · rintro a ha ⟨g'', hg'', own⟩
    rcases h'.grants g'' hg'' with ⟨g', hg', later⟩ | fresh
    · obtain ⟨a', ha', first⟩ := h.together a ha ⟨g', hg', later.id.symm.trans own⟩
      obtain ⟨a'', ha'', second⟩ := h'.together a' ha' ⟨g'', hg'', own.trans first.grant.symm⟩
      exact ⟨a'', ha'', IsTrans.trans _ _ _ first second⟩
    · rw [own] at fresh
      exact absurd (ok.attemptGrants a ha) fresh

theorem grows_pushGrant {grant : PairingRecord} (fresh : ¬ DrawnBefore R.freshId n grant.id) :
    Grows R n s (pushGrant grant s) := by
  refine ⟨fun y hy => .inl ⟨y, hy, Std.Refl.refl y⟩, ?_,
    fun a ha _ => ⟨a, ha, Std.Refl.refl a⟩, remains_refl _⟩
  intro g hg
  rcases List.mem_append.mp hg with hg | hg
  · exact .inl ⟨g, hg, Std.Refl.refl g⟩
  · rw [List.mem_singleton.mp hg]
    exact .inr fresh

theorem grows_pushAttempt (attempt : PairingAttemptRecord) :
    Grows R n s (pushAttempt attempt s) :=
  ⟨fun y hy => .inl ⟨y, hy, Std.Refl.refl y⟩, fun g hg => .inl ⟨g, hg, Std.Refl.refl g⟩,
    fun a ha _ => ⟨a, List.mem_append_left _ ha, Std.Refl.refl a⟩, remains_refl _⟩

theorem grows_pushScreen {screen : ScreenRecord} (fresh : ¬ DrawnBefore R.freshId n screen.id) :
    Grows R n s { s with screens := s.screens ++ [screen] } := by
  refine ⟨?_, fun g hg => .inl ⟨g, hg, Std.Refl.refl g⟩,
    fun a ha _ => ⟨a, ha, Std.Refl.refl a⟩, remains_refl _⟩
  intro y hy
  rcases List.mem_append.mp hy with hy | hy
  · exact .inl ⟨y, hy, Std.Refl.refl y⟩
  · rw [List.mem_singleton.mp hy]
    exact .inr fresh

theorem grows_pushCredential (credential : DeviceCredentialRecord) :
    Grows R n s (pushCredential credential s) :=
  ⟨fun y hy => .inl ⟨y, hy, Std.Refl.refl y⟩, fun g hg => .inl ⟨g, hg, Std.Refl.refl g⟩,
    fun a ha _ => ⟨a, ha, Std.Refl.refl a⟩, remains_append _ _⟩

/-- The credential is made of this attempt on a pending grant. On a grant for a screen the attempt
was proved and not cancelled, and the issuer of the grant is as the grant names the issuer. On
another grant a call holds the claim. -/
structure MadeOf (held : Option PairingClaim) (s : MemoryStore)
    (credential : DeviceCredentialRecord) (attempt : PairingAttemptRecord)
    (grant : PairingRecord) : Prop where
  attempted : attempt ∈ s.pairingAttempts
  granted : grant ∈ s.pairings
  own : attempt.pairingCodeId = grant.id
  pending : grant.status = .pending
  enrollment : credential.toDeviceCredentialEnrollment = attempt.enrollment
  organization : credential.organizationId = grant.organizationId
  authorized : (grant.targetScreenId = some credential.screenId ∧
      attempt.provedAt.isSome = true ∧ attempt.cancelledAt = none ∧
      IssuerSigns s grant.organizationId grant) ∨
    (grant.purpose = none ∧ held = some { attempt := attempt, pairing := grant })

/-- What a change leaves of a store that is in order. -/
structure Enrolls (R : DeviceRuntime) (held : Option PairingClaim) (n m : Nat)
    (s t : MemoryStore) : Prop where
  ok : EnrollmentOk R m t
  grows : Grows R n s t
  made : ∀ c' ∈ t.deviceCredentials, (∃ c ∈ s.deviceCredentials, LaterCredential c c') ∨
    ∃ attempt grant, MadeOf held s c' attempt grant

section
variable {held : Option PairingClaim} {u : MemoryStore}

/-- Records that are new, but no credential. -/
theorem enrolls_of_grows (ok : EnrollmentOk R m t) (grows : Grows R n s t)
    (old : ∀ c' ∈ t.deviceCredentials, ∃ c ∈ s.deviceCredentials, LaterCredential c c') :
    Enrolls R held n m s t :=
  ⟨ok, grows, fun c' hc' => .inl (old c' hc')⟩

theorem Fades.enrolls (fades : Fades s t) (ok : EnrollmentOk R n s) (le : n ≤ m) :
    Enrolls R held n m s t :=
  enrolls_of_grows ((ok.later le).fades fades) fades.grows fun _ hc' => fades.credentials.mem hc'

theorem MadeOf.later {c c' : DeviceCredentialRecord} {attempt : PairingAttemptRecord}
    {grant : PairingRecord} (made : MadeOf held s c attempt grant) (later : LaterCredential c c') :
    MadeOf held s c' attempt grant := by
  refine ⟨made.attempted, made.granted, made.own, made.pending,
    later.enrollment.trans made.enrollment, later.organization.trans made.organization, ?_⟩
  rw [later.screen]
  exact made.authorized

/-- A new credential. -/
theorem enrolls_pushCredential {credential : DeviceCredentialRecord} (ok : EnrollmentOk R n s)
    (pushed : EnrollmentOk R m (pushCredential credential u)) (grows : Grows R n s u)
    (old : ∀ c' ∈ u.deviceCredentials, ∃ c ∈ s.deviceCredentials, LaterCredential c c')
    {attempt : PairingAttemptRecord} {grant : PairingRecord}
    (made : MadeOf held s credential attempt grant) :
    Enrolls R held n m s (pushCredential credential u) := by
  refine ⟨pushed, grows.trans ok (grows_pushCredential credential), ?_⟩
  intro c' hc'
  rcases List.mem_append.mp hc' with hc' | hc'
  · exact .inl (old c' hc')
  · rw [List.mem_singleton.mp hc']
    exact .inr ⟨attempt, grant, made⟩

theorem Enrolls.fades (h : Enrolls R held n m s u) (ok : EnrollmentOk R n s) (after : Fades u t) :
    Enrolls R held n m s t := by
  refine ⟨h.ok.fades after, h.grows.trans ok after.grows, ?_⟩
  intro c'' hc''
  obtain ⟨c', hc', later⟩ := after.credentials.mem hc''
  rcases h.made c' hc' with ⟨c, hc, before⟩ | ⟨attempt, grant, made⟩
  · exact .inl ⟨c, hc, IsTrans.trans _ _ _ before later⟩
  · exact .inr ⟨attempt, grant, made.later later⟩

end

end screengoblin.server
