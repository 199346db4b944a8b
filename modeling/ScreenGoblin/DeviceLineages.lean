-- What becomes of the records of devices: screens, grants, attempts, credentials and challenges
-- end in one way only, and the changes of a call say what is new.
import ScreenGoblin.DeviceSpecs
import ScreenGoblin.Lineages

open js collections lineages scripts scripts.Script screengoblin.schedule

namespace screengoblin.server

/-! ## Records later -/

def ScreenRecord.generation (screen : ScreenRecord) : Nat := screen.credentialGeneration.getD 0

/-- A screen later. Its generation can only have grown. -/
structure LaterScreen (x y : ScreenRecord) : Prop where
  id : y.id = x.id
  organization : y.organizationId = x.organizationId
  generation : x.generation ≤ y.generation

/-- A grant later. One that has ended is not pending again. -/
structure LaterGrant (g g' : PairingRecord) : Prop where
  id : g'.id = g.id
  organization : g'.organizationId = g.organizationId
  target : g'.targetScreenId = g.targetScreenId
  purpose : g'.purpose = g.purpose
  expected : g'.expectedGeneration = g.expectedGeneration
  pending : g'.status = .pending → g.status = .pending

structure LaterAttempt (a a' : PairingAttemptRecord) : Prop where
  id : a'.id = a.id
  organization : a'.organizationId = a.organizationId
  grant : a'.pairingCodeId = a.pairingCodeId

/-- A credential that its screen uses: it was neither revoked nor detached. -/
def DeviceCredentialRecord.isLive (credential : DeviceCredentialRecord) : Bool :=
  !credential.detached && credential.revokedAt.isNone

/-- A credential later. One that has ended does not come back. -/
structure LaterCredential (c c' : DeviceCredentialRecord) : Prop where
  enrollment : c'.toDeviceCredentialEnrollment = c.toDeviceCredentialEnrollment
  id : c'.id = c.id
  organization : c'.organizationId = c.organizationId
  screen : c'.screenId = c.screenId
  created : c'.createdAt = c.createdAt
  live : c'.isLive = true → c.isLive = true

/-- A challenge later: it is as it was, or it has been consumed since. -/
def Spent (c c' : DeviceAuthChallengeRecord) : Prop :=
  c' = c ∨ c.consumedAt = none ∧ ∃ consumedAt, c' = { c with consumedAt := some consumedAt }

instance : Std.Refl LaterScreen := ⟨fun _ => ⟨rfl, rfl, le_refl _⟩⟩

instance : IsTrans ScreenRecord LaterScreen := ⟨fun _ _ _ h h' =>
  ⟨h'.id.trans h.id, h'.organization.trans h.organization, h.generation.trans h'.generation⟩⟩

instance : Std.Refl LaterGrant := ⟨fun _ => ⟨rfl, rfl, rfl, rfl, rfl, fun h => h⟩⟩

instance : IsTrans PairingRecord LaterGrant := ⟨fun _ _ _ h h' =>
  ⟨h'.id.trans h.id, h'.organization.trans h.organization, h'.target.trans h.target,
    h'.purpose.trans h.purpose, h'.expected.trans h.expected,
    fun pending => h.pending (h'.pending pending)⟩⟩

instance : Std.Refl LaterAttempt := ⟨fun _ => ⟨rfl, rfl, rfl⟩⟩

instance : IsTrans PairingAttemptRecord LaterAttempt := ⟨fun _ _ _ h h' =>
  ⟨h'.id.trans h.id, h'.organization.trans h.organization, h'.grant.trans h.grant⟩⟩

instance : Std.Refl LaterCredential := ⟨fun _ => ⟨rfl, rfl, rfl, rfl, rfl, fun h => h⟩⟩

instance : IsTrans DeviceCredentialRecord LaterCredential := ⟨fun _ _ _ h h' =>
  ⟨h'.enrollment.trans h.enrollment, h'.id.trans h.id, h'.organization.trans h.organization,
    h'.screen.trans h.screen, h'.created.trans h.created, fun live => h.live (h'.live live)⟩⟩

instance : Std.Refl Spent := ⟨fun _ => .inl rfl⟩

instance : IsTrans DeviceAuthChallengeRecord Spent := by
  refine ⟨?_⟩
  rintro c c' c'' (rfl | ⟨live, t, rfl⟩) h'
  · exact h'
  · rcases h' with rfl | ⟨dead, -⟩
    · exact .inr ⟨live, t, rfl⟩
    · cases dead

/-! ## Changes that add nothing -/

/-- No record is new, an attempt stays with its grant, and a credential stays for good. -/
structure Fades (s t : MemoryStore) : Prop where
  screens : Descends LaterScreen s.screens t.screens
  grants : Descends LaterGrant s.pairings t.pairings
  attempts : Descends LaterAttempt s.pairingAttempts t.pairingAttempts
  together : ∀ a ∈ s.pairingAttempts, (∃ g ∈ t.pairings, g.id = a.pairingCodeId) →
    ∃ a' ∈ t.pairingAttempts, LaterAttempt a a'
  credentials : Descends LaterCredential s.deviceCredentials t.deviceCredentials
  kept : Remains LaterCredential s.deviceCredentials t.deviceCredentials
  usedKeys : s.usedDeviceKeyIds ⊆ t.usedDeviceKeyIds
  challenges : Descends Spent s.deviceAuthChallenges t.deviceAuthChallenges

theorem fades_refl (s : MemoryStore) : Fades s s :=
  ⟨descends_refl _, descends_refl _, descends_refl _, fun a ha _ => ⟨a, ha, Std.Refl.refl a⟩,
    descends_refl _, remains_refl _, fun _ h => h, descends_refl _⟩

theorem Fades.trans {s t u : MemoryStore} (h : Fades s t) (h' : Fades t u) : Fades s u := by
  refine ⟨h.screens.trans h'.screens, h.grants.trans h'.grants, h.attempts.trans h'.attempts, ?_,
    h.credentials.trans h'.credentials, h.kept.trans h'.kept,
    fun _ used => h'.usedKeys (h.usedKeys used), h.challenges.trans h'.challenges⟩
  rintro a ha ⟨g, hg, same⟩
  obtain ⟨g1, hg1, later⟩ := h'.grants.mem hg
  obtain ⟨a1, ha1, later1⟩ := h.together a ha ⟨g1, hg1, by rw [← later.id, same]⟩
  obtain ⟨a2, ha2, later2⟩ := h'.together a1 ha1 ⟨g, hg, by rw [later1.grant, same]⟩
  exact ⟨a2, ha2, IsTrans.trans _ _ _ later1 later2⟩

/-- A change of grants and attempts in which every attempt stays. -/
theorem fades_grants {s : MemoryStore} {pairings : List PairingRecord}
    {attempts : List PairingAttemptRecord} (grants : Descends LaterGrant s.pairings pairings)
    (later : Descends LaterAttempt s.pairingAttempts attempts)
    (stay : Remains LaterAttempt s.pairingAttempts attempts) :
    Fades s { s with pairings := pairings, pairingAttempts := attempts } :=
  ⟨descends_refl _, grants, later, fun a ha _ => stay a ha, descends_refl _, remains_refl _,
    fun _ h => h, descends_refl _⟩

/-- A change of grants alone. -/
theorem fades_pairings {s : MemoryStore} {pairings : List PairingRecord}
    (grants : Descends LaterGrant s.pairings pairings) :
    Fades s { s with pairings := pairings } :=
  fades_grants grants (descends_refl _) (remains_refl _)

/-- A change of attempts alone. -/
theorem fades_attempts {s : MemoryStore} (attempts : List PairingAttemptRecord)
    (later : Descends LaterAttempt s.pairingAttempts attempts)
    (stay : Remains LaterAttempt s.pairingAttempts attempts) :
    Fades s { s with pairingAttempts := attempts } :=
  fades_grants (descends_refl _) later stay

/-- A change of screens, credentials and challenges. -/
theorem fades_devices {s : MemoryStore} {screens : List ScreenRecord}
    {credentials : List DeviceCredentialRecord} {challenges : List DeviceAuthChallengeRecord}
    (laterScreens : Descends LaterScreen s.screens screens)
    (laterCredentials : Descends LaterCredential s.deviceCredentials credentials)
    (kept : Remains LaterCredential s.deviceCredentials credentials)
    (spent : Descends Spent s.deviceAuthChallenges challenges) :
    Fades s { s with
      screens := screens, deviceCredentials := credentials, deviceAuthChallenges := challenges } :=
  ⟨laterScreens, descends_refl _, descends_refl _, fun a ha _ => ⟨a, ha, Std.Refl.refl a⟩,
    laterCredentials, kept, fun _ h => h, spent⟩

theorem LaterGrant.ended {g g' : PairingRecord} (kept : g' = { g with
    status := g'.status, claimedAt := g'.claimedAt, screenId := g'.screenId })
    (ended : g'.status ≠ .pending) : LaterGrant g g' := by
  rw [kept]
  exact ⟨rfl, rfl, rfl, rfl, rfl, fun pending => absurd pending ended⟩

theorem laterAttempt_cancel (timestamp : Int) (a : PairingAttemptRecord) :
    LaterAttempt a (a.cancel timestamp) := ⟨rfl, rfl, rfl⟩

theorem laterAttempt_cancelOnce (timestamp : Int) (a : PairingAttemptRecord) :
    LaterAttempt a (a.cancelOnce timestamp) := ⟨rfl, rfl, rfl⟩

/-! ## Grants -/

section grants

variable (P : Platform) (org : String) (timestamp : Int) (s : MemoryStore)

theorem fades_expireCode (codeHash : String) : Fades s (expireCode codeHash timestamp s) := by
  apply fades_pairings
  exact descends_changeWhere fun g _ _ => LaterGrant.ended rfl (by simp)

theorem fades_expireGrants : Fades s (expireGrants P org timestamp s) := by
  apply fades_pairings
  exact descends_changeWhere fun g _ _ => LaterGrant.ended rfl (by simp)

/-- An attempt goes with its grant only. -/
theorem fades_removeGrants : Fades s (removeGrants P org timestamp s) := by
  refine ⟨descends_refl _, descends_filter _, descends_filter _, ?_, descends_refl _,
    remains_refl _, fun _ h => h, descends_refl _⟩
  rintro a ha ⟨g, hg, same⟩
  refine ⟨a, List.mem_filter.mpr ⟨ha, ?_⟩, Std.Refl.refl a⟩
  rw [← same]
  exact (List.mem_filter.mp hg).2

theorem fades_prune (preserved : Option String) :
    Fades s (pruneDeviceEnrollmentAuthority P org timestamp preserved s) := by
  have expired := fades_expireGrants P org timestamp s
  have removed := fades_removeGrants P org timestamp (expireGrants P org timestamp s)
  have both := expired.trans removed
  exact ⟨both.screens, both.grants, both.attempts, both.together, both.credentials,
    both.kept, both.usedKeys, both.challenges⟩

theorem fades_rememberEnrollment (operation : EnrollmentOperation)
    (org keyHash actorUserId digest : String) (timestamp : Int) (response : EnrollmentResponse) :
    Fades s (rememberEnrollment operation org keyHash actorUserId digest timestamp response s) :=
  ⟨descends_refl _, descends_refl _, descends_refl _, fun a ha _ => ⟨a, ha, Std.Refl.refl a⟩,
    descends_refl _, remains_refl _, fun _ h => h, descends_refl _⟩

theorem fades_revokeGrants (grants : PairingRecord → Bool) (isOpen : PairingAttemptRecord → Bool)
    {cancel : PairingAttemptRecord → PairingAttemptRecord} (step : ∀ a, LaterAttempt a (cancel a)) :
    Fades s (revokeGrants grants isOpen cancel s) := by
  apply fades_grants
  · exact descends_changeWhere fun g _ _ => LaterGrant.ended rfl (by simp)
  · exact descends_changeWhere fun a _ _ => step a
  · exact remains_changeWhere step

theorem fades_revokePendingIssuerGrants (userId : String) (organizationIds : List String) :
    Fades s (revokePendingIssuerGrants userId organizationIds timestamp s) := by
  apply fades_grants
  · apply descends_map
    intro g _
    split
    · exact LaterGrant.ended rfl (by simp)
    · exact Std.Refl.refl g
  · apply descends_map
    intro a _
    split
    · exact ⟨rfl, rfl, rfl⟩
    · exact Std.Refl.refl a
  · apply remains_map
    intro a
    split
    · exact ⟨rfl, rfl, rfl⟩
    · exact Std.Refl.refl a

theorem fades_bindAttempt (grant : PairingRecord) (attempt : PairingAttemptRecord)
    (credentialId : String) {change : PairingRecord → PairingRecord}
    (step : ∀ g, LaterGrant g (change g)) :
    Fades s (bindAttempt grant attempt credentialId change timestamp s) := by
  have bound : ∀ a : PairingAttemptRecord, LaterAttempt a { a with
      activatedAt := some timestamp, boundCredentialId := some credentialId } :=
    fun _ => ⟨rfl, rfl, rfl⟩
  have cancelled : ∀ a : PairingAttemptRecord, LaterAttempt a (a.cancelOnce timestamp) :=
    fun _ => ⟨rfl, rfl, rfl⟩
  apply fades_grants
  · exact descends_updateFirst fun g _ _ => step g
  · exact (descends_updateFirst fun a _ _ => bound a).trans
      (descends_changeWhere fun a _ _ => cancelled a)
  · exact (remains_updateFirst bound).trans (remains_changeWhere cancelled)

theorem fades_proveAttempt (attemptId : String) (device : DeviceMetadata) :
    Fades s (proveAttempt attemptId device timestamp s) := by
  apply fades_attempts _
  · exact descends_updateFirst fun a _ _ => ⟨rfl, rfl, rfl⟩
  · exact remains_updateFirst fun a => ⟨rfl, rfl, rfl⟩

end grants

/-! ## Screens and credentials -/

theorem descends_consumeOpenChallenges (credentialIds : List String) (timestamp : Int)
    (challenges : List DeviceAuthChallengeRecord) :
    Descends Spent challenges (consumeOpenChallenges credentialIds timestamp challenges) := by
  apply descends_map
  intro challenge _
  split
  · rename_i open'
    rw [Bool.and_eq_true, Bool.and_eq_true, Option.isNone_iff_eq_none] at open'
    exact .inr ⟨open'.1.2, timestamp, rfl⟩
  · exact .inl rfl

section devices

variable (org screenId : String) (timestamp : Int) (s : MemoryStore)

/-- The records that a deletion or a revocation detaches. -/
theorem LaterCredential.detached (c : DeviceCredentialRecord) (revokedAt : Option Int) :
    LaterCredential c { c with detached := true, revokedAt := revokedAt } :=
  ⟨rfl, rfl, rfl, rfl, rfl, fun live => by cases live⟩

theorem fades_changeScreen (change : ScreenRecord → ScreenRecord) (step : ∀ screen ∈ s.screens,
    s.screens.find? (isScreen org screenId) = some screen → LaterScreen screen (change screen)) :
    Fades s (changeScreen org screenId change s) :=
  fades_devices (descends_updateFirst step) (descends_refl _) (remains_refl _) (descends_refl _)

theorem laterScreen_revoked (screen : ScreenRecord) :
    LaterScreen screen (screen.revoked timestamp) :=
  ⟨rfl, rfl, Nat.le_succ _⟩

theorem fades_supersedeCredentials : Fades s (supersedeCredentials org screenId timestamp s) :=
  fades_devices (descends_refl _)
    (descends_changeWhere fun c _ _ => LaterCredential.detached c _)
    (remains_changeWhere fun c => LaterCredential.detached c _)
    (descends_consumeOpenChallenges _ _ _)

theorem fades_reassertRevocation : Fades s (reassertRevocation org screenId timestamp s) :=
  (fades_revokeGrants s _ _ (laterAttempt_cancel timestamp)).trans
    (fades_changeScreen org screenId _ _ fun screen _ _ => laterScreen_revoked timestamp screen)

theorem fades_revokeCredential (credential : DeviceCredentialRecord) :
    Fades s (revokeCredential org screenId credential timestamp s) := by
  have revoked := fades_changeScreen org screenId s _ fun screen _ _ =>
    laterScreen_revoked timestamp screen
  have detached := fades_devices (s := changeScreen org screenId (·.revoked timestamp) s)
    (descends_refl _)
    (descends_updateFirst (p := fun other => other.id == credential.id)
      fun c _ _ => LaterCredential.detached c (some timestamp))
    (remains_updateFirst fun c => LaterCredential.detached c (some timestamp))
    (descends_consumeOpenChallenges [credential.id] timestamp _)
  exact (revoked.trans detached).trans
    (fades_revokeGrants _ _ _ (laterAttempt_cancel timestamp))

theorem fades_deleteScreen : Fades s (deleteScreen org screenId s).1 := by
  apply fades_devices (descends_filter _) ?_ ?_ (descends_refl _)
  · apply descends_map
    intro c _
    split
    · exact LaterCredential.detached c c.revokedAt
    · exact Std.Refl.refl c
  · apply remains_map
    intro c
    split
    · exact LaterCredential.detached c c.revokedAt
    · exact Std.Refl.refl c

theorem fades_deleteScreenAndAudit (actorUserId : String) :
    Fades s (deleteScreenAndAudit timestamp org screenId actorUserId s).1 := by
  unfold deleteScreenAndAudit
  split
  · exact fades_refl s
  · split
    · exact fades_refl s
    · refine ⟨descends_eraseP _, ?_, descends_refl _, fun a ha _ => ⟨a, ha, Std.Refl.refl a⟩, ?_,
        ?_, fun _ h => h, descends_consumeOpenChallenges _ _ _⟩
      · apply descends_map
        intro g _
        split
        · exact LaterGrant.ended rfl (by simp)
        · exact Std.Refl.refl g
      · apply descends_map
        intro c _
        split
        · exact LaterCredential.detached c _
        · exact Std.Refl.refl c
      · apply remains_map
        intro c
        split
        · exact LaterCredential.detached c _
        · exact Std.Refl.refl c

end devices

/-! ## Challenges over a call -/

/-- What a new grant of a re-enrollment finds. -/
theorem fades_beforeReenrollment (P : Platform) (org screenId : String) (timestamp : Int)
    (s : MemoryStore) : Fades s (changeScreen org screenId (·.revoked timestamp)
      (supersedeCredentials org screenId timestamp
        (revokeGrants (isTarget screenId) (·.boundCredentialId.isNone) (·.cancel timestamp)
          (pruneDeviceEnrollmentAuthority P org timestamp none s)))) :=
  (((fades_prune P org timestamp s none).trans
    (fades_revokeGrants _ _ _ (laterAttempt_cancel timestamp))).trans
      (fades_supersedeCredentials org screenId timestamp _)).trans
        (fades_changeScreen org screenId _ _ fun screen _ _ => laterScreen_revoked timestamp screen)

/-- What a new grant of an enrollment finds. -/
theorem fades_beforeEnrollment (P : Platform) (org screenId keyHash : String) (timestamp : Int)
    (s : MemoryStore) : Fades s
      (revokeGrants (isNewScreenGrant org screenId) (·.boundCredentialId.isNone)
        (·.cancelOnce timestamp)
        (pruneDeviceEnrollmentAuthority P org timestamp (some keyHash) s)) :=
  (fades_prune P org timestamp s (some keyHash)).trans
    (fades_revokeGrants _ _ _ (laterAttempt_cancelOnce timestamp))

/-- What an activated enrollment does before its credential. -/
theorem fades_beforeActivation (P : Platform) (org screenId keyHash : String) (timestamp : Int)
    (s : MemoryStore) (change : ScreenRecord → ScreenRecord) (step : ∀ screen ∈ s.screens,
      s.screens.find? (isScreen org screenId) = some screen → LaterScreen screen (change screen)) :
    Fades s (changeScreen org screenId change
      (pruneDeviceEnrollmentAuthority P org timestamp (some keyHash) s)) :=
  (fades_prune P org timestamp s (some keyHash)).trans (fades_changeScreen org screenId _ _ step)

theorem laterGrant_claimed (g : PairingRecord) (claimedAt : Option Int) (screenId : String) :
    LaterGrant g { g with status := .claimed, claimedAt := claimedAt, screenId := some screenId } :=
  LaterGrant.ended rfl (by simp)

/-- What an activated enrollment does after its credential. -/
theorem fades_afterActivation (org screenId keyHash actorUserId digest credentialId : String)
    (grant : PairingRecord) (attempt : PairingAttemptRecord) (timestamp : Int) (s : MemoryStore) :
    Fades s (rememberEnrollment .activate org keyHash actorUserId digest timestamp
      (.bound credentialId)
      (revokeGrants (fun other =>
          other.id != grant.id && other.organizationId == org && isTarget screenId other)
        (·.boundCredentialId.isNone) (·.cancelOnce timestamp)
        (bindAttempt grant attempt credentialId
          (fun grant =>
            { grant with
              status := .claimed, claimedAt := some timestamp, screenId := some screenId })
          timestamp s))) :=
  ((fades_bindAttempt timestamp s grant attempt credentialId fun g =>
    laterGrant_claimed g _ screenId).trans
      (fades_revokeGrants _ _ _ (laterAttempt_cancelOnce timestamp))).trans
        (fades_rememberEnrollment _ _ _ _ _ _ _ _)

/-- What an activated re-enrollment does after its credential. -/
theorem fades_afterReenrollment (screenId credentialId : String) (grant : PairingRecord)
    (attempt : PairingAttemptRecord) (timestamp : Int) (s : MemoryStore) :
    Fades s (revokeGrants (isTarget screenId) (fun _ => false) id
      (bindAttempt grant attempt credentialId
        (fun grant => { grant with status := .claimed, screenId := some screenId }) timestamp
        s)) :=
  (fades_bindAttempt timestamp s grant attempt credentialId fun g =>
    laterGrant_claimed g g.claimedAt screenId).trans
      (fades_revokeGrants _ _ _ fun a => Std.Refl.refl a)

theorem challenges_pushCredential (credential : DeviceCredentialRecord) (s : MemoryStore) :
    (pushCredential credential s).deviceAuthChallenges = s.deviceAuthChallenges := rfl

theorem challenges_changeScreen (org screenId : String) (change : ScreenRecord → ScreenRecord)
    (s : MemoryStore) :
    (changeScreen org screenId change s).deviceAuthChallenges = s.deviceAuthChallenges := rfl

/-- A call in one step issues no challenge. -/
theorem DeviceChange.challenges {R : DeviceRuntime} {held : Option PairingClaim}
    {s t : MemoryStore} {n : Nat} (change : DeviceChange R held s n t) :
    Descends Spent s.deviceAuthChallenges t.deviceAuthChallenges := by
  cases change with
  | codeExpired codeHash timestamp => exact (fades_expireCode timestamp s codeHash).challenges
  | codeCreated k org codeHash expiresAt timestamp =>
    exact (fades_expireCode timestamp s codeHash).challenges
  | pruned org timestamp preserved =>
    exact (fades_prune R.toPlatform org timestamp s preserved).challenges
  | reenrollmentBegun k org screenId codeHash screen expiresAt actor prior reason timestamp =>
    unfold beginReenrollment pushGrant
    exact (fades_beforeReenrollment R.toPlatform org screenId timestamp s).challenges
  | enrollmentBegun k org screenId codeHash target expiresAt actor reason keyHash digest counter
      timestamp =>
    unfold beginEnrollment rememberEnrollment pushGrant
    exact (fades_beforeEnrollment R.toPlatform org screenId keyHash timestamp s).challenges
  | revoked org screenId credential timestamp =>
    exact (fades_revokeCredential org screenId timestamp s credential).challenges
  | screenDecommissioned org screenId actorUserId timestamp =>
    exact (fades_deleteScreenAndAudit org screenId timestamp s actorUserId).challenges
  | enrolled k org screenId grant attempt target actorUserId keyHash digest timestamp =>
    refine Descends.trans ?_ (fades_afterActivation _ _ _ _ _ _ _ _ _ _).challenges
    rw [challenges_pushCredential, challenges_changeScreen]
    exact (fades_prune R.toPlatform org timestamp s (some keyHash)).challenges
  | reenrolled =>
    refine Descends.trans ?_ (fades_afterReenrollment _ _ _ _ _ _).challenges
    rw [challenges_pushCredential, challenges_changeScreen]
    exact descends_refl _
  | _ => exact descends_of_eq rfl

end screengoblin.server
