-- What each call on devices changes in the store. One lemma for each operation says which of a
-- few changes it ends with, under the conditions that the operation has checked before.
import ScreenGoblin.DeviceCalls

open js collections scripts scripts.Script screengoblin.schedule

namespace screengoblin.server

/-! ## Steps that change no record -/

/-- The same records, after `n` identifiers in all. -/
def MemoryStore.drawnTo (s : MemoryStore) (n : Nat) : MemoryStore := { s with idsDrawn := n }

/-- At most identifiers were drawn, and the clock was read. -/
structure Idle (s s' : AuditedStore) : Prop where
  same : s'.toMemoryStore = s.toMemoryStore.drawnTo s'.idsDrawn
  drawn : s.idsDrawn ≤ s'.idsDrawn
  reads : s.clockReads ≤ s'.clockReads

instance : Std.Refl Idle := ⟨fun _ => ⟨rfl, le_refl _, le_refl _⟩⟩

theorem Idle.refl (s : AuditedStore) : Idle s s := Std.Refl.refl s

theorem Idle.trans {s s' s'' : AuditedStore} (h : Idle s s') (h' : Idle s' s'') : Idle s s'' :=
  ⟨by rw [h'.same, h.same]; rfl, h.drawn.trans h'.drawn, h.reads.trans h'.reads⟩

instance : IsTrans AuditedStore Idle := ⟨fun _ _ _ h h' => h.trans h'⟩

section
variable {s s' : AuditedStore} (idle : Idle s s')
include idle

theorem Idle.users : s'.users = s.users := (congrArg MemoryStore.users idle.same).trans rfl

theorem Idle.screens : s'.screens = s.screens := (congrArg MemoryStore.screens idle.same).trans rfl

theorem Idle.pairings : s'.pairings = s.pairings :=
  (congrArg MemoryStore.pairings idle.same).trans rfl

theorem Idle.pairingAttempts : s'.pairingAttempts = s.pairingAttempts :=
  (congrArg MemoryStore.pairingAttempts idle.same).trans rfl

theorem Idle.deviceCredentials : s'.deviceCredentials = s.deviceCredentials :=
  (congrArg MemoryStore.deviceCredentials idle.same).trans rfl

theorem Idle.deviceAuthChallenges : s'.deviceAuthChallenges = s.deviceAuthChallenges :=
  (congrArg MemoryStore.deviceAuthChallenges idle.same).trans rfl

end

theorem idle_now (R : Runtime) : Stays Idle (now R) := fun _ => ⟨rfl, le_refl _, Nat.le_succ _⟩

theorem idle_drawId (R : Runtime) : Stays Idle (drawId R) :=
  fun _ => ⟨rfl, Nat.le_succ _, le_refl _⟩

theorem idle_drawToken (R : DeviceRuntime) : Stays Idle (drawToken R) :=
  fun _ => ⟨rfl, Nat.le_succ _, le_refl _⟩

theorem idle_found {α : Type} (value : AuditedStore → Option α) (reason : String) :
    Stays Idle (found value reason) := by
  refine stays_bind (stays_look value) fun a => ?_
  cases a with
  | none => exact stays_stop _
  | some a => exact stays_pure a

theorem idle_buildAuditRecord (R : Runtime) (event : AuditEvent) :
    Stays Idle (buildAuditRecord R event) :=
  stays_bind (idle_drawId R) fun _ => stays_bind (idle_now R) fun _ =>
    stays_bind (stays_lift _) fun _ => stays_pure _

theorem idle_pushAudits (records : List AuditRecord) : Stays Idle (pushAudits records) :=
  fun _ => ⟨rfl, le_refl _, le_refl _⟩

theorem idle_deviceActor (org actorUserId : String) : Stays Idle (deviceActor org actorUserId) :=
  idle_found _ _

/-! ## Changes -/

/-- The issuer of a grant is in the organization and as the grant names the issuer. -/
def IssuerSigns (s : MemoryStore) (org : String) (grant : PairingRecord) : Prop :=
  ∃ issuer, grantIssuer s org grant = some issuer ∧ signedBy grant issuer = true

/-- What a call can change in the records of devices. `held` is the claim whose signature was
verified, if the call holds one, and `n` bounds the identifiers that the call draws. -/
inductive DeviceChange (R : DeviceRuntime) (held : Option PairingClaim) (s : MemoryStore)
    (n : Nat) : MemoryStore → Prop where
  | unchanged : DeviceChange R held s n s
  | codeExpired (codeHash : String) (timestamp : Int) :
    DeviceChange R held s n (expireCode codeHash timestamp s)
  | codeCreated (k : Nat) (org codeHash : String) (expiresAt timestamp : Int)
    (drawn : s.idsDrawn ≤ k) (below : k < n) :
    DeviceChange R held s n (pushGrant (untargetedGrant (R.freshId k) org codeHash expiresAt)
      (expireCode codeHash timestamp s))
  | codeClaimed (k : Nat) (pairing : PairingRecord) (device : DeviceMetadata) (tokenHash : String)
    (timestamp : Int) (drawn : s.idsDrawn ≤ k) (below : k < n) :
    DeviceChange R held s n (claimGrant pairing
      { newScreen (R.freshId k) pairing.organizationId device timestamp with
        deviceTokenHash := some tokenHash } s)
  | pruned (org : String) (timestamp : Int) (preserved : Option String) :
    DeviceChange R held s n (pruneDeviceEnrollmentAuthority R.toPlatform org timestamp preserved s)
  | reenrollmentBegun (k : Nat) (org screenId codeHash : String) (screen : ScreenRecord)
    (expiresAt : Int) (actor : SessionUser) (prior : Option String) (reason : String)
    (timestamp : Int) (found : s.screens.find? (isScreen org screenId) = some screen)
    (drawn : s.idsDrawn ≤ k) (below : k < n) :
    DeviceChange R held s n (beginReenrollment R.toRuntime org screenId
      (targetedGrant (R.freshId k) org codeHash expiresAt .reenroll screenId
        (screen.credentialGeneration.getD 0 + 1) actor prior reason timestamp) timestamp s)
  | enrollmentBegun (k : Nat) (org screenId codeHash : String) (target : ScreenRecord)
    (expiresAt : Int) (actor : SessionUser) (reason keyHash digest : String) (counter : Nat)
    (timestamp : Int) (found : s.screens.find? (isScreen org screenId) = some target)
    (unenrolled : isUnenrolled s org target = true) (drawn : s.idsDrawn ≤ k) (below : k < n) :
    DeviceChange R held s n (beginEnrollment R.toRuntime org screenId
      (targetedGrant (R.freshId k) org codeHash expiresAt .newScreen screenId 0 actor none reason
        timestamp) actor.id keyHash digest counter timestamp s)
  | attemptBegun (k : Nat) (input : PairingChallengeInput) (grant : PairingRecord)
    (createdAt : Int) (member : grant ∈ s.pairings) (drawn : s.idsDrawn ≤ k) (below : k < n) :
    DeviceChange R held s n (pushAttempt (newAttempt (R.randomToken k) input grant createdAt) s)
  | attemptProved (attemptId : String) (device : DeviceMetadata) (provedAt : Int) :
    DeviceChange R held s n (proveAttempt attemptId device provedAt s)
  | reenrolled (k : Nat) (org screenId : String) (grant : PairingRecord)
    (attempt : PairingAttemptRecord) (screen : ScreenRecord) (timestamp : Int)
    (member : attempt ∈ s.pairingAttempts) (within : attempt.organizationId = org)
    (granted : grant ∈ s.pairings) (own : grant.id = attempt.pairingCodeId)
    (target : grant.targetScreenId = some screenId) (purpose : grant.purpose = some .reenroll)
    (signed : IssuerSigns s org grant) (proved : attempt.provedAt.isSome = true)
    (open' : attempt.cancelledAt = none)
    (found : s.screens.find? (isScreen org screenId) = some screen)
    (pending : grant.status = .pending)
    (expected : grant.expectedGeneration = some (screen.credentialGeneration.getD 0))
    (unused : keyIsUsed s attempt.keyId = false) (drawn : s.idsDrawn ≤ k) (below : k < n) :
    DeviceChange R held s n (finishReenrollment org screenId grant attempt
      (newCredential (R.freshId k) org screenId attempt timestamp)
      (screen.credentialGeneration.getD 0 + 1) timestamp s)
  | enrolled (k : Nat) (org screenId : String) (grant : PairingRecord)
    (attempt : PairingAttemptRecord) (target : ScreenRecord)
    (actorUserId keyHash digest : String) (timestamp : Int)
    (member : attempt ∈ s.pairingAttempts) (within : attempt.organizationId = org)
    (granted : grant ∈ s.pairings) (own : grant.id = attempt.pairingCodeId)
    (purpose : isNewScreenGrant org screenId grant = true)
    (found : s.screens.find? (isScreen org screenId) = some target)
    (current : canActivate s org target grant attempt timestamp = true)
    (drawn : s.idsDrawn ≤ k) (below : k < n) :
    DeviceChange R held s n (finishEnrollment R.toRuntime org screenId grant attempt
      (newCredential (R.freshId k) org screenId attempt timestamp) actorUserId keyHash digest
      timestamp s)
  | paired (k k' : Nat) (claim : PairingClaim) (device : DeviceMetadata) (timestamp : Int)
    (own : held = some claim) (purpose : claim.pairing.purpose = none)
    (pending : claim.pairing.status = .pending)
    (unused : ∀ credential ∈ s.deviceCredentials, credential.keyId ≠ claim.attempt.keyId)
    (drawn : s.idsDrawn ≤ k) (after : k < k') (below : k' < n) :
    DeviceChange R held s n (pairScreen claim
      (newScreen (R.freshId k) claim.pairing.organizationId device timestamp)
      (newCredential (R.freshId k') claim.pairing.organizationId (R.freshId k) claim.attempt
        timestamp) timestamp s)
  | cancelled (grantId : String) (timestamp : Int) :
    DeviceChange R held s n (revokeGrants (fun other => other.id == grantId) (·.consumedAt.isNone)
      (·.cancel timestamp) s)
  | revocationReasserted (org screenId : String) (timestamp : Int) :
    DeviceChange R held s n (reassertRevocation org screenId timestamp s)
  | revoked (org screenId : String) (credential : DeviceCredentialRecord) (timestamp : Int)
    (unrevoked : credential.revokedAt = none)
    (named : credentialToRevoke s org screenId = some credential) :
    DeviceChange R held s n (revokeCredential org screenId credential timestamp s)
  | screenCreated (k : Nat) (screen : ScreenRecord) (new : screen.id = R.freshId k)
    (unenrolled : screen.credentialGeneration = none) (drawn : s.idsDrawn ≤ k) (below : k < n) :
    DeviceChange R held s n { s with screens := s.screens ++ [screen] }
  | screenUpdated (which : ScreenRecord → Bool) (change : ScreenRecord → ScreenRecord)
    (keeps : ∀ screen, (change screen).id = screen.id ∧
      (change screen).organizationId = screen.organizationId ∧
      (change screen).credentialGeneration = screen.credentialGeneration) :
    DeviceChange R held s n { s with screens := updateFirst which change s.screens }
  | screenDeleted (org screenId : String) : DeviceChange R held s n (deleteScreen org screenId s).1
  | screenDecommissioned (org screenId actorUserId : String) (timestamp : Int) :
    DeviceChange R held s n (deleteScreenAndAudit timestamp org screenId actorUserId s).1
  | issuerChanged (userId : String) (organizationIds : List String) (timestamp : Int)
    (users : List SessionUser) :
    DeviceChange R held s n
      { revokePendingIssuerGrants userId organizationIds timestamp s with users := users }

/-- The records after a change, with the identifiers that were drawn on the way. -/
structure Changes (R : DeviceRuntime) (held : Option PairingClaim) (s s' : MemoryStore) : Prop where
  change : ∃ t, DeviceChange R held s s'.idsDrawn t ∧ s' = t.drawnTo s'.idsDrawn
  drawn : s.idsDrawn ≤ s'.idsDrawn

/-- The store after a call. -/
structure Reaches (R : DeviceRuntime) (held : Option PairingClaim) (s s' : AuditedStore) :
    Prop where
  changes : Changes R held s.toMemoryStore s'.toMemoryStore
  reads : s.clockReads ≤ s'.clockReads

section
variable {R : DeviceRuntime} {held : Option PairingClaim}

theorem changes_refl (s : MemoryStore) : Changes R held s s := ⟨⟨s, .unchanged, rfl⟩, le_refl _⟩

theorem Idle.reaches {s s' : AuditedStore} (idle : Idle s s') : Reaches R held s s' :=
  ⟨⟨⟨_, .unchanged, idle.same⟩, idle.drawn⟩, idle.reads⟩

/-- A change that was made after some idle steps. -/
theorem reaches_of_change {s s' s'' : AuditedStore} {t : MemoryStore} (idle : Idle s s')
    (change : DeviceChange R held s.toMemoryStore s'.idsDrawn t)
    (made : s''.toMemoryStore = t.drawnTo s'.idsDrawn) (reads : s'.clockReads ≤ s''.clockReads) :
    Reaches R held s s'' := by
  have same : s''.idsDrawn = s'.idsDrawn := (congrArg MemoryStore.idsDrawn made).trans rfl
  refine ⟨⟨⟨t, ?_, ?_⟩, ?_⟩, idle.reads.trans reads⟩
  · rw [same]
    exact change
  · rw [same]
    exact made
  · rw [same]
    exact idle.drawn

end

/-! ## Ends of calls -/

/-- No record changes, and no identifier is drawn. -/
def Quiet (s s' : AuditedStore) : Prop := Idle s s' ∧ s'.idsDrawn = s.idsDrawn

instance : Std.Refl Quiet := ⟨fun s => ⟨Idle.refl s, rfl⟩⟩

instance : IsTrans AuditedStore Quiet :=
  ⟨fun _ _ _ h h' => ⟨h.1.trans h'.1, h'.2.trans h.2⟩⟩

theorem quiet_pushAudits (records : List AuditRecord) : Stays Quiet (pushAudits records) :=
  fun s => ⟨idle_pushAudits records s, rfl⟩

/-- The audit trail, and then the answer. -/
theorem quiet_answer {α β : Type} (records : List AuditRecord) (value : AuditedStore → α)
    (answer : α → β) : Stays Quiet (do
      pushAudits records
      let a ← look value
      return answer a : Operation β) :=
  stays_bind (quiet_pushAudits records) fun _ => stays_bind (stays_look value) fun _ =>
    stays_pure _

theorem quiet_return {β : Type} (records : List AuditRecord) (b : β) : Stays Quiet (do
      pushAudits records
      return b : Operation β) :=
  stays_bind (quiet_pushAudits records) fun _ => stays_pure b

/-! ## Rules -/

/-- From `s`, the rest of a call that began in `s0` makes one of the changes. -/
def Performs {α : Type} (R : DeviceRuntime) (held : Option PairingClaim) (s0 : AuditedStore)
    (m : Operation α) (s : AuditedStore) : Prop :=
  Gives (fun _ s' => Reaches R held s0 s') (fun _ s' => Reaches R held s0 s') m s

section rules

variable {α β : Type} {R : DeviceRuntime} {held : Option PairingClaim} {s0 s : AuditedStore}
  {f : α → Operation β}

theorem performs_bind {m : Operation α} (stays : Stays Idle m) (before : Idle s0 s)
    (rest : ∀ a s', Idle s s' → Performs R held s0 (f a) s') : Performs R held s0 (m >>= f) s :=
  (gives_bind).mpr ((stays.gives s).imp rest fun _ _ idle => (before.trans idle).reaches)

theorem performs_look {value : AuditedStore → α} (rest : Performs R held s0 (f (value s)) s) :
    Performs R held s0 (look value >>= f) s := by
  unfold Performs at *
  rw [gives_bind, gives_look]
  exact rest

theorem performs_found {value : AuditedStore → Option α} {reason : String} (before : Idle s0 s)
    (rest : ∀ a, value s = some a → Performs R held s0 (f a) s) :
    Performs R held s0 (found value reason >>= f) s := by
  unfold Performs at *
  rw [gives_bind, gives_found]
  exact ⟨rest, fun _ => before.reaches⟩

theorem performs_refuseIf {test : Bool} {reason : String} {f : Unit → Operation β}
    (before : Idle s0 s) (rest : test = false → Performs R held s0 (f ()) s) :
    Performs R held s0 (refuseIf test reason >>= f) s := by
  unfold Performs at *
  rw [gives_bind, gives_refuseIf]
  exact ⟨rest, fun _ => before.reaches⟩

theorem performs_drawId {f : String → Operation β} (rest : ∀ s', Idle s s' →
    s.idsDrawn < s'.idsDrawn → Performs R held s0 (f (R.freshId s.idsDrawn)) s') :
    Performs R held s0 (drawId R.toRuntime >>= f) s := by
  unfold Performs drawId at *
  rw [gives_bind, gives_draw]
  exact rest _ (idle_drawId R.toRuntime s) (Nat.lt_succ_self _)

theorem performs_drawToken {f : String → Operation β} (rest : ∀ s', Idle s s' →
    s.idsDrawn < s'.idsDrawn → Performs R held s0 (f (R.randomToken s.idsDrawn)) s') :
    Performs R held s0 (drawToken R >>= f) s := by
  unfold Performs drawToken at *
  rw [gives_bind, gives_draw]
  exact rest _ (idle_drawToken R s) (Nat.lt_succ_self _)

theorem performs_pure_bind {a : α} (rest : Performs R held s0 (f a) s) :
    Performs R held s0 (pure a >>= f) s := by
  unfold Performs at *
  rw [gives_bind, gives_pure]
  exact rest

theorem performs_pure (idle : Idle s0 s) (a : α) : Performs R held s0 (pure a) s :=
  (gives_pure).mpr idle.reaches

theorem performs_refuse (idle : Idle s0 s) (reason : String) :
    Performs R held s0 (refuse reason : Operation α) s := (gives_stop).mpr idle.reaches

theorem Reaches.quiet {s' s'' : AuditedStore} (reaches : Reaches R held s s')
    (quiet : Quiet s' s'') : Reaches R held s s'' := by
  obtain ⟨t, changed, made⟩ := reaches.changes.change
  refine ⟨⟨⟨t, ?_, ?_⟩, ?_⟩, reaches.reads.trans quiet.1.reads⟩
  · rw [quiet.2]
    exact changed
  · rw [quiet.1.same, made]
    rfl
  · rw [quiet.2]
    exact reaches.changes.drawn

theorem Performs.quiet {m : Operation α} (performs : Performs R held s0 m s)
    (rest : ∀ a, Stays Quiet (f a)) : Performs R held s0 (m >>= f) s := by
  unfold Performs at *
  rw [gives_bind]
  refine performs.imp ?_ fun _ _ h => h
  intro a s' reaches
  exact ((rest a).gives s').imp (fun _ _ quiet => reaches.quiet quiet) fun _ _ quiet =>
    reaches.quiet quiet

/-- After its change a call only adds to the audit trail and answers. -/
theorem performs_change {t : MemoryStore} {change : MemoryStore → MemoryStore}
    {f : Unit → Operation β} (idle : Idle s0 s)
    (changed : DeviceChange R held s0.toMemoryStore s.idsDrawn t)
    (made : change (s0.toMemoryStore.drawnTo s.idsDrawn) = t.drawnTo s.idsDrawn)
    (rest : Stays Quiet (f ())) : Performs R held s0 (changeStore change >>= f) s := by
  refine Performs.quiet ?_ fun _ => rest
  unfold Performs
  rw [gives_changeStore]
  refine reaches_of_change idle changed ?_ (le_refl _)
  rw [← made, ← idle.same]

/-- Two changes in a row are one. -/
theorem performs_changes {t : MemoryStore} {first second : MemoryStore → MemoryStore}
    {f : Unit → Operation β} (idle : Idle s0 s)
    (changed : DeviceChange R held s0.toMemoryStore s.idsDrawn t)
    (made : second (first (s0.toMemoryStore.drawnTo s.idsDrawn)) = t.drawnTo s.idsDrawn)
    (rest : Stays Quiet (f ())) :
    Performs R held s0 (changeStore first >>= fun _ => changeStore second >>= f) s := by
  have one : (changeStore first >>= fun _ => changeStore second >>= f) =
      (changeStore (fun s => second (first s)) >>= f) := rfl
  rw [one]
  exact performs_change idle changed made rest

theorem Performs.ends {m : Operation α} (performs : Performs R held s0 m s) :
    Performs R held s0 (ends m) s := performs.quiet fun _ => stays_pure ()

end rules

end screengoblin.server
