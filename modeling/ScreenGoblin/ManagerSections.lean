-- The proofs of the single calls of the manifest manager: each segment of a call is one
-- of its moves (`Act`), whatever the other calls do between its segments.
import ScreenGoblin.ManagerMoves

open js async

namespace screengoblin.player

variable {P : Platform} {steady : Bool} {n m : Nat} {s s' : Device} {slots : Slots}
  {known : List (Nat × Event)} {trust : ManifestTrust}

/-! ## Assertions that the other calls keep -/

theorem kept_of_leaves {A : Device → Prop}
    (h : ∀ m s s' now, m ≠ n → (steady = true → s.clock ≤ now) → Leaves n m (s.tick now) s' →
      A s → A s') : Kept P steady n A := by
  rintro m s s' hm ⟨now, hnow, hact⟩ hs
  exact h m s s' now hm hnow (act_leaves hm hact) hs

/-- The call has its turn on the state queue, these are the slots, and it knows of these
entries of the history. -/
def Owns (n : Nat) (slots : Slots) (known : List (Nat × Event)) (s : Device) : Prop :=
  s.stateQueue.head? = some n ∧ s.slots = slots ∧ known ⊆ s.history

theorem kept_owns : Kept P steady n (Owns n slots known) :=
  kept_of_leaves fun _ _ _ _ _ _ h hs =>
    ⟨(h.state hs.1).1, (h.state hs.1).2.trans hs.2.1, List.Subset.trans hs.2.2 h.remembers⟩

theorem Owns.log {e : Event} (h : Owns n slots known s) : Owns n slots known (s.log n e) :=
  ⟨h.1, h.2.1, List.subset_cons_of_subset _ h.2.2⟩

theorem kept_turn : Kept P steady n fun s => s.stateQueue.head? = some n :=
  kept_of_leaves fun _ _ _ _ _ _ h hs => (h.state hs).1

theorem kept_staging : Kept P steady n fun s => s.stagingQueue.head? = some n :=
  kept_of_leaves fun _ _ _ _ _ _ h hs => (h.staging hs).1

theorem kept_clock {now : Int} : Kept P steady n fun s => steady = true → now ≤ s.clock :=
  kept_of_leaves fun _ s s' t _ ht h hs hst => by
    have h1 := hs hst
    have h2 := ht hst
    have h3 : s'.clock = t := h.clock
    omega

theorem lastReading_cons_ne {h : List (Nat × Event)} {e : Event} (hm : m ≠ n) :
    lastReading n ((m, e) :: h) = lastReading n h := by
  cases e <;> simp [lastReading, hm]

theorem lastReading_cons {h : List (Nat × Event)} {e : Event} (he : ∀ t, e ≠ .read t) :
    lastReading n ((m, e) :: h) = lastReading n h := by
  cases e <;> simp_all [lastReading]

theorem kept_reading {now : Int} :
    Kept P steady n fun s => lastReading n s.history = some now :=
  kept_of_leaves fun m s s' _ hm _ h hs => by
    rcases h.history with hh | ⟨e, hh⟩
    · rw [hh]; exact hs
    · rw [hh, lastReading_cons_ne hm]; exact hs

theorem lastVerification_cons_ne {h : List (Nat × Event)} {e : Event} (hm : m ≠ n) :
    lastVerification n ((m, e) :: h) = lastVerification n h := by
  cases e <;> simp [lastVerification, hm]

theorem kept_verification {x : ManifestTrust × Value × Int} :
    Kept P steady n fun s => lastVerification n s.history = some x :=
  kept_of_leaves fun m s s' _ hm _ h hs => by
    rcases h.history with hh | ⟨e, hh⟩
    · rw [hh]; exact hs
    · rw [hh, lastVerification_cons_ne hm]; exact hs

theorem lastVerification_mem {envelope : Value} {t : Int} {h : List (Nat × Event)}
    (hlast : lastVerification n h = some (trust, envelope, t)) :
    (n, Event.verified trust envelope t) ∈ h := by
  induction h with
  | nil => cases hlast
  | cons x older ih =>
    obtain ⟨k, e⟩ := x
    by_cases hk : k = n
    · subst hk
      cases e with
      | verified trust' envelope' t' =>
        simp only [lastVerification, if_true, Option.some.injEq, Prod.mk.injEq] at hlast
        obtain ⟨rfl, rfl, rfl⟩ := hlast
        exact List.mem_cons_self
      | _ => exact List.mem_cons_of_mem _ (ih hlast)
    · rw [lastVerification_cons_ne hk] at hlast
      exact List.mem_cons_of_mem _ (ih hlast)

/-- What the call has logged so far is of the kind `F`, after the entries before it. -/
def Logged (n : Nat) (F : List (Nat × Event) → Event → Prop) (s : Device) : Prop :=
  ∀ newer e older, s.history = newer ++ (n, e) :: older → F older e

theorem kept_logged {F : List (Nat × Event) → Event → Prop} : Kept P steady n (Logged n F) :=
  kept_of_leaves fun m s s' _ hm _ h hs newer e older heq => by
    rcases h.history with hh | ⟨e', hh⟩
    · exact hs newer e older (hh ▸ heq)
    · rw [hh] at heq
      cases newer with
      | nil => exact absurd (Prod.mk.inj (List.cons.inj heq).1).1 hm
      | cons x newer => exact hs newer e older (List.cons.inj heq).2

theorem logged_log {F : List (Nat × Event) → Event → Prop} {e : Event} (h : Logged n F s)
    (he : F s.history e) : Logged n F (s.log n e) := by
  intro newer e' older heq
  cases newer with
  | nil =>
    obtain ⟨hx, rfl⟩ := List.cons.inj heq
    exact (Prod.mk.inj hx).2 ▸ he
  | cons x newer => exact h newer e' older (List.cons.inj heq).2

theorem kept_mem {x : Nat × Event} : Kept P steady n fun s => x ∈ s.history :=
  kept_of_leaves fun _ _ _ _ _ _ h hs => h.remembers hs

theorem undisturbed_cons {x : Nat × Event} {h : List (Nat × Event)} (hx : x.2.isPrune = false)
    (hh : Undisturbed n h) : Undisturbed n (x :: h) := by
  intro newer older name heq y hy
  cases newer with
  | nil => cases hy
  | cons z zs =>
    obtain ⟨rfl, hrest⟩ := List.cons.inj heq
    rcases List.mem_cons.mp hy with rfl | hy
    · exact hx
    · exact hh zs older name hrest y hy

theorem kept_undisturbed :
    Kept P steady n fun s => s.stagingQueue.head? = some n ∧ Undisturbed n s.history :=
  kept_of_leaves fun m s s' _ _ _ h hs => by
    obtain ⟨hq, _, he⟩ := h.staging hs.1
    refine ⟨hq, ?_⟩
    rcases h.history with hh | ⟨e, hh⟩
    · rw [hh]; exact hs.2
    · rw [hh]; exact undisturbed_cons (he e hh) hs.2

/-! ## The contract of each call -/

/-- The call gives a manifest back only through its log. -/
def Given (n : Nat) (trust : ManifestTrust) (r : Option Json) (s : Device) : Prop :=
  ∀ manifest, r = some manifest →
    ∃ envelope now, (n, Event.returned trust envelope manifest now) ∈ s.history

theorem kept_given {r : Option Json} : Kept P steady n (Given n trust r) :=
  fun m s s' hm hmoves hs manifest hr => by
    obtain ⟨envelope, now, hmem⟩ := hs manifest hr
    exact ⟨envelope, now, kept_mem m s s' hm hmoves hmem⟩

theorem Given.log {r : Option Json} {e : Event} (h : Given n trust r s) :
    Given n trust r (s.log n e) := fun manifest hr => by
  obtain ⟨envelope, now, hmem⟩ := h manifest hr
  exact ⟨envelope, now, List.mem_cons_of_mem _ hmem⟩

/-- A change to the slots that a stage may make without its activation: it clears the record
that it verified last, and found not to verify at its reading of the clock there. -/
def ClearsUnverified (P : Platform) (n : Nat) (trust : ManifestTrust)
    (older : List (Nat × Event)) (e : Event) : Prop :=
  e.changesSlots = true → ∃ replaced now, e = .cleared replaced ∧ replaced.truthy = true ∧
    lastVerification n older = some (trust, replaced, now) ∧
    verifySignedPlayerManifest P now replaced trust = none

def Command.trusted : Command → Option ManifestTrust
  | .stageAndActivate _ trust | .recover trust | .rollback trust _ => some trust
  | .cancelPendingStages => none

/-- What a call keeps to when it resolves. -/
def Resolved (n : Nat) (c : Command) (r : Option Json) (s : Device) : Prop :=
  match c.trusted with
  | some trust => Given n trust r s
  | none => r = none

/-- What a call keeps to when it rejects. -/
def Rejected (P : Platform) (n : Nat) (c : Command) (s : Device) : Prop :=
  match c with
  | .stageAndActivate _ trust => Logged n (ClearsUnverified P n trust) s
  | _ => True

theorem numbered_moves {k : Nat} (hm : m < k) (hs : Numbered k s) (h : Moves P steady m s s') :
    Numbered k s' := by
  obtain ⟨now, _, hact⟩ := h
  have hlog : ∀ e, ∀ x ∈ (m, e) :: s.history, x.1 < k := by
    intro e x hx
    rcases List.mem_cons.mp hx with rfl | hx
    · exact hm
    · exact hs x hx
  rcases (act_leaves (n := m + 1) (by omega) hact).history with hh | ⟨e, hh⟩
  · intro x hx; rw [hh] at hx; exact hs x hx
  · intro x hx; rw [hh] at hx; exact hlog e x hx

def discipline (P : Platform) (steady : Bool) : Discipline (manager P steady) where
  inv := Numbered
  guar := Moves P steady
  ok n c r s := Resolved n c r s
  err n c _ s := Rejected P n c s
  inv_call h x hx := Nat.lt_succ_of_lt (h x hx)
  inv_step hm hs h := numbered_moves hm hs h

/-- What the call `n` does from `A`, among any other calls. -/
abbrev Does (P : Platform) (steady : Bool) (n : Nat) {α : Type} (A : Device → Prop) (p : Call α)
    (Q : α → Device → Prop) (E : Device → Prop) : Prop :=
  Triple ((discipline P steady).rules n) A p Q fun _ => E

theorem Kept.stable {A : Device → Prop} (hA : Kept P steady n A) :
    Stable ((discipline P steady).rules n) A := by
  rintro s s' ⟨m, k, hm, _, _, hmoves⟩ hs
  exact hA m s s' hm hmoves hs

theorem env_clock {i : Answer} (h : ((discipline P steady).rules n).env s i) :
    steady = true → s.clock ≤ i.now := by
  intro hst
  have h : (!steady || decide (s.clock ≤ i.now)) = true := h
  rw [hst] at h
  simpa using h

/-! ## The rules of the small steps -/

section rules

variable {A : Device → Prop} {E : Device → Prop}

theorem does_request {α : Type} {f : Device → α × Device} {Q : α → Device → Prop}
    (hA : Kept P steady n A)
    (hf : ∀ s, A s → Act P steady n s (f s).2 ∧ Q (f s).1 (f s).2) (hE : ∀ s, A s → E s) :
    Does P steady n A (request f) Q E := by
  refine Triple.step hA.stable fun s i ha _ henv => ?_
  have hnow := env_clock henv
  have htick := hA.tick hnow ha
  by_cases hok : i.ok = true
  · simp only [hok, if_true]
    exact ⟨⟨i.now, hnow, (hf _ htick).1⟩, (hf _ htick).2⟩
  · simp only [hok, if_false, Bool.false_eq_true]
    exact ⟨⟨i.now, hnow, .looks⟩, hE _ htick⟩

/-- A verification is logged with its reading of the clock, and the call goes on with what
the record is at that reading. -/
theorem does_verifyThen {α : Type} {value : Value} {k : Option Json → Call α}
    {Q : α → Device → Prop} (hA : Kept P steady n A)
    (hlog : ∀ s t, A s → A (s.log n (.verified trust value t)))
    (hk : ∀ t, Does P steady n
      (fun s => A s ∧ lastVerification n s.history = some (trust, value, t))
      (k (verifySignedPlayerManifest P t value trust)) Q E) :
    Does P steady n A (verify P n value trust >>= k) Q E := by
  refine Triple.bind (Q := fun r s => ∃ t,
    (A s ∧ lastVerification n s.history = some (trust, value, t)) ∧
      r = verifySignedPlayerManifest P t value trust)
    (Triple.step hA.stable fun s i ha _ henv => ?_) fun r => Triple.exists fun t => ?_
  · have hnow := env_clock henv
    exact ⟨⟨i.now, hnow, .verifies trust value⟩, i.now,
      ⟨hlog _ _ (hA.tick hnow ha), by simp [Device.log, lastVerification]⟩, rfl⟩
  · refine Triple.given (fun _ h => h.2) fun hr => ?_
    subst hr
    exact (hk t).pre fun _ h => h.1

/-- A reading of the clock is logged, and the clock does not go back behind it. -/
theorem does_dateNow (hA : Kept P steady n A) (hlog : ∀ s t, A s → A (s.log n (.read t))) :
    Does P steady n A (dateNow n)
      (fun now s => A s ∧ lastReading n s.history = some now ∧ (steady = true → now ≤ s.clock))
      E := by
  refine Triple.step hA.stable fun s i ha _ henv => ?_
  have hnow := env_clock henv
  exact ⟨⟨i.now, hnow, .reads⟩, hlog _ _ (hA.tick hnow ha), by simp [Device.log, lastReading],
    fun _ => Int.le_refl _⟩

theorem does_assertStagingGeneration {g : Nat} (hA : Kept P steady n A)
    (hE : ∀ s, A s → E s) :
    Does P steady n A (assertStagingGeneration g) (fun _ => A) E := by
  refine Triple.step hA.stable fun s i ha _ henv => ?_
  have hnow := env_clock henv
  refine ⟨⟨i.now, hnow, .looks⟩, ?_⟩
  have htick := hA.tick hnow ha
  by_cases hg : g = s.stagingGeneration
  · simpa only [hg, if_true] using htick
  · simpa only [hg, if_false] using hE _ htick

theorem does_ensure {test : Bool} {message : String} (hE : ∀ s, A s → E s) :
    Does P steady n A (ensure test message) (fun _ s => A s ∧ test = true) E := by
  unfold ensure
  cases test with
  | true => exact Triple.pure fun s ha => ⟨ha, rfl⟩
  | false => exact Triple.fail hE

/-- `if (test) await step`, where both ways lead to `B`. -/
theorem does_if {test : Bool} {p : Call Unit} {B : Device → Prop}
    (ht : test = true → Does P steady n A p (fun _ => B) E) (hf : test = false → ∀ s, A s → B s) :
    Does P steady n A (if test = true then p else pure ()) (fun _ => B) E := by
  cases test with
  | true => exact ht rfl
  | false => exact Triple.pure (hf rfl)

theorem does_branch {α : Type} {test : Bool} {p q : Call α} {Q : α → Device → Prop}
    (ht : test = true → Does P steady n A p Q E) (hf : test = false → Does P steady n A q Q E) :
    Does P steady n A (if test = true then p else q) Q E := by
  cases test with
  | true => exact ht rfl
  | false => exact hf rfl

end rules

end screengoblin.player
