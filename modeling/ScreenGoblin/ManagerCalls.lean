-- Recovery and rollback keep to their moves: what the two do while they have their
-- turn on the state queue.
import ScreenGoblin.ManagerSections

open js async

namespace screengoblin.player

variable {P : Platform} {steady : Bool} {n : Nat} {slots : Slots} {known : List (Nat × Event)}
  {trust : ManifestTrust}

/-! ## Under the state queue -/

def HasTurn (n : Nat) (s : Device) : Prop := s.stateQueue.head? = some n

theorem Owns.turn {s : Device} (h : Owns n slots known s) : HasTurn n s := h.1

theorem Owns.verified {s : Device} {envelope : Value} {t : Int} (h : Owns n slots known s)
    (hlast : lastVerification n s.history = some (trust, envelope, t)) :
    Owns n slots ((n, .verified trust envelope t) :: known) s :=
  ⟨h.1, h.2.1, List.cons_subset.mpr ⟨lastVerification_mem hlast, h.2.2⟩⟩

theorem found_verified {envelope : Value} {t : Int} {r : Option Json}
    (h : verifySignedPlayerManifest P t envelope trust = r) :
    Found P n ((n, .verified trust envelope t) :: known) trust envelope r :=
  ⟨t, List.mem_cons_self, h⟩

/-- The end of a recovery or a rollback. -/
def Settles (n : Nat) (trust : ManifestTrust) (r : Option Json) (s : Device) : Prop :=
  HasTurn n s ∧ Given n trust r s

theorem settles_none {s : Device} (h : HasTurn n s) : Settles n trust none s :=
  ⟨h, fun _ hm => by cases hm⟩

theorem does_getActive : Does P steady n (Owns n slots known) Store.getActiveManifest
    (fun r s => Owns n slots known s ∧ r = slots.active) (HasTurn n) :=
  does_request kept_owns (fun s h => ⟨.looks, h, by rw [h.2.1]⟩) fun _ h => h.turn

theorem does_getPrevious {A : Device → Prop} (hA : Kept P steady n A)
    (h : ∀ s, A s → Owns n slots known s) : Does P steady n A Store.getPreviousManifest
    (fun r s => A s ∧ r = slots.previous) (HasTurn n) :=
  does_request hA (fun s hs => ⟨.looks, hs, by rw [(h s hs).2.1]⟩) fun s hs => (h s hs).turn

/-- The call verifies a record, and from then on it knows of that. -/
theorem does_ownVerify {α : Type} {value : Value} {k : Option Json → Call α}
    {Q : α → Device → Prop} {E : Device → Prop}
    (hk : ∀ t, Does P steady n (Owns n slots ((n, .verified trust value t) :: known))
      (k (verifySignedPlayerManifest P t value trust)) Q E) :
    Does P steady n (Owns n slots known) (verify P n value trust >>= k) Q E :=
  does_verifyThen kept_owns (fun _ _ h => h.log) fun t => (hk t).pre fun _ h => h.1.verified h.2

theorem does_clearManifests : Does P steady n (Owns n slots known) (Store.clearManifests n)
    (fun _ => HasTurn n) (HasTurn n) :=
  does_request kept_owns (fun _ h => ⟨.clears h.1, h.1⟩) fun _ h => h.turn

/-- `await clearManifests(); return undefined` -/
theorem does_clearAndStop : Does P steady n (Owns n slots known)
    (Store.clearManifests n >>= fun _ => (pure none : Call (Option Json)))
    (Settles n trust) (HasTurn n) :=
  Triple.bind does_clearManifests fun _ => Triple.pure fun _ => settles_none

/-- The call owns the slots, and its last reading of the clock is `now`. -/
def OwnsAt (steady : Bool) (n : Nat) (slots : Slots) (known : List (Nat × Event)) (now : Int)
    (s : Device) : Prop :=
  Owns n slots known s ∧ lastReading n s.history = some now ∧ (steady = true → now ≤ s.clock)

theorem kept_ownsAt {now : Int} : Kept P steady n (OwnsAt steady n slots known now) :=
  kept_owns.and (kept_reading.and kept_clock)

/-- The call owns the slots, and `now` is no later than the clock. -/
def OwnsSince (steady : Bool) (n : Nat) (slots : Slots) (known : List (Nat × Event)) (now : Int)
    (s : Device) : Prop :=
  Owns n slots known s ∧ (steady = true → now ≤ s.clock)

theorem kept_ownsSince {now : Int} : Kept P steady n (OwnsSince steady n slots known now) :=
  kept_owns.and kept_clock

theorem OwnsAt.since {now : Int} {s : Device} (h : OwnsAt steady n slots known now s) :
    OwnsSince steady n slots known now s := ⟨h.1, h.2.2⟩

theorem does_ownNow : Does P steady n (Owns n slots known) (dateNow n)
    (fun now => OwnsAt steady n slots known now) (HasTurn n) :=
  does_dateNow kept_owns fun _ _ h => h.log

/-- `await clearPreviousManifest(version); return undefined`, once the active release is a
withdrawal or has ended. -/
theorem does_clearPreviousAndStop {now : Int} {version : Value}
    (h : isWithdrawn (view slots.active) = true ∨ hasEnded P now (view slots.active) = true) :
    Does P steady n (OwnsSince steady n slots known now)
      (Store.clearPreviousManifest n version >>= fun _ => (pure none : Call (Option Json)))
      (Settles n trust) (HasTurn n) := by
  refine Triple.bind (Q := fun _ => HasTurn n) (does_request kept_ownsSince (fun s hs => ?_)
    fun _ hs => hs.1.turn) fun _ => Triple.pure fun _ => settles_none
  obtain ⟨⟨hturn, hslots, _⟩, hclock⟩ := hs
  refine ⟨?_, hturn⟩
  have hmay : steady = true → MayClearPrevious P s := fun hst => by
    rw [MayClearPrevious, hslots]
    rcases h with h | h
    · exact Or.inl h
    · exact Or.inr (Or.inl (hasEnded_mono (hclock hst) h))
  rcases clearPrevious_or_same s.slots version with heq | heq
  · rw [heq]; exact .clearsPrevious hturn hmay
  · rw [heq]; exact .keepsPrevious hturn

/-- A later reading of the clock, which decides nothing about the slots by itself. -/
theorem does_laterNow {now : Int} : Does P steady n (OwnsSince steady n slots known now) (dateNow n)
    (fun _ => OwnsSince steady n slots known now) (HasTurn n) :=
  (does_dateNow kept_ownsSince fun _ _ h => ⟨h.1.log, h.2⟩).imp (fun _ h => h)
    (fun _ _ h => h.1) fun _ _ h => h

/-- `B` is what else the call keeps while it gives the manifest back. -/
theorem does_giveBackWith {now : Int} {manifest : Json} {B E : Device → Prop}
    (hB : Kept P steady n B) (hlog : ∀ s e, B s → B (s.log n e))
    (fit : Fit P n known trust slots.active manifest now) :
    Does P steady n (fun s => OwnsAt steady n slots known now s ∧ B s)
      (giveBack n trust slots.active manifest now) (fun r s => Settles n trust r s ∧ B s) E := by
  have hA : Kept P steady n fun s => OwnsAt steady n slots known now s ∧ B s := kept_ownsAt.and hB
  refine Triple.step hA.stable fun s i hs _ henv => ?_
  have hnow := env_clock henv
  obtain ⟨⟨⟨hturn, hslots, hknown⟩, hread, _⟩, hb⟩ := hA.tick hnow hs
  refine ⟨⟨i.now, hnow, ?_⟩, ⟨hturn, fun m hm => ?_⟩, hlog _ _ hb⟩
  · rw [← hslots]
    exact .returns trust manifest now hturn (hslots ▸ fit.mono hknown) hread
  · obtain rfl := Option.some.inj hm
    exact ⟨_, _, List.mem_cons_self⟩

theorem does_giveBack {now : Int} {manifest : Json}
    (fit : Fit P n known trust slots.active manifest now) :
    Does P steady n (OwnsAt steady n slots known now) (giveBack n trust slots.active manifest now)
      (Settles n trust) (HasTurn n) :=
  (does_giveBackWith (Kept.const True) (fun _ _ h => h) fit).imp (fun _ h => ⟨h, trivial⟩)
    (fun _ _ h => h.1) fun _ _ h => h

/-- What `isStoredManifestPlayable` finds fit may be given back. -/
theorem fit_of_playable {now : Int} {envelope : Value} {manifest : Json}
    (hf : Found P n known trust envelope (some manifest))
    (hp : isStoredManifestPlayable P now (some manifest) = true) :
    Fit P n known trust envelope manifest now where
  found := hf
  notWithdrawn := (playable_not_ended hp).1
  notEnded := (playable_not_ended hp).2

theorem verify_none {t : Int} : verifySignedPlayerManifest P t none trust = none := rfl

theorem does_giveBackPlayable {envelope : Value} {r : Option Json}
    (he : envelope = slots.active ∨ envelope = none)
    (hr : Found P n known trust envelope r) :
    Does P steady n (Owns n slots known) (giveBackPlayable P n trust envelope r)
      (Settles n trust) (HasTurn n) := by
  refine Triple.bind does_ownNow fun now => ?_
  cases r with
  | none => exact Triple.pure fun _ h => settles_none h.1.turn
  | some manifest =>
    rcases he with rfl | rfl
    · exact does_branch (fun hp => does_giveBack (fit_of_playable hr hp))
        fun _ => Triple.pure fun _ h => settles_none h.1.turn
    · obtain ⟨t, _, hv⟩ := hr
      rw [verify_none] at hv
      cases hv

/-- The slots after `store.rollback`, and what it hands back: the active record, or nothing
when it came too late. -/
theorem does_rollbackTransaction {version : Value} {deadline : Option Int}
    (ha : ∃ a, Found P n known trust slots.active (some a))
    (hp : ∃ p, Found P n known trust slots.previous (some p) ∧ isWithdrawn (some p) = false)
    (hd : ∀ d now, deadline = some d → d ≤ now →
      hasEnded P now (view slots.active) = true ∨ hasEnded P now (view slots.previous) = true) :
    Does P steady n (Owns n slots known) (Store.rollback n trust version deadline)
      (fun r s => ∃ slots', Owns n slots' known s ∧ (r = slots'.active ∨ r = none)) (HasTurn n) := by
  refine does_request kept_owns (fun s hs => ?_) fun _ h => h.turn
  obtain ⟨hturn, rfl, hknown⟩ := hs
  obtain ⟨p, ⟨_, _, hp'⟩, _⟩ := id hp
  have hlogged : ∀ e, known ⊆ (n, e) :: s.history := fun e => List.subset_cons_of_subset _ hknown
  cases hout : s.slots.rollbackOutcome s.clock version deadline with
  | lostRace => exact ⟨.looks, _, ⟨hturn, rfl, hknown⟩, Or.inl rfl⟩
  | tooLate =>
    refine ⟨.clearsPrevious hturn fun _ => Or.inr ?_, _, ⟨hturn, rfl, hlogged _⟩, Or.inr rfl⟩
    unfold Slots.rollbackOutcome at hout
    split at hout
    · cases hout
    split at hout
    · rename_i hle
      cases deadline with
      | none => cases hle
      | some d => exact hd d _ rfl (of_decide_eq_true hle)
    · cases hout
  | swapped =>
    simp only [Slots.rollback, verify_truthy hp', if_true]
    refine ⟨.promotes trust hturn (ha.imp fun _ h => h.mono hknown)
      (hp.imp fun _ h => ⟨h.1.mono hknown, h.2⟩), _, ⟨hturn, rfl, hlogged _⟩, Or.inl rfl⟩

/-! ## Recovery -/

theorem does_recoverExclusive : Does P steady n (Owns n slots known) (recoverExclusive P n trust)
    (Settles n trust) (HasTurn n) := by
  refine Triple.bindFact does_getActive fun signedActive hsa => ?_
  subst hsa
  refine does_ownVerify fun t => ?_
  refine Triple.bind does_ownNow fun now => ?_
  cases hva : verifySignedPlayerManifest P t slots.active trust with
  | none =>
    refine does_branch (fun _ => does_clearAndStop.pre fun _ h => h.1) fun _ => ?_
    refine Triple.bindFact (does_getPrevious kept_ownsAt fun _ h => h.1) fun previous _ => ?_
    refine Triple.bind (Q := fun _ => HasTurn n) ?_ fun _ => Triple.pure fun _ => settles_none
    exact does_if (fun _ => does_clearManifests.pre fun _ h => h.1) fun _ _ h => h.1.turn
  | some active =>
    have hview := (verify_sound hva).view
    -- from here on the active record is known to verify
    refine does_branch (fun hw => ?_) fun hw => does_branch (fun he => ?_) fun he =>
      does_branch (fun hp => ?_) fun hp => ?_
    · exact (does_clearPreviousAndStop (Or.inl (hview ▸ hw))).pre fun _ h => h.since
    · have hended : hasEnded P now (view slots.active) = true := by
        simp [hasEnded, hview, (Bool.and_eq_true _ _).mp he]
      refine Triple.bindFact ((does_getPrevious kept_ownsSince fun _ h => h.1).pre
        fun _ h => h.since) fun previous hpre => ?_
      subst hpre
      refine does_verifyThen kept_ownsSince (fun _ _ h => ⟨h.1.log, h.2⟩) fun t' => ?_
      refine Triple.bind (does_laterNow.pre fun _ h => ⟨h.1.1.verified h.2, h.1.2⟩) fun now' => ?_
      generalize hvp : verifySignedPlayerManifest P t' slots.previous trust = candidate
      refine does_branch (fun _ => does_clearAndStop.pre fun _ h => h.1) fun _ =>
        does_branch (fun _ => does_clearPreviousAndStop (Or.inr hended)) fun _ =>
        does_branch (fun _ => does_clearPreviousAndStop (Or.inr hended)) fun hplay => ?_
      rw [Bool.not_eq_false'] at hplay
      cases candidate with
      | none => cases hplay
      | some previous =>
        refine Triple.bind ((does_rollbackTransaction
          ⟨active, (found_verified hva).mono (List.subset_cons_self _ _)⟩
          ⟨previous, found_verified hvp, (playable_not_ended hplay).1⟩ fun d _ hd => by cases hd).pre
            fun _ h => h.1) fun resulting => Triple.exists fun slots' => ?_
        refine Triple.given (fun _ h => h.2) fun hres => ?_
        refine Triple.pre (does_ownVerify fun u => ?_) fun _ h => h.1
        exact does_giveBackPlayable hres (found_verified rfl)
    · exact (does_clearPreviousAndStop (Or.inr (by simp [hasEnded, hview, hp]))).pre
        fun _ h => h.since
    · refine does_giveBack ⟨found_verified hva, hw, ?_⟩
      simp only [hasEnded, hp, Bool.false_or, he]

/-! ## Rollback -/

theorem does_rollbackExclusive {version : Value} : Does P steady n (Owns n slots known)
    (rollbackExclusive P n trust version) (Settles n trust) (HasTurn n) := by
  refine Triple.bindFact does_getActive fun signedActive hsa => ?_
  subst hsa
  refine does_ownVerify fun t => ?_
  cases hva : verifySignedPlayerManifest P t slots.active trust with
  | none =>
    refine Triple.bind (Q := fun _ => Owns n slots ((n, .verified trust slots.active t) :: known))
      ?_ fun signedPrevious => ?_
    · refine does_branch (fun _ => Triple.pure fun _ h => h) fun _ => ?_
      exact (does_getPrevious kept_owns fun _ h => h).imp (fun _ h => h) (fun _ _ h => h.1)
        fun _ _ h => h
    · refine Triple.bind (Q := fun _ => HasTurn n) ?_ fun _ => Triple.pure fun _ => settles_none
      exact does_if (fun _ => does_clearManifests) fun _ _ h => h.turn
  | some active =>
    have hview := (verify_sound hva).view
    refine Triple.bind does_ownNow fun now => ?_
    refine does_branch (fun hend => ?_) fun _ => does_branch (fun _ => ?_) fun _ => ?_
    · refine (does_clearPreviousAndStop ?_).pre fun _ h => h.since
      rcases (Bool.or_eq_true _ _).mp hend with hw | hp
      · exact Or.inl (hview ▸ hw)
      · exact Or.inr (by simp [hasEnded, hview, hp])
    · exact (does_giveBackPlayable (Or.inl rfl) (found_verified hva)).pre fun _ h => h.1
    · refine Triple.bindFact ((does_getPrevious kept_owns fun _ h => h).pre fun _ h => h.1)
        fun signedPrevious hpre => ?_
      subst hpre
      refine does_ownVerify fun t' => ?_
      refine Triple.bind does_ownNow fun now' => ?_
      generalize hvp : verifySignedPlayerManifest P t' slots.previous trust = previous
      refine does_branch (fun _ => does_clearAndStop.pre fun _ h => h.1) fun _ =>
        does_branch (fun _ => does_clearAndStop.pre fun _ h => h.1) fun hplay => ?_
      rw [Bool.not_eq_false'] at hplay
      cases previous with
      | none => cases hplay
      | some previous =>
        have hpview := (verify_sound hvp).view
        refine Triple.bind ((does_rollbackTransaction
          ⟨active, (found_verified hva).mono (List.subset_cons_self _ _)⟩
          ⟨previous, found_verified hvp, (playable_not_ended hplay).1⟩ fun d now hd hle => ?_).pre
            fun _ h => h.1) fun resulting => Triple.exists fun slots' => ?_
        · rw [hview, hpview]
          exact rollbackDeadline_ended hd hle
        · refine Triple.given (fun _ h => h.2) fun hres => ?_
          refine Triple.pre (does_ownVerify fun u => ?_) fun _ h => h.1
          exact does_branch (fun _ => does_clearAndStop) fun _ =>
            does_giveBackPlayable hres (found_verified rfl)

end screengoblin.player
