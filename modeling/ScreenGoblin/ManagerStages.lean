-- Staging keeps to its moves: the collection of old assets, the downloads and the
-- activation. With recovery and rollback this gives `manager_sound`, for any number of
-- calls in any order.
import ScreenGoblin.ManagerCalls

open js async

namespace screengoblin.player

variable {P : Platform} {steady : Bool} {n m : Nat} {s s' : Device} {slots : Slots}
  {known : List (Nat × Event)} {trust : ManifestTrust}

/-! ## The queues -/

/-- The rule of the state queue. `B` is what the call keeps while it waits. -/
theorem does_enqueueState {α : Type} {p : Call α} {B E : Device → Prop} {Q : α → Device → Prop}
    (hB : Kept P steady n B) (hBq : ∀ s q, B s → B { s with stateQueue := q })
    (hp : Does P steady n (fun s => HasTurn n s ∧ B s) p (fun r s => HasTurn n s ∧ Q r s)
      (fun s => HasTurn n s ∧ E s))
    (hQ : ∀ r, Kept P steady n (Q r)) (hQq : ∀ r s q, Q r s → Q r { s with stateQueue := q })
    (hE : Kept P steady n E) (hEq : ∀ s q, E s → E { s with stateQueue := q }) :
    Does P steady n B (enqueueState n p) Q E := by
  refine Triple.queued hB.stable hB.stable (fun s i hb _ henv => ?_)
    (fun s i hb _ hturn henv => ?_) hp (fun r => (kept_turn.and (hQ r)).stable)
    (fun _ => (kept_turn.and hE).stable) (fun r s i hq _ henv => ?_) fun e s i he _ henv => ?_
  · have hnow := env_clock henv
    exact ⟨⟨i.now, hnow, .joinsState⟩, hBq _ _ (hB.tick hnow hb)⟩
  · have hnow := env_clock henv
    exact ⟨⟨i.now, hnow, .looks⟩, eq_of_beq hturn, hB.tick hnow hb⟩
  · have hnow := env_clock henv
    exact ⟨⟨i.now, hnow, .leavesState hq.1⟩, hQq r _ _ ((hQ r).tick hnow hq.2)⟩
  · have hnow := env_clock henv
    exact ⟨⟨i.now, hnow, .leavesState he.1⟩, hEq _ _ (hE.tick hnow he.2)⟩

def Stages (n : Nat) (s : Device) : Prop := s.stagingQueue.head? = some n

/-- The rule of the staging queue. -/
theorem does_enqueueStaging {α : Type} {p : Call α} {B E : Device → Prop}
    {Q : α → Device → Prop} (hB : Kept P steady n B)
    (hBq : ∀ s q, B s → B { s with stagingQueue := q })
    (hp : Does P steady n (fun s => Stages n s ∧ B s) p (fun r s => Stages n s ∧ Q r s)
      (fun s => Stages n s ∧ E s))
    (hQ : ∀ r, Kept P steady n (Q r)) (hQq : ∀ r s q, Q r s → Q r { s with stagingQueue := q })
    (hE : Kept P steady n E) (hEq : ∀ s q, E s → E { s with stagingQueue := q }) :
    Does P steady n B (enqueueStaging n p) Q E := by
  refine Triple.queued hB.stable hB.stable (fun s i hb _ henv => ?_)
    (fun s i hb _ hturn henv => ?_) hp (fun r => (kept_staging.and (hQ r)).stable)
    (fun _ => (kept_staging.and hE).stable) (fun r s i hq _ henv => ?_) fun e s i he _ henv => ?_
  · have hnow := env_clock henv
    exact ⟨⟨i.now, hnow, .joinsStaging⟩, hBq _ _ (hB.tick hnow hb)⟩
  · have hnow := env_clock henv
    exact ⟨⟨i.now, hnow, .looks⟩, eq_of_beq hturn, hB.tick hnow hb⟩
  · have hnow := env_clock henv
    exact ⟨⟨i.now, hnow, .leavesStaging hq.1⟩, hQq r _ _ ((hQ r).tick hnow hq.2)⟩
  · have hnow := env_clock henv
    exact ⟨⟨i.now, hnow, .leavesStaging he.1⟩, hEq _ _ (hE.tick hnow he.2)⟩

/-! ## Collection -/

/-- While a call has the staging queue, the others can clear the slots, clear the previous
slot, or promote it. None of them can activate. -/
inductive SlotsShrink (P : Platform) (steady : Bool) (s s' : Device) : Prop where
  | same (h : s'.slots = s.slots)
  | cleared (h : s'.slots = ⟨none, none⟩)
  | clearedPrevious (h : s'.slots = { s.slots with previous := none })
    (may : steady = true → MayClearPrevious P s)
  | promoted (h : s'.slots = { s.slots with active := s.slots.previous })
    (kept : isWithdrawn (view s.slots.previous) = false)

theorem slots_shrink (hm : m ≠ n) (hn : Stages n s) (h : Act P steady m s s') :
    SlotsShrink P steady s s' := by
  cases h with
  | activates _ _ _ staging => exact (head_other hm hn staging).elim
  | clears => exact .cleared rfl
  | clearsPrevious _ may => exact .clearedPrevious rfl may
  | promotes trust _ _ previous =>
    obtain ⟨p, ⟨_, _, hv⟩, hw⟩ := previous
    exact .promoted rfl ((verify_sound hv).view ▸ hw)
  | prefetches _ staging => exact (head_other hm hn staging).elim
  | _ => exact .same rfl

/-- The collection has read the active record. A release that took its place since then was
the previous one, or it has ended. -/
def SeenActive (P : Platform) (steady : Bool) (active : Value) (s : Device) : Prop :=
  steady = true → s.slots.active = active ∨ s.slots.active = none ∨
    hasEnded P s.clock (view s.slots.active) = true ∨
    (s.slots.active = s.slots.previous ∧ isWithdrawn (view s.slots.active) = false)

/-- The previous slot is cleared under a release that was promoted from it only when that
release has ended. -/
theorem promoted_ended (may : MayClearPrevious P s) (h : s.slots.active = s.slots.previous)
    (hw : isWithdrawn (view s.slots.active) = false) :
    hasEnded P s.clock (view s.slots.active) = true := by
  rcases may with h1 | h1 | h1
  · rw [hw] at h1; cases h1
  · exact h1
  · rw [h]; exact h1

theorem kept_seenActive {active : Value} :
    Kept P steady n fun s => Stages n s ∧ SeenActive P steady active s := by
  rintro m s s' hm ⟨now, hnow, hact⟩ ⟨hn, hs⟩
  have hleaves := act_leaves hm hact
  refine ⟨(hleaves.staging hn).1, fun hst => ?_⟩
  have hclock : s'.clock = now := hleaves.clock
  have hmono : ∀ v, hasEnded P s.clock v = true → hasEnded P s'.clock v = true :=
    fun v hv => hasEnded_mono (by rw [hclock]; exact hnow hst) hv
  rcases slots_shrink (s := s.tick now) hm hn hact with h | h | ⟨h, may⟩ | ⟨h, hw⟩
  · rw [h]
    exact (hs hst).imp_right (Or.imp_right (Or.imp_left (hmono _)))
  · exact Or.inr (Or.inl (by rw [h]))
  · rw [h]
    rcases hs hst with h1 | h1 | h1 | ⟨h1, h2⟩
    · exact Or.inl h1
    · exact Or.inr (Or.inl h1)
    · exact Or.inr (Or.inr (Or.inl (hmono _ h1)))
    · rw [hclock]
      exact Or.inr (Or.inr (Or.inl (promoted_ended (may hst) h1 h2)))
  · rw [h]
    exact Or.inr (Or.inr (Or.inr ⟨rfl, hw⟩))

theorem kept_retains {active previous : Value} :
    Kept P steady n fun s => Stages n s ∧ (steady = true → Retains P active previous s) := by
  rintro m s s' hm ⟨now, hnow, hact⟩ ⟨hn, hs⟩
  have hleaves := act_leaves hm hact
  refine ⟨(hleaves.staging hn).1, fun hst => ?_⟩
  obtain ⟨hprev, hactive⟩ := hs hst
  have hclock : s'.clock = now := hleaves.clock
  have hactive' : s.slots.active = active ∨ s.slots.active = previous ∨ s.slots.active = none ∨
      hasEnded P s'.clock (view s.slots.active) = true :=
    hactive.imp_right (Or.imp_right (Or.imp_right
      (hasEnded_mono (by rw [hclock]; exact hnow hst))))
  rcases slots_shrink (s := s.tick now) hm hn hact with h | h | ⟨h, _⟩ | ⟨h, _⟩
  · exact ⟨by rw [h]; exact hprev, by rw [h]; exact hactive'⟩
  · exact ⟨by rw [h]; exact Or.inr rfl, by rw [h]; exact Or.inr (Or.inr (Or.inl rfl))⟩
  · exact ⟨by rw [h]; exact Or.inr rfl, by rw [h]; exact hactive'⟩
  · refine ⟨by rw [h]; exact hprev, ?_⟩
    rw [h]
    rcases hprev with hp | hp
    · exact Or.inr (Or.inl hp)
    · exact Or.inr (Or.inr (Or.inl hp))

/-- Collection keeps any assertion that a prune of the call itself does not break. -/
theorem does_pruneRetainedAssets {A E : Device → Prop} (hA : Kept P steady n A)
    (hn : ∀ s, A s → Stages n s) (hprune : ∀ s retained, A s → A (s.pruned n retained)) :
    Does P steady n A (pruneRetainedAssets P n) (fun _ => A) E := by
  refine Triple.orElse (E := fun _ => A) ?_ fun _ => Triple.pure fun _ h => h
  refine Triple.bind (Q := fun active s => A s ∧ Stages n s ∧ SeenActive P steady active s)
    (does_request hA (fun s ha => ⟨.looks, ha, hn s ha, fun _ => Or.inl rfl⟩) fun _ h => h)
    fun active => ?_
  refine Triple.bind (Q := fun previous s =>
      A s ∧ Stages n s ∧ (steady = true → Retains P active previous s))
    (does_request (hA.and kept_seenActive) (fun s ⟨ha, hst, hseen⟩ => ⟨.looks, ha, hst, fun h =>
      ⟨Or.inl rfl, ?_⟩⟩) fun _ h => h.1) fun previous => ?_
  · rcases hseen h with h1 | h1 | h1 | ⟨h1, _⟩
    · exact Or.inl h1
    · exact Or.inr (Or.inr (Or.inl h1))
    · exact Or.inr (Or.inr (Or.inr h1))
    · exact Or.inr (Or.inl h1)
  · cases hassets : retainedAssets [active, previous] with
    | none => exact Triple.fail fun _ h => h.1
    | some assets =>
      show Does P steady n _ (pruneAssets P n assets) _ _
      unfold pruneAssets
      split
      · exact Triple.fail fun _ h => h.1
      · rename_i retained hnames
        exact does_request (hA.and kept_retains) (fun s h =>
          ⟨.prunes active previous assets retained h.2.1 hassets hnames h.2.2,
            hprune s retained h.1⟩) fun _ h => h.1

/-! ## Downloads -/

/-- As long as nothing failed, `left` covers the requests to come, and a worker is free only
when no item is left. -/
structure Tracks (left : Nat) (d : Downloads) : Prop where
  enough : d.failure = none → d.inFlight.length + d.rest.length ≤ left
  busy : d.failure = none → d.inFlight = [] → d.rest = []

section afterRequest

variable {left index : Nat} {d : Downloads} {ok current : Bool}

theorem afterRequest_failure (h : (d.afterRequest index ok current).failure = none) :
    ok = true ∧ d.failure = none ∧ (d.afterRequest index ok current =
      match d.rest with
      | [] => { d with inFlight := d.inFlight.eraseIdx index }
      | item :: rest => { d with inFlight := d.inFlight.eraseIdx index ++ [item], rest }) := by
  simp only [Downloads.afterRequest] at h ⊢
  split at h
  · cases hf : d.failure <;> simp [hf] at h
  split at h
  · cases hf : d.failure <;> simp [hf] at h
  split at h
  · rename_i hs
    rw [show d.failure = none from h] at hs
    cases hs
  rename_i hok hcur hf
  have hok : ok = true := by simpa using hok
  have hcur : current = true := by simpa using hcur
  subst hok hcur
  have hf : d.failure = none := by simpa using hf
  refine ⟨rfl, hf, ?_⟩
  cases d.rest <;> simp [hf]

theorem afterRequest_tracks (h : Tracks (left + 1) d) (hi : index < d.inFlight.length) :
    Tracks left (d.afterRequest index ok current) := by
  have hlen := List.length_eraseIdx_of_lt hi
  refine ⟨fun hf => ?_, fun hf hidle => ?_⟩
  · obtain ⟨_, hd, heq⟩ := afterRequest_failure hf
    have henough := h.enough hd
    rw [heq]
    cases hrest : d.rest with
    | nil => simp only [hrest, List.length_nil] at henough ⊢; omega
    | cons item rest =>
      simp only [hrest, List.length_cons, List.length_append, List.length_nil] at henough ⊢
      omega
  · obtain ⟨_, hd, heq⟩ := afterRequest_failure hf
    rw [heq] at hidle ⊢
    cases hrest : d.rest with
    | nil => rfl
    | cons item rest => simp [hrest] at hidle

/-- An item that was on its way is the one whose request ended, or it still is on its way. -/
theorem afterRequest_mem (h : (d.afterRequest index ok current).failure = none) {item : Json}
    (hm : item ∈ d.inFlight ∨ item ∈ d.rest) : item = d.inFlight.getD index .null ∨
      item ∈ (d.afterRequest index ok current).inFlight ∨
      item ∈ (d.afterRequest index ok current).rest := by
  obtain ⟨_, _, heq⟩ := afterRequest_failure h
  rw [heq]
  rcases hm with hm | hm
  · obtain ⟨j, hj, hget⟩ := List.mem_iff_getElem.mp hm
    by_cases hji : j = index
    · subst hji
      exact Or.inl (by simp [hj, hget])
    · have hin : item ∈ d.inFlight.eraseIdx index :=
        List.mem_eraseIdx_iff_getElem.mpr ⟨j, hj, hji, hget⟩
      refine Or.inr (Or.inl ?_)
      cases d.rest with
      | nil => exact hin
      | cons x rest => exact List.mem_append_left _ hin
  · cases hrest : d.rest with
    | nil => rw [hrest] at hm; cases hm
    | cons x rest =>
      rw [hrest] at hm
      rcases List.mem_cons.mp hm with rfl | hm
      · exact Or.inr (Or.inl (List.mem_append_right _ List.mem_cons_self))
      · exact Or.inr (Or.inr hm)

end afterRequest

/-- As long as nothing failed, each item is on its way or in the cache. -/
def Fetching (P : Platform) (items : List Json) (d : Downloads) (s : Device) : Prop :=
  d.failure = none → ∀ item ∈ items, item ∈ d.inFlight ∨ item ∈ d.rest ∨ InCache P s item

theorem kept_fetching {items : List Json} {d : Downloads} :
    Kept P steady n fun s => Stages n s ∧ Fetching P items d s :=
  kept_of_leaves fun _ _ _ _ _ _ h hs => by
    obtain ⟨hq, hcache, _⟩ := h.staging hs.1
    refine ⟨hq, fun hf item hi => ?_⟩
    have hcache : _ = _ := hcache
    unfold InCache
    rw [hcache]
    exact hs.2 hf item hi

theorem prefetched_keeps {asset item : Json} (h : InCache P s item) :
    InCache P (s.prefetched P n asset) item := by
  obtain ⟨name, hkey, hmem⟩ := h
  refine ⟨name, hkey, ?_⟩
  unfold Device.prefetched
  split
  · exact hmem
  · split
    · exact List.mem_cons_of_mem _ hmem
    · exact hmem

theorem prefetched_inCache {asset : Json} (hw : isWeb asset = false)
    (h : (P.cacheKey asset).isSome = true) : InCache P (s.prefetched P n asset) asset := by
  obtain ⟨name, hname⟩ := Option.isSome_iff_exists.mp h
  refine ⟨name, hname, ?_⟩
  simp [Device.prefetched, hw, hname, Device.log]

section downloads

variable {A E : Device → Prop} {items : List Json}

theorem does_settleDownloads {d : Downloads} (hidle : d.failure = none → d.inFlight = [] ∧
    d.rest = []) (hE : ∀ s, A s → E s) :
    Does P steady n (fun s => A s ∧ Fetching P items d s) (settleDownloads d)
      (fun _ s => A s ∧ ∀ item ∈ items, InCache P s item) E := by
  unfold settleDownloads
  split
  · exact Triple.fail fun s h => hE s h.1
  · rename_i hf
    refine Triple.pure fun s h => ⟨h.1, fun item hi => ?_⟩
    obtain ⟨hin, hrest⟩ := hidle hf
    have hitem := h.2 hf item hi
    rw [hin, hrest] at hitem
    simpa using hitem

/-- When the downloads resolve, every item is in the cache. The induction is on the requests
that still have to end. -/
theorem does_awaitDownloads {g : Nat} (hA : Kept P steady n A) (hn : ∀ s, A s → Stages n s)
    (hfetch : ∀ s asset, A s → A (s.prefetched P n asset)) (hE : ∀ s, A s → E s)
    (hweb : ∀ item ∈ items, isWeb item = false) (left : Nat) (d : Downloads)
    (ht : Tracks left d) :
    Does P steady n (fun s => A s ∧ Fetching P items d s) (awaitDownloads P n g left d)
      (fun _ s => A s ∧ ∀ item ∈ items, InCache P s item) E := by
  induction left generalizing d with
  | zero =>
    refine does_settleDownloads (fun hf => ?_) hE
    have hlen := ht.enough hf
    exact ⟨List.eq_nil_of_length_eq_zero (by omega), List.eq_nil_of_length_eq_zero (by omega)⟩
  | succ left ih =>
    refine does_branch (fun hempty => ?_) fun hbusy => ?_
    · have hempty : d.inFlight = [] := List.isEmpty_iff.mp hempty
      exact does_settleDownloads (fun hf => ⟨hempty, ht.busy hf hempty⟩) hE
    · have hpos : 0 < d.inFlight.length := by
        cases hd : d.inFlight with
        | nil => rw [hd] at hbusy; cases hbusy
        | cons x xs => simp
      have hkept : Kept P steady n fun s => A s ∧ Stages n s ∧ Fetching P items d s :=
        hA.and kept_fetching
      refine Triple.pre (Triple.segment hkept.stable fun s i hs _ _ henv => ?_)
        fun s h => ⟨h.1, hn s h.1, h.2⟩
      have hnow := env_clock henv
      obtain ⟨ha, hst, hf⟩ := hkept.tick hnow hs
      have hi : i.pick % d.inFlight.length < d.inFlight.length := Nat.mod_lt _ hpos
      have hnext := ih (d.afterRequest (i.pick % d.inFlight.length)
        (fetches P (d.inFlight.getD (i.pick % d.inFlight.length) .null) i.ok)
        (g == s.stagingGeneration)) (afterRequest_tracks ht hi)
      by_cases hok : fetches P (d.inFlight.getD (i.pick % d.inFlight.length) .null) i.ok = true
      · simp only [hok, if_true] at hnext ⊢
        refine ⟨⟨i.now, hnow, .prefetches _ hst⟩, hnext _ ⟨hfetch _ _ ha, fun hd item hm => ?_⟩⟩
        have hfail := (afterRequest_failure hd).2.1
        rcases or_assoc.mpr (hf hfail item hm) with hway | hcached
        · rcases afterRequest_mem hd hway with rfl | h1 | h1
          · simp only [fetches, hweb _ hm, Bool.false_or, Bool.and_eq_true] at hok
            exact Or.inr (Or.inr (prefetched_inCache (hweb _ hm) hok.2))
          · exact Or.inl h1
          · exact Or.inr (Or.inl h1)
        · exact Or.inr (Or.inr (prefetched_keeps hcached))
      · simp only [hok, if_false, Bool.false_eq_true] at hnext ⊢
        refine ⟨⟨i.now, hnow, .looks⟩, hnext _ ⟨ha, fun hd => ?_⟩⟩
        exact absurd (afterRequest_failure hd).1 (by simp)

theorem does_prefetchAssets {g : Nat} (hA : Kept P steady n A) (hn : ∀ s, A s → Stages n s)
    (hfetch : ∀ s asset, A s → A (s.prefetched P n asset)) (hE : ∀ s, A s → E s)
    (hweb : ∀ item ∈ items, isWeb item = false) :
    Does P steady n A (prefetchAssets P n items g)
      (fun _ s => A s ∧ ∀ item ∈ items, InCache P s item) E := by
  refine does_branch (fun hempty => Triple.pure fun s h => ⟨h, ?_⟩) fun hitems => ?_
  · rw [List.isEmpty_iff.mp hempty]; simp
  · refine Triple.bind (does_assertStagingGeneration hA hE) fun _ => ?_
    refine (does_awaitDownloads hA hn hfetch hE hweb items.length _
      ⟨fun _ => ?_, fun _ h => ?_⟩).pre fun s h => ⟨h, fun _ item hi => ?_⟩
    · have := congrArg List.length (List.take_append_drop MAX_CONCURRENT_PREFETCHES items)
      rw [List.length_append] at this
      exact this.le
    · have hnil : items = [] := by simpa [MAX_CONCURRENT_PREFETCHES] using h
      rw [hnil] at hitems
      cases hitems
    · rw [← List.take_append_drop MAX_CONCURRENT_PREFETCHES items, List.mem_append] at hi
      exact hi.imp_right Or.inl

end downloads

/-! ## Activation -/

def Clean (P : Platform) (n : Nat) (trust : ManifestTrust) : Device → Prop :=
  Logged n (ClearsUnverified P n trust)

/-- What a stage holds from its downloads to its activation. -/
structure Staged (P : Platform) (steady : Bool) (n : Nat) (trust : ManifestTrust)
    (envelope : Value) (s : Device) : Prop where
  staging : Stages n s
  undisturbed : Undisturbed n s.history
  clean : Clean P n trust s
  cached : steady = true → playbackEnded P s.clock (view envelope) = false →
    Cached P (view envelope) s

variable {envelope : Value}

theorem kept_staged : Kept P steady n (Staged P steady n trust envelope) := by
  rintro m s s' hm hmoves ⟨hst, hund, hclean, hcached⟩
  obtain ⟨hst', hund'⟩ := kept_undisturbed m s s' hm hmoves ⟨hst, hund⟩
  refine ⟨hst', hund', kept_logged m s s' hm hmoves hclean, fun hsteady hend => ?_⟩
  obtain ⟨now, hnow, hact⟩ := hmoves
  have hleaves := act_leaves hm hact
  have hclock : s'.clock = now := hleaves.clock
  have hcache : s'.cache = s.cache := (hleaves.staging hst).2.1
  have hbefore : playbackEnded P s.clock (view envelope) = false := by
    by_contra h
    rw [Bool.not_eq_false] at h
    have hlater : playbackEnded P s'.clock (view envelope) = true :=
      dateLe_mono (by rw [hclock]; exact hnow hsteady) h
    rw [hend] at hlater
    cases hlater
  unfold Cached InCache
  rw [hcache]
  exact hcached hsteady hbefore

/-- The stage logs an event, and its other records of the device stay as they are. -/
theorem Staged.log {e : Event} (h : Staged P steady n trust envelope s) (he : e.isPrune = false)
    (hc : ClearsUnverified P n trust s.history e) : Staged P steady n trust envelope (s.log n e) :=
  ⟨h.staging, undisturbed_cons he h.undisturbed, logged_log h.clean hc, h.cached⟩

theorem does_assertNotOlder {A E : Device → Prop} {candidate : Json} {active : Option Json}
    (hE : ∀ s, A s → E s) :
    Does P steady n A (assertNotOlderThanActive P candidate active)
      (fun _ s => A s ∧ ∀ a, active = some a → isOlder P (some candidate) (some a) = false ∧
        isAmbiguous P (some candidate) (some a) = false) E := by
  cases active with
  | none => exact Triple.pure fun s h => ⟨h, fun a ha => by cases ha⟩
  | some a =>
    refine Triple.bindFact (does_ensure hE) fun _ ho => ?_
    refine (does_ensure hE).imp (fun _ h => h) (fun _ s h => ⟨h.1, fun b hb => ?_⟩) fun _ _ h => h
    obtain rfl := Option.some.inj hb
    exact ⟨by simpa using ho, by simpa using h.2⟩

theorem reading_log {now : Int} {e : Event} (he : ∀ t, e ≠ .read t)
    (h : lastReading n s.history = some now) : lastReading n (s.log n e).history = some now :=
  (lastReading_cons he).trans h

/-- The stage has its turn on both queues, and `now` is its last reading of the clock. -/
def Activating (P : Platform) (steady : Bool) (n : Nat) (trust : ManifestTrust) (envelope : Value)
    (now : Int) (slots : Slots) (known : List (Nat × Event)) (s : Device) : Prop :=
  OwnsAt steady n slots known now s ∧ Staged P steady n trust envelope s

theorem kept_activating {now : Int} :
    Kept P steady n (Activating P steady n trust envelope now slots known) :=
  kept_ownsAt.and kept_staged

/-- A stage may reject as long as it has only cleared a record that does not verify. -/
def MayReject (P : Platform) (n : Nat) (trust : ManifestTrust) (s : Device) : Prop :=
  HasTurn n s ∧ Stages n s ∧ Clean P n trust s

theorem Activating.mayReject {now : Int}
    (h : Activating P steady n trust envelope now slots known s) : MayReject P n trust s :=
  ⟨h.1.1.1, h.2.staging, h.2.clean⟩

/-- A verification changes none of this. -/
theorem Activating.verifies {now t : Int} {value : Value}
    (h : Activating P steady n trust envelope now slots known s) :
    Activating P steady n trust envelope now slots known
      (s.log n (.verified trust value t)) :=
  ⟨⟨h.1.1.log, reading_log (fun _ h => by cases h) h.1.2.1, h.1.2.2⟩,
    h.2.log rfl fun hc => by cases hc⟩

/-- The step before the activation: a record that does not verify is cleared. -/
theorem does_clearUnverified {now t : Int} {active : Option Json}
    (ha : verifySignedPlayerManifest P t slots.active trust = active) :
    Does P steady n (fun s => Activating P steady n trust envelope now slots known s ∧
        lastVerification n s.history = some (trust, slots.active, t))
      (if slots.active.truthy && active.isNone then Store.clearManifests n else pure ())
      (fun _ s => ∃ slots', Activating P steady n trust envelope now slots' known s ∧
        (slots'.active.truthy = false ∨ slots'.active = slots.active ∧ active ≠ none))
      (MayReject P n trust) := by
  refine does_if (fun hclear => ?_) fun hkeep s hs => ⟨slots, hs.1, ?_⟩
  · rw [Bool.and_eq_true, Option.isNone_iff_eq_none] at hclear
    refine does_request (kept_activating.and kept_verification) (fun s hs => ?_)
      fun _ h => h.1.mayReject
    obtain ⟨⟨⟨⟨hturn, hslots, hknown⟩, hread, hclock⟩, hstaged⟩, hlast⟩ := hs
    have hunverified : ClearsUnverified P n trust s.history (.cleared s.slots.active) := fun _ =>
      ⟨_, t, rfl, by rw [hslots]; exact hclear.1, by rw [hslots]; exact hlast,
        by rw [hslots, ha]; exact hclear.2⟩
    refine ⟨.clears hturn, ⟨none, none⟩,
      ⟨⟨⟨hturn, rfl, List.subset_cons_of_subset _ hknown⟩, ?_, hclock⟩, ?_⟩, Or.inl rfl⟩
    · exact reading_log (fun _ h => by cases h) hread
    · have h := hstaged.log rfl hunverified
      exact ⟨h.staging, h.undisturbed, h.clean, h.cached⟩
  · cases htruthy : slots.active.truthy with
    | false => exact Or.inl rfl
    | true =>
      refine Or.inr ⟨rfl, fun hnone => ?_⟩
      simp [htruthy, hnone] at hkeep

/-- The activation itself: one transaction under both queues. -/
theorem does_activate {now : Int}
    (hv : ∃ manifest, Found P n known trust envelope (some manifest))
    (hmay : MayReplace P n known trust envelope slots.active) :
    Does P steady n (Activating P steady n trust envelope now slots known)
      (Store.activateManifest n trust envelope)
      (fun _ s => OwnsAt steady n (slots.activateManifest envelope) known now s ∧ Stages n s)
      (MayReject P n trust) := by
  refine does_request kept_activating (fun s hs => ?_) fun _ h => h.mayReject
  obtain ⟨⟨⟨hturn, rfl, hknown⟩, hread, hclock⟩, hstaged⟩ := hs
  refine ⟨.activates trust envelope hturn hstaged.staging (hv.imp fun _ h => h.mono hknown)
    (hmay.imp_right fun ⟨a, h, horder⟩ => ⟨a, h.mono hknown, horder⟩) hstaged.cached
    hstaged.undisturbed,
    ⟨⟨hturn, rfl, List.subset_cons_of_subset _ hknown⟩, ?_, hclock⟩, hstaged.staging⟩
  exact reading_log (fun _ h => by cases h) hread

theorem does_activateExclusive {g : Nat} :
    Does P steady n (fun s => HasTurn n s ∧ Staged P steady n trust envelope s)
      (activateExclusive P n envelope trust g)
      (fun r s => HasTurn n s ∧ Stages n s ∧ Given n trust r s) (MayReject P n trust) := by
  refine Triple.pre (P := fun s => ∃ slots, Owns n slots [] s ∧ Staged P steady n trust envelope s)
    (Triple.exists fun slots => ?_) fun s h => ⟨s.slots, ⟨h.1, rfl, List.nil_subset _⟩, h.2⟩
  have hA : ∀ known, Kept P steady n fun s =>
      Owns n slots known s ∧ Staged P steady n trust envelope s :=
    fun _ => kept_owns.and kept_staged
  have hE : ∀ known s, Owns n slots known s ∧ Staged P steady n trust envelope s →
      MayReject P n trust s := fun _ s h => ⟨h.1.1, h.2.staging, h.2.clean⟩
  refine Triple.bind (does_assertStagingGeneration (hA _) (hE _)) fun _ => ?_
  refine does_verifyThen (hA _)
    (fun _ _ h => ⟨h.1.log, h.2.log rfl fun hc => by cases hc⟩) fun t => ?_
  refine Triple.bind ((does_assertStagingGeneration (hA _) (hE _)).pre
    fun _ h => ⟨h.1.1.verified h.2, h.1.2⟩) fun _ => ?_
  cases hv : verifySignedPlayerManifest P t envelope trust with
  | none => exact Triple.fail (hE _)
  | some candidate =>
    have hview := (verify_sound hv).view
    refine Triple.bind (Q := fun now => Activating P steady n trust envelope now slots _)
      ((does_dateNow (hA _) fun s t h => ⟨h.1.log, h.2.log rfl fun hc => by cases hc⟩).imp
        (fun _ h => h) (fun _ _ h => ⟨⟨h.1.1, h.2⟩, h.1.2⟩) fun _ _ h => h) fun now => ?_
    refine Triple.bindFact (does_ensure fun _ h => h.mayReject) fun _ hlease => ?_
    refine Triple.bindFact (does_request kept_activating (Q := fun r s =>
      Activating P steady n trust envelope now slots _ s ∧ r = slots.active)
      (fun s h => ⟨.looks, h, by rw [h.1.1.2.1]⟩) fun _ h => h.mayReject) fun signedActive hsa => ?_
    subst hsa
    refine does_verifyThen kept_activating (fun _ _ h => h.verifies) fun t' => ?_
    generalize ha : verifySignedPlayerManifest P t' slots.active trust = active
    refine Triple.bind (does_assertStagingGeneration (kept_activating.and kept_verification)
      fun _ h => h.1.mayReject) fun _ => ?_
    refine Triple.bind ((does_clearUnverified ha).pre fun _ h =>
      ⟨⟨⟨h.1.1.1.verified h.2, h.1.1.2⟩, h.1.2⟩, h.2⟩) fun _ => Triple.exists fun slots' => ?_
    refine Triple.given (fun _ h => h.2) fun hkept => ?_
    refine Triple.bindFact ((does_assertNotOlder fun _ h => h.mayReject).pre fun _ h => h.1)
      fun _ hordered => ?_
    have hknown : Found P n [(n, .verified trust slots.active t'), (n, .verified trust envelope t)]
        trust envelope (some candidate) := (found_verified hv).mono (List.subset_cons_self _ _)
    have hmay : MayReplace P n
        [(n, .verified trust slots.active t'), (n, .verified trust envelope t)] trust envelope
        slots'.active := by
      rcases hkept with hfalsy | ⟨hsame, hsome⟩
      · exact Or.inl hfalsy
      · obtain ⟨a, rfl⟩ := Option.ne_none_iff_exists'.mp hsome
        exact Or.inr ⟨a, by rw [hsame]; exact found_verified ha, hview ▸ hordered a rfl⟩
    refine Triple.bind (does_assertStagingGeneration kept_activating fun _ h => h.mayReject)
      fun _ => ?_
    refine Triple.bind (does_activate ⟨candidate, hknown⟩ hmay) fun _ => ?_
    refine does_branch (fun _ => Triple.pure fun s h => ⟨h.1.1.1, h.2, fun _ hm => by cases hm⟩)
      fun hplays => ?_
    rw [Bool.or_eq_false_iff] at hplays
    have fit : Fit P n [(n, .verified trust slots.active t'), (n, .verified trust envelope t)]
        trust (slots'.activateManifest envelope).active candidate now :=
      ⟨hknown, hplays.1, by
        rw [Bool.not_eq_true'] at hlease
        simp [hasEnded, hplays.2, hlease]⟩
    exact (does_giveBackWith kept_staging (fun _ _ h => h) fit).imp (fun _ h => h)
      (fun _ _ h => ⟨h.1.1, h.2, h.1.2⟩) fun _ _ h => h

/-! ## Staging -/

/-- What a call may log before it fetches: readings of the clock and collections. -/
def Event.isQuiet : Event → Prop
  | .read _ | .verified .. | .pruned _ => True
  | _ => False

theorem quiet_clean {older : List (Nat × Event)} {e : Event} (h : e.isQuiet) :
    ClearsUnverified P n trust older e := by
  intro hc
  cases e <;> first | exact False.elim h | cases hc

/-- A stage that has its turn on the staging queue and has fetched nothing. -/
def Preparing (n : Nat) (s : Device) : Prop := Stages n s ∧ Logged n (fun _ e => e.isQuiet) s

theorem kept_preparing : Kept P steady n (Preparing n) := kept_staging.and kept_logged

theorem Preparing.clean (h : Preparing n s) : Stages n s ∧ Clean P n trust s :=
  ⟨h.1, fun newer e older heq => quiet_clean (h.2 newer e older heq)⟩

theorem Preparing.undisturbed (h : Preparing n s) : Undisturbed n s.history := by
  intro newer older name heq
  exact (h.2 newer (.prefetched name) older heq).elim

/-- The frame of the downloads. -/
def Fetches (P : Platform) (n : Nat) (trust : ManifestTrust) (s : Device) : Prop :=
  (Stages n s ∧ Undisturbed n s.history) ∧ Clean P n trust s

theorem kept_fetches : Kept P steady n (Fetches P n trust) := kept_undisturbed.and kept_logged

theorem fetches_prefetched {asset : Json} (h : Fetches P n trust s) :
    Fetches P n trust (s.prefetched P n asset) := by
  unfold Device.prefetched
  split
  · exact h
  · split
    · exact ⟨⟨h.1.1, undisturbed_cons rfl h.1.2⟩, logged_log h.2 fun hc => by cases hc⟩
    · exact h

/-- A playable candidate is fetched first, and one that has ended needs no downloads. -/
theorem does_fetchCandidate {now : Int} {candidate : Json} {g : Nat}
    (hv : Verified P t envelope trust candidate) :
    Does P steady n (fun s => Preparing n s ∧ (steady = true → now ≤ s.clock))
      (if playbackEnded P now (some candidate) then pure ()
        else prefetchAssets P n (manifestItems (some candidate)) g)
      (fun _ => Staged P steady n trust envelope)
      (fun s => Stages n s ∧ Clean P n trust s) := by
  have hview := hv.view
  refine does_branch (fun hend => Triple.pure fun s ⟨h, hclock⟩ => ?_) fun hplays => ?_
  · refine ⟨h.1, h.undisturbed, h.clean.2, fun hst hnot => ?_⟩
    have hlater : playbackEnded P s.clock (view envelope) = true := by
      rw [hview]; exact dateLe_mono (hclock hst) hend
    rw [hnot] at hlater
    cases hlater
  · have hweb : ∀ item ∈ manifestItems (some candidate), isWeb item = false := fun item hi => by
      simpa [isWeb] using hv.sane.kinds item hi
    refine (does_prefetchAssets kept_fetches (fun _ h => h.1.1) (fun _ _ h => fetches_prefetched h)
      (fun _ h => ⟨h.1.1, h.2⟩) hweb).imp (fun s h => ⟨⟨h.1.1, h.1.undisturbed⟩, h.1.clean.2⟩)
      (fun _ s h => ⟨h.1.1.1, h.1.1.2, h.1.2, fun _ _ => ?_⟩) fun _ _ h => h
    unfold Cached
    rw [hview]
    exact h.2

theorem does_stageAndActivateExclusive {g : Nat} :
    Does P steady n (Preparing n) (stageAndActivateExclusive P n envelope trust g)
      (fun r s => Stages n s ∧ Given n trust r s) (fun s => Stages n s ∧ Clean P n trust s) := by
  have hE : ∀ s, Preparing n s → Stages n s ∧ Clean P n trust s := fun _ h => h.clean
  have hassert : ∀ g, Does P steady n (Preparing n) (assertStagingGeneration g)
      (fun _ => Preparing n) (fun s => Stages n s ∧ Clean P n trust s) :=
    fun g => does_assertStagingGeneration kept_preparing hE
  refine Triple.bind (hassert g) fun _ => ?_
  have hverify : ∀ s (value : Value) t, Preparing n s →
      Preparing n (s.log n (.verified trust value t)) := fun s _ _ h => ⟨h.1, logged_log h.2 trivial⟩
  refine does_verifyThen kept_preparing (fun s t h => hverify s _ t h) fun t => ?_
  refine Triple.bind ((hassert g).pre fun _ h => h.1) fun _ => ?_
  cases hv : verifySignedPlayerManifest P t envelope trust with
  | none => exact Triple.fail hE
  | some candidate =>
    have hclock : Does P steady n (Preparing n) (dateNow n)
        (fun now s => Preparing n s ∧ (steady = true → now ≤ s.clock))
        (fun s => Stages n s ∧ Clean P n trust s) :=
      (does_dateNow kept_preparing fun s t h => ⟨h.1, logged_log h.2 trivial⟩).imp
        (fun _ h => h) (fun _ _ h => ⟨h.1, h.2.2⟩) fun _ _ h => h
    refine Triple.bind hclock fun now => ?_
    refine Triple.bindFact ((does_ensure hE).pre fun _ h => h.1) fun _ _ => ?_
    refine Triple.bind (Q := fun _ => Preparing n)
      (does_request kept_preparing (fun s h => ⟨.looks, h⟩) hE) fun signedActive => ?_
    refine does_verifyThen kept_preparing (fun s t h => hverify s _ t h) fun t' => ?_
    refine Triple.bind ((hassert g).pre fun _ h => h.1) fun _ => ?_
    refine Triple.bindFact (does_assertNotOlder hE) fun _ _ => ?_
    refine Triple.bind (does_pruneRetainedAssets kept_preparing (fun _ h => h.1)
      fun s r h => ⟨h.1, logged_log h.2 trivial⟩) fun _ => ?_
    refine Triple.bind (hassert g) fun _ => ?_
    refine Triple.bind hclock fun now' => ?_
    refine Triple.bind (does_fetchCandidate (verify_sound hv)) fun _ => ?_
    refine Triple.bind (does_assertStagingGeneration kept_staged
      fun _ h => ⟨h.staging, h.clean⟩) fun _ => ?_
    have hgiven : ∀ r, Kept P steady n fun s => Stages n s ∧ Given n trust r s :=
      fun r => kept_staging.and kept_given
    refine Triple.bind (does_enqueueState kept_staged (fun _ _ h =>
      ⟨h.staging, h.undisturbed, h.clean, h.cached⟩) does_activateExclusive hgiven
      (fun _ _ _ h => h) (kept_staging.and kept_logged) fun _ _ h => h) fun r => ?_
    exact Triple.bind (does_pruneRetainedAssets (hgiven r) (fun _ h => h.1)
      fun _ _ h => ⟨h.1, h.2.log⟩) fun _ => Triple.pure fun _ h => h

theorem does_stageAndActivate :
    Does P steady n (Logged n fun _ e => e.isQuiet) (stageAndActivate P n envelope trust)
      (fun r => Given n trust r) (Clean P n trust) := by
  have hE : ∀ s, Logged n (fun _ e => e.isQuiet) s → Clean P n trust s :=
    fun s h newer e older heq => quiet_clean (h newer e older heq)
  refine does_verifyThen kept_logged (fun _ _ h => logged_log h trivial) fun t => ?_
  refine Triple.pre (P := Logged n fun _ e => e.isQuiet) ?_ fun _ h => h.1
  cases verifySignedPlayerManifest P t envelope trust with
  | none => exact Triple.fail hE
  | some candidate =>
    refine Triple.bind (does_dateNow kept_logged fun s t h => logged_log h trivial) fun now => ?_
    refine Triple.bindFact ((does_ensure hE).pre fun _ h => h.1) fun _ _ => ?_
    refine Triple.bind (Q := fun _ => Logged n fun _ e => e.isQuiet)
      (Triple.step kept_logged.stable fun s i h _ henv => ?_) fun g => ?_
    · exact ⟨⟨i.now, env_clock henv, .looks⟩, h⟩
    · exact does_enqueueStaging kept_logged (fun _ _ h => h) does_stageAndActivateExclusive
        (fun r => kept_given) (fun _ _ _ h => h) kept_logged fun _ _ h => h

/-! ## Every call -/

theorem does_recover : Does P steady n (fun _ => True) (recover P n trust)
    (fun r => Given n trust r) (fun _ => True) := by
  refine Triple.bind (Q := fun r => Given n trust r) ?_ fun r => ?_
  · refine does_enqueueState (Kept.const True) (fun _ _ h => h) ?_ (fun r => kept_given)
      (fun _ _ _ h => h) (Kept.const True) fun _ _ h => h
    have hp : Does P steady n (fun s => ∃ slots, Owns n slots [] s) (recoverExclusive P n trust)
        (Settles n trust) (HasTurn n) := Triple.exists fun _ => does_recoverExclusive
    exact hp.imp (fun s h => ⟨s.slots, h.1, rfl, List.nil_subset _⟩) (fun _ _ h => h) fun _ _ h => ⟨h, trivial⟩
  · refine Triple.bind (Q := fun _ => Given n trust r) (does_enqueueStaging kept_given
      (fun _ _ h => h) ?_ (fun _ => kept_given) (fun _ _ _ h => h) (Kept.const True)
      fun _ _ h => h) fun _ => Triple.pure fun _ h => h
    exact does_pruneRetainedAssets (kept_staging.and kept_given) (fun _ h => h.1)
      fun _ _ h => ⟨h.1, h.2.log⟩

theorem does_rollback {version : Value} : Does P steady n (fun _ => True)
    (rollback P n trust version) (fun r => Given n trust r) (fun _ => True) := by
  refine does_enqueueState (Kept.const True) (fun _ _ h => h) ?_ (fun r => kept_given)
    (fun _ _ _ h => h) (Kept.const True) fun _ _ h => h
  have hp : Does P steady n (fun s => ∃ slots, Owns n slots [] s)
      (rollbackExclusive P n trust version) (Settles n trust) (HasTurn n) :=
    Triple.exists fun _ => does_rollbackExclusive
  exact hp.imp (fun s h => ⟨s.slots, h.1, rfl, List.nil_subset _⟩) (fun _ _ h => h) fun _ _ h => ⟨h, trivial⟩

theorem does_cancelPendingStages : Does P steady n (fun _ => True) cancelPendingStages
    (fun r _ => r = none) (fun _ => True) :=
  Triple.step (Stable.const True) fun _ i _ _ henv => ⟨⟨i.now, env_clock henv, .cancels⟩, rfl⟩

theorem kept_resolved {c : Command} {r : Option Json} : Kept P steady n (Resolved n c r) := by
  unfold Resolved
  cases c.trusted with
  | none => exact Kept.const _
  | some trust => exact kept_given

theorem kept_rejected {c : Command} : Kept P steady n (Rejected P n c) := by
  cases c with
  | stageAndActivate envelope trust => exact kept_logged
  | _ => exact Kept.const True

/-- Each call keeps to its moves, whatever the other calls do. -/
theorem manager_sound (P : Platform) (steady : Bool) : (discipline P steady).Sound where
  ok_stable n c r := kept_resolved.stable
  err_stable n c e := kept_rejected.stable
  entry n c s hs := by
    have hfresh : Logged n (fun _ e => e.isQuiet) s := fun newer e older heq =>
      absurd (hs (n, e) (by rw [heq]; simp)) (Nat.lt_irrefl n)
    cases c with
    | stageAndActivate envelope trust => exact does_stageAndActivate s hfresh
    | recover trust => exact holds_imp (fun _ _ h => h) (fun _ _ h => h) (does_recover s trivial)
    | rollback trust version =>
      exact holds_imp (fun _ _ h => h) (fun _ _ h => h) (does_rollback s trivial)
    | cancelPendingStages =>
      exact holds_imp (fun _ _ h => h) (fun _ _ h => h) (does_cancelPendingStages s trivial)

end screengoblin.player
