-- The laws of the asset cache, for a clock that never goes back: what is activated was
-- fetched first, what a stage has fetched is not collected before its activation,
-- and a collection spares both slots, but for an active release that has ended.
import ScreenGoblin.Collections
import ScreenGoblin.SlotLaws

open js async collections

namespace screengoblin.player

variable {P : Platform} {steady : Bool} {n : Nat} {s s' : Device} {envelope : Value}

/-! ## What a collection retains -/

/-- The assets of a record that the collection has read are on its list. -/
theorem mem_retainedAssets {records assets : List Value} {manifest item : Json}
    (h : retainedAssets records = some assets) (hr : envelope ∈ records)
    (ht : envelope.truthy = true) (hv : view envelope = some manifest)
    (hi : item ∈ manifestItems (some manifest)) : some item ∈ assets := by
  unfold retainedAssets at h
  obtain ⟨lists, hl, rfl⟩ := Option.map_eq_some_iff.mp h
  obtain ⟨list, hmem, hitems⟩ := mapM_mem hl (List.mem_filter.mpr ⟨hr, ht⟩)
  refine List.mem_flatten.mpr ⟨list, hmem, ?_⟩
  unfold manifestItems Value.elements at hi
  split at hi
  · rename_i xs hxs
    have hlist : recordItems envelope = some (xs.map some) := by
      unfold recordItems
      rw [hv]
      cases manifest with
      | obj fields => simp only [hxs]
      | _ => cases hxs
    rw [hlist] at hitems
    rw [← Option.some.inj hitems]
    exact List.mem_map_of_mem hi
  · cases hi

theorem mem_retainedNames {assets : List Value} {names : List String} {item : Json}
    {name : String} (h : retainedNames P assets = some names) (hi : some item ∈ assets)
    (hweb : isWeb item = false) (hkey : P.cacheKey item = some name) : name ∈ names := by
  unfold retainedNames at h
  obtain ⟨lists, hl, rfl⟩ := Option.map_eq_some_iff.mp h
  obtain ⟨list, hmem, hname⟩ := mapM_mem hl hi
  refine List.mem_flatten.mpr ⟨list, hmem, ?_⟩
  have hlist : retainedName P (some item) = some [name] ∨ item = .null := by
    cases item with
    | null => exact Or.inr rfl
    | _ => exact Or.inl (by simp [retainedName, hweb, hkey])
  rcases hlist with hlist | rfl
  · rw [hlist] at hname
    rw [← Option.some.inj hname]
    exact List.mem_singleton_self _
  · cases hname

/-! ## What a move does to the cache -/

/-- A move loses an asset of the cache only by a collection. -/
theorem act_keeps_cache (h : Act P steady n s s') {item : Json} (hi : InCache P s item) :
    InCache P s' item ∨ ∃ active previous assets retained,
      retainedAssets [active, previous] = some assets ∧ retainedNames P assets = some retained ∧
      (steady = true → Retains P active previous s) ∧ s' = s.pruned n retained := by
  cases h with
  | prunes active previous assets retained _ hread hnamed hretains =>
    exact Or.inr ⟨active, previous, assets, retained, hread, hnamed, hretains, rfl⟩
  | prefetches asset => exact Or.inl (prefetched_keeps hi)
  | _ => exact Or.inl hi

theorem pruned_keeps {retained : List String} {item : Json} {name : String}
    (hkey : P.cacheKey item = some name) (hr : name ∈ retained) (hi : InCache P s item) :
    InCache P (s.pruned n retained) item := by
  obtain ⟨name', hkey', hmem⟩ := hi
  obtain rfl : name = name' := Option.some.inj (hkey.symm.trans hkey')
  refine ⟨name, hkey, ?_⟩
  show name ∈ s.cache.filter retained.contains
  exact List.mem_filter.mpr ⟨hmem, List.contains_iff_mem.mpr hr⟩

/-- The step lemma of retention. A verified record keeps its assets while it is in the previous
slot, and in the active slot until it has ended. -/
theorem act_retains {manifest : Json} {t : Int} {trust : ManifestTrust}
    (h : Act P true n s s') (hv : verifySignedPlayerManifest P t envelope trust = some manifest)
    (hin : s.slots.previous = envelope ∨
      (s.slots.active = envelope ∧ hasEnded P s.clock (view envelope) = false))
    {item : Json} (hi : item ∈ manifestItems (view envelope)) (hc : InCache P s item) :
    InCache P s' item := by
  rcases act_keeps_cache h hc with hkeep | ⟨active, previous, assets, retained, hread, hnamed,
    hretains, rfl⟩
  · exact hkeep
  · have hverified := verify_sound hv
    have htruthy := verify_truthy hv
    rw [hverified.view] at hi
    have hread' : envelope = active ∨ envelope = previous := by
      obtain ⟨hprev, hact⟩ := hretains rfl
      rcases hin with hp | ⟨ha, hend⟩
      · rcases hprev with hp' | hp'
        · exact Or.inr (hp.symm.trans hp')
        · rw [← hp, hp'] at htruthy; cases htruthy
      · rcases hact with h1 | h1 | h1 | h1
        · exact Or.inl (ha.symm.trans h1)
        · exact Or.inr (ha.symm.trans h1)
        · rw [← ha, h1] at htruthy; cases htruthy
        · rw [ha, hend] at h1; cases h1
    have hasset : some item ∈ assets := mem_retainedAssets hread
      (by rcases hread' with rfl | rfl <;> simp) htruthy hverified.view hi
    have hweb : isWeb item = false := by
      simpa [isWeb] using hverified.sane.kinds item hi
    obtain ⟨name, hkey, _⟩ := id hc
    exact pruned_keeps hkey (mem_retainedNames hnamed hasset hweb hkey) hc

/-! ## Fetched, then activated -/

/-- Between the first download of a stage and its activation, nothing is collected. -/
def Untouched (s : Device) : Prop :=
  ∀ later mid older k trust envelope replaced now name,
    s.history = later ++ (k, Event.activated trust envelope replaced now) :: mid ++
      (k, Event.prefetched name) :: older → ∀ x ∈ mid, x.2.isPrune = false

theorem act_untouched (h : Act P steady n s s') (hs : Untouched s) : Untouched s' := by
  intro later mid older k trust envelope replaced now name heq
  rcases act_log h with hsame | ⟨x, hx⟩
  · exact hs later mid older k trust envelope replaced now name (hsame ▸ heq)
  · rw [hx] at heq
    cases later with
    | cons y ys =>
      exact hs ys mid older k trust envelope replaced now name (List.cons.inj heq).2
    | nil =>
      obtain ⟨rfl, hrest⟩ := List.cons.inj heq
      have hown : k = n := by
        rcases (act_leaves (n := n + 1) (by omega) h).history with hh | ⟨e, hh⟩
        · rw [hh] at hx; exact absurd hx cons_ne_self
        · rw [hh] at hx; exact (Prod.mk.inj (List.cons.inj hx).1).1.symm
      subst hown
      exact (act_activated h hx).2.2.2.2 mid older name hrest

/-- The retention law. A manifest that is activated before its playback boundary has all its
items in the cache. A segment of any call then leaves the assets of an activated manifest in
the cache while it is in the previous slot, and while it is in the active slot and has not
ended. And between a download of a stage and its activation nothing is collected. -/
theorem a_collection_spares_the_slots {slots : Slots} {cache : List String} {clock : Int}
    {pool₁ pool₂ : Pool Command Device Answer (Option Json)} {n : Nat} {i : Answer}
    (hrun : Reaches P true (Device.boot slots cache clock) pool₁)
    (hturn : (manager P true).turn pool₁ (.run n i) = some pool₂) :
    (∀ k trust envelope replaced now, pool₂.state.history =
        (k, Event.activated trust envelope replaced now) :: pool₁.state.history →
      playbackEnded P pool₂.state.clock (view envelope) = false →
      Cached P (view envelope) pool₂.state) ∧
    (∀ envelope, ActivatedIn pool₁.state.history envelope →
      (pool₁.state.slots.previous = envelope ∨ (pool₁.state.slots.active = envelope ∧
        hasEnded P pool₂.state.clock (view envelope) = false)) →
      ∀ item ∈ manifestItems (view envelope), InCache P pool₁.state item →
        InCache P pool₂.state item) ∧
    (∀ later mid older k trust envelope replaced now name, pool₂.state.history =
        later ++ (k, Event.activated trust envelope replaced now) :: mid ++
          (k, Event.prefetched name) :: older →
      ∀ x ∈ mid, x.2.isPrune = false) := by
  obtain ⟨now, _, hact⟩ : Moves P true n pool₁.state pool₂.state :=
    Discipline.turn_guar (sure_reaches hrun) hturn
  have hclock : pool₂.state.clock = now :=
    (act_leaves (n := n + 1) (by omega) hact).clock
  refine ⟨fun k trust envelope replaced t hlog hlive => ?_,
    fun envelope hin hslot item hi hc => ?_, ?_⟩
  · obtain ⟨_, hsame, hcache, hcached, _⟩ := act_activated hact hlog
    intro item hi
    rw [hsame] at hlive
    obtain ⟨name, hkey, hmem⟩ := hcached rfl hlive item hi
    exact ⟨name, hkey, by rw [hcache]; exact hmem⟩
  · obtain ⟨k, trust, replaced, t, hmem⟩ := hin
    obtain ⟨_, _, hx⟩ := honest_of_mem (reaches_honest hrun) hmem
    obtain ⟨⟨manifest, _, _, hv⟩, _⟩ := hx
    refine act_retains hact hv (hslot.imp_right fun h => ⟨h.1, ?_⟩) hi hc
    have hend := h.2
    rw [hclock] at hend
    exact hend
  · have hstart : Untouched pool₁.state := reaches_keeps (J := Untouched)
      (fun _ _ s _ h hs => act_untouched h hs)
      (fun _ _ _ _ _ _ _ _ _ heq => by simp [Device.boot] at heq) hrun
    exact act_untouched hact hstart

/-- The turns up to the collection of a recovery that has read the active record, the summer
poster, and then loses two races: a rollback promotes the spring poster, and at 09:04,
after that poster has ended, another recovery clears the previous slot. -/
def racedCollection : List (Turn Command Answer) :=
  stage spring :: segments 0 37 1 ++ stage summer :: segments 1 37 1 ++
    .call (.recover lobbyTrust) :: segments 2 10 2 ++
    .call (.rollback lobbyTrust none) :: segments 3 13 2 ++
    .call (.recover lobbyTrust) :: segments 4 7 4 ++ segments 2 1 4

set_option maxRecDepth 10000 in
/-- A collection can take the assets of an active release that has ended. The spring poster was
activated at 09:01 and its boundary is 09:03. At 09:04 it is the active release again, and the
collection, which has read the summer poster and an empty previous slot, removes its asset. -/
theorem an_ended_active_release_can_lose_its_assets :
    ∃ pool₁ pool₂, Reaches lobby true lobbyDevice pool₁ ∧
      (manager lobby true).turn pool₁ (.run 2 { now := minute 4 }) = some pool₂ ∧
      (0, Event.activated lobbyTrust (some spring.envelope) none (minute 1)) ∈
        pool₁.state.history ∧
      playbackEnded lobby (minute 1) (view (some spring.envelope)) = false ∧
      pool₁.state.slots.active = some spring.envelope ∧
      pool₂.state.slots.active = some spring.envelope ∧
      ∃ item ∈ manifestItems (view (some spring.envelope)),
        InCache lobby pool₁.state item ∧ ¬ InCache lobby pool₂.state item := by
  have hrun : (((manager lobby true).run (System.start lobbyDevice) racedCollection) >>= fun p =>
      ((manager lobby true).turn p (.run 2 { now := minute 4 })).map fun q =>
        (p.state.slots.active, q.state.slots.active, p.state.cache, q.state.cache,
          p.state.history.contains
            (0, Event.activated lobbyTrust (some spring.envelope) none (minute 1)))) =
      some (some spring.envelope, some spring.envelope,
        [posterKey "poster-2", posterKey "poster-1"], [posterKey "poster-2"], true) := by
    decide +kernel
  obtain ⟨pool₁, h₁, h⟩ := Option.bind_eq_some_iff.mp hrun
  obtain ⟨pool₂, h₂, h⟩ := Option.map_eq_some_iff.mp h
  simp only [Prod.mk.injEq] at h
  obtain ⟨ha₁, ha₂, hc₁, hc₂, hx⟩ := h
  obtain ⟨item, hitem, hkey⟩ : ∃ item ∈ manifestItems (view (some spring.envelope)),
      lobby.cacheKey item = some (posterKey "poster-1") := by decide +kernel
  refine ⟨pool₁, pool₂, ⟨_, h₁⟩, h₂, List.contains_iff_mem.mp hx, by decide +kernel, ha₁, ha₂,
    item, hitem, ⟨_, hkey, by rw [hc₁]; simp⟩, ?_⟩
  rintro ⟨name, hname, hmem⟩
  rw [hkey] at hname
  obtain rfl := Option.some.inj hname
  rw [hc₂] at hmem
  revert hmem
  decide +kernel

set_option maxRecDepth 10000 in
/-- The summer poster is fetched and activated, and its asset is there. -/
theorem a_collection_spares_the_slots_in_the_lobby :
    ∃ pool₁ pool₂, Reaches lobby true lobbyDevice pool₁ ∧
      (manager lobby true).turn pool₁ (.run 0 { now := minute 1 }) = some pool₂ ∧
      Cached lobby (view (some summer.envelope)) pool₂.state := by
  have hrun : (((manager lobby true).run (System.start lobbyDevice)
      (stage summer :: segments 0 30 1)) >>= fun p =>
      ((manager lobby true).turn p (.run 0 { now := minute 1 })).map fun q =>
        (q.state.history.head? == some (0, Event.activated lobbyTrust (some summer.envelope)
          none (minute 1)), q.state.history.tail == p.state.history,
          playbackEnded lobby q.state.clock (view (some summer.envelope)))) =
      some (true, true, false) := by decide +kernel
  obtain ⟨pool₁, h₁, h⟩ := Option.bind_eq_some_iff.mp hrun
  obtain ⟨pool₂, h₂, h⟩ := Option.map_eq_some_iff.mp h
  simp only [Prod.mk.injEq] at h
  have hreach : Reaches lobby true lobbyDevice pool₁ := ⟨_, h₁⟩
  refine ⟨pool₁, pool₂, hreach, h₂, (a_collection_spares_the_slots hreach h₂).1 0 lobbyTrust
    (some summer.envelope) none (minute 1) ?_ h.2.2⟩
  rw [← eq_of_beq h.2.1]
  exact (List.cons_head?_tail (eq_of_beq h.1)).symm

end screengoblin.player
