-- What a rollback hands back after its release failed to play. It swaps in the record of
-- the previous slot, so it hands the failed version back when both slots hold it. The law
-- says which steps of a run let that happen: an activation over a slot that keeps the same
-- version, and a rollback of a release that an earlier rollback or recovery brought back.
import ScreenGoblin.SlotLaws

open js async

namespace screengoblin.player

variable {P : Platform} {steady : Bool} {n m : Nat} {s s' : Device} {slots : Slots}
  {known : List (Nat × Event)} {trust : ManifestTrust} {v : String}

/-! ## What a rollback shows -/

/-- The version in the view of a stored record. -/
def versionOf (record : Value) : Value := (view record).get "version"

/-- The rollback `n` swapped two slots that both held the version `v`. -/
def SwappedSame (n : Nat) (v : String) (history : List (Nat × Event)) : Prop :=
  ∃ trust envelope replaced, (n, Event.promoted trust envelope replaced) ∈ history ∧
    versionOf envelope = some (.str v) ∧ versionOf replaced = some (.str v)

/-- A manifest of the version `v` comes back only from a swap of two slots that held it. -/
def HandsBack (n : Nat) (v : String) (r : Option Json) (s : Device) : Prop :=
  ∀ m, r = some m → Value.get (some m) "version" = some (.str v) → SwappedSame n v s.history

theorem handsBack_none : HandsBack n v none s := fun _ h => by cases h

theorem handsBack_other {r : Option Json} {m : Json} (hr : r = none ∨ r = some m)
    (hm : Value.get (some m) "version" ≠ some (.str v)) : HandsBack n v r s := by
  intro m' h h'
  rcases hr with rfl | rfl
  · cases h
  · obtain rfl := Option.some.inj h
    exact absurd h' hm

theorem kept_handsBack {r : Option Json} : Kept P steady n (HandsBack n v r) := by
  intro k s s' hk hmoves hs m hr hm
  obtain ⟨trust, envelope, replaced, hmem, hsame⟩ := hs m hr hm
  exact ⟨trust, envelope, replaced, kept_mem k s s' hk hmoves hmem, hsame⟩

/-- What the call `n` does from `A`, with nothing said of its segments. -/
abbrev Shows (P : Platform) (steady : Bool) (n : Nat) {α : Type} (A : Device → Prop) (p : Call α)
    (Q : α → Device → Prop) : Prop :=
  Triple { (discipline P steady).rules n with guar := fun _ _ => True } A p Q fun _ _ => True

theorem shows_of_does {α : Type} {A E : Device → Prop} {p : Call α} {Q : α → Device → Prop}
    (h : Does P steady n A p Q E) : Shows P steady n A p Q := fun s hs =>
  holds_guar (fun _ _ _ => trivial) (holds_imp (fun _ _ h => h) (fun _ _ _ => trivial) (h s hs))

/-- The call goes on with what the record is at some reading of the clock. -/
theorem shows_verifyThen {α : Type} {A : Device → Prop} {value : Value} {k : Option Json → Call α}
    {Q : α → Device → Prop} (hA : Kept P steady n A)
    (hlog : ∀ s t, A s → A (s.log n (.verified trust value t)))
    (hk : ∀ t, Shows P steady n A (k (verifySignedPlayerManifest P t value trust)) Q) :
    Shows P steady n A (verify P n value trust >>= k) Q := by
  refine Triple.bind (Q := fun r s => ∃ t, A s ∧ r = verifySignedPlayerManifest P t value trust)
    (Triple.step hA.stable fun s i ha _ henv => ?_) fun r => Triple.exists fun t => ?_
  · exact ⟨trivial, i.now, hlog _ _ (hA.tick (env_clock (n := n) henv) ha), rfl⟩
  · refine Triple.given (fun _ h => h.2) fun hr => ?_
    subst hr
    exact (hk t).pre fun _ h => h.1

/-- `await p(); return undefined` -/
theorem shows_stop {α : Type} {A : Device → Prop} {p : Call α} :
    Shows P steady n A (p >>= fun _ => (pure none : Call (Option Json))) (HandsBack n v) := by
  refine Triple.bind (Q := fun _ _ => True) (fun s _ => holds_nothing) fun _ => ?_
  exact Triple.pure fun _ _ => handsBack_none

/-- A rollback gives back the manifest that it found fit, or nothing. -/
theorem shows_giveBackPlayable {A : Device → Prop} {envelope : Value} {r : Option Json}
    (hA : Kept P steady n A) (hlog : ∀ s e, A s → A (s.log n e)) :
    Shows P steady n A (giveBackPlayable P n trust envelope r)
      (fun r' s => A s ∧ (r' = none ∨ r' = r)) := by
  refine Triple.bind (Q := fun _ => A) (Triple.step hA.stable fun s i ha _ henv => ?_) fun now => ?_
  · exact ⟨trivial, hlog _ _ (hA.tick (env_clock (n := n) henv) ha)⟩
  · cases r with
    | none => exact Triple.pure fun _ ha => ⟨ha, Or.inl rfl⟩
    | some m =>
      dsimp only
      split
      · refine Triple.step hA.stable fun s i ha _ henv => ?_
        exact ⟨trivial, hlog _ _ (hA.tick (env_clock (n := n) henv) ha), Or.inr rfl⟩
      · exact Triple.pure fun _ ha => ⟨ha, Or.inl rfl⟩

/-- What the transaction of the store hands over: nothing, or the previous record, and then
the history says so. -/
def Swaps (n : Nat) (trust : ManifestTrust) (slots : Slots) (r : Value) (s : Device) : Prop :=
  r = none ∨ r = slots.previous ∧
    (n, Event.promoted trust slots.previous slots.active) ∈ s.history

theorem kept_swaps {r : Value} : Kept P steady n (Swaps n trust slots r) := by
  intro k s s' hk hmoves hs
  rcases hs with h | ⟨h, hmem⟩
  · exact Or.inl h
  · exact Or.inr ⟨h, kept_mem k s s' hk hmoves hmem⟩

theorem swaps_log {r : Value} (e : Event) (h : Swaps n trust slots r s) :
    Swaps n trust slots r (s.log n e) := by
  rcases h with h | ⟨h, hmem⟩
  · exact Or.inl h
  · exact Or.inr ⟨h, List.mem_cons_of_mem _ hmem⟩

theorem shows_rollbackTransaction {deadline : Option Int}
    (hv : versionOf slots.active = some (.str v)) :
    Shows P steady n (Owns n slots known) (Store.rollback n trust (some (.str v)) deadline)
      (fun r => Swaps n trust slots r) := by
  refine Triple.step kept_owns.stable fun s i hs _ henv => ⟨trivial, ?_⟩
  obtain ⟨_, hslots, _⟩ := (kept_owns (P := P)).tick (env_clock (n := n) henv) hs
  by_cases hok : i.ok = true
  · simp only [hok, if_true]
    subst hslots
    cases hout : (s.tick i.now).slots.rollbackOutcome (s.tick i.now).clock (some (.str v))
        deadline with
    | lostRace =>
      -- the version is the one that the active slot holds, so no race is lost
      unfold versionOf at hv
      simp only [Slots.rollbackOutcome, hv, Value.strictEq, beq_self_eq_true, Bool.not_true,
        Bool.and_false, Bool.false_eq_true, if_false] at hout
      split at hout
      · cases hout
      · cases hout
    | tooLate => exact Or.inl rfl
    | swapped => exact Or.inr ⟨rfl, List.mem_cons_self⟩
  · simp only [hok, if_false, Bool.false_eq_true]

theorem shows_rollbackExclusive :
    Shows P steady n (Owns n slots known) (rollbackExclusive P n trust (some (.str v)))
      (HandsBack n v) := by
  refine Triple.bindFact (shows_of_does does_getActive) fun signedActive hsa => ?_
  subst hsa
  refine shows_verifyThen kept_owns (fun _ _ h => h.log) fun t => ?_
  cases hva : verifySignedPlayerManifest P t slots.active trust with
  | none =>
    refine Triple.bind (Q := fun _ _ => True) (fun s _ => holds_nothing) fun _ => ?_
    exact shows_stop
  | some active =>
    have hview := (verify_sound hva).view
    refine Triple.bind (shows_of_does does_ownNow) fun now => ?_
    dsimp only
    split
    · exact shows_stop
    split
    · rename_i hother
      have hne : Value.get (some active) "version" ≠ some (.str v) := by
        intro heq
        simp [heq, Value.strictEq] at hother
      refine (shows_giveBackPlayable (Kept.const True) fun _ _ h => h).imp (fun _ _ => trivial)
        (fun r s h => handsBack_other h.2 hne) fun _ _ h => h
    rename_i hsame
    have hversion : versionOf slots.active = some (.str v) := by
      rw [versionOf, hview]
      cases hx : Value.strictEq (Value.get (some active) "version") (some (.str v)) with
      | true => exact strictEq_eq hx
      | false => exact absurd (by rw [hx]; rfl) hsame
    refine Triple.bindFact ((shows_of_does (does_getPrevious kept_owns fun _ h => h)).pre
      fun _ h => h.1) fun signedPrevious hpre => ?_
    refine shows_verifyThen kept_owns (fun _ _ h => h.log) fun t' => ?_
    refine Triple.bind (shows_of_does does_ownNow) fun now' => ?_
    split
    · exact shows_stop
    split
    · exact shows_stop
    refine Triple.bind ((shows_rollbackTransaction hversion).pre fun _ h => h.1) fun r => ?_
    refine shows_verifyThen kept_swaps (fun _ _ h => swaps_log _ h) fun u => ?_
    split
    · exact shows_stop
    refine (shows_giveBackPlayable kept_swaps fun _ e => swaps_log e).imp (fun _ h => h)
      (fun r' s h m hm hmv => ?_) fun _ _ h => h
    -- the manifest that comes back is the view of the record that was swapped in
    obtain ⟨hswaps, hr'⟩ := h
    subst hm
    rcases hr' with hr' | hr'
    · cases hr'
    rcases hswaps with rfl | ⟨rfl, hmem⟩
    · cases hr'
    · refine ⟨trust, slots.previous, slots.active, hmem, ?_, hversion⟩
      rw [versionOf, (verify_sound hr'.symm).view]
      exact hmv

theorem shows_rollback : Shows P steady n (fun _ => True)
    (rollback P n trust (some (.str v))) (HandsBack n v) := by
  refine Triple.queued (A := fun _ => True) (W := fun _ => True)
    (C := fun s => ∃ slots, Owns n slots [] s) (Stable.const True) (Stable.const True)
    (fun _ _ _ _ _ => ⟨trivial, trivial⟩) (fun s i _ _ hturn _ => ?_)
    (Triple.exists fun _ => shows_rollbackExclusive) (fun _ => kept_handsBack.stable)
    (fun _ => Stable.const True) (fun _ _ _ h _ _ => ⟨trivial, h⟩)
    fun _ _ _ _ _ _ => ⟨trivial, trivial⟩
  exact ⟨trivial, s.slots, eq_of_beq hturn, rfl, List.nil_subset _⟩

/-! ## Every rollback -/

/-- The contract of a rollback for a version, beside the contracts of all calls. -/
def HandedBack (n : Nat) (c : Command) (r : Option Json) (s : Device) : Prop :=
  match c with
  | .rollback _ (some v) => HandsBack n v r s
  | _ => True

theorem kept_handedBack {c : Command} {r : Option Json} :
    Kept P steady n (HandedBack n c r) := by
  unfold HandedBack
  split
  · exact kept_handsBack
  · exact Kept.const True

def rollbackDiscipline (P : Platform) (steady : Bool) : Discipline (manager P steady) :=
  { discipline P steady with ok := fun n c r s => Resolved n c r s ∧ HandedBack n c r s }

theorem rollback_sound (P : Platform) (steady : Bool) : (rollbackDiscipline P steady).Sound where
  ok_stable n c r := (kept_resolved.and kept_handedBack).stable
  err_stable := (manager_sound P steady).err_stable
  entry n c s hs := by
    have hold := (manager_sound P steady).entry n c s hs
    have hnew : Holds { (discipline P steady).rules n with guar := fun _ _ => True }
        (HandedBack n c) (fun _ _ => True) ((manager P steady).entry n c) s := by
      cases c with
      | rollback trust version =>
        cases version with
        | some v => exact shows_rollback s trivial
        | none => exact holds_nothing
      | _ => exact holds_nothing
    exact holds_imp (fun _ _ h => h) (fun _ _ h => h.1) (holds_and hold hnew)

theorem sure_rollback_boot (P : Platform) (steady : Bool) (slots : Slots) (cache : List String)
    (clock : Int) :
    (rollbackDiscipline P steady).Sure (System.start (Device.boot slots cache clock)) :=
  Discipline.sure_start fun x hx => by cases hx

/-! ## What an entry says of the slots -/

/-- The slots before and after a move that logs this entry. -/
def Event.Does (e : Event) (slots slots' : Slots) : Prop :=
  match e with
  | .activated _ envelope _ _ => slots' = slots.activateManifest envelope
  | .promoted _ envelope replaced =>
    envelope = slots.previous ∧ replaced = slots.active ∧ slots.previous.truthy = true
  | .cleared _ | .clearedPrevious => slots' = slots ∨ slots'.previous = none
  | _ => slots' = slots

/-- A move logs nothing and leaves the slots, or its entry says what it did to them. -/
theorem act_does (h : Act P steady n s s') :
    (s'.history = s.history ∧ s'.slots = s.slots) ∨
      ∃ e, s'.history = (n, e) :: s.history ∧ e.Does s.slots s'.slots := by
  cases h with
  | looks | cancels | joinsState | leavesState | joinsStaging | leavesStaging =>
    exact Or.inl ⟨rfl, rfl⟩
  | reads | verifies | returns | prunes | activates => exact Or.inr ⟨_, rfl, rfl⟩
  | keepsPrevious => exact Or.inr ⟨_, rfl, Or.inl rfl⟩
  | clears | clearsPrevious => exact Or.inr ⟨_, rfl, Or.inr rfl⟩
  | promotes trust _ _ previous =>
    obtain ⟨p, ⟨_, _, hv⟩, _⟩ := previous
    exact Or.inr ⟨_, rfl, rfl, rfl, verify_truthy hv⟩
  | prefetches asset =>
    unfold Device.prefetched
    split
    · exact Or.inl ⟨rfl, rfl⟩
    · split
      · exact Or.inr ⟨_, rfl, rfl⟩
      · exact Or.inl ⟨rfl, rfl⟩

/-! ## Careful runs -/

/-- A rollback or a recovery brought the active release back, and nothing was activated since. -/
def broughtBack : List (Nat × Event) → Bool
  | [] => false
  | (_, .promoted ..) :: _ => true
  | (_, .activated ..) :: _ => false
  | _ :: older => broughtBack older

/-- The previous slot holds no record of this version. -/
def holdsOther (slots : Slots) (version : Value) : Bool :=
  !slots.previous.truthy || versionOf slots.previous != version

/-- The entry that a turn added to the history. -/
def added (before after : Device) : Option (Nat × Event) :=
  if after.history.length = before.history.length then none else after.history.head?

/-- A turn of a careful run. An activation does not leave its own version in the previous
slot, and a rollback for a version does not swap over a release that was brought back. -/
def careful (before after : Pool Command Device Answer (Option Json)) : Bool :=
  match added before.state after.state with
  | some (_, .activated _ envelope _ _) =>
    holdsOther (before.state.slots.activateManifest envelope) (versionOf envelope)
  | some (n, .promoted ..) =>
    match before.tasks[n]? with
    | some (.rollback _ (some _), _) => !broughtBack before.state.history
    | _ => true
  | _ => true

/-- The two slots differ, but for a release that was brought back. And no rollback for a
version has swapped two slots of one version. -/
structure Apart (pool : Pool Command Device Answer (Option Json)) : Prop where
  slots : broughtBack pool.state.history = false →
    holdsOther pool.state.slots (versionOf pool.state.slots.active) = true
  swaps : ∀ n trust envelope replaced trust' v p,
    (n, Event.promoted trust envelope replaced) ∈ pool.state.history →
    pool.tasks[n]? = some (.rollback trust' (some v), p) →
    versionOf envelope ≠ versionOf replaced

section careful

variable {pool pool' : Pool Command Device Answer (Option Json)}

/-- A turn adds calls at the end, and no call changes its command. -/
theorem turn_command {t : Turn Command Answer} {c : Command} {p : Call (Option Json)}
    (ht : (manager P steady).turn pool t = some pool') (hn : n < pool.tasks.length)
    (hc : pool'.tasks[n]? = some (c, p)) : ∃ p', pool.tasks[n]? = some (c, p') := by
  cases t with
  | call c' =>
    obtain rfl : _ = pool' := by simpa [System.turn] using ht
    rw [List.getElem?_append_left hn] at hc
    exact ⟨p, hc⟩
  | run k i =>
    simp only [System.turn] at ht
    split at ht
    · rename_i c' ready update next hk
      split at ht
      · obtain rfl : _ = pool' := by simpa using ht
        by_cases hkn : k = n
        · subst hkn
          simp only [List.getElem?_set_self hn, Option.some.injEq, Prod.mk.injEq] at hc
          exact ⟨_, hc.1 ▸ hk⟩
        · rw [List.getElem?_set_ne hkn] at hc
          exact ⟨p, hc⟩
      · cases ht
    · cases ht

theorem added_cons {before after : Device} {x : Nat × Event}
    (h : after.history = x :: before.history) : added before after = some x := by
  unfold added
  rw [h, if_neg (by simp)]
  rfl

/-- The step lemma: a careful turn keeps the slots apart. -/
theorem turn_apart {t : Turn Command Answer} (hsure : (rollbackDiscipline P steady).Sure pool)
    (ht : (manager P steady).turn pool t = some pool') (hc : careful pool pool' = true)
    (h : Apart pool) : Apart pool' := by
  have hnumbered : Numbered pool.tasks.length pool.state := hsure.inv
  -- the swaps that the history already had
  have hold : ∀ n trust envelope replaced trust' v p,
      (n, Event.promoted trust envelope replaced) ∈ pool.state.history →
      pool'.tasks[n]? = some (.rollback trust' (some v), p) →
      versionOf envelope ≠ versionOf replaced := by
    intro n trust envelope replaced trust' v p hmem htask
    obtain ⟨p', hp'⟩ := turn_command ht (hnumbered _ hmem) htask
    exact h.swaps n trust envelope replaced trust' v p' hmem hp'
  cases t with
  | call c =>
    obtain rfl : _ = pool' := by simpa [System.turn] using ht
    exact ⟨h.slots, hold⟩
  | run n i =>
    obtain ⟨now, _, hact⟩ : Moves P steady n pool.state pool'.state := Discipline.turn_guar hsure ht
    rcases act_does hact with ⟨hh, hs⟩ | ⟨e, hh, hdoes⟩
    · have hh' : pool'.state.history = pool.state.history := hh
      have hs' : pool'.state.slots = pool.state.slots := hs
      refine ⟨?_, ?_⟩
      · rw [hh', hs']
        exact h.slots
      · rw [hh']
        exact hold
    · have hh' : pool'.state.history = (n, e) :: pool.state.history := hh
      have hdoes' : e.Does pool.state.slots pool'.state.slots := hdoes
      unfold careful at hc
      rw [added_cons hh'] at hc
      refine ⟨fun hfresh => ?_, fun k trust envelope replaced trust' v p hmem htask => ?_⟩
      · rw [hh'] at hfresh
        cases e with
        | activated trust envelope replaced now =>
          rw [show pool'.state.slots = _ from hdoes']
          exact hc
        | promoted trust envelope replaced => cases hfresh
        | cleared | clearedPrevious =>
          rcases hdoes' with hsame | hnone
          · rw [hsame]
            exact h.slots hfresh
          · simp [holdsOther, hnone, Value.truthy]
        | read | verified | returned | prefetched | pruned =>
          rw [show pool'.state.slots = pool.state.slots from hdoes']
          exact h.slots hfresh
      · rw [hh'] at hmem
        rcases List.mem_cons.mp hmem with heq | hmem
        · obtain ⟨rfl, rfl⟩ := Prod.mk.inj heq
          obtain ⟨rfl, rfl, htruthy⟩ := hdoes'
          have hlt : k < pool.tasks.length := Nat.lt_of_not_le fun hge => by
            simp [System.turn, List.getElem?_eq_none hge] at ht
          obtain ⟨p', hp'⟩ := turn_command ht hlt htask
          dsimp only at hc
          rw [hp'] at hc
          have hother := h.slots (by simpa using hc)
          simpa [holdsOther, htruthy] using hother
        · exact hold k trust envelope replaced trust' v p hmem htask

end careful

/-! ## The law -/

/-- The command at place `n` and what it resolved with. -/
def outcome (pool : Pool Command Device Answer (Option Json)) (n : Nat) :
    Option (Command × Option Json) :=
  match pool.tasks[n]? with
  | some (c, .settled (.ok r)) => some (c, r)
  | _ => none

theorem outcome_eq {pool : Pool Command Device Answer (Option Json)} {c : Command}
    {r : Option Json} (h : outcome pool n = some (c, r)) :
    pool.tasks[n]? = some (c, .settled (.ok r)) := by
  unfold outcome at h
  split at h
  · rename_i c' r' htask
    obtain ⟨rfl, rfl⟩ := Prod.mk.inj (Option.some.inj h)
    exact htask
  · cases h

/-- A failed release is not handed back. In every careful run from an empty store, a rollback
for the version `v` ends with nothing or with a manifest of another version, whatever the
other calls did before it and between its segments. -/
theorem a_failed_release_is_not_handed_back {cache : List String} {clock : Int}
    {turns : List (Turn Command Answer)} {pool : Pool Command Device Answer (Option Json)}
    (hrun : (manager P steady).runIf careful
      (System.start (Device.boot ⟨none, none⟩ cache clock)) turns = some pool) :
    ∀ (n : Nat) trust v r, pool.tasks[n]? = some (.rollback trust (some v), .settled (.ok r)) →
      ∀ manifest, r = some manifest →
        Value.get (some manifest) "version" ≠ some (.str v) := by
  have hstart : Apart (System.start (Device.boot ⟨none, none⟩ cache clock)) :=
    ⟨fun _ => rfl, fun n trust envelope replaced trust' v p hmem => by cases hmem⟩
  obtain ⟨hsure, hapart⟩ := Discipline.runIf_keeps (rollback_sound P steady)
    (fun pool pool' t hsure ht hc h => turn_apart hsure ht hc h)
    (sure_rollback_boot P steady ⟨none, none⟩ cache clock) hstart hrun
  intro n trust v r htask manifest hr hversion
  have hok : HandsBack n v r pool.state := (hsure.ok htask).2
  obtain ⟨_, envelope, replaced, hmem, henvelope, hreplaced⟩ := hok manifest hr hversion
  exact hapart.swaps n _ envelope replaced trust v _ hmem htask (henvelope.trans hreplaced.symm)

set_option maxRecDepth 10000 in
/-- The newer poster fails, and the poster of the spring comes back. -/
theorem a_failed_release_is_not_handed_back_in_the_lobby :
    ∃ pool manifest, (manager lobby true).runIf careful (System.start lobbyDevice)
        (stage spring :: segments 0 37 1 ++ stage summer :: segments 1 37 1 ++
          .call (.rollback lobbyTrust (some "summer")) :: segments 2 13 2) = some pool ∧
      pool.tasks[2]? = some (.rollback lobbyTrust (some "summer"),
        .settled (.ok (some manifest))) ∧
      Value.get (some manifest) "version" ≠ some (.str "summer") := by
  have h : ((manager lobby true).runIf careful (System.start lobbyDevice)
      (stage spring :: segments 0 37 1 ++ stage summer :: segments 1 37 1 ++
        .call (.rollback lobbyTrust (some "summer")) :: segments 2 13 2)).map (outcome · 2) =
      some (some (.rollback lobbyTrust (some "summer"), view (some spring.envelope))) := by
    decide +kernel
  obtain ⟨pool, hrun, hout⟩ := Option.map_eq_some_iff.mp h
  have htask := outcome_eq hout
  cases hview : view (some spring.envelope) with
  | none => exact absurd hview (by decide +kernel)
  | some manifest =>
    rw [hview] at htask
    exact ⟨pool, manifest, hrun, htask,
      a_failed_release_is_not_handed_back hrun 2 _ _ _ htask manifest rfl⟩

/-! ## A drill in the lobby

The poster of the spring, an emergency drill over it, and the poster again once the drill is
over. The server signs it anew under the same version. -/

def drillItemText : String :=
  "\x7b\"asset\":\x7b\"id\":\"drill\",\"kind\":\"template\"," ++
    "\"mimeType\":\"application/vnd.screengoblin.emergency+json\"," ++
    "\"url\":\"data:application/json;base64,eyJ0aXRsZSI6IkRyaWxsIiwi" ++
    "bWVzc2FnZSI6IkxlYXZlIHRoZSBidWlsZGluZyJ9\"," ++
    "\"checksumSha256\":\"a9565bc8eef97ac0d876cea7da8c3f459c4201d9be4453f31632ba42daa86168\"," ++
    "\"sizeBytes\":48\x7d,\"durationSeconds\":300\x7d"

def drillItem : Json :=
  object [
    ("asset", object [
      ("id", some (.str "drill")), ("kind", some (.str "template")),
      ("mimeType", some (.str "application/vnd.screengoblin.emergency+json")),
      ("url", some (.str ("data:application/json;base64,eyJ0aXRsZSI6IkRyaWxsIiwi" ++
        "bWVzc2FnZSI6IkxlYXZlIHRoZSBidWlsZGluZyJ9"))),
      ("checksumSha256",
        some (.str "a9565bc8eef97ac0d876cea7da8c3f459c4201d9be4453f31632ba42daa86168")),
      ("sizeBytes", some (.num 48))]),
    ("durationSeconds", some (.num 300))]

def poster1 : SignedText where
  text := spring.text
  payload := spring.payload
  signature :=
    "FAz4AxO6WpaQj3F4FjkZDzWv1rtpivqA1LBpyKLKVzNd_GNS4Kl0fjcDgw46p0cXXnU5fkZgF6AKME-RNwHzDg"

def drill : SignedText where
  text := "\x7b\"protocolVersion\":2,\"mediaDelivery\":\"authorization-v1\"," ++
    "\"version\":\"drill\",\"generatedAt\":\"" ++ clockText "09:01" ++
    "\",\"validUntil\":\"" ++ clockText "09:06" ++ "\",\"screenId\":\"lobby\"," ++
    "\"priority\":\"emergency\",\"withdrawn\":false,\"items\":[" ++ drillItemText ++ "]\x7d"
  payload := object [
    ("protocolVersion", some (.num 2)), ("mediaDelivery", some (.str "authorization-v1")),
    ("version", some (.str "drill")), ("generatedAt", some (.str (clockText "09:01"))),
    ("validUntil", some (.str (clockText "09:06"))), ("screenId", some (.str "lobby")),
    ("priority", some (.str "emergency")), ("withdrawn", some (.bool false)),
    ("items", some (.arr [drillItem]))]
  signature :=
    "3GXCMT2R18xvAdw1ZCnmDMiT933FfBR7MKYY0SqIRS2MFoBDEfyI8g2qB_6IqxBEG4ryamtDIyVZY9QXhhc-Bg"

def poster1Again : SignedText where
  text := releaseText "spring" "09:02" "09:07" (some "09:03") false (posterText "poster-1")
  payload := release "spring" "09:02" "09:07" (some "09:03") false [poster "poster-1"]
  signature :=
    "ajztbzEbD45cxC2wQdNutyGtI94D7pCpPuNaKSzDnFIaclVlN3QXQ9klTm7HRdBuqra9xgP--tbca6OJZLxDCA"

def drillKey : String := "38nIobF1uVOVYNqju4SgHXk-RD5xl4mtP6AA-IQbznU"

def drillTrust : ManifestTrust := { screenId := "lobby", manifestVerificationKey := drillKey }

/-- The browser of the lobby on the texts of the drill. -/
def drillLobby : Platform where
  parseJson text := ([poster1, drill, poster1Again].find? (·.text == text)).map (·.payload)
  dateParse := lobby.dateParse
  coerceText := lobby.coerceText
  parseUrl text :=
    if text.startsWith "data:" then
      some { protocol := "data:", username := "", password := "", hostname := ""
             origin := "null", search := "", hash := "" }
    else lobby.parseUrl text
  verifySignature text signature key := key == drillKey &&
    [poster1, drill, poster1Again].any fun s => s.signature == signature && s.text == text
  cacheKey := lobby.cacheKey

def stageDrill (s : SignedText) : Turn Command Answer :=
  .call (.stageAndActivate (some (s.envelopeOn drillLobby)) drillTrust)

set_option maxRecDepth 10000 in
/-- The poster, the drill and the poster again leave the version `spring` in both slots. The
poster fails, and the rollback for `spring` hands `spring` back. -/
theorem a_failed_poster_comes_back_after_a_drill :
    ∃ before pool manifest, Reaches drillLobby true lobbyDevice before ∧
      versionOf before.state.slots.active = some (.str "spring") ∧
      (manager drillLobby true).run before
        (.call (.rollback drillTrust (some "spring")) :: segments 3 13 2) = some pool ∧
      pool.tasks[3]? = some (.rollback drillTrust (some "spring"),
        .settled (.ok (some manifest))) ∧
      Value.get (some manifest) "version" = some (.str "spring") := by
  have h : ((manager drillLobby true).run (System.start lobbyDevice)
      (stageDrill poster1 :: segments 0 37 1 ++ stageDrill drill :: segments 1 37 1 ++
        stageDrill poster1Again :: segments 2 37 2)).map (fun before =>
      (versionOf before.state.slots.active, ((manager drillLobby true).run before
        (.call (.rollback drillTrust (some "spring")) :: segments 3 13 2)).map (outcome · 3))) =
      some (some (.str "spring"), some (some (.rollback drillTrust (some "spring"),
        view (some (poster1.envelopeOn drillLobby))))) := by
    decide +kernel
  obtain ⟨before, hrun, hboth⟩ := Option.map_eq_some_iff.mp h
  obtain ⟨hversion, hrest⟩ := Prod.mk.inj hboth
  obtain ⟨pool, hrun', hout⟩ := Option.map_eq_some_iff.mp hrest
  have htask := outcome_eq hout
  have hposter : versionOf (some (poster1.envelopeOn drillLobby)) = some (.str "spring") := by
    decide +kernel
  unfold versionOf at hposter
  cases hview : view (some (poster1.envelopeOn drillLobby)) with
  | none => rw [hview] at hposter; cases hposter
  | some manifest =>
    rw [hview] at htask hposter
    exact ⟨before, pool, manifest, ⟨_, hrun⟩, hversion, hrun', htask, hposter⟩

end screengoblin.player
