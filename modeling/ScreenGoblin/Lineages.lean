-- Collections of records over time: a later list holds some records of an earlier list, in the
-- same order, each one perhaps changed.
import ScreenGoblin.Collections
import Mathlib.Data.List.Forall2

open collections

namespace lineages

variable {α κ : Type} {r : α → α → Prop} {l l' l'' : List α}

/-- Each record of `l'` comes from a record of its own in `l`. -/
def Descends (r : α → α → Prop) (l l' : List α) : Prop :=
  List.SublistForall₂ (fun b a => r a b) l' l

theorem descends_nil : Descends r l [] := List.SublistForall₂.nil

/-! ## Changes -/

section
variable [Std.Refl r]

theorem descends_sublist (sub : l'.Sublist l) : Descends r l l' := by
  induction sub with
  | slnil => exact descends_nil
  | cons a _ ih => exact List.SublistForall₂.cons_right ih
  | cons_cons a _ ih => exact List.SublistForall₂.cons (Std.Refl.refl a) ih

theorem descends_refl (l : List α) : Descends r l l := descends_sublist (List.Sublist.refl l)

theorem descends_of_eq (same : l' = l) : Descends r l l' := by
  rw [same]
  exact descends_refl l

theorem descends_filter (p : α → Bool) : Descends r l (l.filter p) :=
  descends_sublist List.filter_sublist

theorem descends_eraseP (p : α → Bool) : Descends r l (l.eraseP p) :=
  descends_sublist List.eraseP_sublist

theorem descends_updateFirst {p : α → Bool} {f : α → α}
    (step : ∀ a ∈ l, l.find? p = some a → r a (f a)) : Descends r l (updateFirst p f l) := by
  induction l with
  | nil => exact descends_nil
  | cons a rest ih =>
    unfold updateFirst
    by_cases found : p a = true
    · rw [if_pos found]
      apply List.SublistForall₂.cons
      · exact step a List.mem_cons_self (by simp [found])
      · exact descends_refl rest
    · rw [if_neg found]
      apply List.SublistForall₂.cons
      · exact Std.Refl.refl a
      · apply ih
        intro b hb hf
        exact step b (List.mem_cons_of_mem _ hb) (by simp [found, hf])

end

theorem descends_map {f : α → α} (step : ∀ a ∈ l, r a (f a)) : Descends r l (l.map f) := by
  induction l with
  | nil => exact descends_nil
  | cons a rest ih =>
    apply List.SublistForall₂.cons
    · exact step a List.mem_cons_self
    · exact ih fun b hb => step b (List.mem_cons_of_mem _ hb)

theorem descends_changeWhere [Std.Refl r] {p : α → Bool} {f : α → α}
    (step : ∀ a ∈ l, p a = true → r a (f a)) : Descends r l (changeWhere p f l) := by
  apply descends_map
  intro a ha
  by_cases changed : p a = true
  · rw [if_pos changed]
    exact step a ha changed
  · rw [if_neg changed]
    exact Std.Refl.refl a

theorem Descends.trans [IsTrans α r] (h : Descends r l l') (h' : Descends r l' l'') :
    Descends r l l'' := by
  unfold Descends at *
  have flipped : IsTrans α fun b a => r a b :=
    ⟨fun _ _ _ ab bc => IsTrans.trans _ _ _ bc ab⟩
  exact (List.SublistForall₂.is_trans).trans _ _ _ h' h

/-! ## Records that remain -/

/-- Every record of `l` is in `l'`, perhaps changed. -/
def Remains (r : α → α → Prop) (l l' : List α) : Prop := ∀ a ∈ l, ∃ a' ∈ l', r a a'

theorem Remains.trans [IsTrans α r] (h : Remains r l l') (h' : Remains r l' l'') :
    Remains r l l'' := by
  intro a ha
  obtain ⟨a', ha', first⟩ := h a ha
  obtain ⟨a'', ha'', second⟩ := h' a' ha'
  exact ⟨a'', ha'', IsTrans.trans _ _ _ first second⟩

theorem remains_map {f : α → α} (step : ∀ a, r a (f a)) : Remains r l (l.map f) :=
  fun a ha => ⟨f a, List.mem_map_of_mem ha, step a⟩

section
variable [Std.Refl r]

theorem remains_refl (l : List α) : Remains r l l := fun a ha => ⟨a, ha, Std.Refl.refl a⟩

theorem remains_changeWhere {p : α → Bool} {f : α → α} (step : ∀ a, r a (f a)) :
    Remains r l (changeWhere p f l) := by
  apply remains_map
  intro a
  split
  · exact step a
  · exact Std.Refl.refl a

theorem remains_updateFirst {p : α → Bool} {f : α → α} (step : ∀ a, r a (f a)) :
    Remains r l (updateFirst p f l) := by
  intro a ha
  rcases stays_updateFirst ha with kept | kept
  · exact ⟨a, kept, Std.Refl.refl a⟩
  · exact ⟨f a, kept, step a⟩

theorem remains_append (l m : List α) : Remains r l (l ++ m) :=
  fun a ha => ⟨a, List.mem_append_left m ha, Std.Refl.refl a⟩

end

/-! ## What stays -/

theorem Descends.imp {r' : α → α → Prop} (h : Descends r l l') (weaker : ∀ a b, r a b → r' a b) :
    Descends r' l l' := by
  unfold Descends at *
  induction h with
  | nil => exact List.SublistForall₂.nil
  | cons first _ ih => exact List.SublistForall₂.cons (weaker _ _ first) ih
  | cons_right _ ih => exact List.SublistForall₂.cons_right ih

theorem Descends.mem (h : Descends r l l') {b : α} (hb : b ∈ l') : ∃ a ∈ l, r a b := by
  unfold Descends at h
  induction h with
  | nil => cases hb
  | cons first _ ih =>
    rcases List.mem_cons.mp hb with rfl | hb
    · exact ⟨_, List.mem_cons_self, first⟩
    · obtain ⟨a, ha, made⟩ := ih hb
      exact ⟨a, List.mem_cons_of_mem _ ha, made⟩
  | cons_right _ ih =>
    obtain ⟨a, ha, made⟩ := ih hb
    exact ⟨a, List.mem_cons_of_mem _ ha, made⟩

/-- Records with keys of their own keep them. -/
theorem Descends.keysUnique {key : α → κ} (h : Descends r l l')
    (keeps : ∀ a b, r a b → key b = key a) (unique : KeysUnique key l) : KeysUnique key l' := by
  unfold Descends at h
  unfold KeysUnique at *
  induction h with
  | nil => exact List.nodup_nil
  | @cons b a l' l first rest ih =>
    rw [List.map_cons, List.nodup_cons] at unique ⊢
    refine ⟨?_, ih unique.2⟩
    intro again
    obtain ⟨b', hb', same⟩ := List.mem_map.mp again
    obtain ⟨a', ha', made⟩ := Descends.mem rest hb'
    apply unique.1
    rw [← keeps a b first, ← same, keeps a' b' made]
    exact List.mem_map_of_mem ha'
  | cons_right _ ih =>
    rw [List.map_cons, List.nodup_cons] at unique
    exact ih unique.2

/-- A count of records that cannot begin to pass does not grow. -/
theorem Descends.countP_le {p q : α → Bool} (h : Descends r l l')
    (passes : ∀ a b, r a b → q b = true → p a = true) : l'.countP q ≤ l.countP p := by
  unfold Descends at h
  induction h with
  | nil => exact Nat.zero_le _
  | @cons b a l' l first _ ih =>
    rw [List.countP_cons, List.countP_cons]
    by_cases counted : q b = true
    · rw [if_pos counted, if_pos (passes a b first counted)]
      exact Nat.add_le_add_right ih 1
    · rw [if_neg counted]
      exact ih.trans (Nat.le_add_right _ _)
  | @cons_right a l' l _ ih =>
    rw [List.countP_cons]
    exact ih.trans (Nat.le_add_right _ _)

/-! ## Identifiers -/

/-- The identifier was drawn before the draw `n`. -/
def DrawnBefore (names : Nat → κ) (n : Nat) (id : κ) : Prop := ∃ k < n, id = names k

theorem DrawnBefore.later {names : Nat → κ} {n m : Nat} {id : κ} (drawn : DrawnBefore names n id)
    (le : n ≤ m) : DrawnBefore names m id := by
  obtain ⟨k, below, is⟩ := drawn
  exact ⟨k, below.trans_le le, is⟩

/-- An identifier that is drawn now is a new one. -/
theorem not_drawnBefore {names : Nat → κ} (injective : Function.Injective names) {n k : Nat}
    (le : n ≤ k) : ¬ DrawnBefore names n (names k) := by
  rintro ⟨j, below, is⟩
  have same := injective is
  omega

/-- Every record has an identifier of its own, drawn before `n`. -/
structure Named (names : Nat → κ) (n : Nat) (id : α → κ) (l : List α) :
    Prop where
  unique : KeysUnique id l
  drawn : ∀ a ∈ l, DrawnBefore names n (id a)

section
variable {names : Nat → κ} {n m : Nat} {id : α → κ}

theorem named_nil : Named names n id [] := by
  refine ⟨List.nodup_nil, ?_⟩
  intro a ha
  cases ha

theorem Named.later (named : Named names n id l) (le : n ≤ m) : Named names m id l :=
  ⟨named.unique, fun a ha => (named.drawn a ha).later le⟩

theorem Named.descends (named : Named names n id l) (h : Descends r l l')
    (keeps : ∀ a b, r a b → id b = id a) : Named names n id l' := by
  refine ⟨h.keysUnique keeps named.unique, ?_⟩
  intro b hb
  obtain ⟨a, ha, made⟩ := h.mem hb
  rw [keeps a b made]
  exact named.drawn a ha

theorem Named.append {a : α} (named : Named names n id l) (le : n ≤ m)
    (fresh : ¬ DrawnBefore names n (id a)) (drawn : DrawnBefore names m (id a)) :
    Named names m id (l ++ [a]) := by
  refine ⟨named.unique.append ?_, ?_⟩
  · intro b hb same
    rw [← same] at fresh
    exact fresh (named.drawn b hb)
  · intro b hb
    rcases List.mem_append.mp hb with hb | hb
    · exact (named.drawn b hb).later le
    · rw [List.mem_singleton.mp hb]
      exact drawn

end

end lineages
