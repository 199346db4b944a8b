-- Collections of records that code searches, changes in place and sorts, for any type of
-- record: the first record that passes a test, a change of that record, and sorted sets.
import Mathlib.Data.List.Dedup
import Mathlib.Data.List.Sort

namespace collections

variable {α κ : Type}

/-! ## Records with a key -/

/-- No two records of the list share a key. -/
def KeysUnique (key : α → κ) (l : List α) : Prop := (l.map key).Nodup

theorem KeysUnique.eq {key : α → κ} {l : List α} (unique : KeysUnique key l) {a b : α}
    (ha : a ∈ l) (hb : b ∈ l) (same : key a = key b) : a = b :=
  List.inj_on_of_nodup_map unique ha hb same

theorem KeysUnique.append {key : α → κ} {l : List α} {a : α} (unique : KeysUnique key l)
    (fresh : ∀ b ∈ l, key b ≠ key a) : KeysUnique key (l ++ [a]) := by
  unfold KeysUnique at *
  rw [List.map_append, List.nodup_append]
  refine ⟨unique, by simp, ?_⟩
  intro k hk k' hk'
  obtain ⟨b, hb, rfl⟩ := List.mem_map.mp hk
  simp only [List.map_cons, List.map_nil, List.mem_singleton] at hk'
  rw [hk']
  exact fresh b hb

theorem KeysUnique.filter {key : α → κ} {l : List α} (unique : KeysUnique key l)
    (p : α → Bool) : KeysUnique key (l.filter p) :=
  unique.sublist (List.filter_sublist.map key)

/-- A search by key finds exactly the record with that key. -/
theorem KeysUnique.find {key : α → κ} {l : List α} (unique : KeysUnique key l) {a : α}
    (ha : a ∈ l) (p : α → Bool) (hp : p a = true) (byKey : ∀ b, p b = true → key b = key a) :
    l.find? p = some a := by
  cases h : l.find? p with
  | none => simp [List.find?_eq_none.mp h a ha] at hp
  | some b =>
    have same : key b = key a := byKey b (List.find?_some h)
    rw [unique.eq (List.mem_of_find?_eq_some h) ha same]

/-! ## A change of the first record that passes a test -/

def updateFirst (p : α → Bool) (f : α → α) : List α → List α
  | [] => []
  | a :: rest => if p a then f a :: rest else a :: updateFirst p f rest

theorem updateFirst_key {key : α → κ} (p : α → Bool) (f : α → α)
    (keeps : ∀ a, key (f a) = key a) (l : List α) :
    (updateFirst p f l).map key = l.map key := by
  induction l with
  | nil => rfl
  | cons a rest ih =>
    unfold updateFirst
    by_cases h : p a = true
    · simp [h, keeps]
    · simp [h, ih]

theorem KeysUnique.updateFirst {key : α → κ} {l : List α} (unique : KeysUnique key l)
    (p : α → Bool) (f : α → α) (keeps : ∀ a, key (f a) = key a) :
    KeysUnique key (updateFirst p f l) := by
  unfold KeysUnique
  rw [updateFirst_key p f keeps]
  exact unique

/-- A record of the changed list is an old one, or the changed one. -/
theorem mem_updateFirst {p : α → Bool} {f : α → α} {l : List α} {b : α}
    (h : b ∈ updateFirst p f l) : b ∈ l ∨ ∃ a, l.find? p = some a ∧ b = f a := by
  induction l with
  | nil => cases h
  | cons a rest ih =>
    unfold updateFirst at h
    by_cases found : p a = true
    · simp only [found, if_true, List.mem_cons] at h
      rcases h with rfl | h
      · exact .inr ⟨a, by simp [found], rfl⟩
      · exact .inl (by simp [h])
    · simp only [found, Bool.false_eq_true, if_false, List.mem_cons] at h
      rcases h with rfl | h
      · exact .inl (by simp)
      · rcases ih h with old | ⟨c, hc, rfl⟩
        · exact .inl (by simp [old])
        · exact .inr ⟨c, by simp [found, hc], rfl⟩

/-- The changed record is there. -/
theorem updated_mem {p : α → Bool} {f : α → α} {l : List α} {a : α}
    (h : l.find? p = some a) : f a ∈ updateFirst p f l := by
  induction l with
  | nil => cases h
  | cons b rest ih =>
    by_cases found : p b = true
    · simp only [List.find?_cons, found, Option.some.injEq] at h
      subst h
      simp [updateFirst, found]
    · simp only [List.find?_cons, found] at h
      simp [updateFirst, found, ih h]

/-- Every other record is still there. -/
theorem others_mem {p : α → Bool} {f : α → α} {l : List α} {a b : α}
    (h : l.find? p = some a) (hb : b ∈ l) (other : b ≠ a) : b ∈ updateFirst p f l := by
  induction l with
  | nil => cases hb
  | cons c rest ih =>
    unfold updateFirst
    by_cases found : p c = true
    · simp only [List.find?_cons, found, Option.some.injEq] at h
      rcases List.mem_cons.mp hb with rfl | hb
      · exact absurd h other
      · simp [found, hb]
    · simp only [List.find?_cons, found] at h
      rcases List.mem_cons.mp hb with rfl | hb
      · simp [found]
      · simp [found, ih h hb]

/-- Every record is still there, changed or not. -/
theorem stays_updateFirst {p : α → Bool} {f : α → α} {l : List α} {a : α} (ha : a ∈ l) :
    a ∈ updateFirst p f l ∨ f a ∈ updateFirst p f l := by
  induction l with
  | nil => cases ha
  | cons b rest ih =>
    unfold updateFirst
    by_cases found : p b = true
    · rcases List.mem_cons.mp ha with rfl | ha
      · exact .inr (by simp [found])
      · exact .inl (by simp [found, ha])
    · rcases List.mem_cons.mp ha with rfl | ha
      · exact .inl (by simp [found])
      · simp only [found, Bool.false_eq_true, if_false, List.mem_cons]
        exact (ih ha).imp .inr .inr

/-- With unique keys, a record of the changed list that has the key of the found record is
the changed one, and every other record is an old one. -/
theorem mem_updateFirst_of_unique {key : α → κ} {p : α → Bool} {f : α → α} {l : List α}
    {a b : α} (unique : KeysUnique key l) (keeps : ∀ a, key (f a) = key a)
    (found : l.find? p = some a) (hb : b ∈ updateFirst p f l) :
    b = f a ∨ (b ∈ l ∧ key b ≠ key a) := by
  by_cases same : key b = key a
  · have changed : f a ∈ updateFirst p f l := updated_mem found
    exact .inl ((unique.updateFirst p f keeps).eq hb changed (by rw [same, keeps]))
  · rcases mem_updateFirst hb with old | ⟨c, hc, rfl⟩
    · exact .inr ⟨old, same⟩
    · rw [found] at hc
      cases hc
      exact .inl rfl

/-! ## A partial function on every element -/

theorem mapM_eq_some_iff {β : Type} {f : α → Option β} {l : List α} {r : List β} :
    l.mapM f = some r ↔ List.Forall₂ (fun a b => f a = some b) l r := by
  induction l generalizing r with
  | nil => cases r <;> simp
  | cons a rest ih =>
    simp only [List.mapM_cons, Option.bind_eq_bind, Option.bind_eq_some_iff, Option.pure_def,
      Option.some.injEq]
    constructor
    · rintro ⟨b, found, others, hothers, rfl⟩
      exact .cons found (ih.mp hothers)
    · intro h
      cases h with
      | cons found others => exact ⟨_, found, _, ih.mpr others, rfl⟩

theorem mapM_mem {β : Type} {f : α → Option β} {l : List α} {r : List β} {a : α}
    (h : l.mapM f = some r) (ha : a ∈ l) : ∃ b ∈ r, f a = some b := by
  induction l generalizing r with
  | nil => cases ha
  | cons x xs ih =>
    simp only [List.mapM_cons, Option.bind_eq_bind, Option.bind_eq_some_iff,
      Option.pure_def, Option.some.injEq] at h
    obtain ⟨b, hb, bs, hbs, rfl⟩ := h
    rcases List.mem_cons.mp ha with rfl | ha
    · exact ⟨b, List.mem_cons_self, hb⟩
    · obtain ⟨c, hc, hfc⟩ := ih hbs ha
      exact ⟨c, List.mem_cons_of_mem _ hc, hfc⟩

/-- A function that may throw, on every element. -/
theorem mapM_ok_iff {ε β : Type} {f : α → Except ε β} {l : List α} {r : List β} :
    l.mapM f = .ok r ↔ List.Forall₂ (fun a b => f a = .ok b) l r := by
  induction l generalizing r with
  | nil => cases r <;> simp [pure, Except.pure]
  | cons a rest ih =>
    rw [List.mapM_cons]
    cases found : f a with
    | error e =>
      simp only [bind, Except.bind, reduceCtorEq, false_iff]
      intro all
      cases all with
      | cons first _ => rw [found] at first; cases first
    | ok b =>
      cases others : rest.mapM f with
      | error e =>
        simp only [bind, Except.bind, reduceCtorEq, false_iff]
        intro all
        cases all with
        | cons _ later => rw [ih.mpr later] at others; cases others
      | ok bs =>
        simp only [bind, Except.bind, pure, Except.pure, Except.ok.injEq]
        constructor
        · rintro rfl
          exact .cons found (ih.mp others)
        · intro all
          cases all with
          | cons first later =>
            rw [found] at first
            rw [ih.mpr later] at others
            cases first
            cases others
            rfl

/-- Two functions that agree on the elements have the same results, and the same throw. -/
theorem mapM_congr {ε β : Type} {f g : α → Except ε β} {l : List α}
    (same : ∀ a ∈ l, f a = g a) : l.mapM f = l.mapM g := by
  induction l with
  | nil => rfl
  | cons a rest ih =>
    rw [List.mapM_cons, List.mapM_cons, same a List.mem_cons_self,
      ih fun b hb => same b (List.mem_cons_of_mem _ hb)]

/-- Each result is the one of some element. -/
theorem mapM_ok_mem {ε β : Type} {f : α → Except ε β} {l : List α} {r : List β}
    (h : l.mapM f = .ok r) {b : β} (hb : b ∈ r) : ∃ a ∈ l, f a = .ok b := by
  have all := mapM_ok_iff.mp h
  clear h
  induction all with
  | nil => cases hb
  | cons first _ ih =>
    rcases List.mem_cons.mp hb with rfl | hb
    · exact ⟨_, List.mem_cons_self, first⟩
    · obtain ⟨a, ha, made⟩ := ih hb
      exact ⟨a, List.mem_cons_of_mem _ ha, made⟩

/-- Each element has its result. -/
theorem mapM_ok_result {ε β : Type} {f : α → Except ε β} {l : List α} {r : List β}
    (h : l.mapM f = .ok r) {a : α} (ha : a ∈ l) : ∃ b ∈ r, f a = .ok b := by
  have all := mapM_ok_iff.mp h
  clear h
  induction all with
  | nil => cases ha
  | cons first _ ih =>
    rcases List.mem_cons.mp ha with rfl | ha
    · exact ⟨_, List.mem_cons_self, first⟩
    · obtain ⟨b, hb, made⟩ := ih ha
      exact ⟨b, List.mem_cons_of_mem _ hb, made⟩

/-! ## A change of every record that passes a test -/

def changeWhere (p : α → Bool) (f : α → α) (l : List α) : List α :=
  l.map fun a => if p a then f a else a

theorem mem_changeWhere {p : α → Bool} {f : α → α} {l : List α} {b : α} :
    b ∈ changeWhere p f l ↔ ∃ a ∈ l, b = if p a then f a else a := by
  unfold changeWhere
  simp only [List.mem_map, eq_comm]

theorem KeysUnique.changeWhere {key : α → κ} {l : List α} (unique : KeysUnique key l)
    (p : α → Bool) {f : α → α} (keeps : ∀ a, key (f a) = key a) :
    KeysUnique key (changeWhere p f l) := by
  unfold KeysUnique collections.changeWhere at *
  rw [List.map_map]
  have same : (key ∘ fun a => if p a then f a else a) = key := by
    funext a
    by_cases h : p a = true
    · simp [h, keeps]
    · simp [h]
  rw [same]
  exact unique

/-- A search that a change does not mislead finds the changed record. -/
theorem find_changeWhere {p q : α → Bool} {f : α → α} {l : List α}
    (same : ∀ a, p a = true → q (f a) = q a) :
    (changeWhere p f l).find? q = (l.find? q).map fun a => if p a then f a else a := by
  unfold changeWhere
  rw [List.find?_map]
  congr 2
  funext a
  by_cases changed : p a = true
  · simp [changed, same a changed]
  · simp [changed]

/-! ## Sorted sets -/

section
variable [DecidableEq α] (r : α → α → Prop) [DecidableRel r]

/-- The distinct elements of a list, in order. -/
def sortedSet (l : List α) : List α := l.dedup.insertionSort r

@[simp]
theorem mem_sortedSet (l : List α) (a : α) : a ∈ sortedSet r l ↔ a ∈ l := by
  unfold sortedSet
  simp

/-- A sorted set is sorted once and for all. -/
theorem sortedSet_sortedSet [Std.Total r] [IsTrans α r] (l : List α) :
    sortedSet r (sortedSet r l) = sortedSet r l := by
  have nodup : (sortedSet r l).Nodup :=
    (List.perm_insertionSort r l.dedup).nodup_iff.mpr l.nodup_dedup
  have sorted : (sortedSet r l).Pairwise r := List.pairwise_insertionSort r l.dedup
  calc sortedSet r (sortedSet r l)
      = (sortedSet r l).insertionSort r := by
        rw [sortedSet, List.dedup_eq_self.mpr nodup]
    _ = sortedSet r l := sorted.insertionSort_eq

end

/-! ## Sorting by an order of the members -/

/-- The relation orders the members of the list, whatever it does elsewhere. -/
structure OrderedOn (r : α → α → Prop) (l : List α) : Prop where
  total : ∀ a ∈ l, ∀ b ∈ l, r a b ∨ r b a
  trans : ∀ a ∈ l, ∀ b ∈ l, ∀ c ∈ l, r a b → r b c → r a c
  antisymm : ∀ a ∈ l, ∀ b ∈ l, r a b → r b a → a = b

theorem OrderedOn.subset {r : α → α → Prop} {l l' : List α} (order : OrderedOn r l)
    (sub : l' ⊆ l) : OrderedOn r l' where
  total a ha b hb := order.total a (sub ha) b (sub hb)
  trans a ha b hb c hc := order.trans a (sub ha) b (sub hb) c (sub hc)
  antisymm a ha b hb := order.antisymm a (sub ha) b (sub hb)

section
variable {r : α → α → Prop} [DecidableRel r] {l : List α}

theorem OrderedOn.pairwise_orderedInsert {a : α} (order : OrderedOn r (a :: l))
    (sorted : l.Pairwise r) : (l.orderedInsert r a).Pairwise r := by
  induction l with
  | nil => simp
  | cons b rest ih =>
    have inList : b ∈ a :: b :: rest := by simp
    obtain ⟨least, others⟩ := List.pairwise_cons.mp sorted
    unfold List.orderedInsert
    by_cases first : r a b
    · rw [if_pos first]
      refine List.pairwise_cons.mpr ⟨?_, sorted⟩
      intro c hc
      rcases List.mem_cons.mp hc with rfl | hc
      · exact first
      · exact order.trans a (by simp) b inList c (by simp [hc]) first (least c hc)
    · rw [if_neg first]
      have after : r b a := (order.total a (by simp) b inList).resolve_left first
      refine List.pairwise_cons.mpr ⟨?_, ih (order.subset ?_) others⟩
      · intro c hc
        rcases (List.mem_orderedInsert r).mp hc with rfl | hc
        · exact after
        · exact least c hc
      · exact List.cons_subset_cons a (List.subset_cons_self b rest)

theorem OrderedOn.pairwise_insertionSort (order : OrderedOn r l) :
    (l.insertionSort r).Pairwise r := by
  induction l with
  | nil => exact .nil
  | cons a rest ih =>
    rw [List.insertionSort_cons]
    refine OrderedOn.pairwise_orderedInsert (order.subset ?_)
      (ih (order.subset (List.subset_cons_self a rest)))
    exact List.cons_subset_cons a (List.perm_insertionSort r rest).subset

/-- A list and a rearrangement of it sort to the same list. -/
theorem OrderedOn.insertionSort_perm {l' : List α} (order : OrderedOn r l) (perm : l.Perm l') :
    l.insertionSort r = l'.insertionSort r := by
  have order' : OrderedOn r l' := order.subset perm.symm.subset
  refine List.Perm.eq_of_pairwise ?_ order.pairwise_insertionSort order'.pairwise_insertionSort
    (((List.perm_insertionSort r l).trans perm).trans (List.perm_insertionSort r l').symm)
  intro a b ha hb
  exact order.antisymm a ((List.mem_insertionSort r).mp ha) b
    (perm.symm.subset ((List.mem_insertionSort r).mp hb))

theorem orderedInsert_congr {r' : α → α → Prop} [DecidableRel r'] {a : α}
    (agree : ∀ b ∈ l, (r a b ↔ r' a b)) : l.orderedInsert r a = l.orderedInsert r' a := by
  induction l with
  | nil => rfl
  | cons b rest ih =>
    have others := ih fun c member => agree c (List.mem_cons_of_mem _ member)
    by_cases first : r a b
    · have first' : r' a b := (agree b List.mem_cons_self).mp first
      rw [List.orderedInsert, List.orderedInsert, if_pos first, if_pos first']
    · have first' : ¬ r' a b := fun h => first ((agree b List.mem_cons_self).mpr h)
      rw [List.orderedInsert, List.orderedInsert, if_neg first, if_neg first', others]

/-- Two relations that agree on the members, each with the later ones, sort alike. -/
theorem insertionSort_congr {r' : α → α → Prop} [DecidableRel r']
    (agree : l.Pairwise fun a b => (r a b ↔ r' a b)) :
    l.insertionSort r = l.insertionSort r' := by
  induction l with
  | nil => rfl
  | cons a rest ih =>
    obtain ⟨first, others⟩ := List.pairwise_cons.mp agree
    rw [List.insertionSort_cons, List.insertionSort_cons, ih others]
    apply orderedInsert_congr
    intro b member
    exact first b ((List.mem_insertionSort r').mp member)

/-- The first record of the sorted list that passes a test is the least of those that pass. -/
theorem OrderedOn.find_insertionSort (order : OrderedOn r l) {p : α → Bool} {a : α} :
    (l.insertionSort r).find? p = some a ↔ a ∈ l ∧ p a = true ∧ ∀ b ∈ l, p b = true → r a b := by
  constructor
  · intro found
    have hp : p a = true := List.find?_some found
    have ha : a ∈ l := (List.mem_insertionSort r).mp (List.mem_of_find?_eq_some found)
    refine ⟨ha, hp, ?_⟩
    intro b hb passes
    obtain ⟨_, before, after, split, fails⟩ := List.find?_eq_some_iff_append.mp found
    have inSorted : b ∈ l.insertionSort r := (List.mem_insertionSort r).mpr hb
    rw [split] at inSorted
    rcases List.mem_append.mp inSorted with early | late
    · have := fails b early
      simp [passes] at this
    · rcases List.mem_cons.mp late with rfl | late
      · exact (order.total b hb b hb).elim id id
      · have sorted := order.pairwise_insertionSort
        rw [split] at sorted
        exact (List.pairwise_cons.mp (List.pairwise_append.mp sorted).2.1).1 b late
  · rintro ⟨ha, hp, least⟩
    cases found : (l.insertionSort r).find? p with
    | none =>
      have fails := List.find?_eq_none.mp found a ((List.mem_insertionSort r).mpr ha)
      exact absurd hp fails
    | some b =>
      have hb : b ∈ l := (List.mem_insertionSort r).mp (List.mem_of_find?_eq_some found)
      have passes : p b = true := List.find?_some found
      obtain ⟨_, before, after, split, fails⟩ := List.find?_eq_some_iff_append.mp found
      have inSorted : a ∈ l.insertionSort r := (List.mem_insertionSort r).mpr ha
      rw [split] at inSorted
      rcases List.mem_append.mp inSorted with early | late
      · have := fails a early
        simp [hp] at this
      · rcases List.mem_cons.mp late with same | late
        · rw [same]
        · have sorted := order.pairwise_insertionSort
          rw [split] at sorted
          have ba : r b a := (List.pairwise_cons.mp (List.pairwise_append.mp sorted).2.1).1 a late
          rw [order.antisymm a ha b hb (least b hb passes) ba]

end

/-- A list of values that are all there. -/
theorem map_some_filterMap {l : List (Option α)} (present : ∀ o ∈ l, ∃ a, o = some a) :
    l = (l.filterMap id).map some := by
  induction l with
  | nil => rfl
  | cons o rest ih =>
    obtain ⟨a, rfl⟩ := present o List.mem_cons_self
    have others := ih fun o member => present o (List.mem_cons_of_mem _ member)
    rw [List.filterMap_cons, id_eq, List.map_cons, ← others]

/-- A rearrangement of values that are there is made of values that are there. -/
theorem perm_map_some {l : List (Option α)} {r : List α} (perm : l.Perm (r.map some)) :
    ∃ values : List α, l = values.map some ∧ values.Perm r := by
  have present : ∀ o ∈ l, ∃ a, o = some a := by
    intro o member
    obtain ⟨a, _, rfl⟩ := List.mem_map.mp (perm.subset member)
    exact ⟨a, rfl⟩
  refine ⟨l.filterMap id, map_some_filterMap present, ?_⟩
  have values := perm.filterMap id
  rwa [List.filterMap_map, Function.id_comp, List.filterMap_some] at values

/-- Two lists with the same elements give the same sorted set. -/
theorem sortedSet_congr [DecidableEq α] {r : α → α → Prop} [DecidableRel r] [Std.Total r]
    [IsTrans α r] [Std.Antisymm r] {l l' : List α} (same : ∀ a, a ∈ l ↔ a ∈ l') :
    sortedSet r l = sortedSet r l' := by
  have order : OrderedOn r l.dedup :=
    { total := fun a _ b _ => Std.Total.total a b
      trans := fun a _ b _ c _ => IsTrans.trans a b c
      antisymm := fun a _ b _ => Std.Antisymm.antisymm a b }
  unfold sortedSet
  refine order.insertionSort_perm ?_
  rw [List.perm_ext_iff_of_nodup l.nodup_dedup l'.nodup_dedup]
  simp only [List.mem_dedup]
  exact same

end collections
