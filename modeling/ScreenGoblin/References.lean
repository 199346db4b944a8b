-- References between collections of records, for any types of records and references: each
-- reference that a record of one collection needs is met by a record of another.
namespace references

variable {α β κ : Type} {needs : α → κ → Prop} {meets : κ → β → Prop}
  {l l' : List α} {m m' : List β}

/-- Each reference of a record of `l` resolves to a record of `m`. -/
def Resolved (needs : α → κ → Prop) (meets : κ → β → Prop) (l : List α) (m : List β) : Prop :=
  ∀ a ∈ l, ∀ k, needs a k → ∃ b ∈ m, meets k b

theorem Resolved.nil : Resolved needs meets [] m := by
  intro a ha
  cases ha

/-- A change of the records that refer: each of their references was there, or is met. -/
theorem Resolved.referrers (h : Resolved needs meets l m)
    (change : ∀ a' ∈ l', ∀ k, needs a' k → (∃ a ∈ l, needs a k) ∨ ∃ b ∈ m, meets k b) :
    Resolved needs meets l' m := by
  intro a' ha' k hk
  rcases change a' ha' k hk with ⟨a, ha, old⟩ | met
  · exact h a ha k old
  · exact met

/-- A new record whose references are met. -/
theorem Resolved.append (h : Resolved needs meets l m) {a : α}
    (met : ∀ k, needs a k → ∃ b ∈ m, meets k b) : Resolved needs meets (l ++ [a]) m := by
  apply h.referrers
  intro a' ha' k hk
  rcases List.mem_append.mp ha' with old | new
  · exact .inl ⟨a', old, hk⟩
  · rw [List.mem_singleton.mp new] at hk
    exact .inr (met k hk)

/-- Fewer records that refer. -/
theorem Resolved.fewer (h : Resolved needs meets l m) (sub : ∀ a ∈ l', a ∈ l) :
    Resolved needs meets l' m := by
  intro a ha
  exact h a (sub a ha)

/-- A change of the targets: whatever a target met, a new target meets, if it is needed. -/
theorem Resolved.targets (h : Resolved needs meets l m)
    (change : ∀ a ∈ l, ∀ k, needs a k → ∀ b ∈ m, meets k b → ∃ b' ∈ m', meets k b') :
    Resolved needs meets l m' := by
  intro a ha k hk
  obtain ⟨b, hb, met⟩ := h a ha k hk
  exact change a ha k hk b hb met

/-- More targets. -/
theorem Resolved.more (h : Resolved needs meets l m) (sub : ∀ b ∈ m, b ∈ m') :
    Resolved needs meets l m' := by
  apply h.targets
  intro a _ k _ b hb met
  exact ⟨b, sub b hb, met⟩

end references
