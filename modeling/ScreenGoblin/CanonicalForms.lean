-- Canonical forms. A constructor picks one form of each class of inputs that count as the
-- same, and rejects some inputs. Equal forms then mean the same input, and so do equal
-- digests of the forms where the digest tells them apart.
namespace forms

variable {α β δ : Type}

/-- `canon` gives the inputs of one class of `Same` one form, and inputs of two classes two.
`read` takes a form as an input again, and its form is the form itself. -/
structure Canonizes (canon : α → Option β) (read : β → Option α) (Same : α → α → Prop) :
    Prop where
  invariant : ∀ a b, Same a b → canon a = canon b
  idempotent : ∀ a x, canon a = some x → (read x).bind canon = some x
  complete : ∀ a b x, canon a = some x → canon b = some x → Same a b

namespace Canonizes

variable {canon : α → Option β} {read : β → Option α} {Same : α → α → Prop} {a b : α} {x y : β}

/-- Two forms are equal just when the inputs count as the same. -/
theorem form_eq_iff (h : Canonizes canon read Same) (ha : canon a = some x)
    (hb : canon b = some y) : x = y ↔ Same a b := by
  constructor
  · rintro rfl
    exact h.complete a b x ha hb
  · intro same
    have forms := h.invariant a b same
    rw [ha, hb] at forms
    exact Option.some.inj forms

/-- The same of the digests of the two forms. -/
theorem digest_eq_iff (h : Canonizes canon read Same) (digest : β → δ)
    (apart : digest x = digest y → x = y) (ha : canon a = some x) (hb : canon b = some y) :
    digest x = digest y ↔ Same a b := by
  rw [← h.form_eq_iff ha hb]
  exact ⟨apart, congrArg digest⟩

end Canonizes

/-- The constructor on an optional input. A missing input is a form of its own. -/
def onOptional (canon : α → Option α) : Option α → Option (Option α)
  | none => some none
  | some a => (canon a).map some

theorem canonizes_optional {canon : α → Option α} {Same : α → α → Prop}
    (h : Canonizes canon some Same) : Canonizes (onOptional canon) some (Option.Rel Same) where
  invariant a b same := by
    cases same with
    | none => rfl
    | some same => exact congrArg (Option.map some) (h.invariant _ _ same)
  idempotent a x form := by
    cases a with
    | none =>
      cases form
      rfl
    | some a =>
      obtain ⟨y, ha, rfl⟩ := Option.map_eq_some_iff.mp form
      exact congrArg (Option.map some) (h.idempotent a y ha)
  complete a b x ha hb := by
    cases a with
    | none =>
      cases ha
      cases b with
      | none => exact .none
      | some b =>
        obtain ⟨z, _, same⟩ := Option.map_eq_some_iff.mp hb
        cases same
    | some a =>
      obtain ⟨y, formA, rfl⟩ := Option.map_eq_some_iff.mp ha
      cases b with
      | none => cases hb
      | some b =>
        obtain ⟨z, formB, same⟩ := Option.map_eq_some_iff.mp hb
        obtain rfl := Option.some.inj same
        exact .some (h.complete a b z formA formB)

/-- A form of what `f` makes of an input, where `f` leaves the forms alone. -/
theorem canonizes_after {canon : α → Option α} {Same : α → α → Prop} {f : α → α}
    (h : Canonizes canon some Same) (fixed : ∀ a x, canon (f a) = some x → f x = x) :
    Canonizes (fun a => canon (f a)) some (fun a b => Same (f a) (f b)) where
  invariant a b same := h.invariant _ _ same
  idempotent a x form := by
    have again := h.idempotent _ x form
    rw [Option.bind_some] at again ⊢
    rw [fixed a x form]
    exact again
  complete a b x ha hb := h.complete _ _ x ha hb

end forms
