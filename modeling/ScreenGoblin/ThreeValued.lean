-- The logic of SQL conditions. A comparison with NULL is unknown. A CHECK refuses a row only where
-- its condition is false, and an IF takes its branch only where the condition is true.
import Mathlib.Order.Lattice

namespace sql

/-- A truth value. `none` is unknown. -/
abbrev Truth := Option Bool

def known (p : Bool) : Truth := some p

def Truth.and : Truth → Truth → Truth
  | some false, _ | _, some false => some false
  | some true, some true => some true
  | _, _ => none

def Truth.or : Truth → Truth → Truth
  | some true, _ | _, some true => some true
  | some false, some false => some false
  | _, _ => none

def Truth.not : Truth → Truth
  | some p => some !p
  | none => none

/-- `CHECK (condition)` lets the row pass. -/
def passes (t : Truth) : Bool := t != some false

/-- `IF condition THEN` takes the branch. -/
def holds (t : Truth) : Bool := t == some true

section comparisons

variable {α : Type}

def isNull (a : Option α) : Truth := known a.isNone

def isNotNull (a : Option α) : Truth := known a.isSome

/-- A comparison of two columns. -/
def compare (r : α → α → Bool) : Option α → Option α → Truth
  | some a, some b => known (r a b)
  | _, _ => none

def eq [DecidableEq α] (a b : Option α) : Truth := compare (fun a b => decide (a = b)) a b

variable [LinearOrder α]

def le (a b : Option α) : Truth := compare (fun a b => decide (a ≤ b)) a b

def lt (a b : Option α) : Truth := compare (fun a b => decide (a < b)) a b

/-- `a BETWEEN low AND high` -/
def between (a low high : Option α) : Truth := (le low a).and (le a high)

end comparisons

/-! ## What passes -/

@[simp]
theorem passes_known (p : Bool) : passes (known p) = p := by
  cases p <;> rfl

@[simp]
theorem passes_and (s t : Truth) : passes (s.and t) = (passes s && passes t) := by
  rcases s with _ | (_ | _) <;> rcases t with _ | (_ | _) <;> rfl

@[simp]
theorem passes_or (s t : Truth) : passes (s.or t) = (passes s || passes t) := by
  rcases s with _ | (_ | _) <;> rcases t with _ | (_ | _) <;> rfl

/-- `IF NOT condition THEN RAISE` does not raise where the condition passes. -/
@[simp]
theorem holds_not (t : Truth) : holds t.not = !passes t := by
  rcases t with _ | (_ | _) <;> rfl

section comparisons

variable {α : Type}

@[simp]
theorem passes_isNull (a : Option α) : passes (isNull a) = true ↔ a = none := by
  unfold isNull
  rw [passes_known, Option.isNone_iff_eq_none]

@[simp]
theorem passes_isNotNull (a : Option α) : passes (isNotNull a) = a.isSome := passes_known _

/-- A comparison passes where one of its sides is NULL. -/
theorem passes_compare {r : α → α → Bool} {a b : Option α} :
    passes (compare r a b) = true ↔ ∀ x y, a = some x → b = some y → r x y = true := by
  cases a with
  | none => simp [compare, passes]
  | some x =>
    cases b with
    | none => simp [compare, passes]
    | some y =>
      unfold compare
      rw [passes_known]
      constructor
      · rintro related x' y' ⟨⟩ ⟨⟩
        exact related
      · intro related
        exact related x y rfl rfl

@[simp]
theorem passes_eq [DecidableEq α] {a b : Option α} :
    passes (eq a b) = true ↔ ∀ x y, a = some x → b = some y → x = y := by
  unfold eq
  simp only [passes_compare, decide_eq_true_eq]

variable [LinearOrder α]

@[simp]
theorem passes_le {a b : Option α} :
    passes (le a b) = true ↔ ∀ x y, a = some x → b = some y → x ≤ y := by
  unfold le
  simp only [passes_compare, decide_eq_true_eq]

@[simp]
theorem passes_lt {a b : Option α} :
    passes (lt a b) = true ↔ ∀ x y, a = some x → b = some y → x < y := by
  unfold lt
  simp only [passes_compare, decide_eq_true_eq]

end comparisons

end sql
