-- Scripts: programs that read and change a state, and can stop on the way. What a script
-- changed before it stopped stays changed. A proof about a script goes from its end to its
-- start with the rules of `Gives`, and `Stays` follows from the shape of the script alone.
import Mathlib.Order.Defs.Unbundled

namespace scripts

variable {σ ε α β κ : Type}

/-- A program over the states `σ` that returns a value or stops for a reason. -/
def Script (σ ε α : Type) := σ → Except ε α × σ

namespace Script

def bind (m : Script σ ε α) (f : α → Script σ ε β) : Script σ ε β := fun s =>
  match m s with
  | (.ok a, s') => f a s'
  | (.error e, s') => (.error e, s')

instance : Monad (Script σ ε) where
  pure a := fun s => (.ok a, s)
  bind := bind

def stop (e : ε) : Script σ ε α := fun s => (.error e, s)

/-- A value that the state decides. -/
def look (f : σ → α) : Script σ ε α := fun s => (.ok (f s), s)

def change (f : σ → σ) : Script σ ε Unit := fun s => (.ok (), f s)

/-- A value that the state decides, with a change of the state. -/
def draw (f : σ → α) (g : σ → σ) : Script σ ε α := fun s => (.ok (f s), g s)

/-- A check outside the state. -/
def lift (r : Except ε α) : Script σ ε α := fun s => (r, s)

def ensure (test : Bool) (e : ε) : Script σ ε Unit := if test then pure () else stop e

/-- One run for each element, in order. -/
def each (f : α → Script σ ε β) : List α → Script σ ε (List β)
  | [] => pure []
  | a :: rest => do
    let b ← f a
    let bs ← each f rest
    return b :: bs

end Script

open Script

/-! ## What a script gives -/

/-- From `s`, the script returns only with `Q` and stops only with `E`. -/
structure Gives (Q : α → σ → Prop) (E : ε → σ → Prop) (m : Script σ ε α) (s : σ) : Prop where
  ok : ∀ {a s'}, m s = (.ok a, s') → Q a s'
  error : ∀ {e s'}, m s = (.error e, s') → E e s'

section rules

variable {Q Q' : α → σ → Prop} {E E' : ε → σ → Prop} {R : β → σ → Prop} {s s' : σ}

theorem gives_of_ok {m : Script σ ε α} {a : α} (ran : m s = (.ok a, s')) :
    Gives Q E m s ↔ Q a s' := by
  constructor
  · intro h
    exact h.ok ran
  · intro h
    refine ⟨?_, ?_⟩
    · intro b t ran'
      rw [ran] at ran'
      cases ran'
      exact h
    · intro e t ran'
      rw [ran] at ran'
      cases ran'

theorem gives_of_error {m : Script σ ε α} {e : ε} (ran : m s = (.error e, s')) :
    Gives Q E m s ↔ E e s' := by
  constructor
  · intro h
    exact h.error ran
  · intro h
    refine ⟨?_, ?_⟩
    · intro a t ran'
      rw [ran] at ran'
      cases ran'
    · intro e' t ran'
      rw [ran] at ran'
      cases ran'
      exact h

@[simp]
theorem gives_pure {a : α} : Gives Q E (pure a) s ↔ Q a s := gives_of_ok rfl

@[simp]
theorem gives_bind {m : Script σ ε α} {f : α → Script σ ε β} :
    Gives R E (m >>= f) s ↔ Gives (fun a s' => Gives R E (f a) s') E m s := by
  show Gives R E (m.bind f) s ↔ _
  rcases ran : m s with ⟨r, s'⟩
  cases r with
  | ok a =>
    have rest : m.bind f s = f a s' := by
      unfold Script.bind
      rw [ran]
    rw [gives_of_ok ran]
    exact ⟨fun h => ⟨fun ran' => h.ok (rest.trans ran'), fun ran' => h.error (rest.trans ran')⟩,
      fun h => ⟨fun ran' => h.ok (rest.symm.trans ran'),
        fun ran' => h.error (rest.symm.trans ran')⟩⟩
  | error e =>
    have rest : m.bind f s = (.error e, s') := by
      unfold Script.bind
      rw [ran]
    rw [gives_of_error ran, gives_of_error rest]

@[simp]
theorem gives_stop {e : ε} : Gives Q E (stop e : Script σ ε α) s ↔ E e s := gives_of_error rfl

@[simp]
theorem gives_look {f : σ → α} : Gives Q E (look f : Script σ ε α) s ↔ Q (f s) s :=
  gives_of_ok rfl

@[simp]
theorem gives_change {Q : Unit → σ → Prop} {f : σ → σ} :
    Gives Q E (change f : Script σ ε Unit) s ↔ Q () (f s) := gives_of_ok rfl

@[simp]
theorem gives_draw {f : σ → α} {g : σ → σ} :
    Gives Q E (draw f g : Script σ ε α) s ↔ Q (f s) (g s) := gives_of_ok rfl

@[simp]
theorem gives_ensure {Q : Unit → σ → Prop} {test : Bool} {e : ε} :
    Gives Q E (ensure test e) s ↔ (test = true → Q () s) ∧ (test = false → E e s) := by
  cases test <;> simp [ensure]

theorem gives_lift {r : Except ε α} :
    Gives Q E (lift r) s ↔ (∀ a, r = .ok a → Q a s) ∧ (∀ e, r = .error e → E e s) := by
  cases r with
  | ok a => simp [gives_of_ok (show lift (.ok a) s = (.ok a, s) from rfl)]
  | error e => simp [gives_of_error (show lift (.error e) s = (.error e, s) from rfl)]

theorem Gives.imp {m : Script σ ε α} (h : Gives Q E m s) (hQ : ∀ a s', Q a s' → Q' a s')
    (hE : ∀ e s', E e s' → E' e s') : Gives Q' E' m s :=
  ⟨fun ran => hQ _ _ (h.ok ran), fun ran => hE _ _ (h.error ran)⟩

theorem Gives.and {m : Script σ ε α} (h : Gives Q E m s) (h' : Gives Q' E' m s) :
    Gives (fun a s' => Q a s' ∧ Q' a s') (fun e s' => E e s' ∧ E' e s') m s :=
  ⟨fun ran => ⟨h.ok ran, h'.ok ran⟩, fun ran => ⟨h.error ran, h'.error ran⟩⟩

end rules

/-! ## Scripts that stay within a relation -/

section within

variable (r : σ → σ → Prop)

/-- The script ends in a state that the relation allows. -/
def Stays (m : Script σ ε α) : Prop := ∀ s, r s (m s).2

variable {r} {m : Script σ ε α} {f : α → Script σ ε β}

theorem Stays.gives (stays : Stays r m) (s : σ) :
    Gives (fun _ s' => r s s') (fun _ s' => r s s') m s := by
  refine ⟨?_, ?_⟩
  · intro a s' ran
    have kept := stays s
    rwa [ran] at kept
  · intro e s' ran
    have kept := stays s
    rwa [ran] at kept

section

variable [Std.Refl r]

theorem stays_pure (a : α) : Stays r (pure a : Script σ ε α) := fun s => Std.Refl.refl s

theorem stays_stop (e : ε) : Stays r (stop e : Script σ ε α) := fun s => Std.Refl.refl s

theorem stays_look (f : σ → α) : Stays r (look f : Script σ ε α) := fun s => Std.Refl.refl s

theorem stays_lift (x : Except ε α) : Stays r (lift x : Script σ ε α) := fun s => Std.Refl.refl s

theorem stays_ensure (test : Bool) (e : ε) : Stays r (ensure test e : Script σ ε Unit) := by
  unfold ensure
  split
  · exact stays_pure ()
  · exact stays_stop e

end

section

variable [IsTrans σ r]

theorem stays_bind (first : Stays r m) (rest : ∀ a, Stays r (f a)) : Stays r (m >>= f) := by
  intro s
  show r s ((m.bind f) s).2
  have kept := first s
  unfold Script.bind
  split
  · rename_i a s' ran
    rw [ran] at kept
    exact IsTrans.trans _ _ _ kept (rest a s')
  · rename_i e s' ran
    rw [ran] at kept
    exact kept

theorem stays_each [Std.Refl r] {f : α → Script σ ε β} (step : ∀ a, Stays r (f a)) (l : List α) :
    Stays r (each f l) := by
  induction l with
  | nil => exact stays_pure []
  | cons a l ih =>
    exact stays_bind (step a) fun b => stays_bind ih fun bs => stays_pure (b :: bs)

/-- The rest of a script can speak of the state before the checks that it starts with. -/
theorem gives_after {Q : β → σ → Prop} {E : ε → σ → Prop} {s s0 : σ} (stays : Stays r m)
    (before : r s0 s) (stops : ∀ e s', r s0 s' → E e s')
    (rest : ∀ a s', r s0 s' → Gives Q E (f a) s') : Gives Q E (m >>= f) s := by
  rw [gives_bind]
  refine (stays.gives s).imp ?_ ?_
  · intro a s' kept
    exact rest a s' (IsTrans.trans _ _ _ before kept)
  · intro e s' kept
    exact stops e s' (IsTrans.trans _ _ _ before kept)

end

end within

end scripts
