-- Asynchronous programs over a shared state. A program is a chain of synchronous
-- segments, and between two segments the segments of any other call can run. The
-- rules here are rely-guarantee rules: a proof about one program names what the
-- other calls can do, and `Discipline.run_holds` puts the proofs together for
-- every run of any number of calls.
import Mathlib.Logic.Relation

namespace async

open Relation

variable {κ σ ι α β : Type}

/-! ## Programs -/

/-- A program over the states `σ`. A segment starts once `ready` holds of the state. It
takes one answer of the world (the clock, the outcome of a request), changes the state with
`update`, and goes on as `next`. Both read the state as it was when the segment started. -/
inductive Prog (σ ι α : Type) where
  | settled (r : Except String α)
  | segment (ready : σ → Bool) (update : σ → ι → σ) (next : σ → ι → Prog σ ι α)

namespace Prog

def bind : Prog σ ι α → (α → Prog σ ι β) → Prog σ ι β
  | .settled (.ok a), f => f a
  | .settled (.error e), _ => .settled (.error e)
  | .segment ready update next, f => .segment ready update fun s i => (next s i).bind f

/-- `try p catch h`. -/
def orElse : Prog σ ι α → (String → Prog σ ι α) → Prog σ ι α
  | .settled (.ok a), _ => .settled (.ok a)
  | .settled (.error e), h => h e
  | .segment ready update next, h => .segment ready update fun s i => (next s i).orElse h

/-- `p`, and one more segment after it, whether it resolves or rejects. -/
def andThen : Prog σ ι α → (σ → ι → σ) → Prog σ ι α
  | .settled r, leave => .segment (fun _ => true) leave fun _ _ => .settled r
  | .segment ready update next, leave =>
    .segment ready update fun s i => (next s i).andThen leave

instance : Monad (Prog σ ι) where
  pure a := .settled (.ok a)
  bind := bind

/-- `throw new Error(message)`. -/
def fail (message : String) : Prog σ ι α := .settled (.error message)

/-- One segment that is always ready. -/
def step (f : σ → ι → Except String α × σ) : Prog σ ι α :=
  .segment (fun _ => true) (fun s i => (f s i).2) fun s i => .settled (f s i).1

/-- A segment that waits for `ready`. -/
def wait (ready : σ → Bool) (update : σ → ι → σ) : Prog σ ι Unit :=
  .segment ready update fun _ _ => .settled (.ok ())

/-- `tail.then(p)` on a promise queue: the call joins the queue, waits for its turn, and
leaves the queue when `p` settles. -/
def queued (join : σ → ι → σ) (turn : σ → Bool) (look leave : σ → ι → σ)
    (p : Prog σ ι α) : Prog σ ι α :=
  (step fun s i => (.ok (), join s i)).bind fun _ =>
    (wait turn look).bind fun _ => p.andThen leave

end Prog

/-! ## Runs -/

/-- The state, and every call so far with the rest of its program. A call is known by its
place in the list. -/
structure Pool (κ σ ι α : Type) where
  state : σ
  tasks : List (κ × Prog σ ι α)

/-- One turn of a run: a new call arrives, or the call at place `n` runs a segment. -/
inductive Turn (κ ι : Type) where
  | call (c : κ)
  | run (n : Nat) (i : ι)
  deriving DecidableEq

/-- `entry n c` is the program of the call `c` at place `n`, and `env` says which answers
the world can give in a state. -/
structure System (κ σ ι α : Type) where
  entry : Nat → κ → Prog σ ι α
  env : σ → ι → Bool

namespace System

def turn (S : System κ σ ι α) (pool : Pool κ σ ι α) : Turn κ ι → Option (Pool κ σ ι α)
  | .call c =>
    some { pool with tasks := pool.tasks ++ [(c, S.entry pool.tasks.length c)] }
  | .run n i =>
    match pool.tasks[n]? with
    | some (c, .segment ready update next) =>
      if ready pool.state && S.env pool.state i then
        some { state := update pool.state i, tasks := pool.tasks.set n (c, next pool.state i) }
      else none
    | _ => none

/-- The pool after a list of turns, if each of them can happen. -/
def run (S : System κ σ ι α) : Pool κ σ ι α → List (Turn κ ι) → Option (Pool κ σ ι α)
  | pool, [] => some pool
  | pool, t :: ts => (S.turn pool t).bind fun pool' => S.run pool' ts

/-- The pool after a list of turns that can happen and that all pass the test. -/
def runIf (S : System κ σ ι α) (test : Pool κ σ ι α → Pool κ σ ι α → Bool) :
    Pool κ σ ι α → List (Turn κ ι) → Option (Pool κ σ ι α)
  | pool, [] => some pool
  | pool, t :: ts => (S.turn pool t).bind fun pool' =>
      if test pool pool' then S.runIf test pool' ts else none

/-- The pool of a state that no call has touched. -/
def start (s : σ) : Pool κ σ ι α := { state := s, tasks := [] }

end System

/-! ## What a program does, whatever the others do -/

/-- The world of one call: the answers it can get, what holds whenever a segment starts,
what a segment of another call may do, and what its own segments may do. -/
structure Rules (σ ι : Type) where
  env : σ → ι → Prop
  inv : σ → Prop
  rely : σ → σ → Prop
  guar : σ → σ → Prop

/-- No segment of another call breaks `P`. -/
def Stable (T : Rules σ ι) (P : σ → Prop) : Prop := ∀ s s', T.rely s s' → P s → P s'

/-- From the state `s`, each segment of the program keeps the guarantee, and the program
resolves only with `Q` and rejects only with `E`. -/
def Holds (T : Rules σ ι) (Q : α → σ → Prop) (E : String → σ → Prop) :
    Prog σ ι α → σ → Prop
  | .settled (.ok a), s => Q a s
  | .settled (.error e), s => E e s
  | .segment ready update next, s => ∀ s', ReflTransGen T.rely s s' → T.inv s' →
      ready s' = true → ∀ i, T.env s' i →
        T.guar s' (update s' i) ∧ Holds T Q E (next s' i) (update s' i)

def Triple (T : Rules σ ι) (P : σ → Prop) (p : Prog σ ι α) (Q : α → σ → Prop)
    (E : String → σ → Prop) : Prop := ∀ s, P s → Holds T Q E p s

section rules

variable {T : Rules σ ι} {P P' : σ → Prop} {Q Q' : α → σ → Prop} {E E' : String → σ → Prop}

theorem Stable.many {s s' : σ} (h : Stable T P) (hr : ReflTransGen T.rely s s') (hp : P s) :
    P s' := by
  induction hr with
  | refl => exact hp
  | tail _ hlast ih => exact h _ _ hlast ih

theorem Stable.and (h : Stable T P) (h' : Stable T P') : Stable T fun s => P s ∧ P' s :=
  fun s s' hr hp => ⟨h s s' hr hp.1, h' s s' hr hp.2⟩

theorem Stable.all {γ : Type} {F : γ → σ → Prop} (h : ∀ x, Stable T (F x)) :
    Stable T fun s => ∀ x, F x s := fun s s' hr hp x => h x s s' hr (hp x)

theorem Stable.const (p : Prop) : Stable T fun _ => p := fun _ _ _ hp => hp

/-- A settled program, and a program that waits, both outlive a segment of another call. -/
theorem holds_rely {p : Prog σ ι α} {s s' : σ} (hQ : ∀ a, Stable T (Q a))
    (hE : ∀ e, Stable T (E e)) (hr : T.rely s s') (h : Holds T Q E p s) :
    Holds T Q E p s' := by
  cases p with
  | settled r =>
    cases r with
    | ok a => exact hQ a s s' hr h
    | error e => exact hE e s s' hr h
  | segment ready update next => exact fun s'' hr' => h s'' (hr'.head hr)

theorem holds_imp {p : Prog σ ι α} (hQ : ∀ a s, Q a s → Q' a s) (hE : ∀ e s, E e s → E' e s) :
    ∀ {s}, Holds T Q E p s → Holds T Q' E' p s := by
  induction p with
  | settled r =>
    intro s h
    cases r with
    | ok a => exact hQ a s h
    | error e => exact hE e s h
  | segment ready update next ih =>
    intro s h s' hr hi hready i henv
    obtain ⟨hg, hn⟩ := h s' hr hi hready i henv
    exact ⟨hg, ih s' i hn⟩

theorem holds_bind {p : Prog σ ι α} {f : α → Prog σ ι β} {R : β → σ → Prop}
    (hf : ∀ a, Triple T (Q a) (f a) R E) :
    ∀ {s}, Holds T Q E p s → Holds T R E (p.bind f) s := by
  induction p with
  | settled r =>
    intro s h
    cases r with
    | ok a => exact hf a s h
    | error e => exact h
  | segment ready update next ih =>
    intro s h s' hr hi hready i henv
    obtain ⟨hg, hn⟩ := h s' hr hi hready i henv
    exact ⟨hg, ih s' i hn⟩

theorem holds_orElse {p : Prog σ ι α} {f : String → Prog σ ι α}
    (hf : ∀ e, Triple T (E e) (f e) Q E') :
    ∀ {s}, Holds T Q E p s → Holds T Q E' (p.orElse f) s := by
  induction p with
  | settled r =>
    intro s h
    cases r with
    | ok a => exact h
    | error e => exact hf e s h
  | segment ready update next ih =>
    intro s h s' hr hi hready i henv
    obtain ⟨hg, hn⟩ := h s' hr hi hready i henv
    exact ⟨hg, ih s' i hn⟩

/-- A triple from a stable assertion may assume the invariant at the start of a segment. -/
theorem Triple.segment {ready : σ → Bool} {update : σ → ι → σ} {next : σ → ι → Prog σ ι α}
    (hP : Stable T P)
    (h : ∀ s i, P s → T.inv s → ready s = true → T.env s i →
      T.guar s (update s i) ∧ Holds T Q E (next s i) (update s i)) :
    Triple T P (.segment ready update next) Q E :=
  fun _ hp s' hr hi hready i henv => h s' i (hP.many hr hp) hi hready henv

theorem Triple.step {f : σ → ι → Except String α × σ} (hP : Stable T P)
    (h : ∀ s i, P s → T.inv s → T.env s i → T.guar s (f s i).2 ∧
      match (f s i).1 with
      | .ok a => Q a (f s i).2
      | .error e => E e (f s i).2) :
    Triple T P (Prog.step f) Q E := by
  refine Triple.segment hP fun s i hp hi _ henv => ?_
  obtain ⟨hg, hr⟩ := h s i hp hi henv
  refine ⟨hg, ?_⟩
  cases hf : (f s i).1 with
  | ok a => rw [hf] at hr; exact hr
  | error e => rw [hf] at hr; exact hr

theorem Triple.pure {a : α} (h : ∀ s, P s → Q a s) :
    Triple T P (Pure.pure a : Prog σ ι α) Q E := h

theorem Triple.fail {e : String} (h : ∀ s, P s → E e s) :
    Triple T P (Prog.fail e : Prog σ ι α) Q E := h

theorem Triple.bind {p : Prog σ ι α} {f : α → Prog σ ι β} {R : β → σ → Prop}
    (hp : Triple T P p Q E) (hf : ∀ a, Triple T (Q a) (f a) R E) :
    Triple T P (p >>= f) R E := fun s h => holds_bind hf (hp s h)

theorem Triple.orElse {p : Prog σ ι α} {f : String → Prog σ ι α}
    (hp : Triple T P p Q E) (hf : ∀ e, Triple T (E e) (f e) Q E') :
    Triple T P (p.orElse f) Q E' := fun s h => holds_orElse hf (hp s h)

theorem Triple.imp {p : Prog σ ι α} (hp : Triple T P p Q E) (hP : ∀ s, P' s → P s)
    (hQ : ∀ a s, Q a s → Q' a s) (hE : ∀ e s, E e s → E' e s) : Triple T P' p Q' E' :=
  fun s h => holds_imp hQ hE (hp s (hP s h))

theorem Triple.pre {p : Prog σ ι α} (hp : Triple T P p Q E) (hP : ∀ s, P' s → P s) :
    Triple T P' p Q E := fun s h => hp s (hP s h)

/-- `bind`, where a fact about the value of the first part needs no state. -/
theorem Triple.bindFact {p : Prog σ ι α} {f : α → Prog σ ι β} {R : β → σ → Prop} {F : α → Prop}
    (hp : Triple T P p (fun a s => Q a s ∧ F a) E) (hf : ∀ a, F a → Triple T (Q a) (f a) R E) :
    Triple T P (p >>= f) R E :=
  Triple.bind hp fun a s h => hf a h.2 s h.1

/-- A fact that no state decides can be taken out of an assertion. -/
theorem Triple.given {p : Prog σ ι α} {q : Prop} (hq : ∀ s, P s → q)
    (h : q → Triple T P p Q E) : Triple T P p Q E := fun s hp => h (hq s hp) s hp

theorem Triple.exists {γ : Type} {A : γ → σ → Prop} {p : Prog σ ι α}
    (h : ∀ x, Triple T (A x) p Q E) : Triple T (fun s => ∃ x, A x s) p Q E :=
  fun s ⟨x, hx⟩ => h x s hx

/-- A proof that guarantees nothing adds its assertions to one that keeps the guarantee. -/
theorem holds_and {G : σ → σ → Prop} {p : Prog σ ι α} :
    ∀ {s}, Holds T Q E p s → Holds { T with guar := G } Q' E' p s →
      Holds T (fun a s => Q a s ∧ Q' a s) (fun e s => E e s ∧ E' e s) p s := by
  induction p with
  | settled r =>
    intro s h h'
    cases r with
    | ok a => exact ⟨h, h'⟩
    | error e => exact ⟨h, h'⟩
  | segment ready update next ih =>
    intro s h h' s' hr hi hready i henv
    obtain ⟨hg, hn⟩ := h s' hr hi hready i henv
    exact ⟨hg, ih s' i hn (h' s' hr hi hready i henv).2⟩

/-- A program keeps to nothing at all. -/
theorem holds_nothing {p : Prog σ ι α} :
    ∀ {s}, Holds { T with guar := fun _ _ => True } (fun _ _ => True) (fun _ _ => True) p s := by
  induction p with
  | settled r =>
    intro s
    cases r with
    | ok a => trivial
    | error e => trivial
  | segment ready update next ih => exact fun s' _ _ _ i _ => ⟨trivial, ih s' i⟩

/-- The guarantee of a proof can be weakened. -/
theorem holds_guar {G : σ → σ → Prop} (hG : ∀ s s', T.guar s s' → G s s') {p : Prog σ ι α} :
    ∀ {s}, Holds T Q E p s → Holds { T with guar := G } Q E p s := by
  induction p with
  | settled r =>
    intro s h
    cases r with
    | ok a => exact h
    | error e => exact h
  | segment ready update next ih =>
    intro s h s' hr hi hready i henv
    obtain ⟨hg, hn⟩ := h s' hr hi hready i henv
    exact ⟨hG _ _ hg, ih s' i hn⟩

theorem holds_andThen {p : Prog σ ι α} {leave : σ → ι → σ}
    (hQ : ∀ a, Stable T (Q a)) (hE : ∀ e, Stable T (E e))
    (hq : ∀ a s i, Q a s → T.inv s → T.env s i → T.guar s (leave s i) ∧ Q' a (leave s i))
    (he : ∀ e s i, E e s → T.inv s → T.env s i → T.guar s (leave s i) ∧ E' e (leave s i)) :
    ∀ {s}, Holds T Q E p s → Holds T Q' E' (p.andThen leave) s := by
  induction p with
  | settled r =>
    intro s h
    cases r with
    | ok a => exact fun s' hr hi _ i henv => hq a s' i ((hQ a).many hr h) hi henv
    | error e => exact fun s' hr hi _ i henv => he e s' i ((hE e).many hr h) hi henv
  | segment ready update next ih =>
    intro s h s' hr hi hready i henv
    obtain ⟨hg, hn⟩ := h s' hr hi hready i henv
    exact ⟨hg, ih s' i hn⟩

/-- The rule of a promise queue. `A` holds until the call joins, `W` while it waits, and `C`
once it has its turn. -/
theorem Triple.queued {A W C : σ → Prop} {join look leave : σ → ι → σ} {turn : σ → Bool}
    {p : Prog σ ι α} (hA : Stable T A) (hW : Stable T W)
    (hjoin : ∀ s i, A s → T.inv s → T.env s i → T.guar s (join s i) ∧ W (join s i))
    (hturn : ∀ s i, W s → T.inv s → turn s = true → T.env s i →
      T.guar s (look s i) ∧ C (look s i))
    (hp : Triple T C p Q E) (hQ : ∀ a, Stable T (Q a)) (hE : ∀ e, Stable T (E e))
    (hq : ∀ a s i, Q a s → T.inv s → T.env s i → T.guar s (leave s i) ∧ Q' a (leave s i))
    (he : ∀ e s i, E e s → T.inv s → T.env s i → T.guar s (leave s i) ∧ E' e (leave s i)) :
    Triple T A (Prog.queued join turn look leave p) Q' E' := by
  refine Triple.segment hA fun s i ha hi _ henv => ?_
  obtain ⟨hg, hw⟩ := hjoin s i ha hi henv
  refine ⟨hg, ?_⟩
  have hwait : Triple T W ((Prog.wait turn look).bind fun _ => p.andThen leave) Q' E' :=
    Triple.segment hW fun s i hw hi hready henv => by
      obtain ⟨hg, hc⟩ := hturn s i hw hi hready henv
      exact ⟨hg, holds_andThen hQ hE hq he (hp _ hc)⟩
  exact hwait _ hw

end rules

/-! ## Every run -/

/-- A way to prove something of every run of a system. `inv n` holds of the state when `n`
calls have arrived, `guar n` is what a segment of the call at place `n` can do, and `ok` and
`err` are what each call keeps to when it settles. -/
structure Discipline (S : System κ σ ι α) where
  inv : Nat → σ → Prop
  guar : Nat → σ → σ → Prop
  ok : Nat → κ → α → σ → Prop
  err : Nat → κ → String → σ → Prop
  inv_call : ∀ {n s}, inv n s → inv (n + 1) s
  inv_step : ∀ {m n s s'}, m < n → inv n s → guar m s s' → inv n s'

namespace Discipline

variable {S : System κ σ ι α}

/-- The world of the call at place `n`: the others keep to their guarantees. -/
def rules (D : Discipline S) (n : Nat) : Rules σ ι where
  env s i := S.env s i = true
  inv s := ∃ k, n < k ∧ D.inv k s
  rely s s' := ∃ m k, m ≠ n ∧ m < k ∧ D.inv k s ∧ D.guar m s s'
  guar := D.guar n

/-- Each call keeps its side, from any state that keeps the invariant. -/
structure Sound (D : Discipline S) : Prop where
  ok_stable : ∀ n c a, Stable (D.rules n) (D.ok n c a)
  err_stable : ∀ n c e, Stable (D.rules n) (D.err n c e)
  entry : ∀ n c s, D.inv n s → Holds (D.rules n) (D.ok n c) (D.err n c) (S.entry n c) s

/-- What the proofs of the single calls give of a pool. -/
structure Sure (D : Discipline S) (pool : Pool κ σ ι α) : Prop where
  inv : D.inv pool.tasks.length pool.state
  tasks : ∀ n c p, pool.tasks[n]? = some (c, p) →
    Holds (D.rules n) (D.ok n c) (D.err n c) p pool.state

variable {D : Discipline S} {pool pool' : Pool κ σ ι α}

theorem sure_start {s : σ} (h : D.inv 0 s) : D.Sure (System.start s) where
  inv := h
  tasks n c p hn := by simp [System.start] at hn

theorem sure_call (hD : D.Sound) (c : κ) (h : D.Sure pool) :
    D.Sure { pool with tasks := pool.tasks ++ [(c, S.entry pool.tasks.length c)] } where
  inv := by simpa using D.inv_call h.inv
  tasks n c' p hn := by
    rcases Nat.lt_or_ge n pool.tasks.length with hlt | hge
    · rw [List.getElem?_append_left hlt] at hn
      exact h.tasks n c' p hn
    · have hlen := (List.getElem?_eq_some_iff.mp hn).1
      simp only [List.length_append, List.length_singleton] at hlen
      obtain rfl : n = pool.tasks.length := by omega
      simp only [List.getElem?_concat_length, Option.some.injEq, Prod.mk.injEq] at hn
      obtain ⟨rfl, rfl⟩ := hn
      exact hD.entry _ _ _ h.inv

/-- A segment that a call can run keeps its guarantee. -/
theorem Sure.guar (h : D.Sure pool) {n : Nat} {c : κ} {i : ι} {ready : σ → Bool}
    {update : σ → ι → σ} {next : σ → ι → Prog σ ι α}
    (hn : pool.tasks[n]? = some (c, .segment ready update next))
    (hr : ready pool.state = true) (he : S.env pool.state i = true) :
    D.guar n pool.state (update pool.state i) ∧
      Holds (D.rules n) (D.ok n c) (D.err n c) (next pool.state i) (update pool.state i) :=
  h.tasks n c _ hn _ .refl ⟨_, (List.getElem?_eq_some_iff.mp hn).1, h.inv⟩ hr i he

theorem sure_segment (hD : D.Sound) (h : D.Sure pool) {n : Nat} {c : κ} {i : ι}
    {ready : σ → Bool} {update : σ → ι → σ} {next : σ → ι → Prog σ ι α}
    (hn : pool.tasks[n]? = some (c, .segment ready update next))
    (hr : ready pool.state = true) (he : S.env pool.state i = true) :
    D.Sure { state := update pool.state i,
             tasks := pool.tasks.set n (c, next pool.state i) } := by
  have hlt : n < pool.tasks.length := (List.getElem?_eq_some_iff.mp hn).1
  obtain ⟨hg, hrest⟩ := h.guar hn hr he
  refine ⟨by simpa using D.inv_step hlt h.inv hg, fun m c' p hm => ?_⟩
  by_cases hmn : m = n
  · subst hmn
    simp only [List.getElem?_set_self hlt, Option.some.injEq, Prod.mk.injEq] at hm
    obtain ⟨rfl, rfl⟩ := hm
    exact hrest
  · rw [List.getElem?_set_ne (Ne.symm hmn)] at hm
    exact holds_rely (hD.ok_stable m c') (hD.err_stable m c')
      ⟨n, _, Ne.symm hmn, hlt, h.inv, hg⟩ (h.tasks m c' p hm)

theorem sure_turn (hD : D.Sound) (h : D.Sure pool) {t : Turn κ ι}
    (ht : S.turn pool t = some pool') : D.Sure pool' := by
  cases t with
  | call c =>
    obtain rfl : _ = pool' := by simpa [System.turn] using ht
    exact sure_call hD c h
  | run n i =>
    simp only [System.turn] at ht
    split at ht
    · rename_i c ready update next hn
      split at ht
      · rename_i hc
        rw [Bool.and_eq_true] at hc
        obtain rfl : _ = pool' := by simpa using ht
        exact sure_segment hD h hn hc.1 hc.2
      · cases ht
    · cases ht

/-- The run lemma: a pool that is sure stays sure for any turns. -/
theorem run_holds (hD : D.Sound) {ts : List (Turn κ ι)} (h : D.Sure pool)
    (ht : S.run pool ts = some pool') : D.Sure pool' := by
  induction ts generalizing pool with
  | nil =>
    obtain rfl : pool = pool' := by simpa [System.run] using ht
    exact h
  | cons t ts ih =>
    simp only [System.run, Option.bind_eq_some_iff] at ht
    obtain ⟨mid, h1, h2⟩ := ht
    exact ih (sure_turn hD h h1) h2

/-- A segment that a run contains keeps the guarantee of its call. -/
theorem turn_guar (h : D.Sure pool) {n : Nat} {i : ι} (ht : S.turn pool (.run n i) = some pool') :
    D.guar n pool.state pool'.state := by
  simp only [System.turn] at ht
  split at ht
  · rename_i c ready update next hn
    split at ht
    · rename_i hc
      rw [Bool.and_eq_true] at hc
      obtain rfl : _ = pool' := by simpa using ht
      exact (h.guar hn hc.1 hc.2).1
    · cases ht
  · cases ht

/-- What no segment of any call breaks holds in the whole run. -/
theorem run_keeps (hD : D.Sound) {J : σ → Prop}
    (hJ : ∀ m n s s', m < n → D.inv n s → D.guar m s s' → J s → J s')
    {ts : List (Turn κ ι)} (h : D.Sure pool) (hj : J pool.state)
    (ht : S.run pool ts = some pool') : J pool'.state := by
  induction ts generalizing pool with
  | nil =>
    obtain rfl : pool = pool' := by simpa [System.run] using ht
    exact hj
  | cons t ts ih =>
    simp only [System.run, Option.bind_eq_some_iff] at ht
    obtain ⟨mid, h1, h2⟩ := ht
    refine ih (sure_turn hD h h1) ?_ h2
    cases t with
    | call c =>
      obtain rfl : _ = mid := by simpa [System.turn] using h1
      exact hj
    | run n i =>
      have hn : n < pool.tasks.length := Nat.lt_of_not_le fun hge => by
        simp [System.turn, List.getElem?_eq_none hge] at h1
      exact hJ n _ _ _ hn h.inv (turn_guar h h1) hj

/-- What every turn that passes the test keeps holds in a run of such turns. -/
theorem runIf_keeps (hD : D.Sound) {test : Pool κ σ ι α → Pool κ σ ι α → Bool}
    {J : Pool κ σ ι α → Prop}
    (hJ : ∀ pool pool' t, D.Sure pool → S.turn pool t = some pool' → test pool pool' = true →
      J pool → J pool')
    {ts : List (Turn κ ι)} (h : D.Sure pool) (hj : J pool)
    (ht : S.runIf test pool ts = some pool') : D.Sure pool' ∧ J pool' := by
  induction ts generalizing pool with
  | nil =>
    obtain rfl : pool = pool' := by simpa [System.runIf] using ht
    exact ⟨h, hj⟩
  | cons t ts ih =>
    simp only [System.runIf, Option.bind_eq_some_iff] at ht
    obtain ⟨mid, h1, h2⟩ := ht
    split at h2
    · rename_i htest
      exact ih (sure_turn hD h h1) (hJ pool mid t h h1 htest hj) h2
    · cases h2

theorem Sure.ok (h : D.Sure pool) {n : Nat} {c : κ} {a : α}
    (hn : pool.tasks[n]? = some (c, .settled (.ok a))) : D.ok n c a pool.state :=
  h.tasks n c _ hn

theorem Sure.err (h : D.Sure pool) {n : Nat} {c : κ} {e : String}
    (hn : pool.tasks[n]? = some (c, .settled (.error e))) : D.err n c e pool.state :=
  h.tasks n c _ hn

end Discipline

end async
