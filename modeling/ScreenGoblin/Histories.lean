-- Histories: what a machine went through, entry by entry. A machine takes one move after the
-- other and answers each. A law about two entries and what lies between them is a walk from
-- the state after the first to the state before the second.

namespace histories

variable {σ ι ο : Type}

/-- One step of a history. -/
structure Entry (σ ι ο : Type) where
  before : σ
  move : ι
  answer : ο
  after : σ

variable (step : ι → σ → ο × σ)

def entry (s : σ) (m : ι) : Entry σ ι ο := ⟨s, m, (step m s).1, (step m s).2⟩

/-- The entries of the moves, from the state `s`. -/
def trace (s : σ) : List ι → List (Entry σ ι ο)
  | [] => []
  | m :: ms => entry step s m :: trace (step m s).2 ms

def final (s : σ) : List ι → σ
  | [] => s
  | m :: ms => final (step m s).2 ms

/-! ## Parts of a history -/

variable {step}

@[simp]
theorem entry_after (s : σ) (m : ι) : (entry step s m).after = (step m s).2 := rfl

/-- A history that comes in two parts is two histories, one after the other. -/
theorem trace_append {past rest : List (Entry σ ι ο)} {ms : List ι} {s : σ}
    (split : trace step s ms = past ++ rest) :
    ∃ early late, ms = early ++ late ∧ trace step s early = past ∧
      trace step (final step s early) late = rest := by
  induction past generalizing s ms with
  | nil => exact ⟨[], ms, rfl, rfl, split⟩
  | cons e past ih =>
    cases ms with
    | nil => cases split
    | cons m ms =>
      rw [trace, List.cons_append, List.cons.injEq] at split
      obtain ⟨first, more⟩ := split
      obtain ⟨early, late, same, old, new⟩ := ih more
      refine ⟨m :: early, late, by rw [same, List.cons_append], ?_, new⟩
      rw [trace, first, old]

/-- An entry of a history is what the step does in the state that the past ends in. -/
theorem trace_cons {e : Entry σ ι ο} {rest : List (Entry σ ι ο)} {ms : List ι} {s : σ}
    (split : trace step s ms = e :: rest) :
    e = entry step s e.move ∧ ∃ late, trace step e.after late = rest := by
  cases ms with
  | nil => cases split
  | cons m ms =>
    rw [trace, List.cons.injEq] at split
    obtain ⟨rfl, more⟩ := split
    exact ⟨rfl, ms, more⟩

/-- Two entries of a history: the moves between them lead from the end of the first to the start
of the second. -/
theorem trace_between {past between rest : List (Entry σ ι ο)} {e e' : Entry σ ι ο} {ms : List ι}
    {s : σ} (split : trace step s ms = past ++ e :: (between ++ e' :: rest)) :
    ∃ t, e = entry step t e.move ∧ ∃ moves, trace step e.after moves = between ∧
      e' = entry step (final step e.after moves) e'.move := by
  obtain ⟨early, late, _, _, first⟩ := trace_append split
  obtain ⟨shown, more, later⟩ := trace_cons first
  obtain ⟨moves, last, _, middle, second⟩ := trace_append later
  exact ⟨_, shown, moves, middle, (trace_cons second).1⟩

/-! ## Walks -/

section walks

variable {P Q B : σ → Prop} {E : Entry σ ι ο → Prop}

theorem final_keeps (keeps : ∀ s m, P s → P (step m s).2) :
    ∀ (ms : List ι) (s : σ), P s → P (final step s ms) := by
  intro ms
  induction ms with
  | nil =>
    intro s holds
    exact holds
  | cons m ms ih =>
    intro s holds
    exact ih _ (keeps s m holds)

/-- Moves of one kind keep `P`, and so does a history with no other moves. -/
theorem final_keeps_while {allowed : ι → Prop}
    (keeps : ∀ s m, allowed m → P s → P (step m s).2) :
    ∀ (ms : List ι) (s : σ), (∀ e ∈ trace step s ms, allowed e.move) → P s →
      P (final step s ms) := by
  intro ms
  induction ms with
  | nil =>
    intro s _ holds
    exact holds
  | cons m ms ih =>
    intro s all holds
    refine ih _ (fun e he => all e (List.mem_cons_of_mem _ he)) (keeps s m ?_ holds)
    exact all (entry step s m) List.mem_cons_self

theorem trace_keeps (keeps : ∀ s m, P s → P (step m s).2) :
    ∀ (ms : List ι) (s : σ), P s → ∀ e ∈ trace step s ms, P e.before := by
  intro ms
  induction ms with
  | nil =>
    intro s _ e he
    cases he
  | cons m ms ih =>
    intro s holds e he
    rcases List.mem_cons.mp he with rfl | later
    · exact holds
    · exact ih _ (keeps s m holds) e later

/-- What each step does, each entry shows. -/
theorem trace_all (each : ∀ s m, E (entry step s m)) :
    ∀ (ms : List ι) (s : σ), ∀ e ∈ trace step s ms, E e := by
  intro ms
  induction ms with
  | nil =>
    intro s e he
    cases he
  | cons m ms ih =>
    intro s e he
    rcases List.mem_cons.mp he with rfl | later
    · exact each s m
    · exact ih _ e later

/-- What an entry has to do with each later one. -/
theorem trace_pairwise {R : Entry σ ι ο → Entry σ ι ο → Prop}
    (each : ∀ s m ms, ∀ e ∈ trace step (step m s).2 ms, R (entry step s m) e) :
    ∀ (ms : List ι) (s : σ), (trace step s ms).Pairwise R := by
  intro ms
  induction ms with
  | nil =>
    intro s
    exact List.Pairwise.nil
  | cons m ms ih =>
    intro s
    exact List.Pairwise.cons (each s m ms) (ih _)

/-- The only way out of `P` to a place that is not beyond is through an entry of the kind `E`. -/
theorem passes_through
    (stays : ∀ s m, P s → P (step m s).2 ∨ B (step m s).2 ∨
      (E (entry step s m) ∧ Q (step m s).2))
    (beyond : ∀ s m, B s → B (step m s).2) :
    ∀ (ms : List ι) (s : σ), P s → P (final step s ms) ∨ B (final step s ms) ∨
      ∃ past e more, trace step s ms = past ++ e :: trace step e.after more ∧
        final step s ms = final step e.after more ∧ E e ∧ Q e.after := by
  intro ms
  induction ms with
  | nil =>
    intro s holds
    exact .inl holds
  | cons m ms ih =>
    intro s holds
    rcases stays s m holds with still | out | ⟨through, arrived⟩
    · rcases ih _ still with stays' | out | ⟨past, e, more, split, reached, through, arrived⟩
      · exact .inl stays'
      · exact .inr (.inl out)
      · refine .inr (.inr ⟨entry step s m :: past, e, more, ?_, reached, through, arrived⟩)
        rw [trace, split, List.cons_append]
    · exact .inr (.inl (final_keeps beyond ms _ out))
    · exact .inr (.inr ⟨[], entry step s m, ms, rfl, rfl, through, arrived⟩)

end walks

end histories
