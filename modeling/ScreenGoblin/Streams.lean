-- Transform streams as Node runs them. A source is piped into a transform chunk by chunk, and what
-- every chunk preserves holds where the run stops.

namespace stream

/-! ## Transform streams -/

/-- A transform stream of Node: what each chunk does to the state and what it pushes, and what is
pushed at the end. An error is a callback with an error. -/
structure Transform (σ α β : Type) where
  transform : σ → α → Except String (σ × β)
  flush : σ → Except String β

/-- How a source stops. -/
inductive Ending where
  | ended
  | failed (error : String)
  deriving DecidableEq

/-- What a stream emitted, and the error that destroyed it. Without an error it ended. -/
structure Output (β : Type) where
  emitted : List β
  failure : Option String
  deriving DecidableEq

/-- `source.pipe(transform)`, where an error of the source destroys the transform. -/
def Transform.run {σ α β : Type} (T : Transform σ α β) (s : σ) : List α → Ending → Output β
  | [], .failed error => { emitted := [], failure := some error }
  | [], .ended => match T.flush s with
    | .ok last => { emitted := [last], failure := none }
    | .error error => { emitted := [], failure := some error }
  | chunk :: rest, ending => match T.transform s chunk with
    | .ok (s', pushed) =>
      { emitted := pushed :: (T.run s' rest ending).emitted
        failure := (T.run s' rest ending).failure }
    | .error error => { emitted := [], failure := some error }

section rules

variable {σ α β : Type} (T : Transform σ α β)

/-- Where a run stops: at an error of the source, at its end, or at a chunk that is refused. -/
inductive Stops (s : σ) (out : List β) (ending : Ending) : List α → Output β → Prop
  | failed {error : String} : ending = .failed error →
      Stops s out ending [] { emitted := out, failure := some error }
  | ended {last : β} : ending = .ended → T.flush s = .ok last →
      Stops s out ending [] { emitted := out ++ [last], failure := none }
  | short {error : String} : ending = .ended → T.flush s = .error error →
      Stops s out ending [] { emitted := out, failure := some error }
  | refused {chunk : α} {rest : List α} {error : String} : T.transform s chunk = .error error →
      Stops s out ending (chunk :: rest) { emitted := out, failure := some error }

/-- What every chunk preserves holds where the run stops. -/
theorem Transform.run_stops {I : List α → σ → List β → Prop}
    (step : ∀ {seen s out chunk s' pushed}, I seen s out →
      T.transform s chunk = .ok (s', pushed) → I (seen ++ [chunk]) s' (out ++ [pushed]))
    (ending : Ending) (chunks : List α) {seen : List α} {s : σ} {out : List β}
    (start : I seen s out) :
    ∃ done rest s' out', chunks = done ++ rest ∧ I (seen ++ done) s' out' ∧
      Stops T s' out' ending rest
        { emitted := out ++ (T.run s chunks ending).emitted
          failure := (T.run s chunks ending).failure } := by
  induction chunks generalizing seen s out with
  | nil =>
    refine ⟨[], [], s, out, rfl, by rwa [List.append_nil], ?_⟩
    unfold Transform.run
    cases ending with
    | failed error =>
      rw [List.append_nil]
      exact Stops.failed rfl
    | ended =>
      dsimp only
      cases flushed : T.flush s with
      | ok last => exact Stops.ended rfl flushed
      | error error =>
        rw [List.append_nil]
        exact Stops.short rfl flushed
  | cons chunk rest ih =>
    unfold Transform.run
    cases transformed : T.transform s chunk with
    | error error =>
      refine ⟨[], chunk :: rest, s, out, rfl, by rwa [List.append_nil], ?_⟩
      rw [List.append_nil]
      exact Stops.refused transformed
    | ok result =>
      obtain ⟨s', pushed⟩ := result
      obtain ⟨done, left, s'', out', whole, holds, stops⟩ := ih (step start transformed)
      refine ⟨chunk :: done, left, s'', out', by rw [whole]; rfl, ?_, ?_⟩
      · rwa [List.append_assoc] at holds
      · rwa [List.append_assoc] at stops

end rules

end stream
