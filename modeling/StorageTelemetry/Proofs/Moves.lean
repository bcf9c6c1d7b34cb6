namespace StorageTelemetry

/-!
# Runs of moves

What is said here holds of every system whose moves are partial functions on
its states.  A run is a list of moves, each possible in its turn.  What every
move keeps, a run keeps, and what a run brings about, one of its moves does.
-/

namespace Moves

variable {σ μ : Type} {step? : σ → μ → Option σ}

/-- The state after a list of moves, if each is possible in its turn. -/
def run? (step? : σ → μ → Option σ) : σ → List μ → Option σ
  | state, [] => some state
  | state, move :: rest => (step? state move).bind fun next => run? step? next rest

theorem run?_append (state : σ) (first second : List μ) :
    run? step? state (first ++ second) =
      (run? step? state first).bind fun middle => run? step? middle second := by
  induction first generalizing state with
  | nil => rfl
  | cons move rest ih =>
      simp only [List.cons_append, run?]
      cases step? state move with
      | none => rfl
      | some next => exact ih next

theorem run?_append_eq_some_iff {state last : σ} {first second : List μ} :
    run? step? state (first ++ second) = some last ↔
      ∃ middle, run? step? state first = some middle ∧ run? step? middle second = some last := by
  rw [run?_append, Option.bind_eq_some_iff]

theorem run?_cons_eq_some_iff {state last : σ} {move : μ} {rest : List μ} :
    run? step? state (move :: rest) = some last ↔
      ∃ next, step? state move = some next ∧ run? step? next rest = some last :=
  Option.bind_eq_some_iff

/-- What every move keeps, a run keeps. -/
theorem run_induction (Kept : σ → Prop) {state last : σ} {moves : List μ}
    (ran : run? step? state moves = some last) (kept : Kept state)
    (step : ∀ ⦃current move next⦄, Kept current → step? current move = some next → Kept next) :
    Kept last := by
  induction moves generalizing state with
  | nil =>
      cases ran
      exact kept
  | cons move rest ih =>
      obtain ⟨next, moved, continued⟩ := run?_cons_eq_some_iff.mp ran
      exact ih continued (step kept moved)

/-- What a run brings about, one of its moves does. -/
theorem exists_turn (Held : σ → Prop) {state last : σ} {moves : List μ}
    (ran : run? step? state moves = some last) (before : ¬ Held state) (after : Held last) :
    ∃ early move late reached turned,
      moves = early ++ move :: late ∧ run? step? state early = some reached ∧ ¬ Held reached ∧
        step? reached move = some turned ∧ Held turned ∧ run? step? turned late = some last := by
  induction moves generalizing state with
  | nil =>
      cases ran
      exact absurd after before
  | cons move rest ih =>
      obtain ⟨next, moved, continued⟩ := run?_cons_eq_some_iff.mp ran
      by_cases held : Held next
      · exact ⟨[], move, rest, state, next, rfl, rfl, before, moved, held, continued⟩
      · obtain ⟨early, turn, late, reached, turned, split, began, rest⟩ := ih continued held
        refine ⟨move :: early, turn, late, reached, turned, ?_, ?_, rest⟩
        · rw [split, List.cons_append]
        · exact run?_cons_eq_some_iff.mpr ⟨next, moved, began⟩

end Moves
end StorageTelemetry
