import Echo.Transition.Run

/-!
# Erasing hidden steps

An observer who relates two states cannot tell a run from the run without its hidden
steps, provided that hidden steps stay within the relation and the others respect it.
-/

namespace Echo.Transition

universe u v w

variable {σ : Type u} {τ : Type w} {α : Type v}

/-- Hidden labels may be erased from one of two related runs. -/
theorem related_run_filter {step : σ → α → σ} {step' : τ → α → τ} {keep : α → Bool}
    {related : σ → τ → Prop}
    (hidden : ∀ state state' label, keep label = false → related state state' →
      related (step state label) state')
    (respected : ∀ state state' label, keep label = true → related state state' →
      related (step state label) (step' state' label))
    {state : σ} {state' : τ} (initially : related state state') (labels : List α) :
    related (run step state labels) (run step' state' (labels.filter keep)) := by
  induction labels generalizing state state' with
  | nil => exact initially
  | cons label labels ih =>
      cases kept : keep label with
      | true =>
          rw [List.filter_cons_of_pos kept, run_cons, run_cons]
          exact ih (respected state state' label kept initially)
      | false =>
          rw [List.filter_cons_of_neg (by simp [kept]), run_cons]
          exact ih (hidden state state' label kept initially)

/-- Hidden labels may be erased from a run that is looked at through a projection. -/
theorem projected_run_filter {step : σ → α → σ} {step' : τ → α → τ} {keep : α → Bool}
    {condition : σ → α → Prop} (project : σ → τ)
    (hidden : ∀ state label, condition state label → keep label = false →
      project (step state label) = project state)
    (respected : ∀ state label, condition state label → keep label = true →
      project (step state label) = step' (project state) label)
    {state : σ} {labels : List α} (always : Always step condition state labels) :
    project (run step state labels) = run step' (project state) (labels.filter keep) := by
  induction labels generalizing state with
  | nil => rfl
  | cons label labels ih =>
      obtain ⟨allowed, later⟩ := always
      cases kept : keep label with
      | true =>
          rw [List.filter_cons_of_pos kept, run_cons, run_cons,
            ← respected state label allowed kept]
          exact ih later
      | false =>
          rw [List.filter_cons_of_neg (by simp [kept]), run_cons,
            ← hidden state label allowed kept]
          exact ih later

end Echo.Transition
