import Echo.Transition.Run

/-!
# Lock-step simulation

A run of one system is explained by a run of another when every step is the step
of a label of the other system, taken in a related state, and where that label's
guard holds.
-/

namespace Echo.Transition

universe u v w x

variable {σ : Type u} {τ : Type w} {α : Type v} {β : Type x}

/-- The labels that the steps of a run stand for, each read in the state its step is
taken from. -/
def translate (step : σ → α → σ) (meaning : σ → α → β) : σ → List α → List β
  | _, [] => []
  | state, label :: labels =>
      meaning state label :: translate step meaning (step state label) labels

@[simp]
theorem length_translate (step : σ → α → σ) (meaning : σ → α → β) (state : σ)
    (labels : List α) : (translate step meaning state labels).length = labels.length := by
  induction labels generalizing state with
  | nil => rfl
  | cons label labels ih => rw [translate, List.length_cons, ih, List.length_cons]

/-- Steps that are guarded steps of the other system from every related state make up a
guarded run of it. -/
theorem simulated_run {step : σ → α → σ} {step' : τ → β → τ} {guard : τ → β → Prop}
    {meaning : σ → α → β} {related : σ → τ → Prop}
    (guarded : ∀ state other label, related state other → guard other (meaning state label))
    (simulates : ∀ state other label, related state other →
      related (step state label) (step' other (meaning state label)))
    {state : σ} {other : τ} (initially : related state other) (labels : List α) :
    Always step' guard other (translate step meaning state labels) ∧
      related (run step state labels)
        (run step' other (translate step meaning state labels)) := by
  induction labels generalizing state other with
  | nil => exact ⟨trivial, initially⟩
  | cons label labels ih =>
      obtain ⟨always, reached⟩ := ih (simulates state other label initially)
      exact ⟨⟨guarded state other label initially, always⟩, reached⟩

end Echo.Transition
