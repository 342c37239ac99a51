import Echo.Transition.Run

/-!
# Outputs of a run

A transition system may emit output at every step.  The output of a run is the
concatenation of what its steps emit; systems in related states that emit the same
at every step have the same output.
-/

namespace Echo.Transition

universe u v w x

variable {σ : Type u} {τ : Type w} {α : Type v} {β : Type x}

/-- What the steps of a run emit, in order. -/
def outputs (step : σ → α → σ) (output : σ → α → List β) : σ → List α → List β
  | _, [] => []
  | state, label :: labels => output state label ++ outputs step output (step state label) labels

theorem outputs_concat (step : σ → α → σ) (output : σ → α → List β) (state : σ)
    (labels : List α) (label : α) :
    outputs step output state (labels ++ [label]) =
      outputs step output state labels ++ output (run step state labels) label := by
  induction labels generalizing state with
  | nil => exact List.append_nil _
  | cons first labels ih =>
      rw [List.cons_append, outputs, ih, outputs, List.append_assoc]
      rfl

/-- Related states have the same output along the same labels. -/
theorem outputs_eq_of_related {step : σ → α → σ} {output : σ → α → List β}
    {step' : τ → α → τ} {output' : τ → α → List β} (related : σ → τ → Prop)
    {allowed : α → Prop}
    (same : ∀ state state' label, related state state' → allowed label →
      output state label = output' state' label)
    (preserved : ∀ state state' label, related state state' → allowed label →
      related (step state label) (step' state' label))
    {state : σ} {state' : τ} {labels : List α} (initially : related state state')
    (allAllowed : ∀ label ∈ labels, allowed label) :
    outputs step output state labels = outputs step' output' state' labels := by
  induction labels generalizing state state' with
  | nil => rfl
  | cons label labels ih =>
      have first := allAllowed label List.mem_cons_self
      rw [outputs, outputs, same state state' label initially first,
        ih (preserved state state' label initially first)
          fun other member => allAllowed other (List.mem_cons_of_mem label member)]

/-- A quantity that grows by the output of every step grows by the output of a run. -/
theorem append_outputs_of_step {step : σ → α → σ} {output : σ → α → List β}
    {allowed : α → Prop} {invariant : σ → Prop} (total : σ → List β)
    (preserved : ∀ state label, invariant state → allowed label → invariant (step state label))
    (grows : ∀ state label, invariant state → allowed label →
      total (step state label) = total state ++ output state label)
    {state : σ} {labels : List α} (initially : invariant state)
    (allAllowed : ∀ label ∈ labels, allowed label) :
    total (run step state labels) = total state ++ outputs step output state labels := by
  induction labels generalizing state with
  | nil => exact (List.append_nil _).symm
  | cons label labels ih =>
      have first := allAllowed label List.mem_cons_self
      rw [run_cons, ih (preserved state label initially first)
        fun other member => allAllowed other (List.mem_cons_of_mem label member),
        grows state label initially first, outputs, List.append_assoc]

/-- A quantity that grows by what an abstract system emits grows over a run by the output
of the abstract run. -/
theorem append_outputs_of_simulation {step : σ → α → σ} {step' : τ → α → τ}
    {output : τ → α → List β} {invariant : σ → Prop} (abstraction : σ → τ) (total : σ → List β)
    (preserved : ∀ state label, invariant state → invariant (step state label))
    (simulates : ∀ state label, invariant state →
      abstraction (step state label) = step' (abstraction state) label)
    (grows : ∀ state label, invariant state →
      total (step state label) = total state ++ output (abstraction state) label)
    {state : σ} (initially : invariant state) (labels : List α) :
    total (run step state labels) =
      total state ++ outputs step' output (abstraction state) labels := by
  induction labels generalizing state with
  | nil => exact (List.append_nil _).symm
  | cons label labels ih =>
      rw [run_cons, ih (preserved state label initially), grows state label initially,
        simulates state label initially, outputs, List.append_assoc]

end Echo.Transition
