import Mathlib.Data.List.Basic
import Mathlib.Data.List.Infix

/-!
# Runs of deterministic transition systems

A run applies a total step function to a list of labels.  Conditions on a run
are read step by step, in the state each step is taken from, so that an
invariant which only survives well-behaved steps can still be carried over a
whole run.  Nothing in this file depends on a particular state or label type.
-/

namespace Echo.Transition

universe u v w

variable {σ : Type u} {α : Type v}

/-- The state reached from `state` by taking the labelled steps in order. -/
def run (step : σ → α → σ) (state : σ) (labels : List α) : σ :=
  labels.foldl step state

@[simp]
theorem run_nil (step : σ → α → σ) (state : σ) : run step state [] = state :=
  rfl

@[simp]
theorem run_cons (step : σ → α → σ) (state : σ) (label : α) (labels : List α) :
    run step state (label :: labels) = run step (step state label) labels :=
  rfl

theorem run_append (step : σ → α → σ) (state : σ) (first second : List α) :
    run step state (first ++ second) = run step (run step state first) second :=
  List.foldl_append

@[simp]
theorem run_concat (step : σ → α → σ) (state : σ) (labels : List α) (label : α) :
    run step state (labels ++ [label]) = step (run step state labels) label := by
  rw [run_append, run_cons, run_nil]

/-- Every step of the run meets `condition` in the state it is taken from. -/
def Always (step : σ → α → σ) (condition : σ → α → Prop) : σ → List α → Prop
  | _, [] => True
  | state, label :: labels =>
      condition state label ∧ Always step condition (step state label) labels

@[simp]
theorem always_nil (step : σ → α → σ) (condition : σ → α → Prop) (state : σ) :
    Always step condition state [] :=
  trivial

@[simp]
theorem always_cons_iff (step : σ → α → σ) (condition : σ → α → Prop) (state : σ)
    (label : α) (labels : List α) :
    Always step condition state (label :: labels) ↔
      condition state label ∧ Always step condition (step state label) labels :=
  Iff.rfl

instance decidableAlways (step : σ → α → σ) (condition : σ → α → Prop)
    [∀ state label, Decidable (condition state label)] :
    ∀ state labels, Decidable (Always step condition state labels)
  | _, [] => .isTrue trivial
  | state, label :: labels =>
      @instDecidableAnd _ _ _ (decidableAlways step condition (step state label) labels)

theorem always_append_iff (step : σ → α → σ) (condition : σ → α → Prop) (state : σ)
    (first second : List α) :
    Always step condition state (first ++ second) ↔
      Always step condition state first ∧
        Always step condition (run step state first) second := by
  induction first generalizing state with
  | nil => simp
  | cons label labels ih =>
      simp only [List.cons_append, always_cons_iff, run_cons, ih, and_assoc]

theorem always_concat_iff (step : σ → α → σ) (condition : σ → α → Prop) (state : σ)
    (labels : List α) (label : α) :
    Always step condition state (labels ++ [label]) ↔
      Always step condition state labels ∧ condition (run step state labels) label := by
  simp [always_append_iff]

/-- A condition met along a run is met along each of its prefixes. -/
theorem Always.restrict {step : σ → α → σ} {condition : σ → α → Prop} {state : σ}
    {first labels : List α} (always : Always step condition state labels)
    (initial : first <+: labels) : Always step condition state first := by
  obtain ⟨second, rfl⟩ := initial
  exact ((always_append_iff step condition state first second).mp always).1

/-- A condition met along a run is met by every label, where the run before it
ends. -/
theorem always_iff_forall_concat {step : σ → α → σ} {condition : σ → α → Prop} {state : σ}
    {labels : List α} :
    Always step condition state labels ↔
      ∀ first label, first ++ [label] <+: labels → condition (run step state first) label := by
  constructor
  · intro always first label initial
    exact ((always_concat_iff step condition state first label).mp (always.restrict initial)).2
  · intro everywhere
    induction labels generalizing state with
    | nil => exact trivial
    | cons label labels ih =>
        refine ⟨everywhere [] label (by simp), ih ?_⟩
        intro first next initial
        exact everywhere (label :: first) next (List.cons_prefix_cons.mpr ⟨rfl, initial⟩)

/-- Conditions may be weakened pointwise. -/
theorem Always.mono {step : σ → α → σ} {condition weaker : σ → α → Prop} {state : σ}
    {labels : List α} (always : Always step condition state labels)
    (implies : ∀ state label, condition state label → weaker state label) :
    Always step weaker state labels := by
  induction labels generalizing state with
  | nil => exact trivial
  | cons label labels ih =>
      exact ⟨implies state label always.1, ih always.2⟩

/-- A condition on the labels alone. -/
theorem always_of_forall_mem {step : σ → α → σ} {allowed : α → Prop} {labels : List α}
    (allAllowed : ∀ label ∈ labels, allowed label) (state : σ) :
    Always step (fun _ label => allowed label) state labels := by
  induction labels generalizing state with
  | nil => exact trivial
  | cons label labels ih =>
      refine ⟨allAllowed label List.mem_cons_self, ih ?_ (step state label)⟩
      intro other member
      exact allAllowed other (List.mem_cons_of_mem label member)

theorem always_true (step : σ → α → σ) (state : σ) (labels : List α) :
    Always step (fun _ _ => True) state labels :=
  always_of_forall_mem (fun _ _ => trivial) state

/-- Two conditions met along one run are met together at every step. -/
theorem Always.and {step : σ → α → σ} {first second : σ → α → Prop} {state : σ}
    {labels : List α} (firstAlways : Always step first state labels)
    (secondAlways : Always step second state labels) :
    Always step (fun state label => first state label ∧ second state label) state labels := by
  induction labels generalizing state with
  | nil => exact trivial
  | cons label labels ih =>
      exact ⟨⟨firstAlways.1, secondAlways.1⟩, ih firstAlways.2 secondAlways.2⟩

/-- Labels that never move the state may be left out of a run. -/
theorem run_filter {step : σ → α → σ} {keep : α → Bool}
    (ignores : ∀ state label, keep label = false → step state label = state)
    (state : σ) (labels : List α) :
    run step state (labels.filter keep) = run step state labels := by
  induction labels generalizing state with
  | nil => rfl
  | cons label labels ih =>
      cases kept : keep label with
      | true => rw [List.filter_cons_of_pos kept, run_cons, run_cons, ih]
      | false =>
          rw [List.filter_cons_of_neg (by simp [kept]), run_cons, ignores state label kept, ih]

/-- Labels that never move the state, and that every state allows, do not
matter to a condition either. -/
theorem always_filter_iff {step : σ → α → σ} {condition : σ → α → Prop} {keep : α → Bool}
    (ignores : ∀ state label, keep label = false → step state label = state)
    (allows : ∀ state label, keep label = false → condition state label)
    (state : σ) (labels : List α) :
    Always step condition state (labels.filter keep) ↔ Always step condition state labels := by
  induction labels generalizing state with
  | nil => rfl
  | cons label labels ih =>
      cases kept : keep label with
      | true => rw [List.filter_cons_of_pos kept, always_cons_iff, always_cons_iff, ih]
      | false =>
          rw [List.filter_cons_of_neg (by simp [kept]), always_cons_iff,
            ignores state label kept, ih]
          exact (and_iff_right (allows state label kept)).symm

/-- Whole-run induction: an invariant that every well-behaved step preserves
holds wherever a well-behaved run ends. -/
theorem invariant_run {step : σ → α → σ} {condition : σ → α → Prop}
    {invariant : σ → Prop}
    (preserved : ∀ state label, invariant state → condition state label →
      invariant (step state label))
    {state : σ} {labels : List α} (initially : invariant state)
    (always : Always step condition state labels) :
    invariant (run step state labels) := by
  induction labels generalizing state with
  | nil => exact initially
  | cons label labels ih =>
      exact ih (preserved state label initially always.1) always.2

/-- Unconditional form of `invariant_run`. -/
theorem invariant_run_of_step {step : σ → α → σ} {invariant : σ → Prop}
    (preserved : ∀ state label, invariant state → invariant (step state label))
    {state : σ} (initially : invariant state) (labels : List α) :
    invariant (run step state labels) := by
  induction labels generalizing state with
  | nil => exact initially
  | cons label labels ih =>
      exact ih (preserved state label initially)

/-- Whole-run induction for an invariant that also speaks of the labels taken so
far. -/
theorem history_run {step : σ → α → σ} {condition : σ → α → Prop}
    {invariant : List α → σ → Prop}
    (preserved : ∀ history state label, invariant history state → condition state label →
      invariant (history ++ [label]) (step state label))
    {state : σ} {labels : List α} (initially : invariant [] state)
    (always : Always step condition state labels) :
    invariant labels (run step state labels) := by
  induction labels using List.reverseRecOn with
  | nil => exact initially
  | append_singleton labels label ih =>
      obtain ⟨before, allowed⟩ := (always_concat_iff step condition state labels label).mp always
      rw [run_concat]
      exact preserved labels _ label (ih before) allowed

end Echo.Transition
