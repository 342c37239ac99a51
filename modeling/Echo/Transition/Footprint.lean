import Echo.Transition.Run

/-!
# Footprints of programs

A program on states is a sequence of actions that it chooses as it goes.  Its footprint
says which actions it may take in which states, and what it reads decides the choice.  A
relation between two states that fixes what is read, and that an action of the footprint
preserves when it is taken on both sides, is then preserved by the program.  What a program
does to one state is the case of relations on the diagonal.
-/

namespace Echo.Transition

universe u v

variable {σ : Type u} {α : Type v}

/-- The relation fixes what is read, and the actions of the footprint preserve it. -/
structure Respects (apply : σ → α → σ) (footprint : σ → α → Prop) (reads related : σ → σ → Prop) :
    Prop where
  reads : ∀ {left right : σ}, related left right → reads left right
  act : ∀ {left right : σ} (action : α), footprint left action → related left right →
    related (apply left action) (apply right action)

/-- Called where it may be called, the program takes actions of the footprint, and chooses
them by what it reads. -/
def Follows (apply : σ → α → σ) (footprint : σ → α → Prop) (reads : σ → σ → Prop)
    (callable : σ → Prop) (program : σ → σ) : Prop :=
  ∀ ⦃related : σ → σ → Prop⦄, Respects apply footprint reads related →
    ∀ ⦃left right : σ⦄, callable left → related left right →
      related (program left) (program right)

variable {apply : σ → α → σ} {footprint wider : σ → α → Prop} {reads further : σ → σ → Prop}

/-- A smaller footprint and fewer reads are easier to respect. -/
theorem Respects.mono {related : σ → σ → Prop} (respects : Respects apply wider further related)
    (within : ∀ state action, footprint state action → wider state action)
    (readsLess : ∀ left right, further left right → reads left right) :
    Respects apply footprint reads related where
  reads same := readsLess _ _ (respects.reads same)
  act action taken same := respects.act action (within _ action taken) same

namespace Follows

variable {callable : σ → Prop} {program : σ → σ}

theorem mono (follows : Follows apply footprint reads callable program)
    (within : ∀ state action, footprint state action → wider state action)
    (readsLess : ∀ left right, further left right → reads left right) :
    Follows apply wider further callable program :=
  fun _ respects => follows (respects.mono within readsLess)

variable [Std.Refl reads] (follows : Follows apply footprint reads callable program)

include follows

/-- What the program does is a run of actions, each of which belongs to its footprint where
it is taken. -/
theorem exists_run {state : σ} (called : callable state) :
    ∃ actions, Always apply footprint state actions ∧
      program state = run apply state actions := by
  let reached (left right : σ) : Prop :=
    left = right ∧ ∃ actions, Always apply footprint state actions ∧
      left = run apply state actions
  have respects : Respects apply footprint reads reached := by
    constructor
    · rintro left right ⟨rfl, _⟩
      exact Std.Refl.refl left
    · rintro left right action taken ⟨rfl, actions, always, rfl⟩
      refine ⟨rfl, actions ++ [action], ?_, (run_concat apply state actions action).symm⟩
      exact (always_concat_iff apply footprint state actions action).mpr ⟨always, taken⟩
  exact (follows respects called ⟨rfl, [], trivial, rfl⟩).2

/-- A program keeps what every action of its footprint keeps. -/
theorem invariant {holds : σ → Prop}
    (preserved : ∀ state action, holds state → footprint state action →
      holds (apply state action))
    {state : σ} (called : callable state) (initially : holds state) : holds (program state) := by
  obtain ⟨actions, always, reached⟩ := follows.exists_run called
  rw [reached]
  exact invariant_run preserved initially always

/-- A program changes no more than the actions of its footprint change. -/
theorem frame {unchanged : σ → σ → Prop} (unchangedRefl : ∀ state, unchanged state state)
    (unchangedTrans : ∀ {first second third}, unchanged first second →
      unchanged second third → unchanged first third)
    (each : ∀ state action, footprint state action → unchanged state (apply state action))
    {state : σ} (called : callable state) : unchanged state (program state) :=
  follows.invariant
    (fun reached action before taken => unchangedTrans before (each reached action taken))
    called (unchangedRefl state)

end Follows

end Echo.Transition
