import Mathlib.Data.List.Basic

/-!
# Append-only logs

A log only grows.  What an observer computes by folding over it is decided by
the entries it does not ignore, so an operation whose new entries are all
ignored is invisible to that observer.
-/

namespace Echo.Transition

universe u v

variable {ε : Type u}

/-- `after` extends `before` by entries that are all `allowed`. -/
def Extends (allowed : ε → Prop) (before after : List ε) : Prop :=
  ∃ entries, after = before ++ entries ∧ ∀ entry ∈ entries, allowed entry

namespace Extends

variable {allowed weaker : ε → Prop} {before middle after : List ε}

theorem refl (allowed : ε → Prop) (log : List ε) : Extends allowed log log :=
  ⟨[], (List.append_nil log).symm, fun _ member => absurd member List.not_mem_nil⟩

theorem single (allowed : ε → Prop) {entry : ε} (isAllowed : allowed entry) (log : List ε) :
    Extends allowed log (log ++ [entry]) :=
  ⟨[entry], rfl, fun _ member => List.mem_singleton.mp member ▸ isAllowed⟩

theorem trans (first : Extends allowed before middle)
    (second : Extends allowed middle after) : Extends allowed before after := by
  obtain ⟨firstEntries, rfl, firstAllowed⟩ := first
  obtain ⟨secondEntries, rfl, secondAllowed⟩ := second
  refine ⟨firstEntries ++ secondEntries, List.append_assoc _ _ _, ?_⟩
  intro entry member
  rcases List.mem_append.mp member with member | member
  · exact firstAllowed entry member
  · exact secondAllowed entry member

theorem mono (extended : Extends allowed before after)
    (implies : ∀ entry, allowed entry → weaker entry) : Extends weaker before after := by
  obtain ⟨entries, afterEq, allAllowed⟩ := extended
  exact ⟨entries, afterEq, fun entry member => implies entry (allAllowed entry member)⟩

/-- The entries added to a log, when it is known to extend another. -/
theorem drop_length (extended : Extends allowed before after) :
    ∀ entry ∈ after.drop before.length, allowed entry := by
  obtain ⟨entries, rfl, allAllowed⟩ := extended
  rw [List.drop_left]
  exact allAllowed

end Extends

/-- An observer that ignores every allowed entry ignores the extension. -/
theorem foldl_extends {τ : Type v} {observe : τ → ε → τ} {allowed : ε → Prop}
    {before after : List ε} (extended : Extends allowed before after)
    (ignores : ∀ seen entry, allowed entry → observe seen entry = seen) (seen : τ) :
    after.foldl observe seen = before.foldl observe seen := by
  obtain ⟨entries, rfl, allAllowed⟩ := extended
  rw [List.foldl_append]
  generalize before.foldl observe seen = seen
  induction entries generalizing seen with
  | nil => rfl
  | cons entry entries ih =>
      rw [List.foldl_cons, ignores seen entry (allAllowed entry List.mem_cons_self)]
      exact ih (fun other member => allAllowed other (List.mem_cons_of_mem entry member)) seen

/-- A selection that drops every allowed entry drops the extension. -/
theorem filterMap_extends {τ : Type v} {select : ε → Option τ} {allowed : ε → Prop}
    {before after : List ε} (extended : Extends allowed before after)
    (drops : ∀ entry, allowed entry → select entry = none) :
    after.filterMap select = before.filterMap select := by
  obtain ⟨entries, rfl, allAllowed⟩ := extended
  have dropped : entries.filterMap select = [] :=
    List.filterMap_eq_nil_iff.mpr fun entry member =>
      drops entry (allAllowed entry member)
  rw [List.filterMap_append, dropped, List.append_nil]

end Echo.Transition
