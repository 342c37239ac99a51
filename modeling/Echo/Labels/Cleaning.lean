import Echo.Client.Laws

/-!
# What sanitising does to a dictionary

Cleaning may merge keys, so which of several values survives depends on the iteration
order.  The keys that come out do not: they are the cleaned keys of what went in.
-/

namespace Echo.Client

variable {H : Type}

/-- The sanitised keys are the cleaned ones, whatever the cleanser does. -/
theorem mem_sanitiseLabels_iff (platform : Platform H) (labels : Labels) (key : String) :
    key ∈ sanitiseLabels platform labels ↔
      ∃ original ∈ labels, platform.cleanLabelKey original = key := by
  rw [sanitiseLabels_eq_writeAll, Dictionary.mem_writeAll_iff]
  simp only [Finmap.notMem_empty, or_false, List.keys, List.map_map, List.mem_map,
    Function.comp_apply]
  constructor
  · rintro ⟨⟨original, value⟩, member, cleaned⟩
    refine ⟨original, ?_, cleaned⟩
    rw [← platform.labelOrder.mem_keys_entries_iff]
    exact List.mem_keys_of_mem member
  · rintro ⟨original, present, cleaned⟩
    rw [← platform.labelOrder.mem_keys_entries_iff, List.mem_keys] at present
    obtain ⟨value, member⟩ := present
    exact ⟨⟨original, value⟩, member, cleaned⟩

/-- A dictionary is a clean version of another: every entry is clean, the keys are the
cleaned ones, and every value comes from an entry with that key. -/
structure Sanitised (platform : Platform H) (supplied delivered : Labels) : Prop where
  clean : ∀ key value, delivered.lookup key = some value →
    platform.cleanLabelKey key = key ∧ platform.cleanLabelValue key value = value
  keys : ∀ key, key ∈ delivered ↔ ∃ original ∈ supplied, platform.cleanLabelKey original = key
  values : ∀ key value, delivered.lookup key = some value →
    ∃ original raw, supplied.lookup original = some raw ∧
      platform.cleanLabelKey original = key ∧ platform.cleanLabelValue key raw = value

theorem sanitised_sanitiseLabels {platform : Platform H} (cleanser : IdempotentCleanser platform)
    (labels : Labels) : Sanitised platform labels (sanitiseLabels platform labels) where
  clean key value found :=
    isCleanEntry_of_mem_sanitiseLabels cleanser
      ((platform.labelOrder.mem_entries_iff _ key value).mpr found)
  keys := mem_sanitiseLabels_iff platform labels
  values _ _ := lookup_sanitiseLabels

end Echo.Client
