import Echo.Dictionary.Collisions

/-!
# Writing in batches

Writing a list of entries is writing each of them, so a batch may be split, or written
into an empty dictionary first and laid over the rest.
-/

namespace Echo.Dictionary

universe u v

variable {K : Type u} {V : Type v} [DecidableEq K]

/-- A key that is written does not remember what was there. -/
theorem lookup_writeAll_of_mem_keys {entries : List (Σ _ : K, V)} {key : K}
    (written : key ∈ entries.keys) (first second : Finmap (fun _ : K => V)) :
    (writeAll entries first).lookup key = (writeAll entries second).lookup key := by
  induction entries generalizing first second with
  | nil => exact absurd written List.not_mem_nil
  | cons entry entries ih =>
      rw [writeAll_cons, writeAll_cons]
      by_cases later : key ∈ entries.keys
      · exact ih later _ _
      · rw [List.keys_cons, List.mem_cons, or_iff_left later] at written
        subst written
        rw [lookup_writeAll_of_not_mem later, lookup_writeAll_of_not_mem later,
          Finmap.lookup_insert, Finmap.lookup_insert]

/-- A batch that is written into an empty dictionary may be laid over the rest. -/
theorem union_writeAll (entries : List (Σ _ : K, V)) (dictionary : Finmap (fun _ : K => V)) :
    writeAll entries ∅ ∪ dictionary = writeAll entries dictionary := by
  apply Finmap.ext_lookup
  intro key
  by_cases written : key ∈ entries.keys
  · rw [Finmap.lookup_union_left (mem_writeAll_iff.mpr (.inl written))]
    exact lookup_writeAll_of_mem_keys written ∅ dictionary
  · have absent : key ∉ writeAll entries ∅ := by
      rw [mem_writeAll_iff, or_iff_right written]
      exact Finmap.notMem_empty
    rw [Finmap.lookup_union_right absent, lookup_writeAll_of_not_mem written]

/-- Dictionaries with the same keys can be told apart below any other. -/
theorem union_left_inj {first second : Finmap (fun _ : K => V)}
    (sameKeys : ∀ key, key ∈ first ↔ key ∈ second) (dictionary : Finmap (fun _ : K => V)) :
    first ∪ dictionary = second ∪ dictionary ↔ first = second := by
  constructor
  · intro same
    apply Finmap.ext_lookup
    intro key
    by_cases present : key ∈ first
    · rw [← Finmap.lookup_union_left present, same,
        Finmap.lookup_union_left ((sameKeys key).mp present)]
    · rw [Finmap.lookup_eq_none.mpr present,
        Finmap.lookup_eq_none.mpr fun there => present ((sameKeys key).mpr there)]
  · rintro rfl
    rfl

end Echo.Dictionary
