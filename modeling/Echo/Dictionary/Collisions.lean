import Echo.Dictionary.Order

/-!
# Writing entries whose keys collide

A loop over a dictionary that transforms its entries and writes them to another
one overwrites whatever was written under the same key before.  The result does
not depend on the iteration order exactly when the entries that end up under the
same key agree.
-/

namespace Echo.Dictionary

universe u v w z

variable {K : Type u} {V : Type v}

/-- Entries with the same key have the same value. -/
def Consistent (entries : List (Σ _ : K, V)) : Prop :=
  ∀ first ∈ entries, ∀ second ∈ entries, first.1 = second.1 → first.2 = second.2

namespace Order

theorem mem_entries_iff_mem (order : Order K V) (dictionary : Finmap (fun _ : K => V))
    (entry : Σ _ : K, V) : entry ∈ order.entries dictionary ↔ entry ∈ dictionary.entries := by
  rw [← order.coe_entries dictionary, Multiset.mem_coe]

/-- Every entry of a dictionary comes last in some iteration order. -/
theorem exists_last [DecidableEq K] [DecidableEq V] {dictionary : Finmap (fun _ : K => V)}
    {entry : Σ _ : K, V} (member : entry ∈ dictionary.entries) :
    ∃ (order : Order K V) (before : List (Σ _ : K, V)),
      order.entries dictionary = before ++ [entry] := by
  let before := dictionary.entries.toList.erase entry
  have listed : ((before ++ [entry] : List (Σ _ : K, V)) : Multiset (Σ _ : K, V)) =
      dictionary.entries := by
    have permuted : (before ++ [entry]).Perm dictionary.entries.toList :=
      (List.perm_append_singleton entry before).trans
        (List.perm_cons_erase (Multiset.mem_toList.mpr member)).symm
    rw [Multiset.coe_eq_coe.mpr permuted, Multiset.coe_toList]
  exact ⟨listing (before ++ [entry]), before, if_pos listed⟩

end Order

variable [DecidableEq K]

/-- The entry that is written last is found. -/
theorem lookup_writeAll_concat (entries : List (Σ _ : K, V)) (entry : Σ _ : K, V)
    (dictionary : Finmap (fun _ : K => V)) :
    (writeAll (entries ++ [entry]) dictionary).lookup entry.1 = some entry.2 := by
  rw [writeAll, List.foldl_append]
  exact Finmap.lookup_insert _

/-- What is found after consistent entries were written is what was written. -/
theorem lookup_writeAll_iff {entries : List (Σ _ : K, V)} (consistent : Consistent entries)
    (key : K) (value : V) :
    (writeAll entries ∅).lookup key = some value ↔ ⟨key, value⟩ ∈ entries := by
  have written {value : V} (found : (writeAll entries ∅).lookup key = some value) :
      ⟨key, value⟩ ∈ entries := by
    rcases lookup_writeAll found with written | there
    · exact written
    · rw [Finmap.lookup_empty] at there
      cases there
  constructor
  · exact written
  · intro member
    have present : key ∈ writeAll entries ∅ :=
      mem_writeAll_iff.mpr (.inl (List.mem_keys_of_mem member))
    obtain ⟨other, found⟩ := Finmap.mem_iff.mp present
    have sameValue : other = value := consistent _ (written found) _ member rfl
    rw [found, sameValue]

/-- A dictionary that consistent entries were written to holds these. -/
theorem mem_entries_writeAll {entries : List (Σ _ : K, V)} (consistent : Consistent entries)
    (entry : Σ _ : K, V) : entry ∈ (writeAll entries ∅).entries ↔ entry ∈ entries := by
  rw [← lookup_writeAll_iff consistent entry.1 entry.2, Finmap.lookup_eq_some_iff]

/-- Only which entries are written matters, if they are consistent. -/
theorem writeAll_congr {first second : List (Σ _ : K, V)} (consistent : Consistent first)
    (same : ∀ entry, entry ∈ first ↔ entry ∈ second) : writeAll first ∅ = writeAll second ∅ := by
  have consistentSecond : Consistent second := by
    intro entry member other otherMember sameKey
    exact consistent entry ((same entry).mpr member) other ((same other).mpr otherMember) sameKey
  apply Finmap.ext_lookup
  intro key
  apply Option.ext
  intro value
  rw [lookup_writeAll_iff consistent, lookup_writeAll_iff consistentSecond, same]

/-- A loop that writes transformed entries has one result in all iteration orders
exactly if it writes consistent entries. -/
theorem writeAll_map_entries_iff {K' : Type w} {V' : Type z} [DecidableEq V] [DecidableEq K']
    (transform : (Σ _ : K, V) → Σ _ : K', V') (dictionary : Finmap (fun _ : K => V)) :
    (∀ first second : Order K V,
      writeAll ((first.entries dictionary).map transform) ∅ =
        writeAll ((second.entries dictionary).map transform) ∅) ↔
      ∀ first ∈ dictionary.entries, ∀ second ∈ dictionary.entries,
        (transform first).1 = (transform second).1 →
          (transform first).2 = (transform second).2 := by
  constructor
  · intro same first firstMember second secondMember collide
    -- the entry that comes last decides, and either of the two can
    obtain ⟨firstLast, before, firstEq⟩ := Order.exists_last firstMember
    obtain ⟨secondLast, others, secondEq⟩ := Order.exists_last secondMember
    have sameWritten := same firstLast secondLast
    rw [firstEq, secondEq, List.map_append, List.map_append, List.map_singleton,
      List.map_singleton] at sameWritten
    have firstFound := lookup_writeAll_concat (before.map transform) (transform first) ∅
    rw [sameWritten, collide, lookup_writeAll_concat] at firstFound
    exact (Option.some.inj firstFound).symm
  · intro agree first second
    apply writeAll_congr
    · intro entry member other otherMember collide
      obtain ⟨original, originalMember, rfl⟩ := List.mem_map.mp member
      obtain ⟨otherOriginal, otherOriginalMember, rfl⟩ := List.mem_map.mp otherMember
      rw [first.mem_entries_iff_mem] at originalMember otherOriginalMember
      exact agree original originalMember otherOriginal otherOriginalMember collide
    · intro entry
      simp only [List.mem_map, Order.mem_entries_iff_mem]

end Echo.Dictionary
