import Mathlib.Data.Finmap

/-!
# Dictionaries with an unspecified iteration order

A dictionary is a finite map.  Iterating over it visits every entry once, in an
order that the language leaves open; an `Order` fixes one such choice, and a
result that holds for every `Order` does not depend on hashing.
-/

namespace Echo.Dictionary

universe u v

variable {K : Type u} {V : Type v}

/-- A choice of iteration order: some listing of the entries of every
dictionary. -/
structure Order (K : Type u) (V : Type v) where
  entries : Finmap (fun _ : K => V) → List (Σ _ : K, V)
  coe_entries (dictionary : Finmap (fun _ : K => V)) :
    (entries dictionary : Multiset (Σ _ : K, V)) = dictionary.entries

namespace Order

/-- Visit the dictionary with the given entries in the order they are given in,
and every other one in some order. -/
noncomputable def listing [DecidableEq K] [DecidableEq V] (listed : List (Σ _ : K, V)) :
    Order K V where
  entries dictionary :=
    if (listed : Multiset (Σ _ : K, V)) = dictionary.entries then listed
    else dictionary.entries.toList
  coe_entries dictionary := by
    split
    · assumption
    · exact dictionary.entries.coe_toList

variable (order : Order K V)

theorem nodupKeys_entries (dictionary : Finmap (fun _ : K => V)) :
    (order.entries dictionary).NodupKeys := by
  have nodup := dictionary.nodupKeys
  rw [← order.coe_entries dictionary] at nodup
  exact Multiset.coe_nodupKeys.mp nodup

/-- The listing enumerates exactly the entries found by lookup. -/
theorem mem_entries_iff [DecidableEq K] (dictionary : Finmap (fun _ : K => V))
    (key : K) (value : V) :
    ⟨key, value⟩ ∈ order.entries dictionary ↔ dictionary.lookup key = some value := by
  rw [Finmap.lookup_eq_some_iff, ← order.coe_entries dictionary]
  exact Multiset.mem_coe.symm

theorem mem_keys_entries_iff [DecidableEq K] (dictionary : Finmap (fun _ : K => V)) (key : K) :
    key ∈ (order.entries dictionary).keys ↔ key ∈ dictionary := by
  rw [List.mem_keys, Finmap.mem_iff]
  constructor
  · rintro ⟨value, member⟩
    exact ⟨value, (order.mem_entries_iff dictionary key value).mp member⟩
  · rintro ⟨value, found⟩
    exact ⟨value, (order.mem_entries_iff dictionary key value).mpr found⟩

end Order

variable [DecidableEq K]

/-- Write a list of entries into a dictionary, later entries overriding earlier
ones. -/
def writeAll (entries : List (Σ _ : K, V)) (dictionary : Finmap (fun _ : K => V)) :
    Finmap (fun _ : K => V) :=
  entries.foldl (fun result entry => result.insert entry.1 entry.2) dictionary

@[simp]
theorem writeAll_nil (dictionary : Finmap (fun _ : K => V)) :
    writeAll [] dictionary = dictionary :=
  rfl

@[simp]
theorem writeAll_cons (entry : Σ _ : K, V) (entries : List (Σ _ : K, V))
    (dictionary : Finmap (fun _ : K => V)) :
    writeAll (entry :: entries) dictionary =
      writeAll entries (dictionary.insert entry.1 entry.2) :=
  rfl

/-- What is looked up in a dictionary after writing to it was written or there. -/
theorem lookup_writeAll {entries : List (Σ _ : K, V)} {dictionary : Finmap (fun _ : K => V)}
    {key : K} {value : V} (found : (writeAll entries dictionary).lookup key = some value) :
    ⟨key, value⟩ ∈ entries ∨ dictionary.lookup key = some value := by
  induction entries generalizing dictionary with
  | nil => exact .inr found
  | cons entry entries ih =>
      rcases ih found with written | there
      · exact .inl (List.mem_cons_of_mem entry written)
      · by_cases same : key = entry.1
        · subst same
          rw [Finmap.lookup_insert, Option.some.injEq] at there
          exact .inl (List.mem_cons.mpr (.inl (Sigma.ext rfl (heq_of_eq there.symm))))
        · rw [Finmap.lookup_insert_of_ne _ same] at there
          exact .inr there

/-- The keys of a dictionary after writing to it. -/
theorem mem_writeAll_iff {entries : List (Σ _ : K, V)} {dictionary : Finmap (fun _ : K => V)}
    {key : K} : key ∈ writeAll entries dictionary ↔ key ∈ entries.keys ∨ key ∈ dictionary := by
  induction entries generalizing dictionary with
  | nil => simp
  | cons entry entries ih =>
      rw [writeAll_cons, ih, Finmap.mem_insert, List.keys_cons, List.mem_cons, or_left_comm,
        or_assoc]

/-- A key that is not written keeps its value. -/
theorem lookup_writeAll_of_not_mem {entries : List (Σ _ : K, V)} {key : K}
    (absent : key ∉ entries.keys) (dictionary : Finmap (fun _ : K => V)) :
    (writeAll entries dictionary).lookup key = dictionary.lookup key := by
  induction entries generalizing dictionary with
  | nil => rfl
  | cons entry entries ih =>
      rw [List.keys_cons, List.mem_cons, not_or] at absent
      rw [writeAll_cons, ih absent.2, Finmap.lookup_insert_of_ne _ absent.1]

/-- With distinct keys every written entry survives. -/
theorem lookup_writeAll_of_mem {entries : List (Σ _ : K, V)}
    (nodup : entries.NodupKeys) {key : K} {value : V}
    (member : ⟨key, value⟩ ∈ entries) (dictionary : Finmap (fun _ : K => V)) :
    (writeAll entries dictionary).lookup key = some value := by
  induction entries generalizing dictionary with
  | nil => exact absurd member List.not_mem_nil
  | cons entry entries ih =>
      obtain ⟨headAbsent, tailNodup⟩ := List.nodupKeys_cons.mp nodup
      rw [writeAll_cons]
      rcases List.mem_cons.mp member with rfl | member
      · rw [lookup_writeAll_of_not_mem headAbsent, Finmap.lookup_insert]
      · exact ih tailNodup member _

/-- Writing the entries of a dictionary into an empty one copies it, whatever
the iteration order. -/
theorem writeAll_entries (order : Order K V) (dictionary : Finmap (fun _ : K => V)) :
    writeAll (order.entries dictionary) ∅ = dictionary := by
  apply Finmap.ext_lookup
  intro key
  cases found : dictionary.lookup key with
  | some value =>
      exact lookup_writeAll_of_mem (order.nodupKeys_entries dictionary)
        ((order.mem_entries_iff dictionary key value).mpr found) _
  | none =>
      have absent : key ∉ (order.entries dictionary).keys := by
        rw [order.mem_keys_entries_iff]
        exact Finmap.lookup_eq_none.mp found
      rw [lookup_writeAll_of_not_mem absent, Finmap.lookup_empty]

end Echo.Dictionary
