import Echo.Labels.Scoped
import Echo.Labels.Hashing
import Echo.Dictionary.Batches

/-!
# Labels in batches

Labels may be added and removed one at a time or many at once.  Removing makes no
difference; adding makes one exactly if two keys of a batch clean to the same key and
their values to different ones.
-/

namespace Echo.Client

open Echo.Transition

variable {H : Type}

/-! ## One at a time -/

/-- Operations that label the same in every world act on the labels alone. -/
theorem persistent_run_map {Item : Type} (platform : Platform H) (world : World H)
    {operation : Item → Op} {calls : Item → List DelegateCall}
    (labelled : ∀ item world, labelling platform world (operation item) = calls item)
    (items : List Item) (index : Nat) :
    persistent index (run platform world (items.map operation)).log =
      kept (persistent index world.log) (items.flatMap calls) := by
  induction items generalizing world with
  | nil => rfl
  | cons item items ih =>
      have first := (step_relabels platform world (operation item)).persistent_eq index
      rw [labelled item world] at first
      rw [List.map_cons, List.flatMap_cons, kept_append, ← first]
      exact ih (step platform world (operation item))

/-- The calls that add the entries of a list one at a time. -/
def additions (entries : List (Σ _ : String, String)) : List Op :=
  entries.map fun entry => .report (.addLabel entry.1 entry.2)

theorem kept_additions (platform : Platform H) (labels : Labels)
    (entries : List (Σ _ : String, String)) :
    kept labels (entries.map fun entry =>
        .addLabels (sanitiseLabels platform (Labels.single entry.1 entry.2))) =
      Dictionary.writeAll (entries.map platform.cleanEntry) labels := by
  induction entries generalizing labels with
  | nil => rfl
  | cons entry entries ih =>
      have written : sanitiseLabels platform (Labels.single entry.1 entry.2) ∪ labels =
          labels.insert (platform.cleanEntry entry).1 (platform.cleanEntry entry).2 := by
        rw [sanitiseLabels_single]
        exact Finmap.insert_union.symm.trans (congrArg _ Finmap.empty_union)
      rw [List.map_cons, List.map_cons, Dictionary.writeAll_cons, ← ih, ← written]
      rfl

theorem persistent_addLabels (platform : Platform H) (world : World H) (labels : Labels)
    (index : Nat) :
    persistent index (run platform world [.report (.addLabels labels)]).log =
      sanitiseLabels platform labels ∪ persistent index world.log :=
  (step_relabels platform world (.report (.addLabels labels))).persistent_eq index

theorem persistent_additions (platform : Platform H) (world : World H)
    (entries : List (Σ _ : String, String)) (index : Nat) :
    persistent index (run platform world (additions entries)).log =
      Dictionary.writeAll (entries.map platform.cleanEntry) (persistent index world.log) := by
  have labelled (entry : Σ _ : String, String) (world : World H) :
      labelling platform world (.report (.addLabel entry.1 entry.2)) =
        [.addLabels (sanitiseLabels platform (Labels.single entry.1 entry.2))] := rfl
  rw [additions, persistent_run_map platform world labelled, ← kept_additions,
    List.map_eq_flatMap]

/-- The calls that remove the keys of a list one at a time. -/
def removals (keys : List String) : List Op :=
  keys.map fun key => .report (.removeLabel key)

theorem kept_removals (platform : Platform H) (labels : Labels) (keys : List String) :
    kept labels (keys.flatMap fun key => removal platform [key]) =
      (sanitiseKeys platform keys).foldl (fun labels key => labels.erase key) labels := by
  induction keys generalizing labels with
  | nil => rfl
  | cons key keys ih =>
      have split : sanitiseKeys platform (key :: keys) =
          sanitiseKeys platform [key] ++ sanitiseKeys platform keys := by
        rw [sanitiseKeys, ← List.singleton_append, List.map_append, List.filter_append]
        rfl
      rw [List.flatMap_cons, kept_append, kept_removal, ih, split, List.foldl_append]
      rfl

theorem persistent_removals (platform : Platform H) (world : World H) (keys : List String)
    (index : Nat) :
    persistent index (run platform world (removals keys)).log =
      persistent index (run platform world [.report (.removeLabels keys)]).log := by
  have labelled (key : String) (world : World H) :
      labelling platform world (.report (.removeLabel key)) = removal platform [key] := rfl
  have atOnce : persistent index (run platform world [.report (.removeLabels keys)]).log =
      kept (persistent index world.log) (removal platform keys) :=
    (step_relabels platform world (.report (.removeLabels keys))).persistent_eq index
  rw [atOnce, removals, persistent_run_map platform world labelled, kept_removals,
    kept_removal]
  rfl

/-- Removing labels one at a time removes the same; adding them one at a time, in
whatever order, adds the same exactly if they clean consistently. -/
theorem labels_oneByOne (platform : Platform H) (world : World H) (index : Nat) :
    (∀ labels : Labels,
      (∀ order : Dictionary.Order String String,
        persistent index (run platform world (additions (order.entries labels))).log =
          persistent index (run platform world [.report (.addLabels labels)]).log) ↔
        CleansConsistently platform labels) ∧
      ∀ keys : List String,
        persistent index (run platform world (removals keys)).log =
          persistent index (run platform world [.report (.removeLabels keys)]).log := by
  refine ⟨fun labels => ?_, fun keys => persistent_removals platform world keys index⟩
  have iterated (order : Dictionary.Order String String) :
      persistent index (run platform world (additions (order.entries labels))).log =
        sanitiseLabels (platform.iterating order) labels ∪ persistent index world.log := by
    rw [persistent_additions, sanitiseLabels_iterating, Dictionary.union_writeAll]
  have sameKeys (first second : Dictionary.Order String String) (key : String) :
      key ∈ sanitiseLabels (platform.iterating first) labels ↔
        key ∈ sanitiseLabels (platform.iterating second) labels := by
    rw [mem_sanitiseLabels_iff, mem_sanitiseLabels_iff]
    rfl
  have atOnce : persistent index (run platform world [.report (.addLabels labels)]).log =
      sanitiseLabels (platform.iterating platform.labelOrder) labels ∪
        persistent index world.log := persistent_addLabels platform world labels index
  rw [← sanitiseLabels_iterating_iff]
  simp only [iterated, atOnce,
    Dictionary.union_left_inj (sameKeys _ platform.labelOrder)]
  constructor
  · intro same first second
    rw [same first, same second]
  · intro same order
    exact same order platform.labelOrder

/-! ## Batches in a row -/

/-- Labels that clean consistently keep every cleaned entry. -/
theorem lookup_sanitiseLabels_of_consistent {platform : Platform H} {labels : Labels}
    (consistent : CleansConsistently platform labels) {original raw : String}
    (supplied : labels.lookup original = some raw) :
    (sanitiseLabels platform labels).lookup (platform.cleanLabelKey original) =
      some (platform.cleanLabelValue (platform.cleanLabelKey original) raw) := by
  have present : platform.cleanLabelKey original ∈ sanitiseLabels platform labels :=
    (mem_sanitiseLabels_iff platform labels _).mpr
      ⟨original, Finmap.mem_of_lookup_eq_some supplied, rfl⟩
  obtain ⟨value, found⟩ := Finmap.mem_iff.mp present
  obtain ⟨other, otherRaw, otherSupplied, sameKey, cleaned⟩ := lookup_sanitiseLabels found
  have sameValue := consistent original raw other otherRaw supplied otherSupplied sameKey.symm
  rw [found, ← cleaned, sameValue, sameKey]

/-- Sanitising a batch that is laid over another lays the sanitised batches over each
other. -/
theorem sanitiseLabels_union (platform : Platform H) {first second : Labels}
    (consistent : CleansConsistently platform (second ∪ first)) :
    sanitiseLabels platform (second ∪ first) =
      sanitiseLabels platform second ∪ sanitiseLabels platform first := by
  apply Finmap.ext_lookup
  intro key
  by_cases later : key ∈ sanitiseLabels platform second
  · obtain ⟨value, found⟩ := Finmap.mem_iff.mp later
    obtain ⟨original, raw, supplied, rfl, rfl⟩ := lookup_sanitiseLabels found
    have laid : (second ∪ first).lookup original = some raw := by
      rw [Finmap.lookup_union_left (Finmap.mem_of_lookup_eq_some supplied), supplied]
    rw [Finmap.lookup_union_left later, found,
      lookup_sanitiseLabels_of_consistent consistent laid]
  · rw [Finmap.lookup_union_right later]
    have beneath {original : String} (cleaned : platform.cleanLabelKey original = key) :
        original ∉ second := by
      intro member
      exact later ((mem_sanitiseLabels_iff platform second key).mpr ⟨original, member, cleaned⟩)
    cases found : (sanitiseLabels platform first).lookup key with
    | some value =>
        obtain ⟨original, raw, supplied, rfl, rfl⟩ := lookup_sanitiseLabels found
        have laid : (second ∪ first).lookup original = some raw := by
          rw [Finmap.lookup_union_right (beneath rfl), supplied]
        exact lookup_sanitiseLabels_of_consistent consistent laid
    | none =>
        have absent : key ∉ sanitiseLabels platform first := Finmap.lookup_eq_none.mp found
        rw [Finmap.lookup_eq_none, mem_sanitiseLabels_iff]
        rintro ⟨original, member, cleaned⟩
        rcases Finmap.mem_union.mp member with inSecond | inFirst
        · exact beneath cleaned inSecond
        · exact absent ((mem_sanitiseLabels_iff platform first key).mpr
            ⟨original, inFirst, cleaned⟩)

/-- Adding two batches in a row is adding the second laid over the first. -/
theorem addLabels_inRow (platform : Platform H) (world : World H) {first second : Labels}
    (consistent : CleansConsistently platform (second ∪ first)) (index : Nat) :
    persistent index (run platform world
        [.report (.addLabels first), .report (.addLabels second)]).log =
      persistent index (run platform world [.report (.addLabels (second ∪ first))]).log := by
  have inRow : persistent index (run platform world
      [.report (.addLabels first), .report (.addLabels second)]).log =
      sanitiseLabels platform second ∪
        (sanitiseLabels platform first ∪ persistent index world.log) :=
    (persistent_addLabels platform _ second index).trans
      (congrArg _ (persistent_addLabels platform world first index))
  rw [inRow, persistent_addLabels, sanitiseLabels_union platform consistent,
    Finmap.union_assoc]

theorem addLabels_inRow_overriding :
    persistent 0 (run reference launchedWorld
        [.report (.addLabels (Labels.single "key" "first")),
          .report (.addLabels (Labels.single "key" "second"))]).log =
      persistent 0 (run reference launchedWorld
        [.report (.addLabels (Labels.single "key" "second" ∪ Labels.single "key" "first"))]).log :=
  addLabels_inRow reference launchedWorld (by
    intro key value other otherValue found otherFound same
    have sameKey : key = other := same
    subst sameKey
    rw [found] at otherFound
    cases otherFound
    rfl) 0

end Echo.Client
