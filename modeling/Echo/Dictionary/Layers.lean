import Echo.Dictionary.Order

/-!
# Dictionaries in layers

Merging dictionaries one after the other lets the later ones override the earlier
ones.  Read from the last one back, the first layer that defines a key decides its
value.  A loop that writes only some of the entries of a dictionary adds one more
layer, whatever order it visits them in.
-/

namespace Echo.Dictionary

universe u v

variable {K : Type u} {V : Type v} [DecidableEq K]

/-- The value of a key in the first layer that defines it. -/
def layered (layers : List (Finmap (fun _ : K => V))) (key : K) : Option V :=
  layers.findSome? fun layer => layer.lookup key

@[simp]
theorem layered_nil (key : K) : layered ([] : List (Finmap (fun _ : K => V))) key = none :=
  rfl

theorem layered_cons (layer : Finmap (fun _ : K => V)) (layers : List (Finmap (fun _ : K => V)))
    (key : K) : layered (layer :: layers) key = (layer.lookup key).or (layered layers key) := by
  rw [layered, List.findSome?_cons]
  cases layer.lookup key with
  | none => rfl
  | some value => rfl

/-- A key that some layer defines has a value. -/
theorem layered_isSome {layers : List (Finmap (fun _ : K => V))}
    {layer : Finmap (fun _ : K => V)} (member : layer ∈ layers) {key : K} (defined : key ∈ layer) :
    (layered layers key).isSome = true := by
  rw [layered, List.findSome?_isSome_iff]
  exact ⟨layer, member, Finmap.lookup_isSome.mpr defined⟩

/-- Every value comes from one of the layers. -/
theorem exists_of_layered {layers : List (Finmap (fun _ : K => V))} {key : K} {value : V}
    (found : layered layers key = some value) : ∃ layer ∈ layers, layer.lookup key = some value :=
  List.exists_of_findSome?_eq_some found

/-- A dictionary that is laid over another one decides first. -/
theorem lookup_union (top base : Finmap (fun _ : K => V)) (key : K) :
    (top ∪ base).lookup key = (top.lookup key).or (base.lookup key) := by
  cases found : top.lookup key with
  | some value =>
      rw [Finmap.lookup_union_left (Finmap.mem_of_lookup_eq_some found), found]
      rfl
  | none =>
      rw [Finmap.lookup_union_right (Finmap.lookup_eq_none.mp found)]
      rfl

/-- A loop that writes the entries with certain values lays these over the dictionary. -/
theorem lookup_writeAll_filter (order : Order K V) (keep : V → Bool)
    (top base : Finmap (fun _ : K => V)) (key : K) :
    (writeAll ((order.entries top).filter fun entry => keep entry.2) base).lookup key =
      ((top.lookup key).filter keep).or (base.lookup key) := by
  have nodup : ((order.entries top).filter fun entry => keep entry.2).NodupKeys :=
    List.NodupKeys.sublist List.filter_sublist (order.nodupKeys_entries top)
  have unwritten (skipped : ∀ value, top.lookup key = some value → keep value = false) :
      key ∉ ((order.entries top).filter fun entry => keep entry.2).keys := by
    intro present
    obtain ⟨value, member⟩ := List.exists_of_mem_keys present
    obtain ⟨listed, kept⟩ := List.mem_filter.mp member
    have unkept := skipped value ((order.mem_entries_iff top key value).mp listed)
    exact absurd (unkept.symm.trans kept) Bool.false_ne_true
  cases found : top.lookup key with
  | none =>
      rw [lookup_writeAll_of_not_mem (unwritten (by simp [found]))]
      rfl
  | some value =>
      cases kept : keep value with
      | false =>
          rw [lookup_writeAll_of_not_mem (unwritten (by simpa [found] using kept)),
            Option.filter_some_neg kept]
          rfl
      | true =>
          have member : ⟨key, value⟩ ∈ (order.entries top).filter fun entry => keep entry.2 :=
            List.mem_filter.mpr ⟨(order.mem_entries_iff top key value).mpr found, kept⟩
          rw [lookup_writeAll_of_mem nodup member, Option.filter_some_pos kept]
          rfl

/-- Values that were filled in from a default are filled in the same way again. -/
theorem filter_or_filter_or (keep : V → Bool) (value default : Option V) :
    (((value.filter keep).or default).filter keep).or default =
      (value.filter keep).or default := by
  cases kept : value.filter keep with
  | some given => rw [Option.some_or, Option.filter_some_pos (Option.filter_eq_some_iff.mp kept).2,
      Option.some_or]
  | none =>
      rw [Option.none_or]
      cases default with
      | none => rfl
      | some given =>
          cases held : keep given with
          | false => rw [Option.filter_some_neg held, Option.none_or]
          | true => rw [Option.filter_some_pos held, Option.some_or]

end Echo.Dictionary
