import Echo.Dictionary.Collisions
import Echo.Labels.Delivered

/-!
# Labels and the order of a dictionary

`sanitiseLabels` loops over a dictionary, whose order changes from one launch of the
app to the next.  Cleaning may merge keys, and of the entries that end up under one key
the last one visited survives.  The labels of a play that is held back are sanitised
when they are stored and again when the play is released.  So the labels that are
reported depend on the order exactly if two entries disagree that are merged by
cleaning once or by cleaning twice.
-/

namespace Echo.Client

open Echo.Transition

variable {H : Type}

/-- The same collaborators in a process that visits label dictionaries in this order. -/
def Platform.iterating (platform : Platform H) (order : Dictionary.Order String String) :
    Platform H :=
  { platform with labelOrder := order }

/-- The dictionary that comes with an operation. -/
def Op.suppliedLabels : Op → Option Labels
  | .report (.addLabels labels) => some labels
  | .report (.viewEvent _ eventLabels) | .report (.userActionEvent _ _ eventLabels)
  | .report (.errorEvent _ eventLabels) | .media (.avPlayEvent _ eventLabels)
  | .media (.navigation _ _ eventLabels) | .media (.avUserActionEvent _ _ _ eventLabels)
  | .onDemand _ (.avPauseEvent _ eventLabels) => eventLabels
  | _ => none

/-- Entries of the dictionary whose keys clean to the same key have values that clean to
the same value. -/
def CleansConsistently (platform : Platform H) (labels : Labels) : Prop :=
  ∀ key value other otherValue, labels.lookup key = some value →
    labels.lookup other = some otherValue →
    platform.cleanLabelKey key = platform.cleanLabelKey other →
      platform.cleanLabelValue (platform.cleanLabelKey key) value =
        platform.cleanLabelValue (platform.cleanLabelKey other) otherValue

/-- One round of the loop, as an entry that is written. -/
def Platform.cleanEntry (platform : Platform H) (entry : Σ _ : String, String) :
    Σ _ : String, String :=
  ⟨platform.cleanLabelKey entry.1,
    platform.cleanLabelValue (platform.cleanLabelKey entry.1) entry.2⟩

/-- Entries of the dictionary whose keys are the same after cleaning them twice have the
same value after cleaning them twice. -/
def RecleansConsistently (platform : Platform H) (labels : Labels) : Prop :=
  ∀ first ∈ labels.entries, ∀ second ∈ labels.entries,
    (platform.cleanEntry (platform.cleanEntry first)).1 =
        (platform.cleanEntry (platform.cleanEntry second)).1 →
      (platform.cleanEntry (platform.cleanEntry first)).2 =
        (platform.cleanEntry (platform.cleanEntry second)).2

/-- The dictionaries that the delegate at an index receives when the play that is held back
after a run is released. -/
def releasedLabels (platform : Platform H) (world : World H) (ops : List Op)
    (broker : BrokerRef) (index : Nat) : List (Option Labels) :=
  dictionaries index
    (emitted platform (run platform world ops) (.live broker .releaseSuppressedPlay))

/-- What is done with a dictionary does not depend on the order in which it is visited. -/
structure IndependentOfOrder (platform : Platform H) (labels : Labels) : Prop where
  sanitised : ∀ first second : Dictionary.Order String String,
    sanitiseLabels (platform.iterating first) labels =
      sanitiseLabels (platform.iterating second) labels
  /-- Whatever it is reported with, the delegates receive the same. -/
  reported : ∀ (first second : Dictionary.Order String String) (op : Op),
    op.suppliedLabels = some labels → ∀ (world : World H) (index : Nat),
      received index (emitted (platform.iterating first) world op) =
        received index (emitted (platform.iterating second) world op)
  /-- A play that came with it and was held back is released with the same labels in any two
  processes, whatever else happened in them. -/
  released : ∀ (first second : Dictionary.Order String String) (world other : World H)
    (ops others : List Op),
    heldLabels (platform.iterating first) world ops = some labels →
    heldLabels (platform.iterating second) other others = some labels →
    ∀ (broker otherBroker : BrokerRef) (index : Nat),
      ∀ delivered ∈ releasedLabels (platform.iterating first) world ops broker index,
        ∀ otherDelivered ∈
          releasedLabels (platform.iterating second) other others otherBroker index,
          delivered = otherDelivered

/-! ## Orders and cleaning -/

/-- The order matters to a step only through the dictionary that comes with it. -/
theorem step_iterating {platform : Platform H} {labels : Labels}
    {first second : Dictionary.Order String String}
    (same : sanitiseLabels (platform.iterating first) labels =
      sanitiseLabels (platform.iterating second) labels) {op : Op}
    (supplies : op.suppliedLabels = some labels) (world : World H) :
    step (platform.iterating first) world op = step (platform.iterating second) world op := by
  have navigated (navigation : Navigation) (position : UInt64) :
      navigate (platform.iterating first) navigation position (some labels) world =
        navigate (platform.iterating second) navigation position (some labels) world := by
    simp only [navigate, Option.map_some, same]
  cases op with
  | report call =>
      cases call with
      | addLabels supplied =>
          cases supplies
          simp only [step, ReportCall.perform, addLabels, same]
      | viewEvent counterName eventLabels =>
          cases supplies
          simp only [step, ReportCall.perform, viewEvent, Option.map_some, same]
          rfl
      | userActionEvent actionType actionName eventLabels =>
          cases supplies
          simp only [step, ReportCall.perform, userActionEvent, Option.map_some, same]
      | errorEvent error eventLabels =>
          cases supplies
          simp only [step, ReportCall.perform, errorEvent, Option.map_some, same]
      | _ => cases supplies
  | media call =>
      cases call with
      | avPlayEvent position eventLabels =>
          cases supplies
          simp only [step, MediaCall.perform, avPlayEvent, Option.map_some, same]
      | navigation navigation position eventLabels =>
          cases supplies
          simp only [step, MediaCall.perform, Navigation.event_eq_navigate]
          exact navigated navigation position
      | avUserActionEvent actionType actionName position eventLabels =>
          cases supplies
          simp only [step, MediaCall.perform, avUserActionEvent, Option.map_some, same]
      | _ => cases supplies
  | onDemand broker callback =>
      cases callback with
      | avPauseEvent position eventLabels =>
          cases supplies
          exact navigated .avPause position
      | _ => cases supplies
  | _ => cases supplies

theorem sanitiseLabels_iterating (platform : Platform H) (labels : Labels)
    (order : Dictionary.Order String String) :
    sanitiseLabels (platform.iterating order) labels =
      Dictionary.writeAll ((order.entries labels).map platform.cleanEntry) ∅ :=
  sanitiseLabels_eq_writeAll (platform.iterating order) labels

theorem sanitiseLabels_iterating_iff (platform : Platform H) (labels : Labels) :
    (∀ first second : Dictionary.Order String String,
      sanitiseLabels (platform.iterating first) labels =
        sanitiseLabels (platform.iterating second) labels) ↔
      CleansConsistently platform labels := by
  simp only [sanitiseLabels_iterating, Dictionary.writeAll_map_entries_iff]
  constructor
  · intro agree key value other otherValue found otherFound merged
    exact agree ⟨key, value⟩ (Finmap.lookup_eq_some_iff.mp found) ⟨other, otherValue⟩
      (Finmap.lookup_eq_some_iff.mp otherFound) merged
  · rintro consistent ⟨key, value⟩ member ⟨other, otherValue⟩ otherMember merged
    exact consistent key value other otherValue (Finmap.lookup_eq_some_iff.mpr member)
      (Finmap.lookup_eq_some_iff.mpr otherMember) merged

/-- What is in a sanitised dictionary, if no two entries that cleaning merges disagree. -/
theorem mem_entries_sanitiseLabels {platform : Platform H} {labels : Labels}
    (consistent : CleansConsistently platform labels) (order : Dictionary.Order String String)
    (entry : Σ _ : String, String) :
    entry ∈ (sanitiseLabels (platform.iterating order) labels).entries ↔
      ∃ original ∈ labels.entries, platform.cleanEntry original = entry := by
  have written : Dictionary.Consistent
      ((order.entries labels).map platform.cleanEntry) := by
    intro first firstMember second secondMember merged
    obtain ⟨⟨key, value⟩, member, rfl⟩ := List.mem_map.mp firstMember
    obtain ⟨⟨other, otherValue⟩, otherMember, rfl⟩ := List.mem_map.mp secondMember
    exact consistent key value other otherValue ((order.mem_entries_iff labels _ _).mp member)
      ((order.mem_entries_iff labels _ _).mp otherMember) merged
  rw [sanitiseLabels_iterating, Dictionary.mem_entries_writeAll written]
  simp only [List.mem_map, order.mem_entries_iff_mem]

/-- A dictionary that cleans consistently cleans consistently once more exactly if its
entries, cleaned twice, agree where they are merged. -/
theorem cleansConsistently_sanitiseLabels_iff {platform : Platform H} {labels : Labels}
    (consistent : CleansConsistently platform labels)
    (order : Dictionary.Order String String) :
    CleansConsistently platform (sanitiseLabels (platform.iterating order) labels) ↔
      RecleansConsistently platform labels := by
  constructor
  · intro again first firstMember second secondMember merged
    have cleaned {entry : Σ _ : String, String} (member : entry ∈ labels.entries) :=
      Finmap.lookup_eq_some_iff.mpr
        ((mem_entries_sanitiseLabels consistent order _).mpr ⟨entry, member, rfl⟩)
    exact again _ _ _ _ (cleaned firstMember) (cleaned secondMember) merged
  · intro twice key value other otherValue found otherFound merged
    obtain ⟨first, firstMember, firstEq⟩ :=
      (mem_entries_sanitiseLabels consistent order _).mp (Finmap.lookup_eq_some_iff.mp found)
    obtain ⟨second, secondMember, secondEq⟩ :=
      (mem_entries_sanitiseLabels consistent order _).mp (Finmap.lookup_eq_some_iff.mp otherFound)
    have agree := twice first firstMember second secondMember
    rw [firstEq, secondEq] at agree
    exact agree merged

/-- Sanitising twice is independent of the order exactly if both rounds are. -/
theorem sanitiseLabels_twice_iff {platform : Platform H} {labels : Labels}
    (consistent : CleansConsistently platform labels) :
    (∀ first second : Dictionary.Order String String,
      sanitiseLabels (platform.iterating first)
          (sanitiseLabels (platform.iterating first) labels) =
        sanitiseLabels (platform.iterating second)
          (sanitiseLabels (platform.iterating second) labels)) ↔
      RecleansConsistently platform labels := by
  have once := (sanitiseLabels_iterating_iff platform labels).mpr consistent
  rw [← cleansConsistently_sanitiseLabels_iff consistent platform.labelOrder,
    ← sanitiseLabels_iterating_iff]
  constructor
  · intro same first second
    rw [once platform.labelOrder first, same first second, once first second]
  · intro same first second
    rw [once first platform.labelOrder, once second platform.labelOrder, same first second]

/-! ## A play that is held back -/

/-- A release delivers nothing, or the labels of the play that was held back last, which were
sanitised when it was. -/
theorem mem_releasedLabels {platform : Platform H} {world : World H} {ops : List Op}
    {labels : Labels} (held : heldLabels platform world ops = some labels) {broker : BrokerRef}
    {index : Nat} {delivered : Option Labels}
    (member : delivered ∈ releasedLabels platform world ops broker index) :
    delivered = some (sanitiseLabels platform (sanitiseLabels platform labels)) := by
  have stored : (run platform world ops).client.session.suppressedPlayEventLabels =
      some (sanitiseLabels platform labels) := by
    rw [heldLabels, Option.join_eq_some_iff] at held
    rw [suppressedPlayEventLabels_run, held]
    rfl
  rcases releaseSuppressedPlay_delivers platform (run platform world ops) with nothing | one
  · rw [releasedLabels, dictionaries_emitted nothing] at member
    cases member
  · rw [releasedLabels, dictionaries_emitted one, List.mem_singleton, stored] at member
    exact member

/-- Live, enriched media whose play was suppressed when it was called for. -/
def suppressedWorld (store : H) : World H where
  client := {
    settings := ⟨false, none, true, true, false, false, []⟩
    echoEnabled := true
    cacheMode := .offline
    session := {
      media := some (liveMedia true)
      suppressingPlayEvent := true
      broker := some 0 } }
  userPromise := store

theorem heldLabels_suppressedWorld (platform : Platform H) (store : H) (labels : Labels) :
    heldLabels platform (suppressedWorld store) [.media (.avPlayEvent 0 (some labels))] =
      some labels :=
  rfl

theorem releasedLabels_suppressedWorld (platform : Platform H) (store : H) (labels : Labels) :
    releasedLabels platform (suppressedWorld store) [.media (.avPlayEvent 0 (some labels))] 0 0 =
      [some (sanitiseLabels platform (sanitiseLabels platform labels))] :=
  rfl

/-- Sanitising a dictionary, and all that is reported with it, is independent of the order
exactly if the entries agree that cleaning merges, and so do those that cleaning twice
merges. -/
theorem independentOfOrder_iff [Inhabited H] (platform : Platform H) (labels : Labels) :
    IndependentOfOrder platform labels ↔
      CleansConsistently platform labels ∧ RecleansConsistently platform labels := by
  constructor
  · intro independent
    have consistent := (sanitiseLabels_iterating_iff platform labels).mp independent.sanitised
    refine ⟨consistent, (sanitiseLabels_twice_iff consistent).mp ?_⟩
    intro first second
    have holds (order : Dictionary.Order String String) :=
      heldLabels_suppressedWorld (platform.iterating order) (default : H) labels
    have same := independent.released first second _ _ _ _ (holds first) (holds second) 0 0 0
    simp only [releasedLabels_suppressedWorld, List.mem_singleton, forall_eq] at same
    exact Option.some.inj same
  · rintro ⟨consistent, twice⟩
    have once := (sanitiseLabels_iterating_iff platform labels).mpr consistent
    constructor
    · exact once
    · intro first second op supplies world index
      rw [emitted, emitted, step_iterating (once first second) supplies world]
    · intro first second world other ops others held otherHeld broker otherBroker index
        delivered member otherDelivered otherMember
      rw [mem_releasedLabels held member, mem_releasedLabels otherHeld otherMember,
        (sanitiseLabels_twice_iff consistent).mpr twice first second]

/-- The dirty key and the clean one, with different values. -/
def collidingEntries : List (Σ _ : String, String) :=
  [⟨"some.label_or-other", "first"⟩, ⟨"some_label_or_other", "second"⟩]

/-- Visited in this order the second value survives, and in the other order the first. -/
theorem not_independentOfOrder_colliding :
    ¬IndependentOfOrder cleansingPlatform collidingEntries.toFinmap := by
  intro independent
  have same := independent.sanitised (.listing collidingEntries)
    (.listing collidingEntries.reverse)
  have inOrder : (sanitiseLabels (cleansingPlatform.iterating (.listing collidingEntries))
      collidingEntries.toFinmap).lookup "some_label_or_other" = some "second" := by decide
  have reversed : (sanitiseLabels
      (cleansingPlatform.iterating (.listing collidingEntries.reverse))
      collidingEntries.toFinmap).lookup "some_label_or_other" = some "first" := by decide
  rw [same, reversed] at inOrder
  exact absurd inOrder (by decide)

end Echo.Client
