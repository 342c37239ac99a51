import Echo.Client.Selection
import Echo.Labels.Cleaning

/-!
# Labels that a delegate keeps

A delegate keeps the labels it is given until they are removed.  Every operation adds and
removes labels through the two sanitisers of the client, so what it does to the labels of
a delegate is said here once, as the list of its calls.
-/

namespace Echo.Client

open Echo.Transition

variable {H : Type}

/-! ## Keeping labels -/

/-- The labels that a delegate keeps after a call. -/
def DelegateCall.keep (labels : Labels) : DelegateCall → Labels
  | .addLabels added => added ∪ labels
  | .removeLabels keys => keys.foldl (fun labels key => labels.erase key) labels
  | _ => labels

/-- The labels that a delegate keeps after a list of calls. -/
def kept (labels : Labels) (calls : List DelegateCall) : Labels :=
  Transition.run DelegateCall.keep labels calls

/-- The labels of the delegate at an index, from its creation on. -/
def persistent (index : Nat) (log : List Effect) : Labels :=
  kept ∅ (received index log)

/-- The calls that add or remove labels. -/
def DelegateCall.isLabelling : DelegateCall → Bool
  | .addLabels _ | .removeLabels _ => true
  | _ => false

/-- What a call does to the entry of one key. -/
def DelegateCall.keepEntry (key : String) (entry : Option String) : DelegateCall → Option String
  | .addLabels added => (added.lookup key).or entry
  | .removeLabels keys => if key ∈ keys then none else entry
  | _ => entry

theorem lookup_eraseAll (keys : List String) (labels : Labels) (key : String) :
    (keys.foldl (fun labels key => labels.erase key) labels).lookup key =
      if key ∈ keys then none else labels.lookup key := by
  induction keys generalizing labels with
  | nil => simp
  | cons first rest ih =>
      rw [List.foldl_cons, ih]
      by_cases later : key ∈ rest
      · simp [later]
      · by_cases same : key = first
        · subst same
          simp [later]
        · simp [later, same]

theorem DelegateCall.lookup_keep (labels : Labels) (call : DelegateCall) (key : String) :
    (call.keep labels).lookup key = call.keepEntry key (labels.lookup key) := by
  cases call with
  | addLabels added =>
      by_cases member : key ∈ added
      · obtain ⟨value, found⟩ := Finmap.mem_iff.mp member
        rw [keep, Finmap.lookup_union_left member, keepEntry, found]
        rfl
      · rw [keep, Finmap.lookup_union_right member, keepEntry, Finmap.lookup_eq_none.mpr member]
        rfl
  | removeLabels keys => exact lookup_eraseAll keys labels key
  | _ => rfl

/-- The entries of different keys are kept apart. -/
theorem lookup_kept (labels : Labels) (calls : List DelegateCall) (key : String) :
    (kept labels calls).lookup key =
      Transition.run (DelegateCall.keepEntry key) (labels.lookup key) calls := by
  induction calls generalizing labels with
  | nil => rfl
  | cons call calls ih =>
      rw [kept, run_cons, run_cons, ← call.lookup_keep]
      exact ih _

/-- Only the calls about labels count. -/
theorem kept_filter (labels : Labels) (calls : List DelegateCall) :
    kept labels (calls.filter DelegateCall.isLabelling) = kept labels calls := by
  have ignores : ∀ labels call, DelegateCall.isLabelling call = false →
      DelegateCall.keep labels call = labels := by
    intro labels call neutral
    cases call <;> first | rfl | cases neutral
  exact run_filter ignores labels calls

theorem kept_append (labels : Labels) (first second : List DelegateCall) :
    kept labels (first ++ second) = kept (kept labels first) second :=
  run_append DelegateCall.keep labels first second

/-! ## The calls of each operation -/

/-- Going from one world to another makes a list of calls about labels on every
delegate. -/
def Relabels (before after : World H) (calls : List DelegateCall) : Prop :=
  ∀ index, (received index after.log).filter DelegateCall.isLabelling =
    (received index before.log).filter DelegateCall.isLabelling ++ calls

namespace Relabels

variable {before middle after : World H} {first second : List DelegateCall}

theorem trans (relabels₁ : Relabels before middle first)
    (relabels₂ : Relabels middle after second) : Relabels before after (first ++ second) := by
  intro index
  rw [relabels₂ index, relabels₁ index, List.append_assoc]

theorem broadcast {call : DelegateCall} (labelling : call.isLabelling = true) (world : World H) :
    Relabels world (world.broadcast call) [call] := by
  intro index
  simp [received, Effect.receivedBy, labelling]

theorem of_avoids (avoids : Avoids DelegateCall.isLabelling before after) :
    Relabels before after [] := by
  intro index
  rw [avoids.received_eq index, List.append_nil]

/-- Calls about other things may follow. -/
theorem and_avoids (relabels : Relabels before middle first)
    (avoids : Avoids DelegateCall.isLabelling middle after) : Relabels before after first := by
  have both := relabels.trans (of_avoids avoids)
  rw [List.append_nil] at both
  exact both

/-- What the delegate keeps afterwards. -/
theorem persistent_eq (relabels : Relabels before after first) (index : Nat) :
    persistent index after.log = kept (persistent index before.log) first := by
  rw [persistent, ← kept_filter, relabels index, kept_append, kept_filter]
  rfl

end Relabels

/-- The call that removes labels, if any key is left of them. -/
def removal (platform : Platform H) (labels : List String) : List DelegateCall :=
  if (sanitiseKeys platform labels).isEmpty then []
  else [.removeLabels (sanitiseKeys platform labels)]

/-- The calls that close a media session. -/
def mediaRemovals (platform : Platform H) : List DelegateCall :=
  mediaLabelKeys.flatMap fun key => removal platform [platform.labelKey key]

/-- The call that adds one label. -/
def addition (platform : Platform H) (key : EchoLabelKeys) (value : String) : DelegateCall :=
  .addLabels (sanitiseLabels platform (Labels.single (platform.labelKey key) value))

/-- The calls about labels that an operation makes. -/
def labelling (platform : Platform H) (world : World H) : Op → List DelegateCall
  | .report (.addLabels labels) => [.addLabels (sanitiseLabels platform labels)]
  | .report (.addLabel key value) =>
      [.addLabels (sanitiseLabels platform (Labels.single key value))]
  | .report (.removeLabels labels) => removal platform labels
  | .report (.removeLabel key) => removal platform [key]
  | .media (.setMedia _) =>
      if world.client.echoEnabled then
        mediaRemovals platform ++
          [addition platform .essEnabled
            (if world.client.settings.essEnabled then "true" else "false")]
      else []
  | .lifecycle .disable => if world.client.echoEnabled then mediaRemovals platform else []
  | .live _ (.liveTimestampUpdate timestamp) =>
      [addition platform .mediaTimestamp (toString timestamp)]
  | .live _ (.setEssError error code) =>
      addition platform .essError (platform.essErrorValue error) ::
        if error = .statusCode then [addition platform .essStatusCode code] else []
  | .live _ (.setEssSuccess isSuccess) =>
      [addition platform .essSuccess (if isSuccess then "true" else "false")]
  | _ => []

section Step

variable (platform : Platform H)

theorem isLabelling_of_isProtocol (call : DelegateCall) (protocol : call.isProtocol = true) :
    call.isLabelling = false := by
  cases call <;> first | rfl | simp [DelegateCall.isProtocol] at protocol

theorem removeLabels_relabels (labels : List String) (world : World H) :
    Relabels world (removeLabels platform labels world) (removal platform labels) := by
  unfold removeLabels removal
  dsimp only
  cases empty : (sanitiseKeys platform labels).isEmpty with
  | true => exact .of_avoids (.refl _ world)
  | false =>
      change Relabels world (world.broadcast (.removeLabels (sanitiseKeys platform labels)))
        [.removeLabels (sanitiseKeys platform labels)]
      exact .broadcast rfl world

theorem clearMedia_relabels (world : World H) :
    Relabels world (clearMedia platform world) (mediaRemovals platform) := by
  have removed : Relabels world (removeMediaLabels platform world) (mediaRemovals platform) := by
    unfold removeMediaLabels mediaRemovals
    generalize mediaLabelKeys = keys
    induction keys generalizing world with
    | nil => exact .of_avoids (.refl _ world)
    | cons key keys ih =>
        rw [List.flatMap_cons, List.foldl_cons]
        exact (removeLabels_relabels platform _ world).trans (ih _)
  have released (world : World H) :
      Avoids DelegateCall.isLabelling world (releaseBroker world) := by
    unfold releaseBroker
    split
    · exact .refl _ world
    · exact .append (.broker _ .stop) trivial rfl
  have emptied := released ((removeMediaLabels platform world).withSession
    fun session => { session with media := none })
  have cleared (world : World H) :
      Avoids DelegateCall.isLabelling world (world.broadcast .clearMedia) := .broadcast rfl world
  exact removed.and_avoids (emptied.trans (cleared _))

theorem setMedia_relabels (media : Media) (world : World H) :
    Relabels world (setMedia platform media world)
      (labelling platform world (.media (.setMedia media))) := by
  cases enabled : world.client.echoEnabled with
  | false =>
      simp only [setMedia, enabled, labelling]
      exact .of_avoids (.refl _ world)
  | true =>
      have settings : (adoptClone platform media (clearMedia platform world)).client.settings =
          world.client.settings := (clearMedia_frame platform world).settings
      have cleared : Relabels world (adoptClone platform media (clearMedia platform world))
          (mediaRemovals platform) := clearMedia_relabels platform world
      have labelled (value : String) : Relabels world
          (addLabel platform (platform.labelKey .essEnabled) value
            (adoptClone platform media (clearMedia platform world)))
          (mediaRemovals platform ++ [addition platform .essEnabled value]) :=
        cleared.trans (.broadcast rfl _)
      have opened := (labelled (if world.client.settings.essEnabled then "true" else
        "false")).and_avoids (initBroker_avoids platform (fun _ => rfl) _)
      have announced (world : World H) (stored : Media) :
          Avoids DelegateCall.isLabelling world (world.broadcast (.setMedia stored)) :=
        .broadcast rfl world
      simp only [setMedia, openSession, enabled, labelling, settings]
      split
      · contradiction
      · split
        · exact opened
        · exact opened.and_avoids (announced _ _)

theorem setEssError_relabels (error : EssError) (code : String) (world : World H) :
    Relabels world (setEssError platform error code world)
      (addition platform .essError (platform.essErrorValue error) ::
        if error = .statusCode then [addition platform .essStatusCode code] else []) := by
  have failed (world : World H) :
      Avoids DelegateCall.isLabelling world (world.broadcast .liveEnrichmentFailed) :=
    .broadcast rfl world
  have added (key : EchoLabelKeys) (value : String) (world : World H) :
      Relabels world (addLabel platform (platform.labelKey key) value world)
        [addition platform key value] := .broadcast rfl world
  unfold setEssError
  dsimp only
  split
  · exact ((added .essError _ world).trans (added .essStatusCode code _)).and_avoids (failed _)
  · exact (added .essError _ world).and_avoids (failed _)

theorem ReportCall.relabels (call : ReportCall) (world : World H) :
    Relabels world (call.perform platform world) (labelling platform world (.report call)) := by
  have settings (call : DelegateCall) (setting : call.isSetting = true) :
      call.isLabelling = false := by
    cases call <;> first | rfl | cases setting
  have unlabelled (isSetting : call.isSetting = true) :
      Relabels world (call.perform platform world) [] :=
    .of_avoids (call.perform_avoids platform settings world isSetting)
  cases call with
  | addLabels labels => exact .broadcast rfl world
  | addLabel key value => exact .broadcast rfl world
  | removeLabels labels => exact removeLabels_relabels platform labels world
  | removeLabel key => exact removeLabels_relabels platform [key] world
  | viewEvent counterName labels =>
      apply Relabels.of_avoids
      simp only [perform, Client.viewEvent]
      split
      · exact .refl _ world
      · exact .append (.broadcast (.viewEvent _ _) _) rfl rfl
  | userActionEvent actionType actionName labels =>
      apply Relabels.of_avoids
      simp only [perform, Client.userActionEvent]
      split
      · exact .refl _ world
      · split
        · exact .debug _ .error _ world
        · exact .append (.broadcast (.userActionEvent actionType actionName _) _) rfl rfl
  | errorEvent error labels =>
      apply Relabels.of_avoids
      simp only [perform, Client.errorEvent]
      split
      · exact .refl _ world
      · exact .append (.broadcast (.errorEvent error _) _) rfl rfl
  | _ => exact unlabelled rfl

/-- What every step does to the labels of the delegates. -/
theorem step_relabels (world : World H) (op : Op) :
    Relabels world (step platform world op) (labelling platform world op) := by
  have skips : UserTells fun call => call.isLabelling = false :=
    ⟨fun _ => rfl, fun _ => rfl, rfl, fun _ _ _ => rfl, rfl⟩
  have protocol := isLabelling_of_isProtocol
  cases op with
  | report call => exact call.relabels platform world
  | getComScoreDeviceID => exact .of_avoids (getComScoreDeviceID_avoids platform rfl rfl world)
  | media call =>
      cases call with
      | setMedia media => exact setMedia_relabels platform media world
      | setMediaLength length =>
          exact .of_avoids (setMediaLength_avoids platform protocol length world)
      | avPlayEvent position labels =>
          exact .of_avoids (avPlayEvent_avoids platform protocol position labels world)
      | navigation navigation position labels =>
          rw [step, MediaCall.perform, Navigation.event_eq_navigate]
          exact .of_avoids (navigate_avoids platform protocol navigation position labels world)
      | avUserActionEvent actionType actionName position labels =>
          exact .of_avoids (avUserActionEvent_avoids platform protocol _ _ _ _ world)
  | lifecycle call =>
      cases call with
      | setBBCUser user => exact .of_avoids (setBBCUser_avoids platform skips user world)
      | start => exact .of_avoids (start_avoids platform skips rfl world)
      | enable => exact .of_avoids (enable_avoids platform skips rfl rfl world)
      | disable =>
          simp only [step, LifecycleCall.perform, disable, labelling]
          cases enabled : world.client.echoEnabled with
          | false => exact .of_avoids (.refl _ world)
          | true =>
              have disabled : Avoids DelegateCall.isLabelling (clearMedia platform world)
                  (((clearMedia platform world).setEnabled false).broadcast .disable) :=
                .append (.broadcast .disable _) rfl rfl
              exact (clearMedia_relabels platform world).and_avoids disabled
  | live broker callback =>
      cases callback with
      | liveMediaUpdate media newPosition oldPosition =>
          exact .of_avoids
            (.append (.broadcast (.liveMediaUpdate media newPosition oldPosition) _) rfl rfl)
      | liveTimestampUpdate timestamp => exact .broadcast rfl world
      | setEssError error code => exact setEssError_relabels platform error code world
      | setEssSuccess isSuccess => exact .broadcast rfl world
      | releaseSuppressedPlay =>
          exact .of_avoids (releaseSuppressedPlay_avoids platform protocol world)
      | sendHeartbeat name position =>
          exact .of_avoids (avUserActionEvent_avoids platform protocol _ _ _ _ world)
  | onDemand broker callback =>
      cases callback with
      | sendHeartbeat name position =>
          exact .of_avoids (avUserActionEvent_avoids platform protocol _ _ _ _ world)
      | avPauseEvent position labels =>
          exact .of_avoids (navigate_avoids platform protocol .avPause position labels world)
  | fireTimer timer => exact .of_avoids (fireTimer_avoids platform (fun _ => rfl) timer world)
  | playhead position => exact .of_avoids (movePlayhead_avoids platform position world)
  | clock now => exact .of_avoids (.of_log_eq rfl)

end Step

/-! ## Removing what was added -/

/-- The labels that a delegate keeps after operations, if it kept these before. -/
def keptAfter (platform : Platform H) (index : Nat) (labels : Labels) (world : World H)
    (ops : List Op) : Labels :=
  kept labels (received index ((run platform world ops).log.drop world.log.length))

theorem keptAfter_eq {platform : Platform H} {world : World H} {ops : List Op}
    {calls : List DelegateCall} (relabels : Relabels world (run platform world ops) calls)
    (index : Nat) (labels : Labels) :
    keptAfter platform index labels world ops = kept labels calls := by
  obtain ⟨entries, logEq⟩ := run_log platform world ops
  have grown := relabels index
  rw [logEq, received_append, List.filter_append] at grown
  rw [keptAfter, logEq, List.drop_left, ← kept_filter, List.append_cancel_left grown]

theorem mem_sanitiseKeys_iff (platform : Platform H) (labels : List String) (key : String) :
    key ∈ sanitiseKeys platform labels ↔
      key ≠ "" ∧ ∃ original ∈ labels, platform.cleanLabelKey original = key := by
  simp only [sanitiseKeys, List.mem_filter, List.mem_map, Bool.not_eq_eq_eq_not, Bool.not_true,
    String.isEmpty_eq_false_iff, and_comm, ne_eq]

theorem kept_removal (platform : Platform H) (labels : Labels) (keys : List String) :
    kept labels (removal platform keys) =
      kept labels [.removeLabels (sanitiseKeys platform keys)] := by
  unfold removal
  split
  · rename_i empty
    rw [List.isEmpty_iff.mp empty]
    rfl
  · rfl

/-- No key that `addLabels` wrote is left after `removeLabels` of these keys. -/
def RemovesWritten (platform : Platform H) (index : Nat) (labels : Labels) (world : World H)
    (added : Labels) (keys : List String) : Prop :=
  ∀ written key,
    .addLabels written ∈ received index (emitted platform world (.report (.addLabels added))) →
      key ∈ written →
        key ∉ keptAfter platform index labels world
          [.report (.addLabels added), .report (.removeLabels keys)]

theorem received_addLabels (platform : Platform H) (index : Nat) (world : World H)
    (added : Labels) :
    received index (emitted platform world (.report (.addLabels added))) =
      [.addLabels (sanitiseLabels platform added)] := by
  simp [emitted, step, ReportCall.perform, addLabels, received, Effect.receivedBy]

theorem mem_keptAfter_iff (platform : Platform H) (index : Nat) (labels : Labels)
    (world : World H) (added : Labels) (keys : List String) (key : String) :
    key ∈ keptAfter platform index labels world
        [.report (.addLabels added), .report (.removeLabels keys)] ↔
      (key ∈ sanitiseLabels platform added ∨ key ∈ labels) ∧
        key ∉ sanitiseKeys platform keys := by
  have relabels : Relabels world (run platform world
      [.report (.addLabels added), .report (.removeLabels keys)])
        ([.addLabels (sanitiseLabels platform added)] ++ removal platform keys) :=
    (step_relabels platform world (.report (.addLabels added))).trans
      (step_relabels platform _ (.report (.removeLabels keys)))
  rw [keptAfter_eq relabels, kept_append, kept_removal]
  change key ∈ (sanitiseKeys platform keys).foldl (fun labels key => labels.erase key)
    (sanitiseLabels platform added ∪ labels) ↔ _
  rw [← not_iff_not, ← Finmap.lookup_eq_none, lookup_eraseAll]
  by_cases removed : key ∈ sanitiseKeys platform keys
  · simp [removed]
  · simp [removed, Finmap.lookup_eq_none]

/-- `removeLabels` of the keys of a dictionary undoes `addLabels`, and the two sanitisers
agree on these keys, exactly if none of them cleans to the empty key. -/
theorem removeLabels_undoes_iff (platform : Platform H) (index : Nat) (labels : Labels)
    (world : World H) (added : Labels) {keys : List String}
    (same : ∀ key, key ∈ keys ↔ key ∈ added) :
    (RemovesWritten platform index labels world added keys ↔
        ∀ key ∈ added, platform.cleanLabelKey key ≠ "") ∧
      ((∀ key, key ∈ sanitiseLabels platform added ↔ key ∈ sanitiseKeys platform keys) ↔
        ∀ key ∈ added, platform.cleanLabelKey key ≠ "") := by
  have removedIff (key : String) : key ∈ sanitiseKeys platform keys ↔
      key ≠ "" ∧ key ∈ sanitiseLabels platform added := by
    simp only [mem_sanitiseKeys_iff, mem_sanitiseLabels_iff, same]
  have blank : "" ∉ sanitiseLabels platform added ↔
      ∀ key ∈ added, platform.cleanLabelKey key ≠ "" := by
    simp only [mem_sanitiseLabels_iff, not_exists, not_and]
  have emits := received_addLabels platform index world added
  rw [← blank]
  constructor
  · have leftIff (key : String) (written : key ∈ sanitiseLabels platform added) :
        key ∉ keptAfter platform index labels world
          [.report (.addLabels added), .report (.removeLabels keys)] ↔ key ≠ "" := by
      rw [mem_keptAfter_iff, removedIff]
      simp [written]
    constructor
    · intro removes written
      exact (leftIff "" written).mp (removes _ "" (by rw [emits]; exact List.mem_cons_self)
        written) rfl
    · intro unwritten written key delivered member
      rw [emits] at delivered
      cases List.mem_singleton.mp delivered
      apply (leftIff key member).mpr
      rintro rfl
      exact unwritten member
  · constructor
    · intro agree written
      exact ((removedIff "").mp ((agree "").mp written)).1 rfl
    · intro unwritten key
      rw [removedIff]
      constructor
      · intro written
        refine ⟨?_, written⟩
        rintro rfl
        exact unwritten written
      · exact And.right

/-- Two labels are added and removed again. -/
theorem removeLabels_undoes_two :
    RemovesWritten reference 0 ∅ launchedWorld
      (Finmap.insert "b" "2" (Labels.single "a" "1")) ["a", "b"] := by
  have same : ∀ key, key ∈ ["a", "b"] ↔
      key ∈ Finmap.insert "b" "2" (Labels.single "a" "1") := by
    intro key
    simp [Labels.single, or_comm]
  refine (removeLabels_undoes_iff reference 0 ∅ launchedWorld _ same).1.mpr ?_
  intro key member
  rcases List.mem_pair.mp ((same key).mpr member) with rfl | rfl
  · decide
  · decide

/-- A label with a blank key cannot be removed. -/
theorem not_removeLabels_undoes_blank :
    ¬RemovesWritten reference 0 ∅ launchedWorld (Labels.single "" "abc") [""] := by
  have written : "" ∈ sanitiseLabels reference (Labels.single "" "abc") := by
    rw [mem_sanitiseLabels_iff]
    exact ⟨"", by simp [Labels.single], rfl⟩
  intro removes
  have removed := removes (sanitiseLabels reference (Labels.single "" "abc")) ""
    (by rw [received_addLabels]; exact List.mem_cons_self) written
  rw [mem_keptAfter_iff] at removed
  exact removed ⟨.inl written, by decide⟩

end Echo.Client
