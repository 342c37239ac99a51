import Echo.Labels.Persistent
import Echo.Protocol.Ownership

/-!
# Labels of a media session

Six labels belong to the media session.  They are written by `setMedia` and by the
callbacks of live brokers, and removed one by one whenever a session is closed.  The
removal goes through the sanitiser for keys and the writing through the one for
dictionaries; where the six keys do not clean to nothing the two agree, and no entry
survives its session.
-/

namespace Echo.Client

open Echo.Protocol Echo.Transition

variable {H : Type}

/-- The six labels of a session: whether live media is enriched, how the enrichment went, and
where in the broadcast it is. -/
def sessionLabelKeys : List EchoLabelKeys :=
  [.essEnabled, .essEnriched, .essSuccess, .essError, .essStatusCode, .mediaTimestamp]

/-- The keys under which the labels of a session are kept. -/
def mediaKeys (platform : Platform H) : List String :=
  sessionLabelKeys.map fun key => platform.cleanLabelKey (platform.labelKey key)

/-- The cleanser keeps the six keys apart and leaves something of each. -/
structure SeparatesMediaKeys (platform : Platform H) : Prop where
  distinct : (mediaKeys platform).Nodup
  nonempty : ∀ key ∈ mediaKeys platform, key ≠ ""

/-- The app does not write the labels of a session. -/
def WritesOwnLabels (platform : Platform H) : Op → Prop
  | .report (.addLabels labels) =>
      ∀ key ∈ labels, platform.cleanLabelKey key ∉ mediaKeys platform
  | .report (.addLabel key _) => platform.cleanLabelKey key ∉ mediaKeys platform
  | _ => True

/-- A `setMedia` or `disable` that takes effect. -/
def ScopesLabels (world : World H) : Op → Prop
  | .media (.setMedia _) | .lifecycle .disable => world.client.echoEnabled = true
  | _ => False

/-- Closing a session removes the label of each of the six keys. -/
theorem mem_mediaLabelKeys_iff (key : EchoLabelKeys) :
    key ∈ mediaLabelKeys ↔ key ∈ sessionLabelKeys := by
  cases key <;> decide

theorem mem_mediaKeys_iff {platform : Platform H} {key : String} :
    key ∈ mediaKeys platform ↔
      key ∈ mediaLabelKeys.map fun key => platform.cleanLabelKey (platform.labelKey key) := by
  simp only [mediaKeys, List.mem_map, mem_mediaLabelKeys_iff]

/-! ## Entries -/

theorem sanitiseLabels_single (platform : Platform H) (key value : String) :
    sanitiseLabels platform (Labels.single key value) =
      Labels.single (platform.cleanLabelKey key)
        (platform.cleanLabelValue (platform.cleanLabelKey key) value) := by
  have entriesEq : platform.labelOrder.entries (Labels.single key value) = [⟨key, value⟩] :=
    Multiset.coe_eq_singleton.mp (platform.labelOrder.coe_entries _)
  rw [sanitiseLabels_eq_writeAll, entriesEq]
  rfl

theorem lookup_single (key value other : String) :
    (Labels.single key value).lookup other = if other = key then some value else none := by
  by_cases same : other = key
  · subst same
    simp [Labels.single]
  · rw [if_neg same, Finmap.lookup_eq_none]
    simpa [Labels.single] using same

section Scope

variable {platform : Platform H} (separates : SeparatesMediaKeys platform)

include separates

/-- Closing a session removes its labels and no others. -/
theorem lookup_kept_mediaRemovals (labels : Labels) (key : String) :
    (kept labels (mediaRemovals platform)).lookup key =
      if key ∈ mediaKeys platform then none else labels.lookup key := by
  have nonempty := separates.nonempty
  simp only [mem_mediaKeys_iff] at nonempty ⊢
  unfold mediaRemovals
  generalize mediaLabelKeys = keys at *
  induction keys generalizing labels with
  | nil => rfl
  | cons first rest ih =>
      rw [List.map_cons] at nonempty ⊢
      have cleaned : sanitiseKeys platform [platform.labelKey first] =
          [platform.cleanLabelKey (platform.labelKey first)] := by
        have nonemptyFirst := nonempty _ List.mem_cons_self
        simp [sanitiseKeys, nonemptyFirst]
      rw [List.flatMap_cons, kept_append, kept_removal, cleaned,
        ih _ fun other member => nonempty other (List.mem_cons_of_mem _ member)]
      by_cases later : key ∈ rest.map fun key => platform.cleanLabelKey (platform.labelKey key)
      · rw [if_pos later, if_pos (List.mem_cons_of_mem _ later)]
      · rw [if_neg later]
        by_cases same : key = platform.cleanLabelKey (platform.labelKey first)
        · rw [if_pos (List.mem_cons.mpr (.inl same))]
          simp [lookup_kept, DelegateCall.keepEntry, same]
        · rw [if_neg (by simpa [same] using later)]
          simp [lookup_kept, DelegateCall.keepEntry, same]

variable {world : World H}

theorem lookup_kept_setMedia (enabled : world.client.echoEnabled = true) (media : Media)
    (labels : Labels) (key : String) :
    (kept labels (labelling platform world (.media (.setMedia media)))).lookup key =
      if key = platform.cleanLabelKey (platform.labelKey .essEnabled) then
        some (platform.cleanLabelValue key
          (if world.client.settings.essEnabled then "true" else "false"))
      else if key ∈ mediaKeys platform then none else labels.lookup key := by
  rw [labelling, if_pos enabled, kept_append, lookup_kept, lookup_kept_mediaRemovals separates]
  simp only [addition, sanitiseLabels_single, run_cons, run_nil, DelegateCall.keepEntry,
    lookup_single]
  split
  · rename_i same
    rw [same]
    rfl
  · rfl

theorem lookup_kept_disable (enabled : world.client.echoEnabled = true) (labels : Labels)
    (key : String) :
    (kept labels (labelling platform world (.lifecycle .disable))).lookup key =
      if key ∈ mediaKeys platform then none else labels.lookup key := by
  rw [labelling, if_pos enabled, lookup_kept_mediaRemovals separates]

/-- After an operation that closes a session, the labels of the session do not depend on
what was kept before. -/
theorem lookup_kept_of_scopes {op : Op} (scopes : ScopesLabels world op) {key : String}
    (ofSession : key ∈ mediaKeys platform) (labels : Labels) :
    (kept labels (labelling platform world op)).lookup key =
      (kept ∅ (labelling platform world op)).lookup key := by
  unfold ScopesLabels at scopes
  split at scopes
  · rw [lookup_kept_setMedia separates scopes, lookup_kept_setMedia separates scopes,
      if_pos ofSession, if_pos ofSession]
  · rw [lookup_kept_disable separates scopes, lookup_kept_disable separates scopes,
      if_pos ofSession, if_pos ofSession]
  · exact scopes.elim

end Scope

/-! ## What is kept along a run -/

section Run

variable (platform : Platform H) (index : Nat)

theorem persistent_run (world : World H) (ops : List Op) :
    persistent index (run platform world ops).log =
      keptAfter platform index (persistent index world.log) world ops := by
  obtain ⟨entries, logEq⟩ := run_log platform world ops
  rw [keptAfter, logEq, List.drop_left, persistent, received_append, kept_append]
  rfl

theorem keptAfter_cons (labels : Labels) (world : World H) (op : Op) (ops : List Op) :
    keptAfter platform index labels world (op :: ops) =
      keptAfter platform index (kept labels (labelling platform world op))
        (step platform world op) ops := by
  have emittedEq : kept labels (received index (emitted platform world op)) =
      kept labels (labelling platform world op) := by
    have grown := step_relabels platform world op index
    rw [step_log, received_append, List.filter_append] at grown
    rw [← kept_filter, List.append_cancel_left grown]
  obtain ⟨entries, logEq⟩ := run_log platform (step platform world op) ops
  have dropped : (run platform world (op :: ops)).log.drop world.log.length =
      emitted platform world op ++ entries := by
    rw [run, run_cons, logEq, step_log, List.append_assoc, List.drop_left]
  rw [keptAfter, dropped, received_append, kept_append, emittedEq, keptAfter, logEq,
    List.drop_left]

theorem lookup_keptAfter_congr {first second : Labels} {key : String}
    (same : first.lookup key = second.lookup key) (world : World H) (ops : List Op) :
    (keptAfter platform index first world ops).lookup key =
      (keptAfter platform index second world ops).lookup key := by
  rw [keptAfter, keptAfter, lookup_kept, lookup_kept, same]

end Run

/-! ## Before the first session -/

/-- Brokers are made by an effective `setMedia` only. -/
theorem brokers_length_step (platform : Platform H) {world : World H} {op : Op}
    (unopened : ¬ScopesLabels world op) :
    (step platform world op).brokers.length = world.brokers.length := by
  have lengthEq (world : World H) : (observe 0 world).brokers.length = world.brokers.length :=
    List.length_map _
  rw [← lengthEq, ← lengthEq]
  rcases step_performs_or_idle platform world op 0 with performs | idle
  · rw [performs.result]
    have takes := op.act_takes platform world
    have guard := performs.guard
    generalize op.act platform world = act at *
    cases takes with
    | setMedia media => exact absurd guard unopened
    | _ => simp [Act.apply, State.close]
  · rw [idle]

/-- Only brokers write the labels of a session outside of `setMedia`. -/
theorem lookup_kept_of_unscoped {platform : Platform H} {world : World H} {op : Op}
    (unopened : ¬ScopesLabels world op) (own : WritesOwnLabels platform op)
    (uncalled : ∀ broker callback, op ≠ .live broker callback) {key : String}
    (ofSession : key ∈ mediaKeys platform) {labels : Labels}
    (absent : labels.lookup key = none) :
    (kept labels (labelling platform world op)).lookup key = none := by
  have added {written : Labels} (unwritten : key ∉ sanitiseLabels platform written) :
      (kept labels [.addLabels (sanitiseLabels platform written)]).lookup key = none := by
    rw [lookup_kept, run_cons, run_nil, DelegateCall.keepEntry,
      Finmap.lookup_eq_none.mpr unwritten, absent]
    rfl
  have removed (keys : List String) :
      (kept labels (removal platform keys)).lookup key = none := by
    rw [kept_removal, lookup_kept, run_cons, run_nil, DelegateCall.keepEntry, absent]
    exact ite_self _
  cases op with
  | report call =>
      cases call with
      | addLabels written =>
          apply added
          rw [mem_sanitiseLabels_iff]
          rintro ⟨original, member, rfl⟩
          exact own original member ofSession
      | addLabel other value =>
          apply added
          rw [sanitiseLabels_single, ← Finmap.lookup_eq_none, lookup_single, if_neg]
          rintro rfl
          exact own ofSession
      | removeLabels keys => exact removed keys
      | removeLabel other => exact removed [other]
      | _ => exact absent
  | media call =>
      cases call with
      | setMedia media =>
          have disabled : ¬world.client.echoEnabled = true := unopened
          rw [labelling, if_neg disabled]
          exact absent
      | _ => exact absent
  | lifecycle call =>
      cases call with
      | disable =>
          have disabled : ¬world.client.echoEnabled = true := unopened
          rw [labelling, if_neg disabled]
          exact absent
      | _ => exact absent
  | live broker callback => exact absurd rfl (uncalled broker callback)
  | _ => exact absent

theorem Effect.receivedBy_of_setup {effect : Effect} (setup : effect.kind = .setup)
    (index : Nat) : effect.receivedBy index = none := by
  cases effect with
  | broadcast call client => cases call <;> cases setup
  | delegate other call => cases call <;> cases setup
  | _ => rfl

/-- A launched client has given its delegates no labels, and has made no broker. -/
theorem Launched.unlabelled {platform : Platform H} {arguments : InitArguments}
    {world : World H} (launched : Launched platform arguments world) (index : Nat) :
    persistent index world.log = ∅ ∧ world.brokers.length = 0 := by
  have skips : UserTells fun call => call.isLabelling = false :=
    ⟨fun _ => rfl, fun _ => rfl, rfl, fun _ _ _ => rfl, rfl⟩
  have unmade : (observe index world).brokers = [] :=
    congrArg State.brokers (launched.observe_eq index)
  refine ⟨?_, ?_⟩
  · obtain ⟨store, now, rfl⟩ := launched.exists_complete
    have silent : received index (prepare platform arguments store now).log = [] := by
      apply List.filterMap_eq_nil_iff.mpr
      intro effect member
      rcases prepare_log platform arguments store now effect member with setup | rfl
      · exact Effect.receivedBy_of_setup setup index
      · rfl
    have completed : Avoids DelegateCall.isLabelling (prepare platform arguments store now)
        (complete platform (prepare platform arguments store now)) := by
      have registered (world : World H) :
          Avoids DelegateCall.isLabelling world world.register :=
        ⟨registrations, rfl, by simp [registrations, Effect.Avoids]⟩
      rw [complete_eq]
      split
      · exact (start_avoids platform skips rfl _).trans (registered _)
      · exact registered _
    rw [(Relabels.of_avoids completed).persistent_eq, persistent, silent]
    rfl
  · exact (List.length_map BrokerState.observe).symm.trans (congrArg List.length unmade)

/-- Until the first session no broker exists, so none can write the labels of one. -/
theorem unlabelled_run {platform : Platform H} {arguments : InitArguments} {world : World H}
    (launched : Launched platform arguments world) {ops : List Op}
    (running : Always platform CallsBackRunning world ops)
    (own : ∀ op ∈ ops, WritesOwnLabels platform op)
    (unopened : Always platform (fun world op => ¬ScopesLabels world op) world ops)
    (index : Nat) :
    (run platform world ops).brokers.length = 0 ∧ ∀ key ∈ mediaKeys platform,
      (persistent index (run platform world ops).log).lookup key = none := by
  have stepwise : ∀ (world : World H) (op : Op),
      (world.brokers.length = 0 ∧ ∀ key ∈ mediaKeys platform,
        (persistent index world.log).lookup key = none) →
      (CallsBackRunning world op ∧ WritesOwnLabels platform op ∧ ¬ScopesLabels world op) →
      ((step platform world op).brokers.length = 0 ∧ ∀ key ∈ mediaKeys platform,
        (persistent index (step platform world op).log).lookup key = none) := by
    rintro world op ⟨unmade, absent⟩ ⟨calls, ownLabels, unscoped⟩
    have uncalled : ∀ broker callback, op ≠ .live broker callback := by
      rintro broker callback rfl
      have phase := calls.1
      rw [World.phaseOf, List.length_eq_zero_iff.mp unmade] at phase
      cases phase
    refine ⟨(brokers_length_step platform unscoped).trans unmade, ?_⟩
    intro key ofSession
    rw [(step_relabels platform world op).persistent_eq]
    exact lookup_kept_of_unscoped unscoped ownLabels uncalled ofSession (absent key ofSession)
  obtain ⟨empty, unmade⟩ := launched.unlabelled index
  have initially : world.brokers.length = 0 ∧ ∀ key ∈ mediaKeys platform,
      (persistent index world.log).lookup key = none := by
    refine ⟨unmade, ?_⟩
    intro key _
    rw [empty, Finmap.lookup_empty]
  exact invariant_run stepwise initially
    (running.and ((always_of_forall_mem own world).and unopened))

/-! ## Runs -/

/-- The labels of the delegate at an index along a run. -/
structure LabelsScoped (platform : Platform H) (index : Nat) (world : World H)
    (ops : List Op) : Prop where
  /-- From a `setMedia` or `disable` that takes effect on, the labels of a session are those
  that a delegate without any labels would have been given since. -/
  since : ∀ first op later, first ++ op :: later <+: ops →
    ScopesLabels (run platform world first) op → ∀ key ∈ mediaKeys platform,
      (persistent index (run platform world (first ++ op :: later)).log).lookup key =
        (keptAfter platform index ∅ (run platform world first) (op :: later)).lookup key
  /-- Before the first of them there are none. -/
  none_before : ∀ first, first <+: ops →
    Always platform (fun world op => ¬ScopesLabels world op) world first →
      ∀ key ∈ mediaKeys platform,
        (persistent index (run platform world first).log).lookup key = none
  /-- Right after an effective `setMedia` there is one. -/
  opened : ∀ first media, first ++ [.media (.setMedia media)] <+: ops →
    (run platform world first).client.echoEnabled = true → ∀ key ∈ sessionLabelKeys,
      (persistent index (run platform world
          (first ++ [.media (.setMedia media)])).log).lookup
            (platform.cleanLabelKey (platform.labelKey key)) =
        if key = .essEnabled then
          some (platform.cleanLabelValue (platform.cleanLabelKey (platform.labelKey key))
            (if world.client.settings.essEnabled then "true" else "false"))
        else none
  /-- Neither `setMedia` nor `disable` touches any other label. -/
  others : ∀ first op, first ++ [op] <+: ops →
    ((∃ media, op = .media (.setMedia media)) ∨ op = .lifecycle .disable) →
      ∀ key, key ∉ mediaKeys platform →
        (persistent index (run platform world (first ++ [op])).log).lookup key =
          (persistent index (run platform world first).log).lookup key

section Claims

variable {platform : Platform H} (separates : SeparatesMediaKeys platform) {index : Nat}

include separates

theorem lookup_since {world : World H} {op : Op} (scopes : ScopesLabels world op) {key : String}
    (ofSession : key ∈ mediaKeys platform) (later : List Op) :
    (persistent index (run platform world (op :: later)).log).lookup key =
      (keptAfter platform index ∅ world (op :: later)).lookup key := by
  rw [persistent_run, keptAfter_cons, keptAfter_cons]
  exact lookup_keptAfter_congr platform index
    (lookup_kept_of_scopes separates scopes ofSession _) _ later

theorem lookup_opened {world : World H} (enabled : world.client.echoEnabled = true)
    (media : Media) {key : EchoLabelKeys} (ofSession : key ∈ sessionLabelKeys) :
    (persistent index (step platform world (.media (.setMedia media))).log).lookup
        (platform.cleanLabelKey (platform.labelKey key)) =
      if key = .essEnabled then
        some (platform.cleanLabelValue (platform.cleanLabelKey (platform.labelKey key))
          (if world.client.settings.essEnabled then "true" else "false"))
      else none := by
  rw [(step_relabels platform world (.media (.setMedia media))).persistent_eq,
    lookup_kept_setMedia separates enabled]
  have listed : EchoLabelKeys.essEnabled ∈ sessionLabelKeys := by decide
  by_cases same : key = .essEnabled
  · rw [if_pos (by rw [same]), if_pos same]
  · have apart : platform.cleanLabelKey (platform.labelKey key) ≠
        platform.cleanLabelKey (platform.labelKey .essEnabled) := fun equal =>
      same (List.inj_on_of_nodup_map separates.distinct ofSession listed equal)
    have member : platform.cleanLabelKey (platform.labelKey key) ∈ mediaKeys platform :=
      List.mem_map_of_mem ofSession
    rw [if_neg apart, if_pos member, if_neg same]

theorem lookup_others {world : World H} {op : Op}
    (closes : (∃ media, op = .media (.setMedia media)) ∨ op = .lifecycle .disable)
    {key : String} (other : key ∉ mediaKeys platform) :
    (persistent index (step platform world op).log).lookup key =
      (persistent index world.log).lookup key := by
  rw [(step_relabels platform world op).persistent_eq]
  have listed : platform.cleanLabelKey (platform.labelKey .essEnabled) ∈ mediaKeys platform :=
    List.mem_map_of_mem (by decide)
  cases enabled : world.client.echoEnabled with
  | false =>
      rcases closes with ⟨media, rfl⟩ | rfl
      · rw [labelling, if_neg (by simp [enabled])]
        rfl
      · rw [labelling, if_neg (by simp [enabled])]
        rfl
  | true =>
      rcases closes with ⟨media, rfl⟩ | rfl
      · have apart : key ≠ platform.cleanLabelKey (platform.labelKey .essEnabled) := by
          rintro rfl
          exact other listed
        rw [lookup_kept_setMedia separates enabled, if_neg apart, if_neg other]
      · rw [lookup_kept_disable separates enabled, if_neg other]

end Claims

theorem reference_separates : SeparatesMediaKeys reference := by
  constructor
  · decide
  · decide

/-- Two sessions of live media, the first of which is enriched. -/
def labelledSessions : List Op :=
  [.report (.setPlayerDelegate 0), .report (.addLabel "page" "home"),
    .media (.setMedia (liveMedia false)), .media (.avPlayEvent 0 none),
    .live 0 (.setEssSuccess true), .live 0 (.liveTimestampUpdate 7),
    .media (.setMedia (liveMedia false)), .lifecycle .disable]

end Echo.Client
