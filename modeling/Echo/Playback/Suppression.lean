import Echo.Playback.Release
import Echo.Protocol.Plays

/-!
# Waiting for a release

Between the event that suppresses plays and the callback that ends the suppression any
number of plays may be held back.  They collapse: nothing is delivered while the client
waits, and the one play that is released carries the labels of the last.
-/

namespace Echo.Client

/-- The operations that leave a suppression of plays in place. -/
def Op.Waits : Op → Bool
  | .media (.setMedia _) | .media (.navigation .avEnd _ _) | .lifecycle .disable
  | .live _ (.liveMediaUpdate _ _ _) | .live _ .releaseSuppressedPlay => false
  | _ => true

/-- The labels that an operation leaves behind while plays are suppressed. -/
def Op.hold {H : Type} (platform : Platform H) (held : Option Labels) : Op → Option Labels
  | .media (.avPlayEvent _ eventLabels) => eventLabels.map (sanitiseLabels platform)
  | _ => held

end Echo.Client

namespace Echo.Protocol

open Echo.Client

/-- Plays of the current media are held back, and these labels are kept. -/
structure Waiting (broker : BrokerRef) (held : Option Labels) (state : State) : Prop where
  enabled : state.enabled = true
  suppressing : state.session.suppressingPlayEvent = true
  enrichedLive : state.session.isEnrichedLive = true
  current : state.session.broker = some broker
  labels : state.session.suppressedPlayEventLabels = held

/-- The labels that a move leaves behind. -/
def Act.hold (held : Option Labels) : Act → Option Labels
  | .suppress eventLabels => eventLabels
  | _ => held

/-- The moves that leave a suppression of plays in place. -/
def Act.Waits : Act → Bool
  | .disable | .setMedia _ _ | .release _ _ | .unsuppress | .navigate .avEnd _ _
  | .liveMediaUpdate _ _ _ => false
  | _ => true

namespace Waiting

variable {broker : BrokerRef} {held : Option Labels} {state : State}

/-- Moves that write to nothing but the media, in place. -/
theorem of_session (waiting : Waiting broker held state) {act : Act}
    (enabled : (act.apply state).enabled = true) {update : Media → Media}
    (inPlace : ∀ media, (update media).identity = media.identity)
    (mediaEq : (act.session state).media = state.session.media.map update)
    (suppressing : (act.session state).suppressingPlayEvent = true)
    (current : (act.session state).broker = state.session.broker)
    {labels : Option Labels} (labelsEq : (act.session state).suppressedPlayEventLabels = labels) :
    Waiting broker labels (act.apply state) := by
  constructor
  · exact enabled
  · rwa [Act.apply_session]
  · rw [Act.apply_session]
    exact (isEnrichedLive_of_identity inPlace mediaEq).trans waiting.enrichedLive
  · rw [Act.apply_session]
    exact current.trans waiting.current
  · rwa [Act.apply_session]

theorem of_same (waiting : Waiting broker held state) {act : Act}
    (enabled : (act.apply state).enabled = true) (same : act.session state = state.session) :
    Waiting broker held (act.apply state) := by
  have inPlace (media : Media) : (id media).identity = media.identity := rfl
  refine waiting.of_session enabled inPlace ?_ ?_ ?_ ?_
  · rw [same, Option.map_id_fun, id]
  · rw [same]
    exact waiting.suppressing
  · rw [same]
  · rw [same]
    exact waiting.labels

/-- While the client waits, no move delivers a play. -/
theorem apply (waiting : Waiting broker held state) {act : Act} (guard : act.Guard state)
    (waits : act.Waits = true) :
    Waiting broker (act.hold held) (act.apply state) ∧ plays (act.calls state) = [] := by
  have enabled (other : act.isLifecycle = false) : (act.apply state).enabled = true :=
    (Act.apply_enabled_of_not_lifecycle other state).trans waiting.enabled
  cases act with
  | idle => exact ⟨waiting.of_same (enabled rfl) rfl, rfl⟩
  | start => exact ⟨waiting.of_same waiting.enabled rfl, rfl⟩
  | enable starts =>
      refine ⟨waiting.of_same rfl rfl, ?_⟩
      cases starts <;> rfl
  | forget => exact ⟨waiting.of_same (enabled rfl) rfl, rfl⟩
  | userAction actionType actionName position eventLabels =>
      exact ⟨waiting.of_same (enabled rfl) rfl, rfl⟩
  | setMediaLength length =>
      have inPlace (media : Media) : ({ media with length } : Media).identity = media.identity :=
        rfl
      refine ⟨waiting.of_session (enabled rfl) inPlace rfl waiting.suppressing rfl
        waiting.labels, ?_⟩
      rw [Act.calls]
      split
      · rfl
      · rfl
  | play position eventLabels =>
      exact absurd ⟨waiting.enrichedLive, waiting.suppressing⟩ guard.2.2
  | suppress eventLabels =>
      have inPlace (media : Media) : (id media).identity = media.identity := rfl
      refine ⟨waiting.of_session (enabled rfl) inPlace ?_ waiting.suppressing rfl rfl, rfl⟩
      rw [Option.map_id_fun, id]
      rfl
  | navigate navigation position eventLabels =>
      have continues : navigation ≠ .avEnd := by
        rintro rfl
        cases waits
      obtain ⟨update, inPlace, navigated⟩ :=
        state.session.navigated_of_ne_avEnd continues
      refine ⟨waiting.of_session (enabled rfl) inPlace ?_ ?_ ?_ ?_, ?_⟩
      · simp only [Act.session, navigated]
      · simp only [Act.session, navigated, waiting.suppressing, Bool.true_or]
      · simp only [Act.session, navigated]
      · simp only [Act.session, navigated, waiting.labels, Act.hold]
      · cases navigation <;> rfl
  | _ => cases waits

end Waiting

end Echo.Protocol

namespace Echo.Client

open Echo.Protocol Echo.Transition

variable {H : Type}

/-- A play while the client waits is held back. -/
theorem playAct_of_waiting (platform : Platform H) {world : World H} {index : Nat}
    {broker : BrokerRef} {held : Option Labels}
    (waiting : Waiting broker held (observe index world)) (position : UInt64)
    (eventLabels : Option Labels) :
    playAct platform position eventLabels world =
      .suppress (eventLabels.map (sanitiseLabels platform)) := by
  have enabled : world.client.echoEnabled = true := waiting.enabled
  have current : world.client.session.broker = some broker := waiting.current
  have suppressing : world.client.session.suppressingPlayEvent = true := waiting.suppressing
  obtain ⟨media, stored, holds⟩ := (Option.any_eq_true _ _).mp waiting.enrichedLive
  have stored' : world.client.session.media = some media := stored
  have live : media.isLive = true := (Bool.and_eq_true_iff.mp holds).1
  simp only [playAct, enabled, Bool.not_true, Bool.false_eq_true, if_false, stored', playBroker,
    current, live, if_true, suppressing]
  rw [if_pos (by simpa [live] using holds)]

/-- The move of an operation that waits waits, and leaves the labels of the operation. -/
theorem Op.act_waits (platform : Platform H) {world : World H} {index : Nat}
    {broker : BrokerRef} {held : Option Labels}
    (waiting : Waiting broker held (observe index world)) {op : Op} (waits : op.Waits = true) :
    (op.act platform world).Waits = true ∧
      (op.act platform world).hold held = op.hold platform held := by
  by_cases plays : ∃ position labels, op = .media (.avPlayEvent position labels)
  · obtain ⟨position, labels, rfl⟩ := plays
    have suppressed : Op.act platform world (.media (.avPlayEvent position labels)) =
        .suppress (labels.map (sanitiseLabels platform)) :=
      playAct_of_waiting platform waiting position labels
    rw [suppressed]
    exact ⟨rfl, rfl⟩
  · have holdEq : op.hold platform held = held := by
      unfold Op.hold
      split
      · rename_i position labels
        exact absurd ⟨position, labels, rfl⟩ plays
      · rfl
    have takes := op.act_takes platform world
    rw [holdEq]
    generalize op.act platform world = act at takes
    cases takes with
    | disable => cases waits
    | setMedia media => cases waits
    | suppress position labels => exact absurd ⟨position, labels, rfl⟩ plays
    | release caller reported => cases waits
    | unsuppress caller => cases waits
    | navigate event position labels reported =>
        refine ⟨?_, rfl⟩
        cases event with
        | avEnd => cases waits
        | _ => rfl
    | liveMediaUpdate caller media newPosition oldPosition => cases waits
    | _ => exact ⟨rfl, rfl⟩

theorem waiting_step (platform : Platform H) {world : World H} {index : Nat}
    (present : index < world.client.settings.delegates.length) {broker : BrokerRef}
    {held : Option Labels} (waiting : Waiting broker held (observe index world)) {op : Op}
    (waits : op.Waits = true) :
    Waiting broker (op.hold platform held) (observe index (step platform world op)) ∧
      plays (heard index (step platform world op).log) = plays (heard index world.log) := by
  obtain ⟨guard, result, _⟩ := step_performs platform present op
  obtain ⟨actWaits, holdEq⟩ := Op.act_waits platform waiting waits
  obtain ⟨waitingAfter, silent⟩ := waiting.apply guard actWaits
  have heardEq : heard index (step platform world op).log = heard index world.log ++
      (op.act platform world).calls (observe index world) :=
    (congrArg State.heard result).trans (Act.apply_heard _ _)
  rw [result, ← holdEq]
  refine ⟨waitingAfter, ?_⟩
  rw [heardEq, plays, List.filterMap_append]
  exact (congrArg _ silent).trans (List.append_nil _)

theorem waiting_run (platform : Platform H) {world : World H} {index : Nat}
    (present : index < world.client.settings.delegates.length) {broker : BrokerRef}
    {held : Option Labels} (waiting : Waiting broker held (observe index world)) {ops : List Op}
    (waits : ∀ op ∈ ops, op.Waits = true) :
    Waiting broker (ops.foldl (Op.hold platform) held) (observe index (run platform world ops)) ∧
      plays (heard index (run platform world ops).log) = plays (heard index world.log) := by
  induction ops generalizing world held with
  | nil => exact ⟨waiting, rfl⟩
  | cons op ops ih =>
      obtain ⟨waitingNext, silent⟩ :=
        waiting_step platform present waiting (waits op List.mem_cons_self)
      have presentNext : index < (step platform world op).client.settings.delegates.length := by
        rw [step_settings]
        exact present
      obtain ⟨waitingLast, silentAll⟩ := ih presentNext waitingNext
        fun other member => waits other (List.mem_cons_of_mem op member)
      exact ⟨waitingLast, silentAll.trans silent⟩

/-- However many plays are held back, none is delivered until the broker releases them,
and then one, with the labels of the last. -/
theorem heldPlays_collapse (platform : Platform H) {world : World H} {broker : BrokerRef}
    (enabled : world.client.echoEnabled = true)
    (current : world.client.session.broker = some broker)
    (enrichedLive : world.client.session.isEnrichedLive = true)
    (suppressing : world.client.session.suppressingPlayEvent = true) {ops : List Op}
    (waits : ∀ op ∈ ops, op.Waits = true) {index : Nat}
    (present : index < world.client.settings.delegates.length) :
    plays (received index (run platform world ops).log) = plays (received index world.log) ∧
      received index (emitted platform (run platform world ops)
          (.live broker .releaseSuppressedPlay)) =
        [.avPlayEvent ((run platform world ops).positionOf broker)
          ((ops.foldl (Op.hold platform) world.client.session.suppressedPlayEventLabels).map
            (sanitiseLabels platform))] := by
  have waiting : Waiting broker world.client.session.suppressedPlayEventLabels
      (observe index world) := ⟨enabled, suppressing, enrichedLive, current, rfl⟩
  obtain ⟨waitingLast, silent⟩ := waiting_run platform present waiting waits
  rw [heard, heard, plays_filter, plays_filter] at silent
  obtain ⟨media, stored, holds⟩ := (Option.any_eq_true _ _).mp waitingLast.enrichedLive
  obtain ⟨released, _⟩ := released_of_suppressing platform waitingLast.enabled stored
    waitingLast.current (Bool.and_eq_true_iff.mp holds).1 waitingLast.suppressing
  refine ⟨silent, ?_⟩
  rw [← waitingLast.labels]
  exact released index

theorem heldPlays_twice :
    received 0 (emitted reference (run reference suppressingWorld
        [.media (.avPlayEvent 7 none), .media (.navigation .avSeek 3 none),
          .media (.avPlayEvent 9 (some (Labels.single "key" "value")))])
        (.live 0 .releaseSuppressedPlay)) =
      [.avPlayEvent 0 (([.media (.avPlayEvent 7 none), .media (.navigation .avSeek 3 none),
          .media (.avPlayEvent 9 (some (Labels.single "key" "value")))].foldl
            (Op.hold reference) none).map (sanitiseLabels reference))] :=
  (heldPlays_collapse reference (by decide) (by decide) (by decide) (by decide) (by decide)
    (by decide)).2

end Echo.Client
