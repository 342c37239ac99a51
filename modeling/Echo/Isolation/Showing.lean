import Echo.Isolation.View

/-!
# The client shows its session

Every operation on a session of an enabled client changes the view as the view's own
reaction says, and delivers the calls of that reaction to every delegate.
-/

namespace Echo.Client

open Echo.Isolation Echo.Transition

variable {H : Type}

/-- What is visible of the session. -/
def viewOf (platform : Platform H) (world : World H) : View where
  media := world.client.session.media.map Media.attributes
  position := world.client.session.broker.map (world.positionOf ·)
  suppressing := world.client.session.suppressingPlayEvent
  labels := world.client.session.suppressedPlayEventLabels.map (sanitiseLabels platform)

/-- The calls that the delegate at an index has received, up to the identity of
media. -/
def seen (index : Nat) (log : List Effect) : List DelegateCall :=
  (received index log).map DelegateCall.attributes

@[simp]
theorem seen_append (index : Nat) (first second : List Effect) :
    seen index (first ++ second) = seen index first ++ seen index second := by
  rw [seen, received_append, List.map_append]
  rfl

/-- The broker of the session has been made. -/
def BrokerMade (world : World H) : Prop :=
  ∀ broker ∈ world.client.session.broker, broker < world.brokers.length

/-- Going from one world to another is a reaction of the view. -/
structure Shows (platform : Platform H) (before after : World H) (reaction : Reaction) :
    Prop where
  view : viewOf platform after = reaction.1
  calls : ∀ index, seen index after.log = seen index before.log ++ reaction.2
  broker : after.client.session.broker = before.client.session.broker
  brokers : after.brokers.length = before.brokers.length

namespace Shows

variable {platform : Platform H} {before middle after : World H}

theorem brokerMade {reaction : Reaction} (shown : Shows platform before after reaction)
    (made : BrokerMade before) : BrokerMade after := by
  intro broker member
  rw [shown.brokers]
  rw [shown.broker] at member
  exact made broker member

/-- Nothing is delivered first. -/
theorem of_silent {view : View} {reaction : Reaction}
    (first : Shows platform before middle (view, []))
    (second : Shows platform middle after reaction) : Shows platform before after reaction where
  view := second.view
  calls index := by rw [second.calls, first.calls, List.append_nil]
  broker := second.broker.trans first.broker
  brokers := second.brokers.trans first.brokers

theorem trans {first second : Reaction} (shows₁ : Shows platform before middle first)
    (shows₂ : Shows platform middle after second) :
    Shows platform before after (second.1, first.2 ++ second.2) where
  view := shows₂.view
  calls index := by rw [shows₂.calls, shows₁.calls, List.append_assoc]
  broker := shows₂.broker.trans shows₁.broker
  brokers := shows₂.brokers.trans shows₁.brokers

theorem refl (world : World H) : Shows platform world world (viewOf platform world, []) where
  view := rfl
  calls _ := (List.append_nil _).symm
  broker := rfl
  brokers := rfl

theorem debug (level : EchoDebugLevel) (message : String) (world : World H) :
    Shows platform world (world.debug level message) (viewOf platform world, []) where
  view := rfl
  calls index := by simp [seen, received, Effect.receivedBy]
  broker := rfl
  brokers := rfl

theorem broadcast (call : DelegateCall) (world : World H) :
    Shows platform world (world.broadcast call) (viewOf platform world, [call.attributes]) where
  view := rfl
  calls index := by simp [seen, received, Effect.receivedBy]
  broker := rfl
  brokers := rfl

/-- The session is written to last. -/
theorem withSession {view : View} {calls : List DelegateCall}
    (first : Shows platform before middle (view, calls)) {update : Session → Session}
    (keeps : (update middle.client.session).broker = middle.client.session.broker) :
    Shows platform before (middle.withSession update)
      (viewOf platform (middle.withSession update), calls) where
  view := rfl
  calls := first.calls
  broker := keeps.trans first.broker
  brokers := first.brokers

end Shows

/-- The view of a world that shares its brokers with another. -/
theorem viewOf_eq (platform : Platform H) (before : World H) {after : World H}
    {media : Option Media} {suppressing : Bool} {labels : Option Labels}
    (brokers : after.brokers = before.brokers)
    (broker : after.client.session.broker = before.client.session.broker)
    (mediaEq : after.client.session.media.map Media.attributes = media)
    (suppressingEq : after.client.session.suppressingPlayEvent = suppressing)
    (labelsEq : after.client.session.suppressedPlayEventLabels.map (sanitiseLabels platform) =
      labels) :
    viewOf platform after =
      ⟨media, (viewOf platform before).position, suppressing, labels⟩ := by
  subst mediaEq suppressingEq labelsEq
  simp [viewOf, World.positionOf, brokers, broker]

/-! ## Positions -/

theorem positionOf_modify (update : BrokerState → BrokerState) {broker : BrokerRef}
    {brokers : List BrokerState} (made : broker < brokers.length) :
    ((brokers.modify broker update)[broker]?.map BrokerState.position).getD 0 =
      (update (brokers.get ⟨broker, made⟩)).position := by
  simp [made]

/-- Starting or stopping a broker leaves the positions of all. -/
theorem positionOf_callBroker {call : BrokerCall}
    (keeps : ∀ state : BrokerState, (state.receive call).position = state.position)
    (broker other : BrokerRef) (world : World H) :
    (world.callBroker broker call).positionOf other = world.positionOf other := by
  unfold World.positionOf
  rw [World.callBroker_brokers, List.getElem?_modify]
  cases world.brokers[other]? with
  | none => rfl
  | some state =>
      by_cases same : broker = other
      · simp [same, keeps]
      · simp [same]

theorem callBroker_shows (platform : Platform H) (call : BrokerCall)
    (keeps : ∀ state : BrokerState, (state.receive call).position = state.position)
    (broker : BrokerRef) (world : World H) :
    Shows platform world (world.callBroker broker call) (viewOf platform world, []) := by
  constructor
  · simp only [viewOf, World.callBroker_client, positionOf_callBroker keeps]
  · intro index
    simp [seen, received, Effect.receivedBy]
  · rfl
  · simp

theorem setPosition_shows (platform : Platform H) {broker : BrokerRef} {world : World H}
    (current : world.client.session.broker = some broker)
    (made : broker < world.brokers.length) (position : UInt64) :
    Shows platform world (world.callBroker broker (.setPosition position))
      ({ viewOf platform world with position := some position }, []) := by
  constructor
  · simp only [viewOf, World.callBroker_client, current, Option.map_some]
    congr
    rw [World.positionOf, World.callBroker_brokers, positionOf_modify _ made]
    rfl
  · intro index
    simp [seen, received, Effect.receivedBy]
  · rfl
  · simp

theorem positionExceedsMediaLength_eq {world : World H} {media : Media}
    (current : world.client.session.media = some media) (position : UInt64) :
    positionExceedsMediaLength position world = media.attributes.exceededBy position := by
  rw [positionExceedsMediaLength, current]
  rfl

theorem reportedPosition_eq (platform : Platform H) {world : World H} {media : Media}
    (current : world.client.session.media = some media) (position : UInt64) :
    reportedPosition media position world =
      (viewOf platform world).report media.attributes position := by
  unfold reportedPosition View.report
  cases brokerEq : world.client.session.broker with
  | none => simp only [viewOf, brokerEq, Option.map_none]
  | some broker =>
      simp only [viewOf, brokerEq, Option.map_some, preventPositionExceedingMediaLength, current,
        positionExceedsMediaLength_eq current]
      rfl

/-! ## Operations -/

section Operations

variable (platform : Platform H)

theorem deliverPlay_shows {media : Media} (position : UInt64) (sanitisedLabels : Option Labels)
    {world : World H} (current : world.client.session.media = some media) :
    Shows platform world (deliverPlay media position sanitisedLabels world)
      ((viewOf platform world).deliver platform media.attributes position sanitisedLabels) := by
  have heldIff : (media.isLive && media.isEnrichedWithESSData &&
      world.client.session.suppressingPlayEvent) =
      (media.attributes.holdsPlays && (viewOf platform world).suppressing) := rfl
  unfold deliverPlay View.deliver
  rw [heldIff]
  split
  · exact Shows.withSession (.refl world) rfl
  · have played : viewOf platform
        ((world.broadcast (.avPlayEvent position sanitisedLabels)).withSession .playing) =
        { viewOf platform world with
          media := some { media.attributes with isPlaying := true, isBuffering := false } } := by
      simp only [viewOf, World.withSession_client_session, Session.playing, Session.mapMedia,
        World.broadcast_client, current, Option.map_some]
      rfl
    rw [← played]
    exact Shows.withSession (.broadcast _ world) rfl

/-- A play after the broker has been told of it. -/
theorem playBroker_shows {media : Media} (position : UInt64) (sanitisedLabels : Option Labels)
    {world : World H} (current : world.client.session.media = some media)
    (made : BrokerMade world) :
    Shows platform world
      (match playBroker media position world with
        | none => world
        | some (position, played) => deliverPlay media position sanitisedLabels played)
      ((viewOf platform world).play platform position sanitisedLabels) := by
  have mediaEq : (viewOf platform world).media = some media.attributes := by
    simp [viewOf, current]
  unfold playBroker View.play
  rw [mediaEq]
  cases brokerEq : world.client.session.broker with
  | none =>
      have positionEq : (viewOf platform world).position = none := by simp [viewOf, brokerEq]
      rw [positionEq]
      exact deliverPlay_shows platform position sanitisedLabels current
  | some broker =>
      have positionEq : (viewOf platform world).position = some (world.positionOf broker) := by
        simp [viewOf, brokerEq]
      rw [positionEq, positionExceedsMediaLength_eq current]
      dsimp only
      by_cases live : media.isLive = true
      · rw [if_pos live, if_pos (show media.attributes.isLive = true from live)]
        have started := callBroker_shows platform .start (fun _ => rfl) broker world
        have delivered := deliverPlay_shows platform (world.positionOf broker) sanitisedLabels
          (show (world.callBroker broker .start).client.session.media = some media from current)
        rw [started.view] at delivered
        exact started.of_silent delivered
      · rw [if_neg live, if_neg (show ¬media.attributes.isLive = true from live)]
        by_cases exceeded : media.attributes.exceededBy position = true
        · rw [if_pos exceeded, if_pos exceeded]
          exact .refl world
        · rw [if_neg exceeded, if_neg exceeded]
          have moved := setPosition_shows platform brokerEq (made broker brokerEq) position
          have started := callBroker_shows platform .start (fun _ => rfl) broker
            (world.callBroker broker (.setPosition position))
          have delivered := deliverPlay_shows platform position sanitisedLabels
            (show ((world.callBroker broker (.setPosition position)).callBroker broker
              .start).client.session.media = some media from current)
          rw [started.view, moved.view] at delivered
          dsimp only at delivered
          rw [mediaEq] at delivered
          exact moved.of_silent (started.of_silent delivered)

theorem avPlayEvent_shows (position : UInt64) (eventLabels : Option Labels) {world : World H}
    (enabled : world.client.echoEnabled = true) (made : BrokerMade world) :
    Shows platform world (avPlayEvent platform position eventLabels world)
      ((viewOf platform world).play platform position
        (eventLabels.map (sanitiseLabels platform))) := by
  have announced : Shows platform world
      (announce "avPlayEvent(at:eventLabels:)" position world) (viewOf platform world, []) :=
    .debug _ _ world
  simp only [avPlayEvent, enabled, Bool.not_true, Bool.false_eq_true, if_false]
  cases current : world.client.session.media with
  | none =>
      have mediaEq : (viewOf platform world).media = none := by simp [viewOf, current]
      have missing : (announce "avPlayEvent(at:eventLabels:)" position
          world).client.session.media = none := current
      simp only [missing, View.play, mediaEq]
      exact announced.of_silent (.debug _ _ _)
  | some media =>
      have found : (announce "avPlayEvent(at:eventLabels:)" position
          world).client.session.media = some media := current
      simp only [found]
      exact announced.of_silent (playBroker_shows platform position _ found made)

omit platform in
theorem stopBroker_client (world : World H) : (stopBroker world).client = world.client := by
  unfold stopBroker
  split <;> rfl

theorem stopBroker_shows (world : World H) :
    Shows platform world (stopBroker world) (viewOf platform world, []) := by
  unfold stopBroker
  split
  · exact .refl world
  · exact callBroker_shows platform .stop (fun _ => rfl) _ world

/-- What a navigation event writes to the session. -/
theorem navigation_session (navigation : Navigation) {media : Media} {session : Session}
    (current : session.media = some media) :
    (navigation.after (navigation.before (session.suppressPlay media))).media.map
        Media.attributes = navigation.media media.attributes ∧
      (navigation.after (navigation.before (session.suppressPlay media))).suppressingPlayEvent =
        (session.suppressingPlayEvent || media.holdsPlays) ∧
      (navigation.after (navigation.before
        (session.suppressPlay media))).suppressedPlayEventLabels =
        session.suppressedPlayEventLabels ∧
      (navigation.after (navigation.before (session.suppressPlay media))).broker =
        session.broker := by
  have suppressed : session.suppressPlay media =
      { session with
        suppressingPlayEvent := session.suppressingPlayEvent || media.holdsPlays } := by
    rcases session with ⟨_, _, suppressing, _, _⟩
    unfold Session.suppressPlay Media.holdsPlays
    cases suppressing with
    | true => simp
    | false =>
        cases media.isLive && media.isEnrichedWithESSData with
        | true => rfl
        | false => rfl
  rw [suppressed]
  cases navigation with
  | _ => simp [Navigation.before, Navigation.after, Session.stopPlaying,
      Session.startBuffering, Session.endMedia, Session.mapMedia, current, Navigation.media,
      Media.attributes]

theorem navigate_shows (navigation : Navigation) (position : UInt64)
    (eventLabels : Option Labels) {world : World H}
    (enabled : world.client.echoEnabled = true) :
    Shows platform world (navigate platform navigation position eventLabels world)
      ((viewOf platform world).navigate navigation position
        (eventLabels.map (sanitiseLabels platform))) := by
  have announced : Shows platform world (announce navigation.function position world)
      (viewOf platform world, []) := .debug _ _ world
  simp only [navigate, enabled, Bool.not_true, Bool.false_eq_true, if_false]
  cases current : world.client.session.media with
  | none =>
      have mediaEq : (viewOf platform world).media = none := by simp [viewOf, current]
      have missing : (announce navigation.function position
          world).client.session.media = none := current
      simp only [missing, View.navigate, mediaEq]
      exact announced.of_silent (.debug _ _ _)
  | some media =>
      have mediaEq : (viewOf platform world).media = some media.attributes := by
        simp [viewOf, current]
      have found : (announce navigation.function position
          world).client.session.media = some media := current
      have stopped := announced.of_silent
        (stopBroker_shows platform (announce navigation.function position world))
      have stoppedFound : (stopBroker (announce navigation.function position
          world)).client.session.media = some media := by
        rw [stopBroker_client]
        exact current
      obtain ⟨mediaAfter, suppressing, labels, broker⟩ :=
        navigation_session navigation stoppedFound
      simp only [found, avNavigationEvent, View.navigate, mediaEq]
      rw [reportedPosition_eq platform stoppedFound, stopped.view]
      constructor
      · rw [show (viewOf platform world).position = (viewOf platform
          (stopBroker (announce navigation.function position world))).position by
            rw [stopped.view]; rfl]
        apply viewOf_eq platform (stopBroker (announce navigation.function position world))
        · rfl
        · exact broker
        · exact mediaAfter
        · exact suppressing.trans (by rw [stopBroker_client]; rfl)
        · have unchanged := labels.trans (by rw [stopBroker_client])
          exact congrArg (Option.map (sanitiseLabels platform)) unchanged
      · intro index
        simp only [World.withSession_log, World.broadcast_log, seen_append, stopped.calls,
          List.append_nil]
        cases navigation <;> rfl
      · exact broker.trans stopped.broker
      · exact stopped.brokers

theorem avUserActionEvent_shows (actionType actionName : String) (position : UInt64)
    (eventLabels : Option Labels) {world : World H}
    (enabled : world.client.echoEnabled = true) :
    Shows platform world
      (avUserActionEvent platform actionType actionName position eventLabels world)
      ((viewOf platform world).userAction actionType actionName position
        (eventLabels.map (sanitiseLabels platform))) := by
  simp only [avUserActionEvent, enabled, Bool.not_true, Bool.false_eq_true, if_false]
  cases current : world.client.session.media with
  | none =>
      have mediaEq : (viewOf platform world).media = none := by simp [viewOf, current]
      simp only [World.debug_client, current, View.userAction, mediaEq]
      exact (Shows.debug _ _ world).of_silent (.debug _ _ _)
  | some media =>
      have mediaEq : (viewOf platform world).media = some media.attributes := by
        simp [viewOf, current]
      simp only [World.debug_client, current, View.userAction, mediaEq]
      rw [← reportedPosition_eq platform current]
      exact (Shows.debug _ _ world).of_silent (.broadcast _ _)

theorem setMediaLength_shows (length : UInt64) (world : World H) :
    Shows platform world (setMediaLength length world)
      ((viewOf platform world).setLength length) := by
  unfold setMediaLength View.setLength
  cases current : world.client.session.media with
  | none =>
      have mediaEq : (viewOf platform world).media = none := by simp [viewOf, current]
      rw [mediaEq]
      exact .debug _ _ world
  | some media =>
      have mediaEq : (viewOf platform world).media = some media.attributes := by
        simp [viewOf, current]
      rw [mediaEq]
      by_cases live : media.consumptionMode = .live
      · have same : media.attributes.consumptionMode = .live := live
        simp only [if_pos live, if_pos same]
        exact .debug _ _ world
      · have same : ¬media.attributes.consumptionMode = .live := live
        simp only [if_neg live, if_neg same]
        have written (middle : World H) (brokers : middle.brokers = world.brokers)
            (session : middle.client.session = world.client.session) :
            viewOf platform (middle.withSession (.mapMedia fun media => { media with length })) =
              { viewOf platform world with
                media := some { media.attributes with length } } := by
          apply viewOf_eq platform world
          · exact brokers
          · simp only [World.withSession_client_session, Session.mapMedia, session]
          · simp only [World.withSession_client_session, Session.mapMedia, session, current]
            rfl
          · simp only [World.withSession_client_session, Session.mapMedia, session]
            rfl
          · simp only [World.withSession_client_session, Session.mapMedia, session]
            rfl
        by_cases positive : length > 0
        · rw [if_pos positive, if_pos positive, ← written _ rfl rfl]
          exact Shows.withSession (.broadcast _ world) rfl
        · rw [if_neg positive, if_neg positive, ← written _ rfl rfl]
          exact Shows.withSession (.refl world) rfl

theorem liveMediaUpdate_shows (media : Media) (newPosition oldPosition : UInt64)
    (world : World H) :
    Shows platform world (liveMediaUpdate media newPosition oldPosition world)
      ((viewOf platform world).update media newPosition oldPosition) := by
  have updated : Shows platform world (world.withSession (.updated media))
      (viewOf platform (world.withSession (.updated media)), []) :=
    Shows.withSession (.refl world) rfl
  exact updated.of_silent (.broadcast (.liveMediaUpdate media newPosition oldPosition) _)

theorem addLabel_shows (key : EchoLabelKeys) (value : String) (world : World H) :
    Shows platform world (addLabel platform (platform.labelKey key) value world)
      (viewOf platform world, View.labelCalls platform key value) :=
  .broadcast _ world

theorem setEssError_shows (error : EssError) (code : String) (world : World H) :
    Shows platform world (setEssError platform error code world)
      (viewOf platform world, View.essErrorCalls platform error code) := by
  have labelled := addLabel_shows platform .essError (platform.essErrorValue error) world
  unfold setEssError View.essErrorCalls
  dsimp only
  by_cases status : error = .statusCode
  · rw [if_pos status, if_pos status]
    exact (labelled.trans (addLabel_shows platform .essStatusCode code _)).trans
      (.broadcast .liveEnrichmentFailed _)
  · rw [if_neg status, if_neg status, List.append_nil]
    exact labelled.trans (.broadcast .liveEnrichmentFailed _)

theorem releaseSuppressedPlay_shows {world : World H}
    (enabled : world.client.echoEnabled = true) (made : BrokerMade world) :
    Shows platform world (releaseSuppressedPlay platform world)
      ((viewOf platform world).release platform) := by
  simp only [releaseSuppressedPlay, enabled, Bool.not_true, Bool.false_eq_true, if_false]
  unfold View.release
  cases brokerEq : world.client.session.broker with
  | none =>
      have positionEq : (viewOf platform world).position = none := by simp [viewOf, brokerEq]
      rw [positionEq]
      exact .refl world
  | some broker =>
      have positionEq : (viewOf platform world).position = some (world.positionOf broker) := by
        simp [viewOf, brokerEq]
      rw [positionEq]
      cases suppressing : world.client.session.suppressingPlayEvent with
      | false =>
          have same : (viewOf platform world).suppressing = false := suppressing
          simp only [same, Bool.false_eq_true, if_false]
          exact .refl world
      | true =>
          have same : (viewOf platform world).suppressing = true := suppressing
          have unsuppressed : Shows platform world (world.withSession .unsuppressed)
              (viewOf platform (world.withSession .unsuppressed), []) :=
            Shows.withSession (.refl world) rfl
          have played := avPlayEvent_shows platform (world.positionOf broker)
            world.client.session.suppressedPlayEventLabels
            (show (world.withSession .unsuppressed).client.echoEnabled = true from enabled)
            (unsuppressed.brokerMade made)
          simp only [same, if_true]
          rw [← positionEq]
          exact unsuppressed.of_silent played

theorem movePlayhead_shows (position : UInt64) {world : World H} (made : BrokerMade world) :
    Shows platform world (movePlayhead position world)
      ((viewOf platform world).movePlayhead position, []) := by
  unfold movePlayhead
  cases brokerEq : world.client.session.broker with
  | none =>
      have same : (viewOf platform world).movePlayhead position = viewOf platform world := by
        simp [View.movePlayhead, viewOf, brokerEq]
      rw [same]
      exact .refl world
  | some broker =>
      have moved := setPosition_shows platform brokerEq (made broker brokerEq) position
      have positionEq : (viewOf platform world).movePlayhead position =
          { viewOf platform world with position := some position } := by
        simp [View.movePlayhead, viewOf, brokerEq]
      rw [positionEq]
      exact ⟨moved.view, fun _ => (List.append_nil _).symm, rfl, List.length_modify ..⟩

end Operations

/-! ## Steps and runs -/

theorem step_shows (platform : Platform H) {world : World H}
    (enabled : world.client.echoEnabled = true) (made : BrokerMade world) {op : Op}
    (inSession : op.InSession) :
    Shows platform world (step platform world op) ((viewOf platform world).react platform op) := by
  cases op with
  | media call =>
      cases call with
      | setMedia media => exact inSession.elim
      | setMediaLength length => exact setMediaLength_shows platform length world
      | avPlayEvent position labels => exact avPlayEvent_shows platform position labels enabled made
      | navigation navigation position labels =>
          rw [step, MediaCall.perform, Navigation.event_eq_navigate]
          exact navigate_shows platform navigation position labels enabled
      | avUserActionEvent actionType actionName position labels =>
          exact avUserActionEvent_shows platform actionType actionName position labels enabled
  | live broker callback =>
      cases callback with
      | liveMediaUpdate media newPosition oldPosition =>
          exact liveMediaUpdate_shows platform media newPosition oldPosition world
      | liveTimestampUpdate timestamp => exact addLabel_shows platform .mediaTimestamp _ world
      | setEssError error code => exact setEssError_shows platform error code world
      | setEssSuccess isSuccess => exact addLabel_shows platform .essSuccess _ world
      | releaseSuppressedPlay => exact releaseSuppressedPlay_shows platform enabled made
      | sendHeartbeat name position =>
          exact avUserActionEvent_shows platform "echo_hb" name position none enabled
  | onDemand broker callback =>
      cases callback with
      | sendHeartbeat name position =>
          exact avUserActionEvent_shows platform "echo_hb" name position none enabled
      | avPauseEvent position labels =>
          exact navigate_shows platform .avPause position labels enabled
  | playhead position => exact movePlayhead_shows platform position made
  | report call => exact inSession.elim
  | getComScoreDeviceID => exact inSession.elim
  | lifecycle call => exact inSession.elim
  | fireTimer timer => exact inSession.elim
  | clock now => exact inSession.elim

theorem step_enabled (platform : Platform H) (world : World H) {op : Op}
    (inSession : op.InSession) :
    (step platform world op).client.echoEnabled = world.client.echoEnabled := by
  cases op with
  | lifecycle call => exact inSession.elim
  | fireTimer timer => exact inSession.elim
  | clock now => exact inSession.elim
  | _ => exact (step_frame platform world rfl).echoEnabled

/-- A session delivers what its view puts out. -/
theorem seen_run (platform : Platform H) {world : World H}
    (enabled : world.client.echoEnabled = true) (made : BrokerMade world) {ops : List Op}
    (inSession : ∀ op ∈ ops, op.InSession) (index : Nat) :
    seen index (run platform world ops).log =
      seen index world.log ++ outputs (View.next platform) (View.output platform)
        (viewOf platform world) ops := by
  have preserved (world : World H) (op : Op)
      (holds : world.client.echoEnabled = true ∧ BrokerMade world) (inSession : op.InSession) :
      (step platform world op).client.echoEnabled = true ∧ BrokerMade (step platform world op) := by
    rw [step_enabled platform world inSession]
    exact ⟨holds.1, (step_shows platform holds.1 holds.2 inSession).brokerMade holds.2⟩
  have grows (world : World H) (op : Op)
      (holds : world.client.echoEnabled = true ∧ BrokerMade world) (inSession : op.InSession) :
      seen index (step platform world op).log =
        seen index world.log ++ View.output platform (viewOf platform world) op :=
    (step_shows platform holds.1 holds.2 inSession).calls index
  have delivered := append_outputs_of_step (fun world => seen index world.log)
    preserved grows ⟨enabled, made⟩ inSession
  have abstracted : outputs (step platform)
      (fun world op => View.output platform (viewOf platform world) op) world ops =
      outputs (View.next platform) (View.output platform) (viewOf platform world) ops := by
    have same (world : World H) (view : View) (op : Op)
        (related : (world.client.echoEnabled = true ∧ BrokerMade world) ∧
          viewOf platform world = view) (_ : op.InSession) :
        View.output platform (viewOf platform world) op = View.output platform view op := by
      rw [related.2]
    apply outputs_eq_of_related (fun world view =>
      (world.client.echoEnabled = true ∧ BrokerMade world) ∧ viewOf platform world = view) same
    · rintro world _ op ⟨holds, rfl⟩ allowed
      exact ⟨preserved world op holds allowed,
        (step_shows platform holds.1 holds.2 allowed).view⟩
    · exact ⟨⟨enabled, made⟩, rfl⟩
    · exact inSession
  rw [← abstracted]
  exact delivered

end Echo.Client
