import Echo.Client.Laws
import Echo.Client.Selection
import Echo.User.Events

/-!
# Refused operations

An operation that the client refuses, because it is disabled, has no media, knows no
counter name or is asked to play past the end, writes a diagnostic at most.  While the
client is disabled no operation but `enable` can deliver an analytics event.
-/

namespace Echo.Client

open Echo.Transition

variable {H : Type}

/-! ## Which operations are refused -/

/-- The operations that test `echoEnabled` before anything else. -/
def Op.NeedsEnabled : Op → Prop
  | .report .flushCache | .report (.viewEvent _ _) | .report (.userActionEvent _ _ _)
  | .report (.errorEvent _ _) => True
  | .media (.setMediaLength _) => False
  | .media _ => True
  | .live _ .releaseSuppressedPlay | .live _ (.sendHeartbeat _ _) => True
  | .onDemand _ _ => True
  | _ => False

/-- The `av` events and `setMediaLength`, from the app or from a broker. -/
def Op.NeedsMedia : Op → Prop
  | .media (.setMedia _) => False
  | .media _ => True
  | .live _ (.sendHeartbeat _ _) => True
  | .onDemand _ _ => True
  | _ => False

def Op.NeedsCounterName : Op → Prop
  | .report (.userActionEvent _ _ _) => True
  | _ => False

/-- A play of media that is not live, at a position the length check refuses. -/
def RefusesPlay (world : World H) : Op → Prop
  | .media (.avPlayEvent position _) =>
      (∃ media ∈ world.client.session.media, media.isLive = false) ∧
        world.client.session.broker.isSome = true ∧
        positionExceedsMediaLength position world = true
  | _ => False

def Refuses (world : World H) (op : Op) : Prop :=
  (world.client.echoEnabled = false ∧ op.NeedsEnabled) ∨
    (world.client.session.media = none ∧ op.NeedsMedia) ∨
    (world.client.counterNameSet = false ∧ op.NeedsCounterName) ∨
    RefusesPlay world op

/-! ## What a refused operation does -/

/-- The client, its brokers and timers and the helper's store are as before, and no
delegate, broker or helper was called. -/
structure Unaffected (before after : World H) : Prop where
  client : after.client = before.client
  brokers : after.brokers = before.brokers
  timers : after.timers = before.timers
  userPromise : after.userPromise = before.userPromise
  diagnostics : Extends (fun effect => ∃ level message, effect = .debug level message)
    before.log after.log
  delivers : ∀ index, received index after.log = received index before.log

namespace Unaffected

theorem refl (world : World H) : Unaffected world world where
  client := rfl
  brokers := rfl
  timers := rfl
  userPromise := rfl
  diagnostics := .refl _ _
  delivers _ := rfl

theorem debug {before after : World H} (unaffected : Unaffected before after)
    (level : EchoDebugLevel) (message : String) :
    Unaffected before (after.debug level message) where
  client := unaffected.client
  brokers := unaffected.brokers
  timers := unaffected.timers
  userPromise := unaffected.userPromise
  diagnostics := unaffected.diagnostics.trans (.single _ ⟨level, message, rfl⟩ _)
  delivers index := by
    rw [World.debug_log, received_append, ← unaffected.delivers index]
    exact List.append_nil _

end Unaffected

/-- A disabled client does not even write a diagnostic. -/
theorem step_of_disabled (platform : Platform H) {world : World H}
    (disabled : world.client.echoEnabled = false) {op : Op} (needs : op.NeedsEnabled) :
    step platform world op = world := by
  have navigated (navigation : Navigation) (position : UInt64) (labels : Option Labels) :
      navigate platform navigation position labels world = world := by
    simp [navigate, disabled]
  have acted (actionType actionName : String) (position : UInt64) (labels : Option Labels) :
      avUserActionEvent platform actionType actionName position labels world = world := by
    simp [avUserActionEvent, disabled]
  cases op with
  | report call =>
      cases call with
      | flushCache => simp [step, ReportCall.perform, flushCache, disabled]
      | viewEvent counterName labels => simp [step, ReportCall.perform, viewEvent, disabled]
      | userActionEvent actionType actionName labels =>
          simp [step, ReportCall.perform, userActionEvent, disabled]
      | errorEvent error labels => simp [step, ReportCall.perform, errorEvent, disabled]
      | _ => exact needs.elim
  | media call =>
      cases call with
      | setMedia media => simp [step, MediaCall.perform, setMedia, disabled]
      | setMediaLength length => exact needs.elim
      | avPlayEvent position labels => simp [step, MediaCall.perform, avPlayEvent, disabled]
      | navigation navigation position labels =>
          rw [step, MediaCall.perform, Navigation.event_eq_navigate]
          exact navigated navigation position labels
      | avUserActionEvent actionType actionName position labels =>
          exact acted actionType actionName position labels
  | live broker callback =>
      cases callback with
      | releaseSuppressedPlay =>
          simp [step, LiveCallback.perform, releaseSuppressedPlay, disabled]
      | sendHeartbeat name position => exact acted "echo_hb" name position none
      | _ => exact needs.elim
  | onDemand broker callback =>
      cases callback with
      | sendHeartbeat name position => exact acted "echo_hb" name position none
      | avPauseEvent position labels => exact navigated .avPause position labels
  | _ => exact needs.elim

theorem unaffected_of_no_media (platform : Platform H) {world : World H}
    (noMedia : world.client.session.media = none) {op : Op} (needs : op.NeedsMedia) :
    Unaffected world (step platform world op) := by
  have announced (level : EchoDebugLevel) (message function : String) :
      Unaffected world (missingMedia function (world.debug level message)) :=
    ((Unaffected.refl world).debug level message).debug .error _
  have navigated (navigation : Navigation) (position : UInt64) (labels : Option Labels) :
      Unaffected world (navigate platform navigation position labels world) := by
    simp only [navigate, announce, World.debug_client, noMedia]
    split
    · exact .refl world
    · exact announced _ _ _
  have acted (actionType actionName : String) (position : UInt64) (labels : Option Labels) :
      Unaffected world
        (avUserActionEvent platform actionType actionName position labels world) := by
    simp only [avUserActionEvent, World.debug_client, noMedia]
    split
    · exact .refl world
    · exact announced _ _ _
  cases op with
  | media call =>
      cases call with
      | setMedia media => exact needs.elim
      | setMediaLength length =>
          simp only [step, MediaCall.perform, setMediaLength, noMedia]
          exact (Unaffected.refl world).debug .error _
      | avPlayEvent position labels =>
          simp only [step, MediaCall.perform, avPlayEvent, announce, World.debug_client, noMedia]
          split
          · exact .refl world
          · exact announced _ _ _
      | navigation navigation position labels =>
          rw [step, MediaCall.perform, Navigation.event_eq_navigate]
          exact navigated navigation position labels
      | avUserActionEvent actionType actionName position labels =>
          exact acted actionType actionName position labels
  | live broker callback =>
      cases callback with
      | sendHeartbeat name position => exact acted "echo_hb" name position none
      | _ => exact needs.elim
  | onDemand broker callback =>
      cases callback with
      | sendHeartbeat name position => exact acted "echo_hb" name position none
      | avPauseEvent position labels => exact navigated .avPause position labels
  | _ => exact needs.elim

theorem unaffected_of_no_counterName (platform : Platform H) {world : World H}
    (unset : world.client.counterNameSet = false) {op : Op} (needs : op.NeedsCounterName) :
    Unaffected world (step platform world op) := by
  cases op with
  | report call =>
      cases call with
      | userActionEvent actionType actionName labels =>
          simp only [step, ReportCall.perform, userActionEvent, unset]
          split
          · exact .refl world
          · exact (Unaffected.refl world).debug .error _
      | _ => exact needs.elim
  | _ => exact needs.elim

theorem unaffected_of_refusesPlay (platform : Platform H) {world : World H} {op : Op}
    (refuses : RefusesPlay world op) : Unaffected world (step platform world op) := by
  cases op with
  | media call =>
      cases call with
      | avPlayEvent position labels =>
          obtain ⟨⟨media, stored, notLive⟩, hasBroker, exceeds⟩ := refuses
          obtain ⟨broker, current⟩ := Option.isSome_iff_exists.mp hasBroker
          have stored : world.client.session.media = some media := stored
          have refused (message : String) :
              playBroker media position (world.debug .info message) = none := by
            have same : positionExceedsMediaLength position (world.debug .info message) = true :=
              exceeds
            simp [playBroker, current, notLive, same]
          simp only [step, MediaCall.perform, avPlayEvent, announce, World.debug_client, stored,
            refused]
          split
          · exact .refl world
          · exact (Unaffected.refl world).debug .info _
      | _ => exact refuses.elim
  | _ => exact refuses.elim

theorem unaffected_of_refuses (platform : Platform H) {world : World H} {op : Op}
    (refuses : Refuses world op) : Unaffected world (step platform world op) := by
  rcases refuses with ⟨disabled, needs⟩ | ⟨noMedia, needs⟩ | ⟨unset, needs⟩ | refusesPlay
  · rw [step_of_disabled platform disabled needs]
    exact .refl world
  · exact unaffected_of_no_media platform noMedia needs
  · exact unaffected_of_no_counterName platform unset needs
  · exact unaffected_of_refusesPlay platform refusesPlay

/-- A disabled client only remembers the user for later. -/
theorem setBBCUser_of_disabled (platform : Platform H) {world : World H}
    (disabled : world.client.echoEnabled = false) (user : BBCUser) :
    setBBCUser platform user world =
      world.withUser fun state => { state with bbcUserSetWhileDisabled := some user } := by
  have off : eventsEnabled world = false := by simp [eventsEnabled, disabled]
  exact setBBCUser_of_off platform user off

/-! ## Analytics events -/

/-- The calls that report an event to a vendor. -/
def DelegateCall.isEvent : DelegateCall → Bool
  | .viewEvent _ _ | .userActionEvent _ _ _ | .errorEvent _ _ => true
  | call => call.kind = .event

/-- The analytics events that the delegate at an index has received. -/
def events (index : Nat) (log : List Effect) : List DelegateCall :=
  (received index log).filter DelegateCall.isEvent

theorem ReportCall.perform_silent (platform : Platform H) {world : World H}
    (disabled : world.client.echoEnabled = false) (call : ReportCall) :
    Avoids DelegateCall.isEvent world (call.perform platform world) := by
  have refused (needs : (Op.report call).NeedsEnabled) :
      Avoids DelegateCall.isEvent world (call.perform platform world) := by
    rw [show call.perform platform world = world from step_of_disabled platform disabled needs]
    exact .refl _ world
  have settings (call : DelegateCall) (setting : call.isSetting = true) :
      call.isEvent = false := by
    cases call <;> first | rfl | cases setting
  cases call with
  | viewEvent counterName labels => exact refused trivial
  | userActionEvent actionType actionName labels => exact refused trivial
  | errorEvent error labels => exact refused trivial
  | addLabels labels => exact .broadcast rfl world
  | addLabel key value => exact .broadcast rfl world
  | removeLabels labels => exact removeLabels_avoids platform (fun _ => rfl) labels world
  | removeLabel key => exact removeLabels_avoids platform (fun _ => rfl) [key] world
  | _ => exact ReportCall.perform_avoids platform settings world rfl

/-- While the client is disabled, only `enable` can lead to an event. -/
theorem step_silent (platform : Platform H) {world : World H}
    (disabled : world.client.echoEnabled = false) {op : Op} (other : op ≠ .lifecycle .enable) :
    Avoids DelegateCall.isEvent world (step platform world op) := by
  have refused (needs : op.NeedsEnabled) :
      Avoids DelegateCall.isEvent world (step platform world op) := by
    rw [step_of_disabled platform disabled needs]
    exact .refl _ world
  cases op with
  | report call => exact call.perform_silent platform disabled
  | getComScoreDeviceID => exact getComScoreDeviceID_avoids platform rfl rfl world
  | media call =>
      cases call with
      | setMediaLength length =>
          exact .of_conforms (setMediaLength_conforms platform (fun _ => rfl) length)
            Action.Plays.tells world
      | _ => exact refused trivial
  | lifecycle call =>
      cases call with
      | setBBCUser user =>
          rw [step, LifecycleCall.perform, setBBCUser_of_disabled platform disabled]
          exact .refl _ world
      | start =>
          rw [step, LifecycleCall.perform, start_of_idle platform (by simp [disabled])]
          exact .refl _ world
      | enable => exact absurd rfl other
      | disable =>
          rw [step, LifecycleCall.perform, disable, if_pos (by simp [disabled])]
          exact .refl _ world
  | live broker callback =>
      cases callback with
      | releaseSuppressedPlay => exact refused trivial
      | sendHeartbeat name position => exact refused trivial
      | setEssError error code =>
          exact .of_conforms (setEssError_conforms platform (fun _ => rfl) (by rfl) error code)
            Action.Talks.tells world
      | liveMediaUpdate media newPosition oldPosition =>
          exact .append (.broadcast (.liveMediaUpdate _ _ _) _) rfl rfl
      | liveTimestampUpdate timestamp => exact .broadcast rfl world
      | setEssSuccess isSuccess => exact .broadcast rfl world
  | onDemand broker callback => exact refused trivial
  | fireTimer timer => exact fireTimer_avoids platform (fun _ => rfl) timer world
  | playhead position => exact movePlayhead_avoids platform position world
  | clock now => exact .refl _ world

theorem step_stays_disabled (platform : Platform H) {world : World H}
    (disabled : world.client.echoEnabled = false) {op : Op} (other : op ≠ .lifecycle .enable) :
    (step platform world op).client.echoEnabled = false := by
  rw [← disabled]
  cases op with
  | lifecycle call =>
      cases call with
      | setBBCUser user => exact (setBBCUser_frame platform user world).echoEnabled
      | start => rw [step, LifecycleCall.perform, start_of_idle platform (by simp [disabled])]
      | enable => exact absurd rfl other
      | disable => rw [step, LifecycleCall.perform, disable, if_pos (by simp [disabled])]
  | fireTimer timer => exact (fireTimer_frame platform timer world).echoEnabled
  | clock now => rfl
  | _ => exact (step_frame platform world rfl).echoEnabled

/-- No event is delivered until the client is enabled again. -/
theorem events_run_of_disabled (platform : Platform H) {world : World H}
    (disabled : world.client.echoEnabled = false) {ops : List Op}
    (noEnable : Op.lifecycle .enable ∉ ops) (index : Nat) :
    events index (run platform world ops).log = events index world.log := by
  have others : ∀ op ∈ ops, op ≠ .lifecycle .enable := by
    rintro op member rfl
    exact noEnable member
  have preserved (later : World H) (op : Op)
      (holds : later.client.echoEnabled = false ∧ events index later.log = events index world.log)
      (other : op ≠ .lifecycle .enable) :
      (step platform later op).client.echoEnabled = false ∧
        events index (step platform later op).log = events index world.log := by
    constructor
    · exact step_stays_disabled platform holds.1 other
    · have unheard : events index (step platform later op).log = events index later.log :=
        (step_silent platform holds.1 other).received_eq index
      rw [unheard, holds.2]
  exact (invariant_run preserved ⟨disabled, rfl⟩ (always_of_forall_mem others world)).2

/-- Disabling the client delivers no event either. -/
theorem disable_silent (platform : Platform H) (world : World H) :
    Avoids DelegateCall.isEvent world (disable platform world) ∧
      (disable platform world).client.echoEnabled = false := by
  unfold disable
  dsimp only
  split
  · rename_i off
    exact ⟨.refl _ world, by simpa using off⟩
  · have cleared : Avoids DelegateCall.isEvent world (clearMedia platform world) :=
      clearMedia_avoids platform (fun _ => rfl) rfl world
    exact ⟨cleared.trans (.append (.broadcast .disable _) rfl rfl), rfl⟩

/-- Refused operations are no-ops, in every state: they change nothing and deliver
nothing, a disabled client only keeps the user it is given, and no analytics event
reaches a delegate between a disable and the next enable. -/
theorem refused_operations (platform : Platform H) (world : World H) :
    (∀ op, Refuses world op → Unaffected world (step platform world op)) ∧
      (world.client.echoEnabled = false → ∀ user,
        step platform world (.lifecycle (.setBBCUser user)) =
          world.withUser fun state => { state with bbcUserSetWhileDisabled := some user }) ∧
      ∀ ops, Op.lifecycle .enable ∉ ops → ∀ index,
        events index (run platform world (.lifecycle .disable :: ops)).log =
          events index world.log := by
  refine ⟨?_, ?_, ?_⟩
  · intro op refuses
    exact unaffected_of_refuses platform refuses
  · intro disabled user
    exact setBBCUser_of_disabled platform disabled user
  · intro ops noEnable index
    obtain ⟨silent, disabled⟩ := disable_silent platform world
    calc
      events index (run platform world (.lifecycle .disable :: ops)).log =
          events index (run platform (disable platform world) ops).log := rfl
      _ = events index (disable platform world).log :=
          events_run_of_disabled platform disabled noEnable index
      _ = events index world.log := silent.received_eq index

/-- A disabled client refuses a play, keeps a user for later, and reports no page. -/
theorem refused_operations_disabled :
    let world := run reference launchedWorld [.lifecycle .disable]
    Unaffected world (step reference world (.media (.avPlayEvent 0 none))) ∧
      step reference world (.lifecycle (.setBBCUser signedInUser)) =
        world.withUser (fun state => { state with bbcUserSetWhileDisabled := some signedInUser }) ∧
      events 0 (run reference launchedWorld
          [.lifecycle .disable, .report (.viewEvent "page" none)]).log =
        events 0 launchedWorld.log :=
  ⟨(refused_operations reference _).1 _ (.inl ⟨by decide, trivial⟩),
    (refused_operations reference _).2.1 (by decide) signedInUser,
    (refused_operations reference launchedWorld).2.2 [.report (.viewEvent "page" none)]
      (by decide) 0⟩

end Echo.Client
