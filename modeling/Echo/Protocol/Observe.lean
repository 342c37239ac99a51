import Echo.Protocol.Machine
import Echo.Client.Delivery

/-!
# The protocol state of a world

`observe` forgets what the protocol does not speak of.  The lemmas below say
what the primitives, and the opening and closing of a session, look like to the
protocol.
-/

namespace Echo.Client

open Echo.Protocol

variable {H : Type}

/-- What the protocol sees of a broker. -/
def BrokerState.observe (broker : BrokerState) : Broker :=
  ⟨broker.kind, broker.phase⟩

/-- The protocol state that the delegate at an index takes part in. -/
def observe (index : Nat) (world : World H) : State where
  enabled := world.client.echoEnabled
  started := world.client.hasStarted
  session := world.client.session
  brokers := world.brokers.map BrokerState.observe
  heard := heard index world.log

@[simp]
theorem observe_session (index : Nat) (world : World H) :
    (observe index world).session = world.client.session :=
  rfl

/-! ## Primitives -/

theorem observe_of_report {before after : World H} (frame : ReportFrame before after)
    (index : Nat) : observe index after = observe index before := by
  simp only [observe, frame.echoEnabled, frame.hasStarted, frame.session, frame.brokers,
    frame.heard_eq]

theorem observe_of_user {before after : World H} (frame : UserFrame before after)
    (index : Nat) : observe index after = observe index before := by
  simp only [observe, frame.echoEnabled, frame.hasStarted, frame.session, frame.brokers,
    frame.heard_eq]

@[simp]
theorem observe_debug (index : Nat) (level : EchoDebugLevel) (message : String)
    (world : World H) : observe index (world.debug level message) = observe index world :=
  observe_of_report (.emit (.debug level message) rfl world) index

@[simp]
theorem observe_announce (index : Nat) (function : String) (position : UInt64)
    (world : World H) : observe index (announce function position world) = observe index world :=
  observe_debug index _ _ world

theorem observe_broadcast {call : DelegateCall} (protocol : call.isProtocol = true)
    (index : Nat) (world : World H) :
    observe index (world.broadcast call) = (observe index world).hear [call] := by
  have heardCall : heard index [.broadcast call world.client] = [call] := by
    simp [heard, received, Effect.receivedBy, protocol]
  simp only [observe, State.hear, World.broadcast_client, World.broadcast_brokers,
    World.broadcast_log, heard_append, heardCall]

@[simp]
theorem observe_withSession (index : Nat) (update : Session → Session) (world : World H) :
    observe index (world.withSession update) = (observe index world).withSession update :=
  rfl

theorem observe_setEnabled (index : Nat) (enabled : Bool) (world : World H) :
    observe index (world.setEnabled enabled) = { observe index world with enabled } :=
  rfl

theorem observe_setStarted (index : Nat) (world : World H) :
    observe index world.setStarted = { observe index world with started := true } :=
  rfl

/-- Modifying an entry commutes with a projection of the entries. -/
theorem map_modify_of_intertwines {α β : Type} (project : α → β) (update : α → α)
    (update' : β → β) (intertwines : ∀ entry, project (update entry) = update' (project entry))
    (entries : List α) (position : Nat) :
    (entries.modify position update).map project =
      (entries.map project).modify position update' := by
  induction entries generalizing position with
  | nil => simp
  | cons entry entries ih =>
      cases position with
      | zero => simp [intertwines]
      | succ position => simp [ih]

/-- Starting or stopping the current broker sets whether it runs. -/
theorem observe_callBroker {call : BrokerCall} {phase : BrokerPhase}
    (sets : ∀ state, BrokerState.receive call state = { state with phase })
    {world : World H} {broker : BrokerRef} (current : world.client.session.broker = some broker)
    (index : Nat) :
    observe index (world.callBroker broker call) = (observe index world).setPhase phase := by
  have silent : heard index [.broker broker call] = [] := rfl
  have modified := map_modify_of_intertwines BrokerState.observe (BrokerState.receive call)
    (fun broker => { broker with phase })
    (fun state => by rw [sets]; rfl) world.brokers broker
  simp only [observe, State.setPhase, current, World.callBroker_client,
    World.callBroker_brokers, World.callBroker_log, heard_append, silent, modified,
    List.append_nil]

/-- A new position is not observed. -/
theorem observe_setPosition (broker : BrokerRef) (position : UInt64) (brokers : List BrokerState) :
    (brokers.modify broker (BrokerState.receive (.setPosition position))).map
      BrokerState.observe = brokers.map BrokerState.observe := by
  rw [map_modify_of_intertwines BrokerState.observe
    (BrokerState.receive (.setPosition position)) id fun _ => rfl, List.modify_id]

@[simp]
theorem observe_callBroker_setPosition (broker : BrokerRef) (position : UInt64)
    (world : World H) (index : Nat) :
    observe index (world.callBroker broker (.setPosition position)) = observe index world := by
  have silent : heard index [.broker broker (.setPosition position)] = [] := rfl
  simp only [observe, World.callBroker_client, World.callBroker_brokers, World.callBroker_log,
    heard_append, silent, observe_setPosition, List.append_nil]

/-! ## Sessions -/

theorem observe_releaseBroker (index : Nat) (world : World H) :
    observe index (releaseBroker world) =
      ((observe index world).setPhase .stopped).withSession
        fun session => { session with broker := none } := by
  unfold releaseBroker
  split
  · rename_i noBroker
    have sessionEq : { world.client.session with broker := none } = world.client.session := by
      rw [← noBroker]
    simp only [State.setPhase, observe, noBroker, State.withSession, sessionEq]
  · rename_i broker current
    rw [observe_withSession, observe_callBroker (fun _ => rfl) current]

theorem observe_clearMedia (platform : Platform H) (index : Nat) (world : World H) :
    observe index (clearMedia platform world) =
      (observe index world).close.hear [.clearMedia] := by
  unfold clearMedia
  dsimp only
  rw [observe_broadcast (by decide), observe_releaseBroker, observe_withSession,
    observe_of_report (removeMediaLabels_frame platform world)]
  generalize observe index world = state
  rw [State.setPhase, State.close, State.setPhase]
  cases current : state.session.broker with
  | none => simp [State.withSession, current, Session.closed]
  | some broker => simp [State.withSession, current, Session.closed]

/-- Removing labels only writes to the log. -/
theorem removeLabels_eq (platform : Platform H) (labels : List String) (world : World H) :
    ∃ log, removeLabels platform labels world = { world with log } := by
  unfold removeLabels
  dsimp only
  split
  · exact ⟨_, rfl⟩
  · exact ⟨world.log, rfl⟩

theorem removeMediaLabels_eq (platform : Platform H) (world : World H) :
    ∃ log, removeMediaLabels platform world = { world with log } := by
  unfold removeMediaLabels
  generalize mediaLabelKeys = keys
  induction keys generalizing world with
  | nil => exact ⟨world.log, rfl⟩
  | cons key keys ih =>
      obtain ⟨log, removed⟩ := removeLabels_eq platform [platform.labelKey key] world
      rw [List.foldl_cons, removeLabel, removed]
      obtain ⟨log', rest⟩ := ih { world with log }
      exact ⟨log', rest⟩

/-- Closing a session touches neither the player delegate nor the supply of
object identities. -/
theorem clearMedia_keeps (platform : Platform H) (world : World H) :
    (clearMedia platform world).client.playerDelegate = world.client.playerDelegate ∧
      (clearMedia platform world).nextObjectID = world.nextObjectID := by
  obtain ⟨log, removed⟩ := removeMediaLabels_eq platform world
  simp only [clearMedia, removed, World.broadcast_client, World.broadcast_nextObjectID,
    releaseBroker]
  split
  · exact ⟨rfl, rfl⟩
  · exact ⟨rfl, rfl⟩

/-- The kind of broker the factory is asked for. -/
def Settings.brokerKind (settings : Settings) (media : Media) : BrokerKind :=
  if settings.essUrl.isSome && media.isLive then .live else .onDemand

theorem observe_adoptBroker {made : Effect} (silent : ∀ index, heard index [made] = [])
    (state : BrokerState) (world : World H) (index : Nat) :
    observe index (world.adoptBroker made state) =
      { observe index world with
        session := { world.client.session with broker := some world.brokers.length }
        brokers := (observe index world).brokers ++ [state.observe] } := by
  simp only [observe, World.adoptBroker, heard_append, silent, List.map_append, List.map_cons,
    List.map_nil, List.append_nil]

theorem observe_makeBroker (platform : Platform H) (playerDelegate : PlayerDelegate)
    (media : Media) (world : World H) (index : Nat) :
    observe index (makeBroker platform playerDelegate media world) =
      { observe index world with
        session := { world.client.session with broker := some world.brokers.length }
        brokers := (observe index world).brokers ++
          [⟨world.client.settings.brokerKind media, .made⟩] } := by
  unfold makeBroker
  dsimp only
  split
  · rename_i essUrl hasUrl isLive
    have live : world.client.settings.brokerKind media = .live := by
      simp [Settings.brokerKind, hasUrl, isLive]
    rw [observe_adoptBroker (fun _ => rfl), live]
    rfl
  · rename_i notLive
    have onDemand : world.client.settings.brokerKind media = .onDemand := by
      cases hasUrl : world.client.settings.essUrl with
      | none => simp [Settings.brokerKind, hasUrl]
      | some essUrl =>
          cases isLive : media.isLive with
          | false => simp [Settings.brokerKind, isLive]
          | true => exact absurd isLive (notLive essUrl hasUrl)
    rw [observe_adoptBroker (fun _ => rfl), onDemand]
    rfl

/-- The broker that a new session gets: none without a player delegate. -/
def EchoClient.brokerFor (client : EchoClient) (media : Media) : Option BrokerKind :=
  client.playerDelegate.map fun _ => client.settings.brokerKind media

theorem observe_initBroker (platform : Platform H) {world : World H} {media : Media}
    (stored : world.client.session.media = some media) (index : Nat) :
    observe index (initBroker platform world) =
      (observe index world).adopt media (world.client.brokerFor media) := by
  unfold initBroker
  cases delegate : world.client.playerDelegate with
  | none =>
      have sessionEq : { world.client.session with media := some media } =
          world.client.session := by
        rw [← stored]
      simp only [EchoClient.brokerFor, delegate, Option.map_none, State.adopt,
        State.withSession, observe, sessionEq]
  | some playerDelegate =>
      have made := observe_makeBroker platform playerDelegate media world index
      have broker : (makeBroker platform playerDelegate media world).client.session.broker =
          some world.brokers.length :=
        congrArg (fun state => state.session.broker) made
      simp only [stored, broker]
      rw [observe_broadcast (by simp [DelegateCall.isProtocol]), made]
      simp only [EchoClient.brokerFor, delegate, Option.map_some, State.adopt, observe,
        List.length_map, ← stored]

/-- The clone that a new session reports on. -/
def cloneFor (platform : Platform H) (media : Media) (world : World H) : Media :=
  { platform.getClone media with objectID := world.nextObjectID }

theorem addLabel_client (platform : Platform H) (key value : String) (world : World H) :
    (addLabel platform key value world).client = world.client :=
  rfl

theorem observe_addLabel (platform : Platform H) (key value : String) (world : World H)
    (index : Nat) : observe index (addLabel platform key value world) = observe index world :=
  observe_of_report (addLabels_frame platform _ world) index

theorem observe_openSession (platform : Platform H) (media : Media) (world : World H)
    (index : Nat) :
    observe index (openSession platform media world) =
      ((observe index world).close.hear [.clearMedia]).adopt (cloneFor platform media world)
        (world.client.brokerFor (cloneFor platform media world)) := by
  obtain ⟨delegate, nextID⟩ := clearMedia_keeps platform world
  have settings := (clearMedia_frame platform world).settings
  have cloned : (adoptClone platform media (clearMedia platform world)).client.session.media =
      some (cloneFor platform media world) := by
    rw [cloneFor, ← nextID]
    rfl
  have broker : (adoptClone platform media (clearMedia platform world)).client.brokerFor
      (cloneFor platform media world) = world.client.brokerFor (cloneFor platform media world) := by
    simp [EchoClient.brokerFor, adoptClone, delegate, settings]
  have observed : observe index (adoptClone platform media (clearMedia platform world)) =
      ((observe index world).close.hear [.clearMedia]).withSession
        fun session => { session with media := some (cloneFor platform media world) } := by
    rw [← observe_clearMedia platform, cloneFor, ← nextID]
    rfl
  unfold openSession
  dsimp only
  rw [observe_initBroker platform (by exact cloned), addLabel_client, broker, observe_addLabel,
    observed]
  cases world.client.brokerFor (cloneFor platform media world) with
  | none => rfl
  | some kind => rfl

theorem observe_setMedia (platform : Platform H) (media : Media) {world : World H}
    (enabled : world.client.echoEnabled = true) (index : Nat) :
    observe index (setMedia platform media world) =
      (Act.setMedia (cloneFor platform media world)
        (world.client.brokerFor (cloneFor platform media world))).apply (observe index world) := by
  have opened := observe_openSession platform media world index
  have stored : (openSession platform media world).client.session.media =
      some (cloneFor platform media world) := by
    have sessionEq := congrArg (fun state => state.session.media) opened
    rw [show (openSession platform media world).client.session.media = _ from sessionEq]
    cases world.client.brokerFor (cloneFor platform media world) with
    | none => rfl
    | some kind => rfl
  simp only [setMedia, enabled, Bool.not_true, Bool.false_eq_true, if_false, stored]
  rw [observe_broadcast (by simp [DelegateCall.isProtocol]), opened]
  rfl

end Echo.Client
