import Echo.Client.Platform

/-!
# The client object and the world it acts on

`EchoClient` lists the stored properties of the client.  A `World` adds what lies
outside of it: the brokers and timers it has created, the store of the user
promise helper, the clock, and the log of every call it has made.  Operations
of the client are functions from worlds to worlds built from the primitives of
this file.
-/

namespace Echo.Client

/-! ## Calls to collaborators -/

/-- Calls received by an analytics delegate. -/
inductive DelegateCall
  | start
  | enable
  | disable
  | setMedia (media : Media)
  | liveMediaUpdate (media : Media) (newPosition oldPosition : UInt64)
  | clearMedia
  | setMediaLength (length : UInt64)
  | setBroker (broker : BrokerRef)
  | liveEnrichmentFailed
  | avPlayEvent (position : UInt64) (eventLabels : Option Labels)
  | avPauseEvent (position : UInt64) (eventLabels : Option Labels)
  | avBufferEvent (position : UInt64) (eventLabels : Option Labels)
  | avEndEvent (position : UInt64) (eventLabels : Option Labels)
  | avRewindEvent (position rate : UInt64) (eventLabels : Option Labels)
  | avFastForwardEvent (position rate : UInt64) (eventLabels : Option Labels)
  | avSeekEvent (position : UInt64) (eventLabels : Option Labels)
  | avUserActionEvent (actionType actionName : String) (position : UInt64)
      (eventLabels : Option Labels)
  | viewEvent (counterName : String) (eventLabels : Option Labels)
  | userActionEvent (actionType actionName : String) (eventLabels : Option Labels)
  | errorEvent (error : String) (eventLabels : Option Labels)
  | addLabels (labels : Labels)
  | removeLabels (keys : List String)
  | addManagedLabel (label : ManagedLabel) (value : String)
  | updateDeviceID (deviceID : String)
  | updateBBCUserLabels (user : BBCUser)
  | userStateChange
  | getDeviceID
  | setCacheMode (cacheMode : EchoCacheMode)
  | flushCache
  | clearCache
  | setDestination (site : Destination)
  | setProducer (site : Producer)
  | setPlayerName (name : String)
  | setPlayerVersion (version : String)
  | setPlayerIsPopped (popped : Bool)
  | setPlayerWindowState (state : WindowState)
  | setPlayerVolume (volume : Int)
  | setPlayerIsSubtitled (subtitled : Bool)
  | setContentLanguage (language : String)
  | setCounterName (counterName : String)
  | setTraceID (trace : String)
  | appForegrounded
  | appBackgrounded
  deriving DecidableEq

inductive BrokerCall
  | start
  | stop
  | setPosition (position : UInt64)
  deriving DecidableEq

inductive UserPromiseCall
  | setBBCUser (user : BBCUser)
  | getBBCUser
  | getDeviceID
  | clearWebviewCookies
  | setPostponedUserStateTransition (transition : UserStateTransition)
  | clearPostponedUserStateTransition
  deriving DecidableEq

/-! ## The client -/

/-- Stored properties that describe the current media session. -/
structure Session where
  media : Option Media := none
  mediaActive : Bool := false
  suppressingPlayEvent : Bool := false
  suppressedPlayEventLabels : Option Labels := none
  broker : Option BrokerRef := none
  deriving DecidableEq

/-- Stored properties that describe the current user. -/
structure UserState where
  previousUser : Option BBCUser := none
  bbcUserSetWhileDisabled : Option BBCUser := none
  userForTimer : Option BBCUser := none
  timer : Option TimerRef := none
  deriving DecidableEq

/-- Stored properties that the initialiser assigns for good. -/
structure Settings where
  autoStart : Bool
  essUrl : Option String
  essEnabled : Bool
  useHttps : Bool
  idv5Enabled : Bool
  resetDataOnUserStateChangeEnabled : Bool
  delegates : List Delegate
  deriving DecidableEq

/-- The stored properties of the client. -/
structure EchoClient where
  settings : Settings
  echoEnabled : Bool
  hasStarted : Bool := false
  playerDelegate : Option PlayerDelegate := none
  cacheMode : EchoCacheMode
  counterNameSet : Bool := false
  session : Session := {}
  user : UserState := {}
  deriving DecidableEq

/-- One call to a collaborator.  A loop `for delegate in delegates` that makes
the same call on every delegate is one `broadcast`; it records the client as
it stood when the loop ran, which is what the delegates can read back. -/
inductive Effect
  | broadcast (call : DelegateCall) (client : EchoClient)
  | delegate (index : Nat) (call : DelegateCall)
  | broker (broker : BrokerRef) (call : BrokerCall)
  | makeLiveBroker (playerDelegate : PlayerDelegate) (media : Media) (essUrl : String)
      (useHttps essEnabled : Bool)
  | makeOnDemandBroker (playerDelegate : PlayerDelegate) (media : Media)
  | userPromise (call : UserPromiseCall)
  | scheduleTimer (timer : TimerRef) (timeInterval : Int) (user : BBCUser)
  | invalidateTimer (timer : TimerRef)
  | getDelegates (appName : String) (appType : ApplicationType) (startCounterName : String)
      (config : Config) (bbcUser : BBCUser)
  | addObserver (notification : String)
  | setDebug (isDebugEnabled : Bool) (level : Option EchoDebugLevel)
  | debug (level : EchoDebugLevel) (message : String)
  deriving DecidableEq

structure World (H : Type) where
  client : EchoClient
  brokers : List BrokerState := []
  timers : List TimerState := []
  nextObjectID : Nat := 0
  now : Date := 0
  userPromise : H
  log : List Effect := []

namespace World

variable {H : Type}

/-! ## Primitives -/

@[simps]
def emit (effect : Effect) (world : World H) : World H :=
  { world with log := world.log ++ [effect] }

/-- The loop `for delegate in delegates` around one call. -/
@[simps!]
def broadcast (call : DelegateCall) (world : World H) : World H :=
  world.emit (.broadcast call world.client)

/-- The library's own logging, `EchoDebug.log`. -/
@[simps!]
def debug (level : EchoDebugLevel) (message : String) (world : World H) : World H :=
  world.emit (.debug level message)

@[simps]
def withSession (update : Session → Session) (world : World H) : World H :=
  { world with client := { world.client with session := update world.client.session } }

@[simps]
def withUser (update : UserState → UserState) (world : World H) : World H :=
  { world with client := { world.client with user := update world.client.user } }

/-- Assign `self.echoEnabled`. -/
@[simps]
def setEnabled (enabled : Bool) (world : World H) : World H :=
  { world with client := { world.client with echoEnabled := enabled } }

/-- Assign `self._hasStarted`, which is only ever set. -/
@[simps]
def setStarted (world : World H) : World H :=
  { world with client := { world.client with hasStarted := true } }

end World

/-- The effect of a call on the broker object itself. -/
def BrokerState.receive (call : BrokerCall) (state : BrokerState) : BrokerState :=
  match call with
  | .start => { state with phase := .started }
  | .stop => { state with phase := .stopped }
  | .setPosition position => { state with position }

namespace World

variable {H : Type}

@[simps]
def callBroker (broker : BrokerRef) (call : BrokerCall) (world : World H) : World H :=
  { world with
    brokers := world.brokers.modify broker (BrokerState.receive call)
    log := world.log ++ [.broker broker call] }

/-- The answer of `broker.getPosition()`. -/
def positionOf (broker : BrokerRef) (world : World H) : UInt64 :=
  (world.brokers[broker]?.map BrokerState.position).getD 0

/-- Which of `start()` and `stop()` a broker was called with last. -/
def phaseOf (broker : BrokerRef) (world : World H) : Option BrokerPhase :=
  world.brokers[broker]?.map BrokerState.phase

/-- Which factory method made a broker. -/
def kindOf (broker : BrokerRef) (world : World H) : Option BrokerKind :=
  world.brokers[broker]?.map BrokerState.kind

/-- Register a broker returned by the factory, and store it in `self.broker`. -/
def adoptBroker (made : Effect) (state : BrokerState) (world : World H) : World H :=
  { world with
    client := { world.client with
      session := { world.client.session with broker := some world.brokers.length } }
    brokers := world.brokers ++ [state]
    log := world.log ++ [made] }

/-- Give a media object an identity of its own. -/
@[simps]
def allocate (media : Media) (world : World H) : Media × World H :=
  ({ media with objectID := world.nextObjectID },
    { world with nextObjectID := world.nextObjectID + 1 })

/-- Create a timer, add it to the run loop and store it in `self.timer`. -/
@[simps]
def scheduleTimer (timeInterval : Int) (user : BBCUser) (world : World H) : World H :=
  { world with
    client := { world.client with
      user := { world.client.user with timer := some world.timers.length } }
    timers := world.timers ++ [⟨timeInterval, true⟩]
    log := world.log ++ [.scheduleTimer world.timers.length timeInterval user] }

/-- A fired or invalidated timer is no longer pending. -/
@[simps]
def settleTimer (timer : TimerRef) (world : World H) : World H :=
  { world with
    timers := world.timers.modify timer fun state => { state with isPending := false } }

/-- Call the user promise helper, which may change its store. -/
@[simps]
def callUserPromise {α : Type} (call : UserPromiseCall) (action : H → α × H)
    (world : World H) : α × World H :=
  ((action world.userPromise).1,
    { world with
      userPromise := (action world.userPromise).2
      log := world.log ++ [.userPromise call] })

end World

end Echo.Client
