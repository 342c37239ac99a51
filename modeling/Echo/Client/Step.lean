import Echo.Client.Initialise
import Echo.Transition.Run

/-!
# Runs of the client

One step of a run is a call of the public API, a callback of a broker, a timer
firing, or a change outside the client that it can observe: the playhead of its
broker moves, or time passes.
-/

namespace Echo.Client

variable {H : Type}

/-- API calls about labels, settings and page events. -/
inductive ReportCall
  | addLabels (labels : Labels)
  | addLabel (key value : String)
  | removeLabels (labels : List String)
  | removeLabel (key : String)
  | addManagedLabel (label : ManagedLabel) (value : String)
  | setDestination (site : Destination)
  | setProducer (site : Producer)
  | setProducerByName (name : String)
  | setProducerByMasterbrand (masterbrandName : String)
  | setPlayerName (name : String)
  | setPlayerVersion (version : String)
  | setPlayerDelegate (delegate : PlayerDelegate)
  | setPlayerIsPopped (popped : Bool)
  | setPlayerWindowState (state : WindowState)
  | setPlayerVolume (volume : Int)
  | setPlayerIsSubtitled (subtitled : Bool)
  | setMediaBitrate (bitrate : UInt64)
  | setMediaCodec (codec : String)
  | setMediaCDN (cdn : String)
  | setContentLanguage (language : String)
  | setTraceID (trace : String)
  | setCounterName (counterName : String)
  | setCacheMode (cacheMode : EchoCacheMode)
  | flushCache
  | clearCache
  | appForegrounded
  | appBackgrounded
  | viewEvent (counterName : String) (eventLabels : Option Labels)
  | userActionEvent (actionType actionName : String) (eventLabels : Option Labels)
  | errorEvent (error : String) (eventLabels : Option Labels)
  deriving DecidableEq

/-- API calls about the media session. -/
inductive MediaCall
  | setMedia (media : Media)
  | setMediaLength (length : UInt64)
  | avPlayEvent (position : UInt64) (eventLabels : Option Labels)
  | navigation (event : Navigation) (position : UInt64) (eventLabels : Option Labels)
  | avUserActionEvent (actionType actionName : String) (position : UInt64)
      (eventLabels : Option Labels)
  deriving DecidableEq

/-- API calls about the user and the life of the client. -/
inductive LifecycleCall
  | setBBCUser (user : BBCUser)
  | start
  | enable
  | disable
  deriving DecidableEq

/-- Callbacks of a live broker, `LiveProtocol`. -/
inductive LiveCallback
  | liveMediaUpdate (media : Media) (newPosition oldPosition : UInt64)
  | liveTimestampUpdate (timestamp : UInt64)
  | setEssError (error : EssError) (code : String)
  | setEssSuccess (isSuccess : Bool)
  | releaseSuppressedPlay
  | sendHeartbeat (name : String) (position : UInt64)
  deriving DecidableEq

/-- Callbacks of an on-demand broker, `OnDemandProtocol`. -/
inductive OnDemandCallback
  | sendHeartbeat (name : String) (position : UInt64)
  | avPauseEvent (position : UInt64) (eventLabels : Option Labels)
  deriving DecidableEq

inductive Op
  | report (call : ReportCall)
  | getComScoreDeviceID
  | media (call : MediaCall)
  | lifecycle (call : LifecycleCall)
  | live (broker : BrokerRef) (callback : LiveCallback)
  | onDemand (broker : BrokerRef) (callback : OnDemandCallback)
  | fireTimer (timer : TimerRef)
  | playhead (position : UInt64)
  | clock (now : Date)
  deriving DecidableEq

namespace ReportCall

def perform (platform : Platform H) (world : World H) : ReportCall → World H
  | .addLabels labels => Client.addLabels platform labels world
  | .addLabel key value => Client.addLabel platform key value world
  | .removeLabels labels => Client.removeLabels platform labels world
  | .removeLabel key => Client.removeLabel platform key world
  | .addManagedLabel label value => Client.addManagedLabel platform label value world
  | .setDestination site => Client.setDestination site world
  | .setProducer site => Client.setProducer site world
  | .setProducerByName name => Client.setProducerByName platform name world
  | .setProducerByMasterbrand name => Client.setProducerByMasterbrand platform name world
  | .setPlayerName name => Client.setPlayerName platform name world
  | .setPlayerVersion version => Client.setPlayerVersion platform version world
  | .setPlayerDelegate delegate => Client.setPlayerDelegate delegate world
  | .setPlayerIsPopped popped => Client.setPlayerIsPopped popped world
  | .setPlayerWindowState state => Client.setPlayerWindowState state world
  | .setPlayerVolume volume => Client.setPlayerVolume volume world
  | .setPlayerIsSubtitled subtitled => Client.setPlayerIsSubtitled subtitled world
  | .setMediaBitrate bitrate => Client.setMediaBitrate bitrate world
  | .setMediaCodec codec => Client.setMediaCodec codec world
  | .setMediaCDN cdn => Client.setMediaCDN cdn world
  | .setContentLanguage language => Client.setContentLanguage language world
  | .setTraceID trace => Client.setTraceID trace world
  | .setCounterName counterName => Client.setCounterName platform counterName world
  | .setCacheMode cacheMode => Client.setCacheMode cacheMode world
  | .flushCache => Client.flushCache world
  | .clearCache => Client.clearCache world
  | .appForegrounded => Client.appForegrounded world
  | .appBackgrounded => Client.appBackgrounded world
  | .viewEvent counterName eventLabels =>
      Client.viewEvent platform counterName eventLabels world
  | .userActionEvent actionType actionName eventLabels =>
      Client.userActionEvent platform actionType actionName eventLabels world
  | .errorEvent error eventLabels => Client.errorEvent platform error eventLabels world

end ReportCall

namespace MediaCall

def perform (platform : Platform H) (world : World H) : MediaCall → World H
  | .setMedia media => Client.setMedia platform media world
  | .setMediaLength length => Client.setMediaLength length world
  | .avPlayEvent position labels => Client.avPlayEvent platform position labels world
  | .navigation event position labels => event.event platform position labels world
  | .avUserActionEvent actionType actionName position labels =>
      Client.avUserActionEvent platform actionType actionName position labels world

end MediaCall

namespace LifecycleCall

def perform (platform : Platform H) (world : World H) : LifecycleCall → World H
  | .setBBCUser user => Client.setBBCUser platform user world
  | .start => Client.start platform world
  | .enable => Client.enable platform world
  | .disable => Client.disable platform world

end LifecycleCall

namespace LiveCallback

def perform (platform : Platform H) (world : World H) : LiveCallback → World H
  | .liveMediaUpdate media newPosition oldPosition =>
      Client.liveMediaUpdate media newPosition oldPosition world
  | .liveTimestampUpdate timestamp => Client.liveTimestampUpdate platform timestamp world
  | .setEssError error code => Client.setEssError platform error code world
  | .setEssSuccess isSuccess => Client.setEssSuccess platform isSuccess world
  | .releaseSuppressedPlay => Client.releaseSuppressedPlay platform world
  | .sendHeartbeat name position => Client.sendHeartbeat platform name position world

end LiveCallback

namespace OnDemandCallback

def perform (platform : Platform H) (world : World H) : OnDemandCallback → World H
  | .sendHeartbeat name position => Client.sendHeartbeat platform name position world
  | .avPauseEvent position labels => Client.avPauseEvent platform position labels world

end OnDemandCallback

/-- The playhead of the current broker moves to a position. -/
def movePlayhead (position : UInt64) (world : World H) : World H :=
  match world.client.session.broker with
  | none => world
  | some broker =>
      { world with
        brokers := world.brokers.modify broker (BrokerState.receive (.setPosition position)) }

/-- One step of a run. -/
def step (platform : Platform H) (world : World H) : Op → World H
  | .report call => call.perform platform world
  | .getComScoreDeviceID => (getComScoreDeviceID world).2
  | .media call => call.perform platform world
  | .lifecycle call => call.perform platform world
  | .live _ callback => callback.perform platform world
  | .onDemand _ callback => callback.perform platform world
  | .fireTimer timer => fireTimer timer world
  | .playhead position => movePlayhead position world
  | .clock now => { world with now }

/-- The world after a sequence of operations. -/
abbrev run (platform : Platform H) (world : World H) (ops : List Op) : World H :=
  Transition.run (step platform) world ops

theorem run_concat (platform : Platform H) (world : World H) (ops : List Op) (op : Op) :
    run platform world (ops ++ [op]) = step platform (run platform world ops) op :=
  Transition.run_concat (step platform) world ops op

theorem run_append_cons (platform : Platform H) (world : World H) (ops : List Op) (op : Op)
    (later : List Op) :
    run platform world (ops ++ op :: later) =
      run platform (step platform (run platform world ops) op) later :=
  Transition.run_append (step platform) world ops (op :: later)

/-- Every operation of the sequence meets `condition` in the world it starts
from. -/
abbrev Always (platform : Platform H) (condition : World H → Op → Prop) (world : World H)
    (ops : List Op) : Prop :=
  Transition.Always (step platform) condition world ops

end Echo.Client
