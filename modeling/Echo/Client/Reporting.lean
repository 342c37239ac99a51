import Echo.Client.World

/-!
# Labels, settings and page events

The operations of the client that do nothing but clean their arguments and
pass them on to the delegates.
-/

namespace Echo.Client

variable {H : Type}

/-! ## Labels -/

/-- `sanitiseLabels` on a dictionary: clean every key, then its value under the
clean key. -/
def sanitiseLabels (platform : Platform H) (labels : Labels) : Labels :=
  (platform.labelOrder.entries labels).foldl
    (fun sanitisedLabels entry =>
      let cleanKey := platform.cleanLabelKey entry.1
      let cleanValue := platform.cleanLabelValue cleanKey entry.2
      sanitisedLabels.insert cleanKey cleanValue) ∅

/-- `sanitiseLabels` on a list of keys, which drops keys that clean to nothing. -/
def sanitiseKeys (platform : Platform H) (labels : List String) : List String :=
  (labels.map platform.cleanLabelKey).filter fun cleanKey => !cleanKey.isEmpty

def addLabels (platform : Platform H) (labels : Labels) (world : World H) : World H :=
  world.broadcast (.addLabels (sanitiseLabels platform labels))

def addLabel (platform : Platform H) (key value : String) (world : World H) : World H :=
  addLabels platform (Labels.single key value) world

def removeLabels (platform : Platform H) (labels : List String) (world : World H) :
    World H :=
  let keys := sanitiseKeys platform labels
  if !keys.isEmpty then world.broadcast (.removeLabels keys) else world

def removeLabel (platform : Platform H) (key : String) (world : World H) : World H :=
  removeLabels platform [key] world

def addManagedLabel (platform : Platform H) (label : ManagedLabel) (value : String)
    (world : World H) : World H :=
  if !value.isEmpty then
    let cleansedValue := platform.cleanLabelValue (platform.managedLabelName label) value
    world.broadcast (.addManagedLabel label cleansedValue)
  else
    world

/-! ## Settings -/

def setDestination (site : Destination) (world : World H) : World H :=
  world.broadcast (.setDestination site)

def setProducer (site : Producer) (world : World H) : World H :=
  world.broadcast (.setProducer site)

/-- A producer that was looked up: the two lookups differ in their table only. -/
def setProducerFound (found : Option Producer) (world : World H) : World H :=
  match found with
  | some producer => world.broadcast (.setProducer producer)
  | none => world.debug .warn "Producer name not recognised. Keeping current producer"

def setProducerByName (platform : Platform H) (name : String) (world : World H) : World H :=
  setProducerFound (platform.producerFromName name) world

def setProducerByMasterbrand (platform : Platform H) (masterbrandName : String)
    (world : World H) : World H :=
  setProducerFound (platform.masterbrandProducer masterbrandName) world

/-- A player attribute that is passed on clean unless it is blank. -/
def setPlayerAttribute (platform : Platform H) (key : EchoLabelKeys)
    (call : String → DelegateCall) (value : String) (world : World H) : World H :=
  if !(platform.trim value).isEmpty then
    world.broadcast (call (platform.cleanLabelValue (platform.labelKey key) value))
  else
    world

def setPlayerName (platform : Platform H) (name : String) (world : World H) : World H :=
  setPlayerAttribute platform .playerName .setPlayerName name world

def setPlayerVersion (platform : Platform H) (version : String) (world : World H) : World H :=
  setPlayerAttribute platform .playerVersion .setPlayerVersion version world

def setPlayerDelegate (delegate : PlayerDelegate) (world : World H) : World H :=
  { world with client := { world.client with playerDelegate := some delegate } }

def setPlayerIsPopped (popped : Bool) (world : World H) : World H :=
  world.broadcast (.setPlayerIsPopped popped)

def setPlayerWindowState (state : WindowState) (world : World H) : World H :=
  world.broadcast (.setPlayerWindowState state)

def setPlayerVolume (volume : Int) (world : World H) : World H :=
  if 0 ≤ volume ∧ volume ≤ 100 then
    world.broadcast (.setPlayerVolume volume)
  else
    world.debug .error s!"Player volume must be between 1 and 100, supplied: {volume}"

def setPlayerIsSubtitled (subtitled : Bool) (world : World H) : World H :=
  world.broadcast (.setPlayerIsSubtitled subtitled)

/-! The next three are deprecated and ignore their argument. -/

def setMediaBitrate (_bitrate : UInt64) (world : World H) : World H :=
  world

def setMediaCodec (_codec : String) (world : World H) : World H :=
  world

def setMediaCDN (_cdn : String) (world : World H) : World H :=
  world

def setContentLanguage (language : String) (world : World H) : World H :=
  world.broadcast (.setContentLanguage language)

def setTraceID (trace : String) (world : World H) : World H :=
  world.broadcast (.setTraceID trace)

def setCounterName (platform : Platform H) (counterName : String) (world : World H) :
    World H :=
  let world := { world with client := { world.client with counterNameSet := true } }
  world.broadcast (.setCounterName (platform.cleanCountername counterName))

/-- The cache mode may only change while no play is active. -/
def setCacheMode (cacheMode : EchoCacheMode) (world : World H) : World H :=
  if !world.client.session.mediaActive then
    let world := world.broadcast (.setCacheMode cacheMode)
    { world with client := { world.client with cacheMode } }
  else
    world.debug .error "Cannot call setCacheMode() after avPlayEvent() and before avEndEvent()"

def getCacheMode (world : World H) : EchoCacheMode :=
  world.client.cacheMode

def flushCache (world : World H) : World H :=
  if !world.client.echoEnabled then world else world.broadcast .flushCache

def clearCache (world : World H) : World H :=
  world.broadcast .clearCache

def appForegrounded (world : World H) : World H :=
  world.broadcast .appForegrounded

def appBackgrounded (world : World H) : World H :=
  world.broadcast .appBackgrounded

/-- One pass of the loop in `getComScoreDeviceID`. -/
def visitForDeviceID (index : Nat) (delegate : Delegate) (world : World H) : World H :=
  let world := world.emit (.delegate index .clearMedia)
  if delegate.isComScoreDelegate then world.emit (.delegate index .getDeviceID) else world

/-- The device id of the last ComScore delegate that has one.  The loop also
tells every delegate to clear its media. -/
def getComScoreDeviceID (world : World H) : Option String × World H :=
  world.client.settings.delegates.zipIdx.foldl
    (fun (deviceID, world) (delegate, index) =>
      (if delegate.isComScoreDelegate then delegate.deviceID.or deviceID else deviceID,
        visitForDeviceID index delegate world))
    (none, world)

/-! ## Page events -/

def viewEvent (platform : Platform H) (counterName : String) (eventLabels : Option Labels)
    (world : World H) : World H :=
  if !world.client.echoEnabled then world else
  let cleansedCounterName := platform.cleanCountername counterName
  let sanitisedLabels := eventLabels.map (sanitiseLabels platform)
  let world := { world with client := { world.client with counterNameSet := true } }
  world.broadcast (.viewEvent cleansedCounterName sanitisedLabels)

def userActionEvent (platform : Platform H) (actionType actionName : String)
    (eventLabels : Option Labels) (world : World H) : World H :=
  if !world.client.echoEnabled then world else
  if !world.client.counterNameSet then
    world.debug .error
      "userActionEvent not available before a call to viewEvent (to set counter name)."
  else
  let sanitisedLabels := eventLabels.map (sanitiseLabels platform)
  world.broadcast (.userActionEvent actionType actionName sanitisedLabels)

def errorEvent (platform : Platform H) (error : String) (eventLabels : Option Labels)
    (world : World H) : World H :=
  if !world.client.echoEnabled then world else
  world.broadcast (.errorEvent error (eventLabels.map (sanitiseLabels platform)))

end Echo.Client
