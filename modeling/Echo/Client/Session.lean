import Echo.Client.Reporting

/-!
# Media sessions

Opening and closing a media session, the audio/video events reported inside
it, and the callbacks of the brokers that run along with it.
-/

namespace Echo.Client

variable {H : Type}

/-! ## Positions -/

/-- Whether a position exceeds, or is within one second of, the length of the
media.  The first test keeps the unsigned subtraction in range. -/
def positionExceedsMediaLength (position : UInt64) (world : World H) : Bool :=
  match world.client.session.media with
  | none => false
  | some media =>
      if media.length ≥ 1000 ∧ position ≥ media.length - 1000 then true
      else if media.length < 1000 ∧ media.length ≠ 0 then true
      else false

def preventPositionExceedingMediaLength (position : UInt64) (world : World H) : UInt64 :=
  match world.client.session.media with
  | none => position
  | some media => if positionExceedsMediaLength position world then media.length else position

/-- The position an event reports: the broker's own for live media, otherwise
the given one capped at the media length.  Without a broker it is untouched. -/
def reportedPosition (media : Media) (position : UInt64) (world : World H) : UInt64 :=
  match world.client.session.broker with
  | none => position
  | some broker =>
      if media.isLive then world.positionOf broker
      else preventPositionExceedingMediaLength position world

/-! ## Opening and closing a session -/

/-- The labels that belong to the media session, in the order they are removed. -/
def mediaLabelKeys : List EchoLabelKeys :=
  [.mediaTimestamp, .essEnabled, .essSuccess, .essError, .essStatusCode, .essEnriched]

def removeMediaLabels (platform : Platform H) (world : World H) : World H :=
  mediaLabelKeys.foldl (fun world key => removeLabel platform (platform.labelKey key) world)
    world

/-- Stop the current broker and forget it. -/
def releaseBroker (world : World H) : World H :=
  match world.client.session.broker with
  | none => world
  | some broker =>
      (world.callBroker broker .stop).withSession fun session =>
        { session with broker := none }

def clearMedia (platform : Platform H) (world : World H) : World H :=
  let world := removeMediaLabels platform world
  let world := world.withSession fun session => { session with media := none }
  let world := releaseBroker world
  world.broadcast .clearMedia

/-- Ask the factory for the broker of the current media. -/
def makeBroker (platform : Platform H) (playerDelegate : PlayerDelegate) (media : Media)
    (world : World H) : World H :=
  let settings := world.client.settings
  match settings.essUrl, media.isLive with
  | some essUrl, true =>
      world.adoptBroker
        (.makeLiveBroker playerDelegate media essUrl settings.useHttps settings.essEnabled)
        ⟨.live, .made, platform.brokerPosition .live playerDelegate media⟩
  | _, _ =>
      world.adoptBroker (.makeOnDemandBroker playerDelegate media)
        ⟨.onDemand, .made, platform.brokerPosition .onDemand playerDelegate media⟩

def initBroker (platform : Platform H) (world : World H) : World H :=
  match world.client.playerDelegate, world.client.session.media with
  | some playerDelegate, some media =>
      let world := makeBroker platform playerDelegate media world
      match world.client.session.broker with
      | none => world
      | some broker => world.broadcast (.setBroker broker)
  | _, _ => world

/-- Store a clone of the media under an identity of its own. -/
def adoptClone (platform : Platform H) (media : Media) (world : World H) : World H :=
  let cloned := world.allocate (platform.getClone media)
  cloned.2.withSession fun session => { session with media := some cloned.1 }

/-- What `setMedia` does before it hands the media to the delegates. -/
def openSession (platform : Platform H) (media : Media) (world : World H) : World H :=
  let world := clearMedia platform world
  let world := adoptClone platform media world
  let world := addLabel platform (platform.labelKey .essEnabled)
    (if world.client.settings.essEnabled then "true" else "false") world
  initBroker platform world

def setMedia (platform : Platform H) (media : Media) (world : World H) : World H :=
  if !world.client.echoEnabled then world else
  let world := openSession platform media world
  match world.client.session.media with
  | none => world
  | some media => world.broadcast (.setMedia media)

/-! ## Events -/

/-- The progress message of an event. -/
def announce (function : String) (position : UInt64) (world : World H) : World H :=
  world.debug .info s!"{function} called with position: {position}"

/-- The complaint about an operation that needs media. -/
def missingMedia (function : String) (world : World H) : World H :=
  world.debug .error ("setMedia() must be called before" ++ function)

def Session.mapMedia (update : Media → Media) (session : Session) : Session :=
  { session with media := session.media.map update }

def setMediaLength (length : UInt64) (world : World H) : World H :=
  match world.client.session.media with
  | none => missingMedia "setMediaLength(_:)" world
  | some media =>
      if media.consumptionMode = .live then
        world.debug .error
          "Length should be set to zero prior to passing the media object to Echo for live media"
      else
        let world := if length > 0 then world.broadcast (.setMediaLength length) else world
        world.withSession (.mapMedia fun media => { media with length })

/-- The broker's part in a play event: the position to report after the broker
has been started, or nothing when the position is refused. -/
def playBroker (media : Media) (position : UInt64) (world : World H) :
    Option (UInt64 × World H) :=
  match world.client.session.broker with
  | none => some (position, world)
  | some broker =>
      if media.isLive then
        some (world.positionOf broker, world.callBroker broker .start)
      else if positionExceedsMediaLength position world then
        none
      else
        some (position,
          (world.callBroker broker (.setPosition position)).callBroker broker .start)

/-- The current media is one whose plays may be held back. -/
def Session.isEnrichedLive (session : Session) : Bool :=
  session.media.any fun media => media.isLive && media.isEnrichedWithESSData

/-- A play that is delivered makes the media active. -/
def Session.playing (session : Session) : Session :=
  { session.mapMedia fun media => { media with isPlaying := true, isBuffering := false } with
    mediaActive := true }

/-- A play that is held back leaves its labels behind. -/
def Session.holding (eventLabels : Option Labels) (session : Session) : Session :=
  { session with suppressedPlayEventLabels := eventLabels }

/-- Hold a play of live, enriched media back while plays are suppressed, and
deliver every other one. -/
def deliverPlay (media : Media) (position : UInt64) (sanitisedLabels : Option Labels)
    (world : World H) : World H :=
  if media.isLive && media.isEnrichedWithESSData &&
      world.client.session.suppressingPlayEvent then
    world.withSession (.holding sanitisedLabels)
  else
    (world.broadcast (.avPlayEvent position sanitisedLabels)).withSession .playing

def avPlayEvent (platform : Platform H) (position : UInt64) (eventLabels : Option Labels)
    (world : World H) : World H :=
  if !world.client.echoEnabled then world else
  let world := announce "avPlayEvent(at:eventLabels:)" position world
  match world.client.session.media with
  | none => missingMedia "avPlayEvent(at:eventLabels:)" world
  | some media =>
      match playBroker media position world with
      | none => world
      | some (position, world) =>
          deliverPlay media position (eventLabels.map (sanitiseLabels platform)) world

/-- Stop the current broker but keep it. -/
def stopBroker (world : World H) : World H :=
  match world.client.session.broker with
  | none => world
  | some broker => world.callBroker broker .stop

/-- Leaving live, enriched media suppresses the next play. -/
def Session.suppressPlay (media : Media) (session : Session) : Session :=
  if media.isLive && media.isEnrichedWithESSData && !session.suppressingPlayEvent then
    { session with suppressingPlayEvent := true }
  else
    session

theorem Session.suppressPlay_eq {session : Session} {media : Media}
    (stored : session.media = some media) :
    session.suppressPlay media =
      { session with
        suppressingPlayEvent := session.suppressingPlayEvent || session.isEnrichedLive } := by
  have enrichedLive : session.isEnrichedLive = (media.isLive && media.isEnrichedWithESSData) := by
    simp [isEnrichedLive, stored]
  rw [suppressPlay, enrichedLive]
  obtain ⟨_, _, suppressing, _, _⟩ := session
  cases suppressing <;> cases media.isLive <;> cases media.isEnrichedWithESSData <;> rfl

def avNavigationEvent (position : UInt64) (world : World H) : UInt64 × World H :=
  match world.client.session.media with
  | none => (position, world)
  | some media =>
      let world := stopBroker world
      (reportedPosition media position world, world.withSession (.suppressPlay media))

/-- The events that move or stop the playhead. -/
inductive Navigation
  | avPause
  | avBuffer
  | avEnd
  | avRewind (rate : UInt64)
  | avFastForward (rate : UInt64)
  | avSeek
  deriving DecidableEq

def Session.stopPlaying : Session → Session :=
  .mapMedia fun media => { media with isPlaying := false }

def Session.startBuffering : Session → Session :=
  .mapMedia fun media => { media with isBuffering := true }

def Session.endMedia (session : Session) : Session :=
  { session with media := none, mediaActive := false }

namespace Navigation

def function : Navigation → String
  | .avPause => "avPauseEvent(at:eventLabels:)"
  | .avBuffer => "avBufferEvent(at:eventLabels:)"
  | .avEnd => "avEndEvent(at:eventLabels:)"
  | .avRewind _ => "avRewindEvent(at:rate:eventLabels:)"
  | .avFastForward _ => "avFastForwardEvent(at:rate:eventLabels:)"
  | .avSeek => "avSeekEvent(at:eventLabels:)"

def call (position : UInt64) (eventLabels : Option Labels) : Navigation → DelegateCall
  | .avPause => .avPauseEvent position eventLabels
  | .avBuffer => .avBufferEvent position eventLabels
  | .avEnd => .avEndEvent position eventLabels
  | .avRewind rate => .avRewindEvent position rate eventLabels
  | .avFastForward rate => .avFastForwardEvent position rate eventLabels
  | .avSeek => .avSeekEvent position eventLabels

/-- What the event writes to the session before the delegates are called. -/
def before : Navigation → Session → Session
  | .avPause | .avBuffer | .avEnd => .stopPlaying
  | .avRewind _ | .avFastForward _ | .avSeek => id

/-- What the event writes to the session after the delegates were called. -/
def after : Navigation → Session → Session
  | .avBuffer => .startBuffering
  | .avEnd => .endMedia
  | .avPause | .avRewind _ | .avFastForward _ | .avSeek => id

end Navigation

/-- The common body of the navigation events. -/
def navigate (platform : Platform H) (navigation : Navigation) (position : UInt64)
    (eventLabels : Option Labels) (world : World H) : World H :=
  if !world.client.echoEnabled then world else
  let world := announce navigation.function position world
  match world.client.session.media with
  | none => missingMedia navigation.function world
  | some _ =>
      let sanitisedLabels := eventLabels.map (sanitiseLabels platform)
      let navigated := avNavigationEvent position world
      let world := navigated.2.withSession navigation.before
      let world := world.broadcast (navigation.call navigated.1 sanitisedLabels)
      world.withSession navigation.after

def avPauseEvent (platform : Platform H) : UInt64 → Option Labels → World H → World H :=
  navigate platform .avPause

def avBufferEvent (platform : Platform H) : UInt64 → Option Labels → World H → World H :=
  navigate platform .avBuffer

def avEndEvent (platform : Platform H) : UInt64 → Option Labels → World H → World H :=
  navigate platform .avEnd

def avRewindEvent (platform : Platform H) (position rate : UInt64) :
    Option Labels → World H → World H :=
  navigate platform (.avRewind rate) position

def avFastForwardEvent (platform : Platform H) (position rate : UInt64) :
    Option Labels → World H → World H :=
  navigate platform (.avFastForward rate) position

def avSeekEvent (platform : Platform H) : UInt64 → Option Labels → World H → World H :=
  navigate platform .avSeek

/-- The navigation events under one roof. -/
def Navigation.event (platform : Platform H) (position : UInt64)
    (eventLabels : Option Labels) : Navigation → World H → World H
  | .avPause => avPauseEvent platform position eventLabels
  | .avBuffer => avBufferEvent platform position eventLabels
  | .avEnd => avEndEvent platform position eventLabels
  | .avRewind rate => avRewindEvent platform position rate eventLabels
  | .avFastForward rate => avFastForwardEvent platform position rate eventLabels
  | .avSeek => avSeekEvent platform position eventLabels

@[simp]
theorem Navigation.event_eq_navigate (platform : Platform H) (position : UInt64)
    (eventLabels : Option Labels) (navigation : Navigation) :
    navigation.event platform position eventLabels =
      navigate platform navigation position eventLabels := by
  cases navigation <;> rfl

/-- Unlike the navigation events, a user action leaves the broker running. -/
def avUserActionEvent (platform : Platform H) (actionType actionName : String)
    (position : UInt64) (eventLabels : Option Labels) (world : World H) : World H :=
  if !world.client.echoEnabled then world else
  let function := "avUserActionEvent(actionType:actionName:position:eventLabels:)"
  let world := world.debug .info
    s!"{function} called with position: {position}, name: {actionName}, type: {actionType}"
  match world.client.session.media with
  | none => missingMedia function world
  | some media =>
      let sanitisedLabels := eventLabels.map (sanitiseLabels platform)
      world.broadcast (.avUserActionEvent actionType actionName
        (reportedPosition media position world) sanitisedLabels)

/-! ## Broker callbacks -/

/-- An update of live media ends the suppression of plays. -/
def Session.updated (media : Media) (session : Session) : Session :=
  { session with suppressingPlayEvent := false, media := some media }

def liveMediaUpdate (media : Media) (newPosition oldPosition : UInt64) (world : World H) :
    World H :=
  let world := world.withSession (.updated media)
  world.broadcast (.liveMediaUpdate media newPosition oldPosition)

/-- The timestamp arrives in whole milliseconds. -/
def liveTimestampUpdate (platform : Platform H) (timestamp : UInt64) (world : World H) :
    World H :=
  addLabel platform (platform.labelKey .mediaTimestamp) (toString timestamp) world

def setEssError (platform : Platform H) (error : EssError) (code : String)
    (world : World H) : World H :=
  let world := addLabel platform (platform.labelKey .essError)
    (platform.essErrorValue error) world
  let world := if error = .statusCode then
      addLabel platform (platform.labelKey .essStatusCode) code world
    else world
  world.broadcast .liveEnrichmentFailed

def setEssSuccess (platform : Platform H) (isSuccess : Bool) (world : World H) : World H :=
  addLabel platform (platform.labelKey .essSuccess)
    (if isSuccess then "true" else "false") world

def Session.unsuppressed (session : Session) : Session :=
  { session with suppressingPlayEvent := false }

def releaseSuppressedPlay (platform : Platform H) (world : World H) : World H :=
  if !world.client.echoEnabled then world else
  match world.client.session.broker with
  | none => world
  | some broker =>
      if world.client.session.suppressingPlayEvent then
        let world := world.withSession .unsuppressed
        avPlayEvent platform (world.positionOf broker)
          world.client.session.suppressedPlayEventLabels world
      else world

def sendHeartbeat (platform : Platform H) (name : String) (position : UInt64) :
    World H → World H :=
  avUserActionEvent platform "echo_hb" name position none

end Echo.Client
