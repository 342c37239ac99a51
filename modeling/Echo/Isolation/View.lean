import Echo.Client.Delivery
import Echo.Transition.Output

/-!
# A media session seen from outside

What a session delivers depends on the attributes of its media, the position of its
broker, whether plays are suppressed, and the labels of a play that is held back.
The reactions to the operations of a session are stated here on these four alone.
-/

namespace Echo.Client

/-- Whether a position exceeds, or is within one second of, the length of the media. -/
def Media.exceededBy (position : UInt64) (media : Media) : Bool :=
  if media.length ≥ 1000 ∧ position ≥ media.length - 1000 then true
  else if media.length < 1000 ∧ media.length ≠ 0 then true
  else false

/-- A play of this media is held back while plays are suppressed. -/
def Media.holdsPlays (media : Media) : Bool :=
  media.isLive && media.isEnrichedWithESSData

/-- What a navigation event leaves of the media. -/
def Navigation.media (media : Media) : Navigation → Option Media
  | .avPause => some { media with isPlaying := false }
  | .avBuffer => some { media with isPlaying := false, isBuffering := true }
  | .avEnd => none
  | .avRewind _ | .avFastForward _ | .avSeek => some media

/-- The call up to the identity of media. -/
def DelegateCall.attributes : DelegateCall → DelegateCall
  | .setMedia media => .setMedia media.attributes
  | .liveMediaUpdate media newPosition oldPosition =>
      .liveMediaUpdate media.attributes newPosition oldPosition
  | call => call

/-- The operations on an open session, its broker's callbacks included. -/
def Op.InSession : Op → Prop
  | .media (.setMedia _) => False
  | .media _ | .live _ _ | .onDemand _ _ | .playhead _ => True
  | _ => False

end Echo.Client

namespace Echo.Isolation

open Echo.Client

variable {H : Type}

structure View where
  media : Option Media
  position : Option UInt64
  suppressing : Bool
  labels : Option Labels

/-- The next view, and the calls that every delegate receives. -/
abbrev Reaction := View × List DelegateCall

namespace View

/-- The position that an event reports. -/
def report (media : Media) (position : UInt64) (view : View) : UInt64 :=
  match view.position with
  | none => position
  | some own =>
      if media.isLive then own
      else if media.exceededBy position then media.length
      else position

def deliver (platform : Platform H) (media : Media) (position : UInt64)
    (sanitisedLabels : Option Labels) (view : View) : Reaction :=
  if media.holdsPlays && view.suppressing then
    ({ view with labels := sanitisedLabels.map (sanitiseLabels platform) }, [])
  else
    ({ view with media := some { media with isPlaying := true, isBuffering := false } },
      [.avPlayEvent position sanitisedLabels])

def play (platform : Platform H) (position : UInt64) (sanitisedLabels : Option Labels)
    (view : View) : Reaction :=
  match view.media, view.position with
  | none, _ => (view, [])
  | some media, none => view.deliver platform media position sanitisedLabels
  | some media, some own =>
      if media.isLive then view.deliver platform media own sanitisedLabels
      else if media.exceededBy position then (view, [])
      else deliver platform media position sanitisedLabels { view with position := some position }

def navigate (navigation : Navigation) (position : UInt64) (sanitisedLabels : Option Labels)
    (view : View) : Reaction :=
  match view.media with
  | none => (view, [])
  | some media =>
      ({ view with
          media := navigation.media media
          suppressing := view.suppressing || media.holdsPlays },
        [navigation.call (view.report media position) sanitisedLabels])

def userAction (actionType actionName : String) (position : UInt64)
    (sanitisedLabels : Option Labels) (view : View) : Reaction :=
  match view.media with
  | none => (view, [])
  | some media =>
      (view, [.avUserActionEvent actionType actionName (view.report media position)
        sanitisedLabels])

def setLength (length : UInt64) (view : View) : Reaction :=
  match view.media with
  | none => (view, [])
  | some media =>
      if media.consumptionMode = .live then (view, [])
      else ({ view with media := some { media with length } },
        if length > 0 then [.setMediaLength length] else [])

def update (media : Media) (newPosition oldPosition : UInt64) (view : View) : Reaction :=
  ({ view with suppressing := false, media := some media.attributes },
    [.liveMediaUpdate media.attributes newPosition oldPosition])

/-- The calls that set one label. -/
def labelCalls (platform : Platform H) (key : EchoLabelKeys) (value : String) :
    List DelegateCall :=
  [.addLabels (sanitiseLabels platform (Labels.single (platform.labelKey key) value))]

def essErrorCalls (platform : Platform H) (error : EssError) (code : String) :
    List DelegateCall :=
  labelCalls platform .essError (platform.essErrorValue error) ++
    (if error = .statusCode then labelCalls platform .essStatusCode code else []) ++
    [.liveEnrichmentFailed]

def release (platform : Platform H) (view : View) : Reaction :=
  match view.position with
  | none => (view, [])
  | some own =>
      if view.suppressing then
        play platform own view.labels { view with suppressing := false }
      else (view, [])

def movePlayhead (position : UInt64) (view : View) : View :=
  { view with position := view.position.map fun _ => position }

/-- The reaction to an operation on the session. -/
def react (platform : Platform H) (view : View) : Op → Reaction
  | .media (.avPlayEvent position labels) =>
      view.play platform position (labels.map (sanitiseLabels platform))
  | .media (.navigation navigation position labels) =>
      view.navigate navigation position (labels.map (sanitiseLabels platform))
  | .media (.avUserActionEvent actionType actionName position labels) =>
      view.userAction actionType actionName position (labels.map (sanitiseLabels platform))
  | .media (.setMediaLength length) => view.setLength length
  | .live _ (.liveMediaUpdate media newPosition oldPosition) =>
      view.update media newPosition oldPosition
  | .live _ (.liveTimestampUpdate timestamp) =>
      (view, labelCalls platform .mediaTimestamp (toString timestamp))
  | .live _ (.setEssError error code) => (view, essErrorCalls platform error code)
  | .live _ (.setEssSuccess isSuccess) =>
      (view, labelCalls platform .essSuccess (if isSuccess then "true" else "false"))
  | .live _ .releaseSuppressedPlay => view.release platform
  | .live _ (.sendHeartbeat name position) | .onDemand _ (.sendHeartbeat name position) =>
      view.userAction "echo_hb" name position none
  | .onDemand _ (.avPauseEvent position labels) =>
      view.navigate .avPause position (labels.map (sanitiseLabels platform))
  | .playhead position => (view.movePlayhead position, [])
  | _ => (view, [])

def next (platform : Platform H) (view : View) (op : Op) : View :=
  (view.react platform op).1

def output (platform : Platform H) (view : View) (op : Op) : List DelegateCall :=
  (view.react platform op).2

end View

end Echo.Isolation
