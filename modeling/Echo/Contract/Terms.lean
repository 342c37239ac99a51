import Echo.Client.Lifecycle

/-!
# The contract with the collaborators

What a delegate may rely on at the moment it is called, and when the user promise helper and
the run loop are called at all.  Every call records the client as it stood, so the contract
is a property of single entries of the log.
-/

namespace Echo.Client

variable {H : Type}

/-- Users are followed: events are on, and so is idv5. -/
def EchoClient.FollowsUsers (client : EchoClient) : Prop :=
  client.echoEnabled = true ∧ client.hasStarted = true ∧ client.settings.idv5Enabled = true

/-- Tokens are watched as well. -/
def EchoClient.FollowsTokens (client : EchoClient) : Prop :=
  client.FollowsUsers ∧ client.settings.resetDataOnUserStateChangeEnabled = true

/-- What the state of the client promises to a delegate that receives the call. -/
def EchoClient.Honours (client : EchoClient) : DelegateCall → Prop
  | .start => client.echoEnabled = true ∧ client.hasStarted = false
  | .enable | .errorEvent _ _ | .flushCache => client.echoEnabled = true
  | .disable =>
      client.echoEnabled = false ∧ client.session.media = none ∧ client.session.broker = none
  | .clearMedia => client.session.media = none ∧ client.session.broker = none
  | .setMedia media => client.echoEnabled = true ∧ client.session.media = some media
  | .setBroker broker =>
      client.echoEnabled = true ∧ client.session.media.isSome = true ∧
        client.session.broker = some broker
  | .liveMediaUpdate media _ _ =>
      client.session.media = some media ∧ client.session.suppressingPlayEvent = false
  | .setMediaLength length =>
      0 < length ∧ ∃ media, client.session.media = some media ∧ media.consumptionMode ≠ .live
  | .avPlayEvent _ _ =>
      client.echoEnabled = true ∧ client.session.media.isSome = true ∧
        ¬(client.session.isEnrichedLive = true ∧ client.session.suppressingPlayEvent = true)
  -- The media is told to stop before the delegates are.
  | .avPauseEvent _ _ | .avBufferEvent _ _ | .avEndEvent _ _ =>
      client.echoEnabled = true ∧
        ∃ media, client.session.media = some media ∧ media.isPlaying = false
  | .avRewindEvent _ _ _ | .avFastForwardEvent _ _ _ | .avSeekEvent _ _
  | .avUserActionEvent _ _ _ _ =>
      client.echoEnabled = true ∧ client.session.media.isSome = true
  | .viewEvent _ _ => client.echoEnabled = true ∧ client.counterNameSet = true
  | .setCounterName _ => client.counterNameSet = true
  -- The event of a user update does not wait for a counter name.
  | .userActionEvent _ _ _ =>
      client.echoEnabled = true ∧ (client.counterNameSet = true ∨ client.FollowsUsers)
  | .setCacheMode _ => client.session.mediaActive = false
  | .setPlayerVolume volume => 0 ≤ volume ∧ volume ≤ 100
  | .removeLabels keys => keys ≠ [] ∧ "" ∉ keys
  | .updateDeviceID _ => client.FollowsUsers
  | .userStateChange =>
      client.FollowsUsers ∧ client.settings.resetDataOnUserStateChangeEnabled = true
  -- A timer may fire while the client is disabled.
  | .updateBBCUserLabels user =>
      client.hasStarted = true ∧ client.settings.idv5Enabled = true ∧
        (client.echoEnabled = true ∨ client.user.userForTimer = some user)
  | _ => True

/-- The settings under which tokens are watched. -/
def Settings.WatchesTokens (settings : Settings) : Prop :=
  settings.idv5Enabled = true ∧ settings.resetDataOnUserStateChangeEnabled = true

/-- An entry of the log that honours the contract, for a client with these settings. -/
def Effect.Honoured (settings : Settings) : Effect → Prop
  | .broadcast call client => client.settings = settings ∧ client.Honours call
  | .delegate _ _ | .userPromise .clearWebviewCookies => False
  | .userPromise (.setPostponedUserStateTransition _) | .invalidateTimer _ =>
      settings.WatchesTokens
  | .scheduleTimer _ timeInterval _ => settings.WatchesTokens ∧ 0 < timeInterval
  | .userPromise _ => settings.idv5Enabled = true
  | _ => True

/-- Timers only exist where tokens are watched, on a client that has started. -/
def TimersWatched (world : World H) : Prop :=
  world.timers ≠ [] →
    world.client.hasStarted = true ∧ world.client.settings.WatchesTokens

end Echo.Client
