import Echo.Protocol.Turns

/-!
# The client refines the protocol machine

`Op.act` names the move that an operation makes in a given world.  Every step of
the client is then exactly that move, the move's guard holds, and the current
broker is called as the move says.
-/

namespace Echo.Client

open Echo.Protocol

variable {H : Type}

/-! ## The move of each operation -/

/-- A play is refused, held back, or delivered with the position that is reported. -/
def playAct (platform : Platform H) (position : UInt64) (eventLabels : Option Labels)
    (world : World H) : Act :=
  if !world.client.echoEnabled then .idle else
  match world.client.session.media with
  | none => .idle
  | some media =>
      match playBroker media position world with
      | none => .idle
      | some (position, _) =>
          if media.isLive && media.isEnrichedWithESSData &&
              world.client.session.suppressingPlayEvent then
            .suppress (eventLabels.map (sanitiseLabels platform))
          else
            .play position (eventLabels.map (sanitiseLabels platform))

/-- A navigation event reports where the broker is once it has been stopped. -/
def navigateAct (platform : Platform H) (navigation : Navigation) (position : UInt64)
    (eventLabels : Option Labels) (world : World H) : Act :=
  if !world.client.echoEnabled then .idle else
  match world.client.session.media with
  | none => .idle
  | some media =>
      .navigate navigation (reportedPosition media position (stopBroker world))
        (eventLabels.map (sanitiseLabels platform))

def userActionAct (platform : Platform H) (actionType actionName : String)
    (position : UInt64) (eventLabels : Option Labels) (world : World H) : Act :=
  if !world.client.echoEnabled then .idle else
  match world.client.session.media with
  | none => .idle
  | some media =>
      .userAction actionType actionName (reportedPosition media position world)
        (eventLabels.map (sanitiseLabels platform))

def MediaCall.act (platform : Platform H) (world : World H) : MediaCall → Act
  | .setMedia media =>
      if !world.client.echoEnabled then .idle
      else .setMedia (cloneFor platform media world)
        (world.client.brokerFor (cloneFor platform media world))
  | .setMediaLength length =>
      match world.client.session.media with
      | none => .idle
      | some media => if media.consumptionMode = .live then .idle else .setMediaLength length
  | .avPlayEvent position eventLabels => playAct platform position eventLabels world
  | .navigation event position eventLabels =>
      navigateAct platform event position eventLabels world
  | .avUserActionEvent actionType actionName position eventLabels =>
      userActionAct platform actionType actionName position eventLabels world

/-- A released play is delivered if the client still has media for it. -/
def releaseAct (platform : Platform H) (world : World H) : Act :=
  if !world.client.echoEnabled then .idle else
  match world.client.session.broker with
  | none => .idle
  | some broker =>
      if world.client.session.suppressingPlayEvent then
        match playAct platform (world.positionOf broker)
            world.client.session.suppressedPlayEventLabels
            (world.withSession Session.unsuppressed) with
        | .play position eventLabels => .release position eventLabels
        | _ => .unsuppress
      else .idle

def LiveCallback.act (platform : Platform H) (world : World H) : LiveCallback → Act
  | .liveMediaUpdate media newPosition oldPosition =>
      .liveMediaUpdate media newPosition oldPosition
  | .liveTimestampUpdate _ | .setEssError _ _ | .setEssSuccess _ => .idle
  | .releaseSuppressedPlay => releaseAct platform world
  | .sendHeartbeat name position => userActionAct platform "echo_hb" name position none world

def OnDemandCallback.act (platform : Platform H) (world : World H) : OnDemandCallback → Act
  | .sendHeartbeat name position => userActionAct platform "echo_hb" name position none world
  | .avPauseEvent position eventLabels =>
      navigateAct platform .avPause position eventLabels world

def LifecycleCall.act (world : World H) : LifecycleCall → Act
  | .setBBCUser _ => .idle
  | .start => if !world.client.echoEnabled || world.client.hasStarted then .idle else .start
  | .enable =>
      if world.client.echoEnabled then .idle
      else .enable (world.client.settings.autoStart && !world.client.hasStarted)
  | .disable => if !world.client.echoEnabled then .idle else .disable

/-- The move that an operation makes in a world. -/
def Op.act (platform : Platform H) (world : World H) : Op → Act
  | .report _ | .fireTimer _ | .playhead _ | .clock _ => .idle
  | .getComScoreDeviceID => .forget
  | .media call => call.act platform world
  | .lifecycle call => call.act world
  | .live _ callback => callback.act platform world
  | .onDemand _ callback => callback.act platform world

/-- Which operations can make which moves. -/
inductive Takes (platform : Platform H) (world : World H) : Op → Act → Prop
  | idle (op : Op) : Takes platform world op .idle
  | start : Takes platform world (.lifecycle .start) .start
  | enable : Takes platform world (.lifecycle .enable)
      (.enable (world.client.settings.autoStart && !world.client.hasStarted))
  | disable : Takes platform world (.lifecycle .disable) .disable
  | forget : Takes platform world .getComScoreDeviceID .forget
  | setMedia (media : Media) : Takes platform world (.media (.setMedia media))
      (.setMedia (cloneFor platform media world)
        (world.client.brokerFor (cloneFor platform media world)))
  | setMediaLength (length : UInt64) :
      Takes platform world (.media (.setMediaLength length)) (.setMediaLength length)
  | play (position : UInt64) (eventLabels : Option Labels) (reported : UInt64) :
      Takes platform world (.media (.avPlayEvent position eventLabels))
        (.play reported (eventLabels.map (sanitiseLabels platform)))
  | suppress (position : UInt64) (eventLabels : Option Labels) :
      Takes platform world (.media (.avPlayEvent position eventLabels))
        (.suppress (eventLabels.map (sanitiseLabels platform)))
  | release (broker : BrokerRef) (reported : UInt64) :
      Takes platform world (.live broker .releaseSuppressedPlay)
        (.release reported
          (world.client.session.suppressedPlayEventLabels.map (sanitiseLabels platform)))
  | unsuppress (broker : BrokerRef) :
      Takes platform world (.live broker .releaseSuppressedPlay) .unsuppress
  | navigate (event : Navigation) (position : UInt64) (eventLabels : Option Labels)
      (reported : UInt64) :
      Takes platform world (.media (.navigation event position eventLabels))
        (.navigate event reported (eventLabels.map (sanitiseLabels platform)))
  | pause (broker : BrokerRef) (position : UInt64) (eventLabels : Option Labels)
      (reported : UInt64) :
      Takes platform world (.onDemand broker (.avPauseEvent position eventLabels))
        (.navigate .avPause reported (eventLabels.map (sanitiseLabels platform)))
  | userAction (op : Op) (actionType actionName : String) (reported : UInt64)
      (eventLabels : Option Labels) :
      Takes platform world op (.userAction actionType actionName reported eventLabels)
  | liveMediaUpdate (broker : BrokerRef) (media : Media) (newPosition oldPosition : UInt64) :
      Takes platform world (.live broker (.liveMediaUpdate media newPosition oldPosition))
        (.liveMediaUpdate media newPosition oldPosition)

theorem Takes.of_setMedia {platform : Platform H} {world : World H} {op : Op} {clone : Media}
    {broker : Option BrokerKind} (takes : Takes platform world op (.setMedia clone broker)) :
    ∃ media, op = .media (.setMedia media) ∧ clone = cloneFor platform media world ∧
      broker = world.client.brokerFor clone := by
  generalize actEq : Act.setMedia clone broker = act at takes
  cases takes with
  | setMedia media =>
      injection actEq with cloneEq brokerEq
      exact ⟨media, rfl, cloneEq, cloneEq ▸ brokerEq⟩
  | _ => cases actEq

theorem playAct_takes (platform : Platform H) (position : UInt64)
    (eventLabels : Option Labels) (world : World H) :
    Takes platform world (.media (.avPlayEvent position eventLabels))
      (playAct platform position eventLabels world) := by
  unfold playAct
  split
  · exact .idle _
  · split
    · exact .idle _
    · split
      · exact .idle _
      · split
        · exact .suppress position eventLabels
        · exact .play position eventLabels _

theorem userActionAct_takes (platform : Platform H) (op : Op) (actionType actionName : String)
    (position : UInt64) (eventLabels : Option Labels) (world : World H) :
    Takes platform world op
      (userActionAct platform actionType actionName position eventLabels world) := by
  unfold userActionAct
  split
  · exact .idle op
  · split
    · exact .idle op
    · exact .userAction op _ _ _ _

/-- Without suppression a play is delivered or refused. -/
theorem playAct_unsuppressed (platform : Platform H) (position : UInt64)
    (eventLabels : Option Labels) (world : World H)
    (unsuppressed : world.client.session.suppressingPlayEvent = false) :
    playAct platform position eventLabels world = .idle ∨
      ∃ reported, playAct platform position eventLabels world =
        .play reported (eventLabels.map (sanitiseLabels platform)) := by
  unfold playAct
  split
  · exact .inl rfl
  · split
    · exact .inl rfl
    · split
      · exact .inl rfl
      · rename_i reported _ _
        exact .inr ⟨reported, by simp [unsuppressed]⟩

theorem MediaCall.act_takes (platform : Platform H) (world : World H) (call : MediaCall) :
    Takes platform world (.media call) (call.act platform world) := by
  cases call with
  | setMedia media =>
      rw [act]
      split
      · exact .idle _
      · exact .setMedia media
  | setMediaLength length =>
      rw [act]
      split
      · exact .idle _
      · split
        · exact .idle _
        · exact .setMediaLength length
  | avPlayEvent position eventLabels => exact playAct_takes platform position eventLabels world
  | navigation event position eventLabels =>
      rw [act, navigateAct]
      split
      · exact .idle _
      · split
        · exact .idle _
        · exact .navigate event position eventLabels _
  | avUserActionEvent actionType actionName position eventLabels =>
      exact userActionAct_takes platform _ actionType actionName position eventLabels world

theorem LiveCallback.act_takes (platform : Platform H) (world : World H) (broker : BrokerRef)
    (callback : LiveCallback) :
    Takes platform world (.live broker callback) (callback.act platform world) := by
  cases callback with
  | liveMediaUpdate media newPosition oldPosition =>
      exact .liveMediaUpdate broker media newPosition oldPosition
  | releaseSuppressedPlay =>
      rw [act, releaseAct]
      split
      · exact .idle _
      · split
        · exact .idle _
        · rename_i current _
          split
          · rcases playAct_unsuppressed platform (world.positionOf current)
              world.client.session.suppressedPlayEventLabels
              (world.withSession .unsuppressed) rfl with refused | ⟨reported, delivered⟩
            · rw [refused]
              exact .unsuppress broker
            · rw [delivered]
              exact .release broker reported
          · exact .idle _
  | sendHeartbeat name position =>
      exact userActionAct_takes platform _ "echo_hb" name position none world
  | _ => exact .idle _

theorem OnDemandCallback.act_takes (platform : Platform H) (world : World H)
    (broker : BrokerRef) (callback : OnDemandCallback) :
    Takes platform world (.onDemand broker callback) (callback.act platform world) := by
  cases callback with
  | sendHeartbeat name position =>
      exact userActionAct_takes platform _ "echo_hb" name position none world
  | avPauseEvent position eventLabels =>
      rw [act, navigateAct]
      split
      · exact .idle _
      · split
        · exact .idle _
        · exact .pause broker position eventLabels _

theorem Op.act_takes (platform : Platform H) (world : World H) (op : Op) :
    Takes platform world op (op.act platform world) := by
  cases op with
  | getComScoreDeviceID => exact .forget
  | media call => exact call.act_takes platform world
  | lifecycle call =>
      cases call with
      | setBBCUser user => exact .idle _
      | start =>
          rw [act, LifecycleCall.act]
          split
          · exact .idle _
          · exact .start
      | enable =>
          rw [act, LifecycleCall.act]
          split
          · exact .idle _
          · exact .enable
      | disable =>
          rw [act, LifecycleCall.act]
          split
          · exact .idle _
          · exact .disable
  | live broker callback => exact callback.act_takes platform world broker
  | onDemand broker callback => exact callback.act_takes platform world broker
  | _ => exact .idle _

/-! ## Events -/

/-- Whichever way the broker takes part in a play, it ends up running. -/
theorem observe_playBroker {media : Media} {position reported : UInt64}
    {world played : World H} (accepted : playBroker media position world = some (reported, played))
    (index : Nat) : observe index played = (observe index world).setPhase .started := by
  unfold playBroker at accepted
  split at accepted
  · rename_i noBroker
    cases accepted
    simp [State.setPhase, observe, noBroker]
  · rename_i broker current
    split at accepted
    · cases accepted
      exact observe_callBroker (fun _ => rfl) current index
    · split at accepted
      · contradiction
      · cases accepted
        rw [observe_callBroker (fun _ => rfl) (by exact current), observe_callBroker_setPosition]

/-- The position check and the answer do not depend on the log. -/
theorem playBroker_announce (function : String) (announced position : UInt64) (media : Media)
    (world : World H) :
    (playBroker media position (announce function announced world)).map Prod.fst =
      (playBroker media position world).map Prod.fst := by
  unfold playBroker
  change Option.map Prod.fst
    (match world.client.session.broker with | none => _ | some broker => _) = _
  cases world.client.session.broker with
  | none => rfl
  | some broker =>
      dsimp only
      change Option.map Prod.fst (if media.isLive then _ else
        if positionExceedsMediaLength position world then _ else _) = _
      split
      · rfl
      · split
        · rfl
        · rfl

/-- One transition of the client is one move of the machine, whose guard holds and whose turn
the current broker takes. -/
structure Performs (index : Nat) (before : World H) (act : Act) (after : World H) : Prop where
  guard : act.Guard (observe index before)
  result : observe index after = act.apply (observe index before)
  told : Tells (act.turn before.client.session) before after

namespace Performs

variable {index : Nat} {before after : World H}

theorem idle (unobserved : observe index after = observe index before)
    (silent : Tells [] before after) : Performs index before .idle after :=
  ⟨trivial, unobserved, silent⟩

theorem ofReport (frame : ReportFrame before after) (index : Nat) :
    Performs index before .idle after :=
  .idle (observe_of_report frame index) (.ofReport frame)

theorem ofUser (frame : UserFrame before after) (index : Nat) :
    Performs index before .idle after :=
  .idle (observe_of_user frame index) (.ofUser frame)

theorem refl (index : Nat) (world : World H) : Performs index world .idle world :=
  .ofReport (.refl world) index

theorem debug (level : EchoDebugLevel) (message : String) (world : World H) (index : Nat) :
    Performs index world .idle (world.debug level message) :=
  .ofReport (.emit (.debug level message) rfl world) index

/-- The library's own logging does not matter. -/
theorem of_debug {level : EchoDebugLevel} {message : String} {act : Act}
    (performs : Performs index (before.debug level message) act after) :
    Performs index before act after := by
  obtain ⟨guard, result, told⟩ := performs
  rw [observe_debug] at guard result
  exact ⟨guard, result, told.of_debug⟩

end Performs

theorem deliverPlay_performs {media : Media} {position reported : UInt64}
    (eventLabels : Option Labels) {world played : World H}
    (enabled : world.client.echoEnabled = true)
    (stored : world.client.session.media = some media)
    (accepted : playBroker media position world = some (reported, played)) (index : Nat) :
    Performs index world
      (if media.isLive && media.isEnrichedWithESSData &&
          world.client.session.suppressingPlayEvent then .suppress eventLabels
        else .play reported eventLabels)
      (deliverPlay media reported eventLabels played) := by
  have observed := observe_playBroker accepted index
  have told := playBroker_tells accepted
  have session : played.client.session = world.client.session := by
    have sessionEq := congrArg State.session observed
    rwa [State.setPhase_session] at sessionEq
  unfold deliverPlay
  rw [session]
  split
  · rename_i holds
    simp only [Bool.and_eq_true] at holds
    refine ⟨⟨enabled, ?_, holds.2⟩, ?_, ?_⟩
    · simp [observe, Session.isEnrichedLive, stored, holds.1]
    · rw [observe_withSession, observed]
      rfl
    · rw [if_pos holds.1.1] at told
      exact told
  · rename_i delivers
    have liveEq : world.client.session.isLive = media.isLive := by
      simp [Session.isLive, stored]
    refine ⟨⟨enabled, ?_, ?_⟩, ?_, ?_⟩
    · simp [observe, stored]
    · simpa [observe, Session.isEnrichedLive, stored] using delivers
    · rw [observe_withSession, observe_broadcast
        (by simp [DelegateCall.isProtocol]), observed]
      rfl
    · simp only [Act.turn, liveEq]
      exact told.broadcast _

theorem avPlayEvent_performs (platform : Platform H) (position : UInt64)
    (eventLabels : Option Labels) (world : World H) (index : Nat) :
    Performs index world (playAct platform position eventLabels world)
      (avPlayEvent platform position eventLabels world) := by
  unfold avPlayEvent playAct
  split
  · exact .refl index world
  · rename_i isEnabled
    have enabled : world.client.echoEnabled = true := by simpa using isEnabled
    dsimp only
    rw [show (announce "avPlayEvent(at:eventLabels:)" position world).client = world.client
      from rfl]
    cases stored : world.client.session.media with
    | none => exact (Performs.debug _ _ _ index).of_debug
    | some media =>
        have announced := playBroker_announce "avPlayEvent(at:eventLabels:)" position position
          media world
        dsimp only
        cases accepted : playBroker media position
            (announce "avPlayEvent(at:eventLabels:)" position world) with
        | none =>
            have refused : playBroker media position world = none := by
              simpa [accepted] using announced.symm
            rw [refused]
            exact .debug _ _ world index
        | some outcome =>
            obtain ⟨reported, played⟩ := outcome
            obtain ⟨_, accepted', rfl⟩ : ∃ outcome, playBroker media position world =
                some outcome ∧ outcome.1 = reported := by
              simpa [accepted] using announced.symm
            rw [accepted']
            have performs := deliverPlay_performs (eventLabels.map (sanitiseLabels platform))
              (by exact enabled) (by exact stored) accepted index
            exact performs.of_debug

theorem observe_stopBroker (index : Nat) (world : World H) :
    observe index (stopBroker world) = (observe index world).setPhase .stopped := by
  unfold stopBroker
  split
  · rename_i noBroker
    simp [State.setPhase, observe, noBroker]
  · rename_i broker current
    exact observe_callBroker (fun _ => rfl) current index

/-- The reported position does not depend on the log. -/
theorem reportedPosition_announce (function : String) (announced position : UInt64)
    (media : Media) (world : World H) :
    reportedPosition media position (stopBroker (announce function announced world)) =
      reportedPosition media position (stopBroker world) := by
  cases current : world.client.session.broker with
  | none =>
      have current' : (announce function announced world).client.session.broker = none := current
      simp only [reportedPosition, stopBroker, current, current']
  | some broker =>
      have current' : (announce function announced world).client.session.broker = some broker :=
        current
      simp only [reportedPosition, stopBroker, current, current']
      rfl

theorem observe_avNavigationEvent {world : World H} {media : Media}
    (stored : world.client.session.media = some media) (position : UInt64) (index : Nat) :
    observe index (avNavigationEvent position world).2 =
      ((observe index world).setPhase .stopped).withSession (.suppressPlay media) := by
  unfold avNavigationEvent
  simp only [stored]
  rw [observe_withSession, observe_stopBroker]

theorem navigate_performs (platform : Platform H) (navigation : Navigation) (position : UInt64)
    (eventLabels : Option Labels) (world : World H) (index : Nat) :
    Performs index world (navigateAct platform navigation position eventLabels world)
      (navigate platform navigation position eventLabels world) := by
  unfold navigate navigateAct
  split
  · exact .refl index world
  · rename_i isEnabled
    have enabled : world.client.echoEnabled = true := by simpa using isEnabled
    dsimp only
    rw [show (announce navigation.function position world).client = world.client from rfl]
    cases stored : world.client.session.media with
    | none => exact (Performs.debug _ _ _ index).of_debug
    | some media =>
        have position_eq : (avNavigationEvent position
            (announce navigation.function position world)).1 =
            reportedPosition media position (stopBroker world) := by
          rw [← reportedPosition_announce navigation.function position]
          have stored' : (announce navigation.function position world).client.session.media =
              some media := stored
          simp only [avNavigationEvent, stored']
        refine ⟨⟨enabled, by simp [observe, stored]⟩, ?_, ?_⟩
        · dsimp only
          rw [observe_withSession, observe_broadcast
              (by simp [DelegateCall.isProtocol, Navigation.call_kind]), observe_withSession,
            observe_avNavigationEvent (by exact stored), observe_announce, position_eq]
          have navigated : world.client.session.navigated navigation =
              navigation.after (navigation.before (world.client.session.suppressPlay media)) := by
            simp only [Session.navigated, stored]
          simp only [Act.apply, State.hear, State.withSession, State.setPhase_session,
            observe_session, navigated]
        · have told : Tells [.stop] (announce navigation.function position world)
              ((avNavigationEvent position
                (announce navigation.function position world)).2.withSession navigation.before) :=
            avNavigationEvent_tells (by exact stored) position
          exact (told.broadcast _).of_debug

theorem avUserActionEvent_performs (platform : Platform H) (actionType actionName : String)
    (position : UInt64) (eventLabels : Option Labels) (world : World H) (index : Nat) :
    Performs index world
      (userActionAct platform actionType actionName position eventLabels world)
      (avUserActionEvent platform actionType actionName position eventLabels world) := by
  unfold avUserActionEvent userActionAct
  split
  · exact .refl index world
  · rename_i isEnabled
    have enabled : world.client.echoEnabled = true := by simpa using isEnabled
    dsimp only
    rw [show (world.debug _ _).client = world.client from rfl]
    cases stored : world.client.session.media with
    | none => exact (Performs.debug _ _ _ index).of_debug
    | some media =>
        refine ⟨⟨enabled, by simp [observe, stored]⟩, ?_, (Tells.debug _ _ _).broadcast _⟩
        dsimp only
        rw [observe_broadcast (by simp [DelegateCall.isProtocol]),
          observe_debug]
        rfl

/-! ## Calls and callbacks -/

theorem setMediaLength_performs (platform : Platform H) (length : UInt64) (world : World H)
    (index : Nat) :
    Performs index world ((MediaCall.setMediaLength length).act platform world)
      (setMediaLength length world) := by
  unfold setMediaLength MediaCall.act
  cases stored : world.client.session.media with
  | none => exact .debug _ _ world index
  | some media =>
      dsimp only
      split
      · exact .debug _ _ world index
      · refine ⟨by simp [Act.Guard, stored], ?_, ?_⟩
        · simp only [Act.apply]
          split
          · rw [observe_withSession, observe_broadcast
              (by simp [DelegateCall.isProtocol])]
          · rw [observe_withSession, State.hear, List.append_nil]
        · split
          · simp [Tells, Act.turn]
          · simp [Tells, Act.turn]

theorem MediaCall.performs (platform : Platform H) (world : World H) (call : MediaCall)
    (index : Nat) :
    Performs index world (call.act platform world) (call.perform platform world) := by
  cases call with
  | setMedia media =>
      cases enabled : world.client.echoEnabled with
      | false =>
          simp only [act, perform, Client.setMedia, enabled, Bool.not_false, if_true]
          exact .refl index world
      | true =>
          simp only [act, enabled, Bool.not_true, Bool.false_eq_true, if_false]
          exact ⟨enabled, observe_setMedia platform media enabled index,
            setMedia_tells platform media enabled⟩
  | setMediaLength length => exact setMediaLength_performs platform length world index
  | avPlayEvent position labels => exact avPlayEvent_performs platform position labels world index
  | navigation event position labels =>
      rw [perform, Navigation.event_eq_navigate]
      exact navigate_performs platform event position labels world index
  | avUserActionEvent actionType actionName position labels =>
      exact avUserActionEvent_performs platform actionType actionName position labels world index

theorem releaseSuppressedPlay_performs (platform : Platform H) (world : World H)
    (index : Nat) :
    Performs index world (releaseAct platform world) (releaseSuppressedPlay platform world) := by
  unfold releaseSuppressedPlay releaseAct
  split
  · exact .refl index world
  · rename_i isEnabled
    have enabled : world.client.echoEnabled = true := by simpa using isEnabled
    cases current : world.client.session.broker with
    | none => exact .refl index world
    | some broker =>
        dsimp only
        split
        · rename_i suppressing
          have released := avPlayEvent_performs platform (world.positionOf broker)
            world.client.session.suppressedPlayEventLabels
            (world.withSession .unsuppressed) index
          rcases playAct_unsuppressed platform (world.positionOf broker)
            world.client.session.suppressedPlayEventLabels
            (world.withSession .unsuppressed) rfl with refused | ⟨reported, delivered⟩
          · rw [refused] at released ⊢
            exact ⟨⟨enabled, by simp [current], suppressing⟩, released.result, released.told⟩
          · rw [delivered] at released ⊢
            obtain ⟨_, stored, _⟩ := released.guard
            exact ⟨⟨enabled, by simp [current], suppressing, stored⟩, released.result,
              released.told⟩
        · exact .refl index world

theorem LiveCallback.performs (platform : Platform H) (world : World H)
    (callback : LiveCallback) (index : Nat) :
    Performs index world (callback.act platform world) (callback.perform platform world) := by
  cases callback with
  | liveMediaUpdate media newPosition oldPosition =>
      refine ⟨trivial, ?_, ?_⟩
      · rw [perform, Client.liveMediaUpdate, observe_broadcast
          (by simp [DelegateCall.isProtocol])]
        rfl
      · simp [perform, Client.liveMediaUpdate, act, Tells, Act.turn]
  | liveTimestampUpdate timestamp => exact .ofReport (addLabels_frame platform _ world) index
  | setEssError error code => exact .ofReport (setEssError_frame platform error code world) index
  | setEssSuccess isSuccess => exact .ofReport (addLabels_frame platform _ world) index
  | releaseSuppressedPlay => exact releaseSuppressedPlay_performs platform world index
  | sendHeartbeat name position =>
      exact avUserActionEvent_performs platform "echo_hb" name position none world index

theorem OnDemandCallback.performs (platform : Platform H) (world : World H)
    (callback : OnDemandCallback) (index : Nat) :
    Performs index world (callback.act platform world) (callback.perform platform world) := by
  cases callback with
  | sendHeartbeat name position =>
      exact avUserActionEvent_performs platform "echo_hb" name position none world index
  | avPauseEvent position labels =>
      exact navigate_performs platform .avPause position labels world index

theorem observe_start (platform : Platform H) {world : World H}
    (enabled : world.client.echoEnabled = true) (unstarted : world.client.hasStarted = false)
    (index : Nat) :
    observe index (start platform world) = Act.start.apply (observe index world) := by
  rw [observe_of_user (start_frame platform enabled unstarted), observe_setStarted,
    observe_broadcast rfl]
  rfl

/-- Enabling tells the delegates, and starts the client if it is due. -/
theorem observe_enable (platform : Platform H) {world : World H}
    (disabled : world.client.echoEnabled = false) (index : Nat) :
    observe index (enable platform world) =
      (Act.enable (world.client.settings.autoStart && !world.client.hasStarted)).apply
        (observe index world) := by
  have applied := applyPendingUser_frame platform ((world.setEnabled true).broadcast .enable)
  have told : observe index ((world.setEnabled true).broadcast .enable) =
      (Act.enable false).apply (observe index world) := by
    rw [observe_broadcast rfl, observe_setEnabled]
    simp [Act.apply, State.hear]
  have observed := (observe_of_user applied index).trans told
  simp only [enable, disabled, Bool.false_eq_true, if_false]
  rw [applied.settings, applied.hasStarted]
  cases starts : world.client.settings.autoStart && !world.client.hasStarted with
  | false =>
      rw [if_neg (by simpa using starts)]
      exact observed
  | true =>
      rw [if_pos (by simpa using starts)]
      have unstarted : world.client.hasStarted = false := by
        simp only [Bool.and_eq_true, Bool.not_eq_true'] at starts
        exact starts.2
      rw [observe_start platform applied.echoEnabled (applied.hasStarted.trans unstarted), observed]
      simp [Act.apply, State.hear]

theorem observe_disable (platform : Platform H) {world : World H}
    (enabled : world.client.echoEnabled = true) (index : Nat) :
    observe index (disable platform world) = Act.disable.apply (observe index world) := by
  have cleared := observe_clearMedia platform index world
  simp only [disable, enabled, Bool.not_true, Bool.false_eq_true, if_false]
  rw [observe_broadcast rfl, observe_setEnabled, cleared]
  simp [Act.apply, State.hear]

theorem LifecycleCall.performs (platform : Platform H) (world : World H)
    (call : LifecycleCall) (index : Nat) :
    Performs index world (call.act world) (call.perform platform world) := by
  cases call with
  | setBBCUser user => exact .ofUser (setBBCUser_frame platform user world) index
  | start =>
      rw [act, perform]
      split
      · rename_i idle
        rw [start_of_idle platform idle]
        exact .refl index world
      · rename_i due
        simp only [Bool.or_eq_true, Bool.not_eq_true', not_or, Bool.not_eq_false,
          Bool.not_eq_true] at due
        exact ⟨due, observe_start platform due.1 due.2 index, start_tells platform due.1 due.2⟩
  | enable =>
      cases enabled : world.client.echoEnabled with
      | true =>
          simp only [act, perform, Client.enable, enabled, if_true]
          exact .refl index world
      | false =>
          simp only [act, perform, enabled, Bool.false_eq_true, if_false]
          refine ⟨⟨enabled, fun starts => ?_⟩, observe_enable platform enabled index,
            enable_tells platform enabled⟩
          simp only [Bool.and_eq_true, Bool.not_eq_true'] at starts
          exact starts.2
  | disable =>
      cases enabled : world.client.echoEnabled with
      | false =>
          simp only [act, perform, Client.disable, enabled, Bool.not_false, if_true]
          exact .refl index world
      | true =>
          simp only [act, enabled, Bool.not_true, Bool.false_eq_true, if_false]
          exact ⟨enabled, observe_disable platform enabled index, disable_tells platform enabled⟩

theorem getComScoreDeviceID_performs {world : World H} {index : Nat}
    (present : index < world.client.settings.delegates.length) :
    Performs index world .forget (getComScoreDeviceID world).2 := by
  refine ⟨trivial, ?_, getComScoreDeviceID_tells world⟩
  rw [getComScoreDeviceID_eq, Act.apply, State.hear]
  simp only [observe, heard_append, heard_deviceIDCalls, Nat.zero_le, true_and, Nat.zero_add,
    if_pos present]

/-- Every step but one is the move of its operation for any observer. -/
theorem step_performs_of_ne (platform : Platform H) {op : Op}
    (other : op ≠ .getComScoreDeviceID) (world : World H) (index : Nat) :
    Performs index world (op.act platform world) (step platform world op) := by
  cases op with
  | report call => exact .ofReport (call.perform_frame platform world) index
  | getComScoreDeviceID => exact absurd rfl other
  | media call => exact call.performs platform world index
  | lifecycle call => exact call.performs platform world index
  | live broker callback => exact callback.performs platform world index
  | onDemand broker callback => exact callback.performs platform world index
  | fireTimer timer => exact .ofUser (fireTimer_frame platform timer world) index
  | playhead position =>
      refine .idle ?_ (movePlayhead_tells position world)
      simp only [step, movePlayhead]
      split
      · rfl
      · simp only [observe, observe_setPosition]
  | clock now => exact .idle rfl (by simp [step, Tells])

/-- Every step of the client is the move of its operation. -/
theorem step_performs (platform : Platform H) {world : World H} {index : Nat}
    (present : index < world.client.settings.delegates.length) (op : Op) :
    Performs index world (op.act platform world) (step platform world op) := by
  by_cases asks : op = .getComScoreDeviceID
  · subst asks
    exact getComScoreDeviceID_performs present
  · exact step_performs_of_ne platform asks world index

/-- An index without a delegate observes the same steps, except that it is not
reached by the pass over the delegates. -/
theorem step_performs_or_idle (platform : Platform H) (world : World H) (op : Op)
    (index : Nat) :
    Performs index world (op.act platform world) (step platform world op) ∨
      observe index (step platform world op) = observe index world := by
  by_cases asks : op = .getComScoreDeviceID
  · subst asks
    by_cases present : index < world.client.settings.delegates.length
    · exact .inl (getComScoreDeviceID_performs present)
    · right
      rw [step, getComScoreDeviceID_eq]
      simp only [observe, heard_append, heard_deviceIDCalls, Nat.zero_le, true_and, Nat.zero_add,
        if_neg present, List.append_nil]
  · exact .inl (step_performs_of_ne platform asks world index)

end Echo.Client
