import Echo.Client.Session

/-!
# The protocol machine

What the client promises to a delegate can be said without configuration,
labels, positions or users.  A protocol state keeps the two lifecycle flags, the
media session, the brokers that were ever made, and the protocol calls one
delegate has heard.  An act is one move of the machine; its guard is what the
client has checked, or may rely on, when it makes that move.
-/

namespace Echo.Protocol

open Echo.Client

/-- A broker without its position. -/
structure Broker where
  kind : BrokerKind
  phase : BrokerPhase
  deriving DecidableEq

structure State where
  enabled : Bool
  started : Bool
  session : Session
  brokers : List Broker
  heard : List DelegateCall

/-- The moves of the machine.  `forget` tells the delegates to clear their media
while the session goes on; `suppress` holds a play back, `release` lets it go
and `unsuppress` drops it. -/
inductive Act
  | idle
  | start
  | enable (starts : Bool)
  | disable
  | forget
  | setMedia (media : Media) (broker : Option BrokerKind)
  | setMediaLength (length : UInt64)
  | play (position : UInt64) (eventLabels : Option Labels)
  | suppress (eventLabels : Option Labels)
  | release (position : UInt64) (eventLabels : Option Labels)
  | unsuppress
  | navigate (navigation : Navigation) (position : UInt64) (eventLabels : Option Labels)
  | userAction (actionType actionName : String) (position : UInt64)
      (eventLabels : Option Labels)
  | liveMediaUpdate (media : Media) (newPosition oldPosition : UInt64)
  deriving DecidableEq

end Echo.Protocol

namespace Echo.Client.Session

def closed (session : Session) : Session :=
  { session with media := none, broker := none }

def navigated (navigation : Navigation) (session : Session) : Session :=
  match session.media with
  | none => session
  | some media => navigation.after (navigation.before (session.suppressPlay media))

theorem isSome_of_isEnrichedLive {session : Session}
    (enrichedLive : session.isEnrichedLive = true) : session.media.isSome = true := by
  cases stored : session.media with
  | none => simp [isEnrichedLive, stored] at enrichedLive
  | some media => rfl

/-- The end of the media leaves nothing but the broker and the suppression of
plays. -/
theorem navigated_avEnd {session : Session} (stored : session.media.isSome = true) :
    session.navigated .avEnd =
      { session with
        media := none
        mediaActive := false
        suppressingPlayEvent := session.suppressingPlayEvent || session.isEnrichedLive } := by
  obtain ⟨media, mediaEq⟩ := Option.isSome_iff_exists.mp stored
  rw [navigated, mediaEq]
  dsimp only
  rw [suppressPlay_eq mediaEq]
  rfl

/-- Every other navigation writes to the media in place. -/
theorem navigated_of_ne_avEnd (session : Session) {navigation : Navigation}
    (continues : navigation ≠ .avEnd) :
    ∃ update : Media → Media, (∀ media, (update media).identity = media.identity) ∧
      session.navigated navigation =
        { session with
          media := session.media.map update
          suppressingPlayEvent := session.suppressingPlayEvent || session.isEnrichedLive } := by
  cases mediaEq : session.media with
  | none =>
      refine ⟨id, fun _ => rfl, ?_⟩
      have plain : session.isEnrichedLive = false := by simp [isEnrichedLive, mediaEq]
      simp only [navigated, mediaEq, plain, Bool.or_false, Option.map_none]
      rw [← mediaEq]
  | some media =>
      simp only [navigated, mediaEq]
      rw [suppressPlay_eq mediaEq]
      cases navigation with
      | avEnd => exact absurd rfl continues
      | avPause =>
          refine ⟨fun media => { media with isPlaying := false }, fun _ => rfl, ?_⟩
          simp [Navigation.before, Navigation.after, stopPlaying, mapMedia, mediaEq]
      | avBuffer =>
          refine ⟨fun media => { media with isPlaying := false, isBuffering := true },
            fun _ => rfl, ?_⟩
          simp [Navigation.before, Navigation.after, stopPlaying, startBuffering, mapMedia, mediaEq]
      | _ =>
          refine ⟨id, fun _ => rfl, ?_⟩
          simp [Navigation.before, Navigation.after, mediaEq]

end Echo.Client.Session

namespace Echo.Protocol

open Echo.Client

namespace State

@[simps]
def hear (calls : List DelegateCall) (state : State) : State :=
  { state with heard := state.heard ++ calls }

@[simps]
def withSession (update : Session → Session) (state : State) : State :=
  { state with session := update state.session }

/-- Start or stop the current broker. -/
def setPhase (phase : BrokerPhase) (state : State) : State :=
  match state.session.broker with
  | none => state
  | some broker =>
      { state with
        brokers := state.brokers.modify broker fun broker => { broker with phase } }

@[simp]
theorem setPhase_enabled (phase : BrokerPhase) (state : State) :
    (state.setPhase phase).enabled = state.enabled := by
  unfold setPhase
  split <;> rfl

@[simp]
theorem setPhase_started (phase : BrokerPhase) (state : State) :
    (state.setPhase phase).started = state.started := by
  unfold setPhase
  split <;> rfl

@[simp]
theorem setPhase_session (phase : BrokerPhase) (state : State) :
    (state.setPhase phase).session = state.session := by
  unfold setPhase
  split <;> rfl

@[simp]
theorem setPhase_heard (phase : BrokerPhase) (state : State) :
    (state.setPhase phase).heard = state.heard := by
  unfold setPhase
  split <;> rfl

/-- Stop the current broker and forget it, with the media. -/
def close (state : State) : State :=
  (state.setPhase .stopped).withSession Session.closed

@[simp]
theorem setPhase_brokers_length (phase : BrokerPhase) (state : State) :
    (state.setPhase phase).brokers.length = state.brokers.length := by
  unfold setPhase
  split
  · rfl
  · exact List.length_modify _ _ _

/-- Store the media, and the broker that was made for it. -/
def adopt (media : Media) (broker : Option BrokerKind) (state : State) : State :=
  match broker with
  | none => state.withSession fun session => { session with media := some media }
  | some kind =>
      hear [.setBroker state.brokers.length]
        { state with
          session := { state.session with
            media := some media, broker := some state.brokers.length }
          brokers := state.brokers ++ [⟨kind, .made⟩] }

@[simp]
theorem adopt_enabled (media : Media) (broker : Option BrokerKind) (state : State) :
    (state.adopt media broker).enabled = state.enabled := by
  cases broker <;> rfl

@[simp]
theorem adopt_started (media : Media) (broker : Option BrokerKind) (state : State) :
    (state.adopt media broker).started = state.started := by
  cases broker <;> rfl

@[simp]
theorem adopt_session (media : Media) (broker : Option BrokerKind) (state : State) :
    (state.adopt media broker).session =
      { state.session with
        media := some media
        broker := broker.elim state.session.broker fun _ => some state.brokers.length } := by
  cases broker <;> rfl

@[simp]
theorem adopt_brokers (media : Media) (broker : Option BrokerKind) (state : State) :
    (state.adopt media broker).brokers =
      state.brokers ++ (broker.map fun kind => ⟨kind, .made⟩).toList := by
  cases broker with
  | none => simp [adopt]
  | some kind => rfl

@[simp]
theorem adopt_heard (media : Media) (broker : Option BrokerKind) (state : State) :
    (state.adopt media broker).heard =
      state.heard ++ (broker.map fun _ => .setBroker state.brokers.length).toList := by
  cases broker with
  | none => simp [adopt]
  | some kind => rfl

end State

namespace Act

/-- The state after a move. -/
def apply (state : State) : Act → State
  | idle => state
  | start => State.hear [.start] { state with started := true }
  | enable starts =>
      State.hear (.enable :: if starts then [.start] else [])
        { state with enabled := true, started := state.started || starts }
  | disable => State.hear [.clearMedia, .disable] { state.close with enabled := false }
  | forget => state.hear [.clearMedia]
  | setMedia media broker =>
      ((state.close.hear [.clearMedia]).adopt media broker).hear [.setMedia media]
  | setMediaLength length =>
      (state.hear (if length > 0 then [.setMediaLength length] else [])).withSession
        (.mapMedia fun media => { media with length })
  | play position eventLabels =>
      ((state.setPhase .started).hear [.avPlayEvent position eventLabels]).withSession
        Session.playing
  | suppress eventLabels =>
      (state.setPhase .started).withSession (Session.holding eventLabels)
  | release position eventLabels =>
      (((state.withSession Session.unsuppressed).setPhase .started).hear
        [.avPlayEvent position eventLabels]).withSession Session.playing
  | unsuppress => state.withSession Session.unsuppressed
  | navigate navigation position eventLabels =>
      ((state.setPhase .stopped).hear [navigation.call position eventLabels]).withSession
        (Session.navigated navigation)
  | userAction actionType actionName position eventLabels =>
      state.hear [.avUserActionEvent actionType actionName position eventLabels]
  | liveMediaUpdate media newPosition oldPosition =>
      (state.withSession (Session.updated media)).hear
        [.liveMediaUpdate media newPosition oldPosition]

/-- The calls that a move makes on every delegate. -/
def calls (state : State) : Act → List DelegateCall
  | idle | suppress _ | unsuppress => []
  | start => [.start]
  | enable starts => .enable :: if starts then [.start] else []
  | disable => [.clearMedia, .disable]
  | forget => [.clearMedia]
  | setMedia media broker =>
      .clearMedia :: ((broker.map fun _ => .setBroker state.brokers.length).toList ++
        [.setMedia media])
  | setMediaLength length => if length > 0 then [.setMediaLength length] else []
  | play position eventLabels | release position eventLabels =>
      [.avPlayEvent position eventLabels]
  | navigate navigation position eventLabels => [navigation.call position eventLabels]
  | userAction actionType actionName position eventLabels =>
      [.avUserActionEvent actionType actionName position eventLabels]
  | liveMediaUpdate media newPosition oldPosition =>
      [.liveMediaUpdate media newPosition oldPosition]

/-- The session after a move. -/
def session (state : State) : Act → Session
  | idle | start | enable _ | forget | userAction _ _ _ _ => state.session
  | disable => state.session.closed
  | setMedia media broker =>
      { state.session with
        media := some media, broker := broker.map fun _ => state.brokers.length }
  | setMediaLength length => state.session.mapMedia fun media => { media with length }
  | play _ _ => state.session.playing
  | suppress eventLabels => state.session.holding eventLabels
  | release _ _ => state.session.unsuppressed.playing
  | unsuppress => state.session.unsuppressed
  | navigate navigation _ _ => state.session.navigated navigation
  | liveMediaUpdate media _ _ => state.session.updated media

theorem apply_heard (state : State) (act : Act) :
    (act.apply state).heard = state.heard ++ act.calls state := by
  cases act <;> simp [apply, calls, State.close]

theorem apply_session (state : State) (act : Act) :
    (act.apply state).session = act.session state := by
  cases act with
  | setMedia media broker => cases broker <;> simp [apply, session, State.close, Session.closed]
  | _ => simp [apply, session, State.close]

/-- The moves that change a lifecycle flag. -/
def isLifecycle : Act → Bool
  | start | enable _ | disable => true
  | _ => false

theorem apply_enabled_of_not_lifecycle {act : Act} (other : act.isLifecycle = false)
    (state : State) : (act.apply state).enabled = state.enabled := by
  cases act <;> simp [apply, State.close, isLifecycle] at other ⊢

theorem apply_started_of_not_lifecycle {act : Act} (other : act.isLifecycle = false)
    (state : State) : (act.apply state).started = state.started := by
  cases act <;> simp [apply, State.close, isLifecycle] at other ⊢

/-- What holds of the state a move is made in. -/
def Guard (state : State) : Act → Prop
  | idle | forget | liveMediaUpdate _ _ _ => True
  | start => state.enabled = true ∧ state.started = false
  | enable starts => state.enabled = false ∧ (starts = true → state.started = false)
  | disable | setMedia _ _ => state.enabled = true
  | setMediaLength _ => state.session.media.isSome = true
  | play _ _ =>
      state.enabled = true ∧ state.session.media.isSome = true ∧
        ¬(state.session.isEnrichedLive = true ∧ state.session.suppressingPlayEvent = true)
  | suppress _ =>
      state.enabled = true ∧ state.session.isEnrichedLive = true ∧
        state.session.suppressingPlayEvent = true
  | release _ _ =>
      state.enabled = true ∧ state.session.broker.isSome = true ∧
        state.session.suppressingPlayEvent = true ∧ state.session.media.isSome = true
  | unsuppress =>
      state.enabled = true ∧ state.session.broker.isSome = true ∧
        state.session.suppressingPlayEvent = true
  | navigate _ _ _ | userAction _ _ _ _ =>
      state.enabled = true ∧ state.session.media.isSome = true

end Act

end Echo.Protocol
