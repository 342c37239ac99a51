import Echo.Client.Frame
import Echo.Transition.Erasure

/-!
# Media, apart from pages and users

The other half of the client: the media session with its brokers, its labels, and the
settings of the player.  Users, page events, timers and the time of day can be erased from
a run without any trace in it.  Only the switches that open and close the client remain.
-/

namespace Echo.Client

variable {H : Type}

/-! ## The side of the player -/

/-- The client without what it knows of its start, its pages and its users. -/
def EchoClient.playerSide (client : EchoClient) : EchoClient :=
  { client with hasStarted := false, counterNameSet := false, user := {} }

/-- The calls that only a player's operations, and the two switches, make. -/
def DelegateCall.isPlayerSide : DelegateCall → Bool
  | .addLabels _ | .removeLabels _ | .liveEnrichmentFailed | .setCacheMode _ | .getDeviceID
  | .enable | .disable => true
  | call => call.kind ∈ [EffectKind.media, .event, .broker]

/-- What an effect tells about media. -/
def Effect.playerSide : Effect → Option Effect
  | .broadcast call client =>
      if call.isPlayerSide then some (.broadcast call client.playerSide) else none
  | .userPromise _ | .scheduleTimer _ _ _ | .invalidateTimer _ | .getDelegates _ _ _ _ _
  | .addObserver _ | .setDebug _ _ | .debug _ _ => none
  | effect => some effect

structure SamePlayer (left right : World H) : Prop where
  settings : left.client.settings = right.client.settings
  echoEnabled : left.client.echoEnabled = right.client.echoEnabled
  playerDelegate : left.client.playerDelegate = right.client.playerDelegate
  cacheMode : left.client.cacheMode = right.client.cacheMode
  session : left.client.session = right.client.session
  brokers : left.brokers = right.brokers
  nextObjectID : left.nextObjectID = right.nextObjectID
  log : left.log.filterMap Effect.playerSide = right.log.filterMap Effect.playerSide

/-- The actions on pages and users. -/
def Action.SparesPlayer : Action → Prop
  | debug _ _ | setCounterNameSet | setPreviousUser _ | keepUser _ | forgetUser
  | setUserForTimer _ | settleTimer _ | invalidateTimer _ | scheduleTimer _ _ | callHelper _
  | setStarted | setClock _ => True
  | broadcast call => call.isPlayerSide = false
  | _ => False

namespace SamePlayer

variable {left middle right : World H}

theorem refl (world : World H) : SamePlayer world world :=
  ⟨rfl, rfl, rfl, rfl, rfl, rfl, rfl, rfl⟩

theorem symm (same : SamePlayer left right) : SamePlayer right left :=
  ⟨same.settings.symm, same.echoEnabled.symm, same.playerDelegate.symm, same.cacheMode.symm,
    same.session.symm, same.brokers.symm, same.nextObjectID.symm, same.log.symm⟩

theorem trans (first : SamePlayer left middle) (second : SamePlayer middle right) :
    SamePlayer left right :=
  ⟨first.settings.trans second.settings, first.echoEnabled.trans second.echoEnabled,
    first.playerDelegate.trans second.playerDelegate, first.cacheMode.trans second.cacheMode,
    first.session.trans second.session, first.brokers.trans second.brokers,
    first.nextObjectID.trans second.nextObjectID, first.log.trans second.log⟩

theorem client_eq (same : SamePlayer left right) :
    left.client.playerSide = right.client.playerSide := by
  simp only [EchoClient.playerSide, same.settings, same.echoEnabled, same.playerDelegate,
    same.cacheMode, same.session]

/-- What the operations of a session look at agrees. -/
theorem readsSession (same : SamePlayer left right) : ReadsSession left right :=
  ⟨same.settings, same.echoEnabled, same.playerDelegate, same.session, same.brokers⟩

/-- Both sides take the action. -/
theorem act (platform : Platform H) (action : Action) (same : SamePlayer left right) :
    SamePlayer (action.apply platform left) (action.apply platform right) := by
  have logged {leftEffect rightEffect : Effect}
      (told : leftEffect.playerSide = rightEffect.playerSide) :
      (left.log ++ [leftEffect]).filterMap Effect.playerSide =
        (right.log ++ [rightEffect]).filterMap Effect.playerSide := by
    simp only [List.filterMap_append, same.log, List.filterMap_cons, told]
  cases action with
  | debug level message => exact { same with log := logged rfl }
  | broadcast call =>
      exact { same with log := logged (by simp only [Effect.playerSide, same.client_eq]) }
  | callDelegate index call => exact { same with log := logged rfl }
  | setCacheMode cacheMode => exact { same with cacheMode := rfl }
  | setPlayerDelegate playerDelegate => exact { same with playerDelegate := rfl }
  | writeSession update => exact { same with session := congrArg update same.session }
  | callBroker broker call =>
      exact
        { same with
          brokers := by simp only [Action.apply, World.callBroker_brokers, same.brokers]
          log := logged rfl }
  | movePlayhead broker position =>
      exact { same with brokers := by simp only [Action.apply, same.brokers] }
  | adoptBroker made state =>
      exact
        { same with
          session := by simp only [Action.apply, World.adoptBroker, same.session, same.brokers]
          brokers := by simp only [Action.apply, World.adoptBroker, same.brokers]
          log := logged rfl }
  | adoptClone media =>
      exact
        { same with
          session := by
            simp only [Action.apply, adoptClone, World.allocate, World.withSession, same.session,
              same.nextObjectID]
          nextObjectID := congrArg (· + 1) same.nextObjectID }
  | invalidateTimer timer => exact { same with log := logged rfl }
  | scheduleTimer timeInterval user => exact { same with log := logged rfl }
  | callHelper call => exact { same with log := logged rfl }
  | setEnabled enabled => exact { same with echoEnabled := rfl }
  | _ => exact { same with }

/-- One side takes an action on pages or users. -/
theorem unseen (platform : Platform H) {action : Action} (spares : action.SparesPlayer)
    (world : World H) : SamePlayer world (action.apply platform world) := by
  have silent {effect : Effect} (nothing : effect.playerSide = none) :
      world.log.filterMap Effect.playerSide =
        (world.log ++ [effect]).filterMap Effect.playerSide := by
    simp [nothing]
  cases action with
  | debug level message => exact { refl world with log := silent rfl }
  | broadcast call =>
      have hidden : call.isPlayerSide = false := spares
      exact { refl world with log := silent (by simp [Effect.playerSide, hidden]) }
  | setCounterNameSet => exact { refl world with }
  | setPreviousUser user => exact { refl world with }
  | keepUser user => exact { refl world with }
  | forgetUser => exact { refl world with }
  | setUserForTimer user => exact { refl world with }
  | settleTimer timer => exact { refl world with }
  | invalidateTimer timer => exact { refl world with log := silent rfl }
  | scheduleTimer timeInterval user => exact { refl world with log := silent rfl }
  | callHelper call => exact { refl world with log := silent rfl }
  | setStarted => exact { refl world with }
  | setClock now => exact { refl world with }
  | _ => exact spares.elim

end SamePlayer

/-! ## Operations -/

/-- The operations of a player, and the two switches. -/
def Op.isPlayerSide : Op → Bool
  | .report (.setCacheMode _) | .report (.setPlayerDelegate _) | .report (.addLabels _)
  | .report (.addLabel _ _) | .report (.removeLabels _) | .report (.removeLabel _)
  | .lifecycle .enable | .lifecycle .disable => true
  | .report _ | .lifecycle _ | .fireTimer _ | .clock _ => false
  | .getComScoreDeviceID | .media _ | .live _ _ | .onDemand _ _ | .playhead _ => true

theorem Action.Names.sparesPlayer {action : Action}
    (names : action.Names fun call => call.isPlayerSide = false) : action.SparesPlayer := by
  cases action with
  | debug level message => trivial
  | broadcast call => exact names
  | setCounterNameSet => trivial
  | _ => exact names.elim

theorem Action.Starts.sparesPlayer {action : Action}
    (starts : action.Starts fun call => call.isPlayerSide = false) : action.SparesPlayer := by
  cases action with
  | broadcast call => exact starts
  | _ => trivial

/-- Past their switches, users are no concern of the player. -/
theorem userTells_apart : UserTells fun call => call.isPlayerSide = false :=
  ⟨fun _ => rfl, fun _ => rfl, rfl, fun _ _ _ => rfl, rfl⟩

theorem Op.tells_apart {op : Op} (other : op.isPlayerSide = false) :
    op.Tells fun call => call.isPlayerSide = false := by
  cases op with
  | report call =>
      cases call with
      | addLabels labels => cases other
      | addLabel key value => cases other
      | removeLabels labels => cases other
      | removeLabel key => cases other
      | setCacheMode cacheMode => cases other
      | setPlayerDelegate delegate => cases other
      -- The other reports tell nothing, one call, or one with labels that are not known yet.
      | _ => first | exact trivial | exact rfl | exact fun _ => rfl | exact fun _ _ => rfl
  | lifecycle call =>
      cases call with
      | setBBCUser user => exact userTells_apart
      | start => exact ⟨userTells_apart, rfl⟩
      | enable => cases other
      | disable => cases other
  | fireTimer timer => exact fun _ => rfl
  | clock now => trivial
  | _ => cases other

theorem Op.sparesPlayer {op : Op} (other : op.isPlayerSide = false) {action : Action}
    (taken : op.Footprint (fun call => call.isPlayerSide = false) action) :
    action.SparesPlayer := by
  cases op with
  | report call =>
      cases call with
      | addLabels labels => cases other
      | addLabel key value => cases other
      | removeLabels labels => cases other
      | removeLabel key => cases other
      | setCacheMode cacheMode => cases other
      | setPlayerDelegate delegate => cases other
      | setCounterName counterName => exact Action.Names.sparesPlayer taken
      | viewEvent counterName labels => exact Action.Names.sparesPlayer taken
      | _ => exact (Action.Talks.names taken).sparesPlayer
  | lifecycle call =>
      cases call with
      | setBBCUser user => exact (Action.Receives.starts taken).sparesPlayer
      | start => exact Action.Starts.sparesPlayer taken
      | enable => cases other
      | disable => cases other
  | fireTimer timer => exact (Action.Attends.receives taken).starts.sparesPlayer
  | clock now =>
      obtain rfl : action = .setClock now := taken
      trivial
  | _ => cases other

/-- What concerns pages and users leaves media alone. -/
theorem step_apart (platform : Platform H) {op : Op} (other : op.isPlayerSide = false)
    (world : World H) : SamePlayer world (step platform world op) :=
  (step_conforms platform (op.tells_apart other)).frame .refl .trans
    (fun world _ taken => .unseen platform (op.sparesPlayer other taken) world) world

theorem applyPendingUser_apart (platform : Platform H) (world : World H) :
    SamePlayer world (applyPendingUser platform world) :=
  (applyPendingUser_conforms platform userTells_apart).frame .refl .trans
    (fun world _ receives => .unseen platform receives.starts.sparesPlayer world) world

/-- Past its switch, what `enable` does concerns the user. -/
theorem enable_player (platform : Platform H) {left right : World H}
    (same : SamePlayer left right) :
    SamePlayer (enable platform left) (enable platform right) := by
  have switched {world : World H} (disabled : world.client.echoEnabled = false) :
      SamePlayer ((world.setEnabled true).broadcast .enable) (enable platform world) := by
    have applied := applyPendingUser_apart platform ((world.setEnabled true).broadcast .enable)
    have started (world : World H) : SamePlayer world (start platform world) :=
      @step_apart H platform (.lifecycle .start) rfl world
    simp only [enable, disabled, Bool.false_eq_true, if_false]
    split
    · exact applied.trans (started _)
    · exact applied
  cases enabled : left.client.echoEnabled with
  | true =>
      have enabled' := same.echoEnabled.symm.trans enabled
      simp only [enable, enabled, enabled', if_true]
      exact same
  | false =>
      have enabled' := same.echoEnabled.symm.trans enabled
      have told : SamePlayer ((left.setEnabled true).broadcast .enable)
          ((right.setEnabled true).broadcast .enable) :=
        (same.act platform (.setEnabled true)).act platform (.broadcast .enable)
      exact ((switched enabled).symm.trans told).trans (switched enabled')

/-- Of the operations of a player, only enabling looks at pages and users. -/
theorem SamePlayer.reads {op : Op} (player : op.isPlayerSide = true)
    (other : op ≠ .lifecycle .enable) {left right : World H} (same : SamePlayer left right) :
    op.Reads left right := by
  cases op with
  | report call =>
      cases call with
      | addLabels labels => trivial
      | addLabel key value => trivial
      | removeLabels labels => trivial
      | removeLabel key => trivial
      | setCacheMode cacheMode => exact same.session
      | setPlayerDelegate delegate => trivial
      | _ => cases player
  | lifecycle call =>
      cases call with
      | enable => exact absurd rfl other
      | disable => exact same.readsSession
      | _ => cases player
  | fireTimer timer => cases player
  | clock now => cases player
  | _ => exact same.readsSession

theorem step_player (platform : Platform H) {op : Op} (player : op.isPlayerSide = true)
    {left right : World H} (same : SamePlayer left right) :
    SamePlayer (step platform left op) (step platform right op) := by
  by_cases enables : op = .lifecycle .enable
  · subst enables
    exact enable_player platform same
  · exact (step_conforms_all platform op).related same (SamePlayer.reads player enables)
      (fun action _ => .act platform action)

/-- The media of a run are those of the run without its pages and users. -/
theorem player_undisturbed (platform : Platform H) (world : World H) (ops : List Op) :
    SamePlayer (run platform world ops) (run platform world (ops.filter Op.isPlayerSide)) :=
  Transition.related_run_filter
    (fun left _ _ other same => (step_apart platform other left).symm.trans same)
    (fun _ _ _ player same => step_player platform player same) (SamePlayer.refl world) ops

end Echo.Client
