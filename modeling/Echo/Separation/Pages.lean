import Echo.Client.Frame
import Echo.Transition.Erasure

/-!
# Pages and users, apart from media

The media session is one half of the client; the life of the client, its users and its
page events are the other.  `SamePages` relates worlds that agree on the second half and
on everything said about it.  An action that is taken on both sides respects the relation,
and an action of a player does when it is taken on one.  Media, the callbacks of their
brokers and the settings of the player can therefore be erased from a run.
-/

namespace Echo.Client

variable {H : Type}

/-! ## The side of the pages -/

/-- The client without its media session. -/
def EchoClient.pageSide (client : EchoClient) : EchoClient :=
  { client with playerDelegate := none, cacheMode := .offline, session := {} }

/-- The calls that no part of a media session makes. -/
def DelegateCall.isPageSide : DelegateCall → Bool
  | .addLabels _ | .removeLabels _ | .liveEnrichmentFailed | .setCacheMode _ | .getDeviceID =>
      false
  | call => call.kind ∈ [EffectKind.report, .user, .lifecycle]

/-- What an effect tells about pages and users. -/
def Effect.pageSide : Effect → Option Effect
  | .broadcast call client =>
      if call.isPageSide then some (.broadcast call client.pageSide) else none
  | .delegate _ _ | .broker _ _ | .makeLiveBroker _ _ _ _ _ | .makeOnDemandBroker _ _
  | .debug _ _ => none
  | effect => some effect

structure SamePages (left right : World H) : Prop where
  settings : left.client.settings = right.client.settings
  echoEnabled : left.client.echoEnabled = right.client.echoEnabled
  hasStarted : left.client.hasStarted = right.client.hasStarted
  counterNameSet : left.client.counterNameSet = right.client.counterNameSet
  user : left.client.user = right.client.user
  timers : left.timers = right.timers
  now : left.now = right.now
  userPromise : left.userPromise = right.userPromise
  log : left.log.filterMap Effect.pageSide = right.log.filterMap Effect.pageSide

/-- The actions of a player. -/
def Action.SparesPages : Action → Prop
  | debug _ _ | callDelegate _ _ | setCacheMode _ | setPlayerDelegate _ | writeSession _
  | callBroker _ _ | movePlayhead _ _ | adoptBroker _ _ | adoptClone _ => True
  | broadcast call => call.isPageSide = false
  | _ => False

theorem Effect.MakesBroker.pageSide_eq {made : Effect} (makes : made.MakesBroker) :
    made.pageSide = none := by
  cases made with
  | makeLiveBroker playerDelegate media essUrl useHttps essEnabled => rfl
  | makeOnDemandBroker playerDelegate media => rfl
  | _ => exact makes.elim

namespace SamePages

variable {left middle right : World H}

theorem refl (world : World H) : SamePages world world :=
  ⟨rfl, rfl, rfl, rfl, rfl, rfl, rfl, rfl, rfl⟩

theorem symm (same : SamePages left right) : SamePages right left :=
  ⟨same.settings.symm, same.echoEnabled.symm, same.hasStarted.symm, same.counterNameSet.symm,
    same.user.symm, same.timers.symm, same.now.symm, same.userPromise.symm, same.log.symm⟩

theorem trans (first : SamePages left middle) (second : SamePages middle right) :
    SamePages left right :=
  ⟨first.settings.trans second.settings, first.echoEnabled.trans second.echoEnabled,
    first.hasStarted.trans second.hasStarted, first.counterNameSet.trans second.counterNameSet,
    first.user.trans second.user, first.timers.trans second.timers, first.now.trans second.now,
    first.userPromise.trans second.userPromise, first.log.trans second.log⟩

theorem client_eq (same : SamePages left right) :
    left.client.pageSide = right.client.pageSide := by
  simp only [EchoClient.pageSide, same.settings, same.echoEnabled, same.hasStarted,
    same.counterNameSet, same.user]

/-- What the operations on pages and users look at agrees. -/
theorem readsPending (same : SamePages left right) : ReadsPending left right :=
  ⟨⟨same.settings, same.echoEnabled, same.hasStarted, congrArg _ same.user,
    congrArg _ same.user, congrArg _ same.user, same.timers, same.now, same.userPromise⟩,
    congrArg _ same.user⟩

theorem withUser (update : UserState → UserState) (same : SamePages left right) :
    SamePages (left.withUser update) (right.withUser update) :=
  { same with user := congrArg update same.user }

/-- Both sides take the action. -/
theorem act (platform : Platform H) (action : Action) (same : SamePages left right) :
    SamePages (action.apply platform left) (action.apply platform right) := by
  have logged {leftEffect rightEffect : Effect}
      (told : leftEffect.pageSide = rightEffect.pageSide) :
      (left.log ++ [leftEffect]).filterMap Effect.pageSide =
        (right.log ++ [rightEffect]).filterMap Effect.pageSide := by
    simp only [List.filterMap_append, same.log, List.filterMap_cons, told]
  cases action with
  | debug level message => exact { same with log := logged rfl }
  | broadcast call =>
      exact { same with log := logged (by simp only [Effect.pageSide, same.client_eq]) }
  | callDelegate index call => exact { same with log := logged rfl }
  | setCounterNameSet => exact { same with counterNameSet := rfl }
  | callBroker broker call => exact { same with log := logged rfl }
  | adoptBroker made state => exact { same with log := logged rfl }
  | setPreviousUser user =>
      exact same.withUser fun state => { state with previousUser := some user }
  | keepUser user =>
      exact same.withUser fun state => { state with bbcUserSetWhileDisabled := some user }
  | forgetUser => exact same.withUser fun state => { state with bbcUserSetWhileDisabled := none }
  | setUserForTimer user => exact same.withUser fun state => { state with userForTimer := user }
  | settleTimer timer =>
      exact { same with timers := by simp only [Action.apply, World.settleTimer, same.timers] }
  | invalidateTimer timer => exact { same with log := logged rfl }
  | scheduleTimer timeInterval user =>
      exact
        { same with
          user := by simp only [Action.apply, World.scheduleTimer, same.user, same.timers]
          timers := by simp only [Action.apply, World.scheduleTimer_timers, same.timers]
          log := logged (by rw [same.timers]) }
  | callHelper call =>
      exact
        { same with
          userPromise := congrArg (platform.userPromise.receive · call) same.userPromise
          log := logged rfl }
  | setStarted => exact { same with hasStarted := rfl }
  | setEnabled enabled => exact { same with echoEnabled := rfl }
  | setClock now => exact { same with now := rfl }
  | _ => exact { same with }

/-- One side takes an action of a player. -/
theorem unseen (platform : Platform H) {action : Action} (spares : action.SparesPages)
    (world : World H) : SamePages world (action.apply platform world) := by
  have silent {effect : Effect} (nothing : effect.pageSide = none) :
      world.log.filterMap Effect.pageSide =
        (world.log ++ [effect]).filterMap Effect.pageSide := by
    simp [nothing]
  cases action with
  | debug level message => exact { refl world with log := silent rfl }
  | broadcast call =>
      have hidden : call.isPageSide = false := spares
      exact { refl world with log := silent (by simp [Effect.pageSide, hidden]) }
  | callDelegate index call => exact { refl world with log := silent rfl }
  | callBroker broker call => exact { refl world with log := silent rfl }
  | adoptBroker made state =>
      exact { refl world with log := silent made.property.pageSide_eq }
  | setCacheMode cacheMode => exact { refl world with }
  | setPlayerDelegate playerDelegate => exact { refl world with }
  | writeSession update => exact { refl world with }
  | movePlayhead broker position => exact { refl world with }
  | adoptClone media => exact { refl world with }
  | _ => exact spares.elim

end SamePages

/-! ## Operations -/

/-- The operations that do not belong to a player. -/
def Op.isPageSide : Op → Bool
  | .report (.setCacheMode _) | .report (.setPlayerDelegate _) => false
  | .report _ | .lifecycle _ | .fireTimer _ | .clock _ => true
  | .getComScoreDeviceID | .media _ | .live _ _ | .onDemand _ _ | .playhead _ => false

theorem Action.Opens.sparesPages {action : Action}
    (opens : action.Opens fun call => call.isPageSide = false) : action.SparesPages := by
  cases action with
  | broadcast call => exact opens
  | setCounterNameSet => exact opens.elim
  | _ => trivial

theorem Action.Adjusts.sparesPages {action : Action}
    (adjusts : action.Adjusts fun call => call.isPageSide = false) : action.SparesPages := by
  cases action with
  | debug level message => trivial
  | setCacheMode cacheMode => trivial
  | setPlayerDelegate playerDelegate => trivial
  | broadcast call => exact adjusts
  | _ => exact adjusts.elim

theorem Op.tells_unseen {op : Op} (other : op.isPageSide = false) :
    op.Tells fun call => call.isPageSide = false := by
  have session : SessionTells fun call => call.isPageSide = false :=
    ⟨⟨fun _ => rfl, rfl, fun _ => rfl, fun _ => rfl⟩, fun _ => rfl, fun _ => rfl, fun _ _ => rfl,
      fun navigation _ _ => by cases navigation <;> rfl, fun _ _ _ _ => rfl, fun _ _ _ => rfl, rfl⟩
  cases op with
  | report call =>
      cases call with
      | setCacheMode cacheMode => rfl
      | setPlayerDelegate delegate => trivial
      | _ => cases other
  | getComScoreDeviceID => exact ⟨rfl, rfl⟩
  | media call => exact session
  | live broker callback => exact session
  | onDemand broker callback => exact session
  | playhead position => trivial
  | _ => cases other

theorem Op.sparesPages {op : Op} (other : op.isPageSide = false) {action : Action}
    (taken : op.Footprint (fun call => call.isPageSide = false) action) :
    action.SparesPages := by
  cases op with
  | report call =>
      cases call with
      | setCacheMode cacheMode => exact Action.Adjusts.sparesPages taken
      | setPlayerDelegate delegate => exact Action.Adjusts.sparesPages taken
      | _ => cases other
  | media call =>
      cases call with
      | setMedia media => exact Action.Opens.sparesPages taken
      | _ => exact (Action.Plays.opens taken).sparesPages
  | lifecycle call => cases other
  | fireTimer timer => cases other
  | clock now => cases other
  | _ => exact (Action.Plays.opens taken).sparesPages

/-- What a player does leaves the pages alone. -/
theorem step_unseen (platform : Platform H) {op : Op} (other : op.isPageSide = false)
    (world : World H) : SamePages world (step platform world op) :=
  (step_conforms platform (op.tells_unseen other)).frame .refl .trans
    (fun world _ taken => .unseen platform (op.sparesPages other taken) world) world

theorem clearMedia_unseen (platform : Platform H) (world : World H) :
    SamePages world (clearMedia platform world) := by
  have conforms : Conforms platform (Action.Plays fun call => call.isPageSide = false)
      ReadsSession Anywhere (clearMedia platform) :=
    clearMedia_conforms platform (fun _ => rfl) rfl
  exact conforms.frame .refl .trans
    (fun world _ plays => .unseen platform plays.opens.sparesPages world) world

/-- Disabling also closes the media session, which is not seen. -/
theorem disable_pages (platform : Platform H) {left right : World H}
    (same : SamePages left right) :
    SamePages (disable platform left) (disable platform right) := by
  have cleared := ((clearMedia_unseen platform left).symm.trans same).trans
    (clearMedia_unseen platform right)
  unfold disable
  rw [same.echoEnabled]
  split
  · exact same
  · exact (cleared.act platform (.setEnabled false)).act platform (.broadcast .disable)

/-- Of the operations on pages and users, only disabling looks at a media session. -/
theorem SamePages.reads {op : Op} (page : op.isPageSide = true)
    (other : op ≠ .lifecycle .disable) {left right : World H} (same : SamePages left right) :
    op.Reads left right := by
  cases op with
  | report call =>
      cases call with
      | setCacheMode cacheMode => cases page
      | setPlayerDelegate delegate => cases page
      | userActionEvent actionType actionName labels =>
          exact ⟨same.echoEnabled, same.counterNameSet⟩
      | flushCache => exact same.echoEnabled
      | viewEvent counterName labels => exact same.echoEnabled
      | errorEvent error labels => exact same.echoEnabled
      | _ => trivial
  | lifecycle call =>
      cases call with
      | setBBCUser user => exact same.readsPending.toReadsUser
      | start => exact same.readsPending
      | enable => exact same.readsPending
      | disable => exact absurd rfl other
  | fireTimer timer => exact same.readsPending.toReadsUser
  | clock now => trivial
  | _ => cases page

theorem step_pages (platform : Platform H) {op : Op} (page : op.isPageSide = true)
    {left right : World H} (same : SamePages left right) :
    SamePages (step platform left op) (step platform right op) := by
  by_cases disables : op = .lifecycle .disable
  · subst disables
    exact disable_pages platform same
  · exact (step_conforms_all platform op).related same (SamePages.reads page disables)
      (fun action _ => .act platform action)

/-- The pages and users of a run are those of the run without its player. -/
theorem pages_undisturbed (platform : Platform H) (world : World H) (ops : List Op) :
    SamePages (run platform world ops) (run platform world (ops.filter Op.isPageSide)) :=
  Transition.related_run_filter
    (fun left _ _ other same => (step_unseen platform other left).symm.trans same)
    (fun _ _ _ page same => step_pages platform page same) (SamePages.refl world) ops

end Echo.Client
