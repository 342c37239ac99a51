import Echo.Client.Reporting

/-!
# Users and token expiry

`setBBCUser` hands the user to the user promise helper, tells the delegates
what changed, and keeps the timer that refreshes the user labels when the
user's token expires.
-/

namespace Echo.Client

variable {H : Type}

def userStateChangeAction : String := "user_state_change"

def echoDeviceIDActionType : String := "echo_device_id"

/-- The label that marks an event as following a device id reset. -/
def deviceIDResetLabels : Labels := Labels.single "device_id_reset" "1"

/-! ## The expiry timer -/

def removeSchedule (world : World H) : World H :=
  match world.client.user.timer with
  | none => world
  | some timer => (world.settleTimer timer).emit (.invalidateTimer timer)

def scheduleTokenExpiry (platform : Platform H) (user : BBCUser) (world : World H) : World H :=
  let world := removeSchedule world
  let timeUntilExpiry := platform.getTimeUntilTokenExpiry user world.now
  let world := world.withUser fun state => { state with userForTimer := some user }
  if timeUntilExpiry > 0 then
    (world.scheduleTimer timeUntilExpiry user).debug .info
      s!"Scheduler set to check token in {timeUntilExpiry} seconds"
  else
    world

def expireToken (world : World H) : World H :=
  let world := match world.client.user.userForTimer with
    | some userForTimer => world.broadcast (.updateBBCUserLabels userForTimer)
    | none => world
  world.withUser fun state => { state with userForTimer := none }

/-- The run loop fires a timer: it is one-shot, and one that is not pending
never fires. -/
def fireTimer (timer : TimerRef) (world : World H) : World H :=
  if (world.timers[timer]?.map TimerState.isPending).getD false then
    expireToken (world.settleTimer timer)
  else
    world

/-! ## Setting the user -/

def resetUserData (platform : Platform H) (user : BBCUser)
    (deviceIDResetReason : Option DeviceIDResetReason) (world : World H) : World H :=
  if platform.tokenState user world.now = .valid then
    let world := if deviceIDResetReason.isSome then
        clearCache (world.debug .info
          "Clearing cache and internal data due to session and device id change")
      else world
    if user.tokenRefreshTimestamp.isSome then scheduleTokenExpiry platform user world
    else world
  else if platform.tokenState user world.now = .expired ∧
      world.client.user.previousUser.map (platform.tokenState · world.now) ≠ some .expired then
    removeSchedule (world.debug .info "changing state from valid (or none) to expired")
  else
    world

def eventsEnabled (world : World H) : Bool :=
  world.client.echoEnabled && world.client.hasStarted

/-- A disabled or unstarted client keeps the user for later; without idv5 the
user is only remembered. -/
def userShouldUpdate (user : BBCUser) (world : World H) : Bool × World H :=
  if !eventsEnabled world then
    (false, world.withUser fun state => { state with bbcUserSetWhileDisabled := some user })
  else if !world.client.settings.idv5Enabled then
    (false, world.withUser fun state => { state with previousUser := some user })
  else
    (true, world)

/-- The reset that stops events until the next start of the client. -/
def postponesEvent (reason : DeviceIDResetReason) (world : World H) : Bool :=
  world.client.settings.resetDataOnUserStateChangeEnabled && reason == .userStateChange

def resetDeviceId (platform : Platform H) (deviceIDResetReason : DeviceIDResetReason)
    (result : UserPromiseHelperResult) (world : World H) : World H :=
  if postponesEvent deviceIDResetReason world then
    let world := world.broadcast .userStateChange
    (world.callUserPromise
      (.setPostponedUserStateTransition result.userStateTransition)
      fun store => ((), platform.userPromise.setPostponedUserStateTransition
        result.userStateTransition store)).2
  else
    world

/-- Type, name and labels of the event that reports a user update. -/
structure UserUpdate where
  actionType : String
  actionName : String
  eventLabels : Labels

/-- The event for a helper result, before a postponed transition is considered. -/
def userUpdate (platform : Platform H) (result : UserPromiseHelperResult) : UserUpdate :=
  let stateChange : UserUpdate :=
    ⟨userStateChangeAction, platform.transitionValue result.userStateTransition, ∅⟩
  match result.deviceIDResetReason with
  | none => stateChange
  | some reason =>
      let update := if reason ≠ .firstInstall ∨ result.isPostponedUserStateChange then
          { stateChange with eventLabels := deviceIDResetLabels }
        else stateChange
      if result.userStateTransition = .none ∨ reason = .firstInstall ∨ reason = .echoUpgrade then
        { update with
          actionType := echoDeviceIDActionType
          actionName := platform.resetReasonValue reason }
      else
        update

def sendUserUpdateEvent (platform : Platform H) (update : UserUpdate)
    (result : UserPromiseHelperResult) (world : World H) : World H :=
  let eventLabels := if result.isPostponedUserStateChange then deviceIDResetLabels
    else update.eventLabels
  let eventLabels := eventLabels.insert (platform.labelKey .isBackground) "true"
  let world := world.broadcast
    (.userActionEvent update.actionType update.actionName (some eventLabels))
  if result.isPostponedUserStateChange then
    (world.callUserPromise .clearPostponedUserStateTransition fun store =>
      ((), platform.userPromise.clearPostponedUserStateTransition store)).2
  else
    world

/-- The end of `setBBCUser`, which a postponed event never reaches. -/
def reportUser (platform : Platform H) (user : BBCUser) (result : UserPromiseHelperResult)
    (world : World H) : World H :=
  let world := world.broadcast (.updateBBCUserLabels user)
  let world := if result.userStateTransition ≠ .none ∨ result.deviceIDResetReason.isSome then
      sendUserUpdateEvent platform (userUpdate platform result) result world
    else world
  world.withUser fun state =>
    { state with previousUser := some user, bbcUserSetWhileDisabled := none }

/-- Take the previous user from local storage if it is not already set. -/
def loadPreviousUser (platform : Platform H) (world : World H) : World H :=
  match world.client.user.previousUser with
  | some _ => world
  | none =>
      let loaded := world.callUserPromise .getBBCUser platform.userPromise.getBBCUser
      loaded.2.withUser fun state => { state with previousUser := some loaded.1 }

/-- Pass the helper's device id on to the delegates. -/
def shareDeviceID (platform : Platform H) (world : World H) : World H :=
  let answered := world.callUserPromise .getDeviceID platform.userPromise.getDeviceID
  match answered.1 with
  | some deviceID => answered.2.broadcast (.updateDeviceID deviceID)
  | none => answered.2

/-- Update the helper, the device id and the token schedule for a user. -/
def storeUser (platform : Platform H) (user : BBCUser) (world : World H) :
    UserPromiseHelperResult × World H :=
  let world := loadPreviousUser platform world
  let stored := world.callUserPromise (.setBBCUser user) (platform.userPromise.setBBCUser user)
  let world := shareDeviceID platform stored.2
  (stored.1,
    if world.client.settings.resetDataOnUserStateChangeEnabled then
      resetUserData platform user stored.1.deviceIDResetReason world
    else world)

def setBBCUser (platform : Platform H) (user : BBCUser) (world : World H) : World H :=
  let update := userShouldUpdate user world
  if !update.1 then update.2 else
  let stored := storeUser platform user update.2
  match stored.1.deviceIDResetReason with
  | none => reportUser platform user stored.1 stored.2
  | some reason =>
      let world := resetDeviceId platform reason stored.1 stored.2
      if postponesEvent reason world then world
      else reportUser platform user stored.1 world

end Echo.Client
