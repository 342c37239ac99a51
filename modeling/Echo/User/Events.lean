import Echo.Client.Delivery

/-!
# What setting a user does

Of all effects, four concern the account of users: the helper stores a user, has a
transition postponed or cleared, and the delegates are sent a user event.  The
lemmas below give these events, the user properties and the helper's store after
every function that `setBBCUser` is made of.
-/

namespace Echo.Client

open Echo.Transition

variable {H : Type}

inductive UserEvent
  | stored (user : BBCUser)
  | postponed (transition : UserStateTransition)
  | cleared
  | reported (actionType actionName : String) (eventLabels : Option Labels)
  deriving DecidableEq

/-- What the delegate at an index sees of it. -/
def Effect.userEvent (index : Nat) : Effect → Option UserEvent
  | .userPromise (.setBBCUser user) => some (.stored user)
  | .userPromise (.setPostponedUserStateTransition transition) => some (.postponed transition)
  | .userPromise .clearPostponedUserStateTransition => some .cleared
  | .broadcast (.userActionEvent actionType actionName eventLabels) _ =>
      some (.reported actionType actionName eventLabels)
  | .delegate other (.userActionEvent actionType actionName eventLabels) =>
      if other = index then some (.reported actionType actionName eventLabels) else none
  | _ => none

def userEvents (index : Nat) (log : List Effect) : List UserEvent :=
  log.filterMap (Effect.userEvent index)

@[simp]
theorem userEvents_append (index : Nat) (first second : List Effect) :
    userEvents index (first ++ second) = userEvents index first ++ userEvents index second :=
  List.filterMap_append

/-! ## The parts of `setBBCUser` -/

/-- The set is postponed: it resets the device id because the user has changed. -/
def Postpones (platform : Platform H) (user : BBCUser) (world : World H) : Prop :=
  world.client.settings.resetDataOnUserStateChangeEnabled = true ∧
    (resultFor platform user world).deviceIDResetReason = some .userStateChange

instance (platform : Platform H) (user : BBCUser) (world : World H) :
    Decidable (Postpones platform user world) :=
  inferInstanceAs (Decidable (_ ∧ _))

/-- The user that the next one is compared with. -/
def previousUserOf (platform : Platform H) (world : World H) : BBCUser :=
  world.client.user.previousUser.getD (platform.userPromise.getBBCUser world.userPromise).1

theorem loadPreviousUser_user (platform : Platform H) (world : World H) :
    (loadPreviousUser platform world).client.user =
      { world.client.user with previousUser := some (previousUserOf platform world) } := by
  unfold loadPreviousUser previousUserOf
  split
  · rename_i previous known
    rw [known, Option.getD_some, ← known]
  · rename_i unknown
    rw [unknown]
    rfl

theorem loadPreviousUser_timers (platform : Platform H) (world : World H) :
    (loadPreviousUser platform world).timers = world.timers := by
  unfold loadPreviousUser
  split <;> rfl

theorem loadPreviousUser_events (platform : Platform H) (world : World H) (index : Nat) :
    userEvents index (loadPreviousUser platform world).log = userEvents index world.log := by
  unfold loadPreviousUser
  split
  · rfl
  · exact (userEvents_append index _ _).trans (List.append_nil _)

/-- Sharing the device id keeps everything but the helper's store. -/
structure Shares (before after : World H) : Prop where
  user : after.client.user = before.client.user
  timers : after.timers = before.timers
  events : ∀ index, userEvents index after.log = userEvents index before.log

theorem shareDeviceID_shares (platform : Platform H) (world : World H) :
    Shares world (shareDeviceID platform world) := by
  unfold shareDeviceID
  dsimp only
  split
  · exact ⟨rfl, rfl, fun index => by simp [userEvents, Effect.userEvent]⟩
  · exact ⟨rfl, rfl, fun index => by simp [userEvents, Effect.userEvent]⟩

theorem shareDeviceID_userPromise (platform : Platform H) (world : World H) :
    (shareDeviceID platform world).userPromise =
      (platform.userPromise.getDeviceID world.userPromise).2 := by
  unfold shareDeviceID
  dsimp only
  split <;> rfl

/-- The token schedule concerns neither the pending user, nor the helper, nor the
account of users. -/
structure Reschedules (before after : World H) : Prop where
  previousUser : after.client.user.previousUser = before.client.user.previousUser
  pending : after.client.user.bbcUserSetWhileDisabled =
    before.client.user.bbcUserSetWhileDisabled
  userPromise : after.userPromise = before.userPromise
  events : ∀ index, userEvents index after.log = userEvents index before.log

theorem Reschedules.trans {before middle after : World H} (first : Reschedules before middle)
    (second : Reschedules middle after) : Reschedules before after where
  previousUser := second.previousUser.trans first.previousUser
  pending := second.pending.trans first.pending
  userPromise := second.userPromise.trans first.userPromise
  events index := (second.events index).trans (first.events index)

theorem removeSchedule_reschedules (world : World H) :
    Reschedules world (removeSchedule world) := by
  unfold removeSchedule
  split
  · exact ⟨rfl, rfl, rfl, fun _ => rfl⟩
  · exact ⟨rfl, rfl, rfl, fun index => by simp [userEvents, Effect.userEvent]⟩

theorem scheduleTokenExpiry_reschedules (platform : Platform H) (user : BBCUser)
    (world : World H) : Reschedules world (scheduleTokenExpiry platform user world) := by
  apply (removeSchedule_reschedules world).trans
  unfold scheduleTokenExpiry
  dsimp only
  split
  · exact ⟨rfl, rfl, rfl, fun index => by simp [userEvents, Effect.userEvent]⟩
  · exact ⟨rfl, rfl, rfl, fun _ => rfl⟩

theorem resetUserData_reschedules (platform : Platform H) (user : BBCUser)
    (reason : Option DeviceIDResetReason) (world : World H) :
    Reschedules world (resetUserData platform user reason world) := by
  have logged (level : EchoDebugLevel) (message : String) :
      Reschedules world (world.debug level message) :=
    ⟨rfl, rfl, rfl, fun index => by simp [userEvents, Effect.userEvent]⟩
  unfold resetUserData
  split
  · have cleared : Reschedules world (if reason.isSome then
        clearCache (world.debug .info
          "Clearing cache and internal data due to session and device id change")
      else world) := by
      split
      · exact ⟨rfl, rfl, rfl, fun index => by simp [clearCache, userEvents, Effect.userEvent]⟩
      · exact ⟨rfl, rfl, rfl, fun _ => rfl⟩
    dsimp only
    split
    · exact cleared.trans (scheduleTokenExpiry_reschedules platform user _)
    · exact cleared
  · split
    · exact (logged _ _).trans (removeSchedule_reschedules _)
    · exact ⟨rfl, rfl, rfl, fun _ => rfl⟩

/-! ## Storing a user -/

theorem shareUser_user (platform : Platform H) (user : BBCUser) (world : World H) :
    (shareUser platform user world).client.user =
      { world.client.user with previousUser := some (previousUserOf platform world) } :=
  (shareDeviceID_shares platform _).user.trans (loadPreviousUser_user platform world)

theorem shareUser_events (platform : Platform H) (user : BBCUser) (world : World H)
    (index : Nat) :
    userEvents index (shareUser platform user world).log =
      userEvents index world.log ++ [.stored user] := by
  have stored : userEvents index (((loadPreviousUser platform world).callUserPromise
      (.setBBCUser user) (platform.userPromise.setBBCUser user)).2).log =
      userEvents index (loadPreviousUser platform world).log ++ [.stored user] := by
    simp [userEvents, Effect.userEvent]
  rw [shareUser, (shareDeviceID_shares platform _).events, stored, loadPreviousUser_events]

theorem storeUser_reschedules (platform : Platform H) (user : BBCUser) (world : World H) :
    Reschedules (shareUser platform user world) (storeUser platform user world).2 := by
  rw [storeUser_snd]
  split
  · exact resetUserData_reschedules platform user _ _
  · exact ⟨rfl, rfl, rfl, fun _ => rfl⟩

/-! ## Setting a user -/

/-- The events with which a set ends that is not postponed. -/
def reportEvents (platform : Platform H) (result : UserPromiseHelperResult) : List UserEvent :=
  if result.userStateTransition ≠ .none ∨ result.deviceIDResetReason.isSome then
    let update := userUpdate platform result
    let eventLabels := if result.isPostponedUserStateChange then deviceIDResetLabels
      else update.eventLabels
    .reported update.actionType update.actionName
        (some (eventLabels.insert (platform.labelKey .isBackground) "true")) ::
      if result.isPostponedUserStateChange then [.cleared] else []
  else []

/-- The events of a set that is not put off. -/
def setEvents (platform : Platform H) (user : BBCUser) (world : World H) : List UserEvent :=
  .stored user ::
    if Postpones platform user world then
      [.postponed (resultFor platform user world).userStateTransition]
    else reportEvents platform (resultFor platform user world)

theorem reportUser_events (platform : Platform H) (user : BBCUser)
    (result : UserPromiseHelperResult) (world : World H) (index : Nat) :
    userEvents index (reportUser platform user result world).log =
      userEvents index world.log ++ reportEvents platform result := by
  unfold reportUser reportEvents
  dsimp only
  split
  · unfold sendUserUpdateEvent
    dsimp only
    split
    · simp only [userEvents, World.withUser_log, World.callUserPromise_snd_log,
        World.broadcast_log, List.filterMap_append, List.append_assoc]
      rfl
    · simp only [userEvents, World.withUser_log, World.broadcast_log, List.filterMap_append,
        List.append_assoc]
      rfl
  · simp [userEvents, Effect.userEvent]

theorem resetDeviceId_events (platform : Platform H) {reason : DeviceIDResetReason}
    (result : UserPromiseHelperResult) {world : World H}
    (postpones : postponesEvent reason world = true) (index : Nat) :
    userEvents index (resetDeviceId platform reason result world).log =
      userEvents index world.log ++ [.postponed result.userStateTransition] := by
  rw [resetDeviceId, if_pos postpones]
  simp only [userEvents, World.callUserPromise_snd_log, World.broadcast_log,
    List.filterMap_append, List.append_assoc]
  rfl

/-- While events are off, the user is put off. -/
theorem setBBCUser_of_off (platform : Platform H) (user : BBCUser) {world : World H}
    (off : eventsEnabled world = false) :
    setBBCUser platform user world =
      world.withUser fun state => { state with bbcUserSetWhileDisabled := some user } := by
  simp [setBBCUser, userShouldUpdate, off]

section Applied

variable (platform : Platform H) (user : BBCUser) {world : World H}
  (on : eventsEnabled world = true) (idv5 : world.client.settings.idv5Enabled = true)

include on idv5

theorem userShouldUpdate_of_on : userShouldUpdate user world = (true, world) := by
  simp [userShouldUpdate, on, idv5]

/-- A set that resets the device id for a change of user stops there. -/
theorem setBBCUser_of_postpones (postpones : Postpones platform user world) :
    setBBCUser platform user world =
        resetDeviceId platform .userStateChange (resultFor platform user world)
          (storeUser platform user world).2 ∧
      postponesEvent .userStateChange (storeUser platform user world).2 = true := by
  have enabled : postponesEvent .userStateChange (storeUser platform user world).2 = true := by
    simp [postponesEvent, (storeUser_frame platform user world).settings, postpones.1]
  have reset := (resetDeviceId_frame platform .userStateChange
    (resultFor platform user world) (storeUser platform user world).2).settings
  have postponed : postponesEvent .userStateChange (resetDeviceId platform .userStateChange
      (resultFor platform user world) (storeUser platform user world).2) = true := by
    rw [postponesEvent, reset]
    exact enabled
  refine ⟨?_, enabled⟩
  unfold setBBCUser
  simp only [userShouldUpdate_of_on user on idv5, storeUser_result, postpones.2, postponed,
    Bool.not_true, Bool.false_eq_true, if_false, if_true]

/-- Every other set reports its result. -/
theorem setBBCUser_of_not_postpones (reports : ¬Postpones platform user world) :
    setBBCUser platform user world =
      reportUser platform user (resultFor platform user world)
        (storeUser platform user world).2 := by
  unfold setBBCUser
  simp only [userShouldUpdate_of_on user on idv5, storeUser_result, Bool.not_true,
    Bool.false_eq_true, if_false]
  cases reset : (resultFor platform user world).deviceIDResetReason with
  | none => rfl
  | some reason =>
      have passes : postponesEvent reason (storeUser platform user world).2 = false := by
        rw [postponesEvent, (storeUser_frame platform user world).settings]
        by_contra postpones
        simp only [Bool.not_eq_false, Bool.and_eq_true, beq_iff_eq] at postpones
        rcases postpones with ⟨enabled, rfl⟩
        exact reports ⟨enabled, reset⟩
      have unchanged : resetDeviceId platform reason (resultFor platform user world)
          (storeUser platform user world).2 = (storeUser platform user world).2 := by
        rw [resetDeviceId, passes]
        rfl
      simp only [unchanged, passes, Bool.false_eq_true, if_false]

/-- The account of users after a set. -/
theorem setBBCUser_events (index : Nat) :
    userEvents index (setBBCUser platform user world).log =
      userEvents index world.log ++ setEvents platform user world := by
  have stored : userEvents index (storeUser platform user world).2.log =
      userEvents index world.log ++ [.stored user] := by
    rw [(storeUser_reschedules platform user world).events, shareUser_events]
  by_cases postpones : Postpones platform user world
  · obtain ⟨setEq, enabled⟩ := setBBCUser_of_postpones platform user on idv5 postpones
    rw [setEq, resetDeviceId_events platform _ enabled, stored, setEvents, if_pos postpones,
      List.append_assoc]
    rfl
  · rw [setBBCUser_of_not_postpones platform user on idv5 postpones, reportUser_events, stored,
      setEvents, if_neg postpones, List.append_assoc]
    rfl

/-- A set that is reported forgets the user that was put off; a postponed one does
not. -/
theorem setBBCUser_pending :
    (setBBCUser platform user world).client.user.bbcUserSetWhileDisabled =
      if Postpones platform user world then world.client.user.bbcUserSetWhileDisabled
      else none := by
  by_cases postpones : Postpones platform user world
  · obtain ⟨setEq, enabled⟩ := setBBCUser_of_postpones platform user on idv5 postpones
    rw [setEq, if_pos postpones, resetDeviceId, if_pos enabled]
    apply (storeUser_reschedules platform user world).pending.trans
    rw [shareUser_user]
  · rw [setBBCUser_of_not_postpones platform user on idv5 postpones, if_neg postpones]
    rfl

end Applied

/-! ## Starting and enabling -/

theorem start_of_due (platform : Platform H) {world : World H}
    (enabled : world.client.echoEnabled = true) (unstarted : world.client.hasStarted = false) :
    start platform world =
      match world.client.user.bbcUserSetWhileDisabled with
      | some user => setBBCUser platform user (world.broadcast .start).setStarted
      | none => (world.broadcast .start).setStarted := by
  simp only [start, enabled, unstarted, Bool.not_true, Bool.or_self, Bool.false_eq_true, if_false]
  rfl

theorem applyPendingUser_of_unstarted (platform : Platform H) {world : World H}
    (unstarted : world.client.hasStarted = false) : applyPendingUser platform world = world := by
  unfold applyPendingUser
  rw [unstarted]
  split
  · contradiction
  · rfl

/-- The world in which `enable` looks for a user that was put off. -/
def reenabled (world : World H) : World H :=
  (world.setEnabled true).broadcast .enable

theorem enable_of_disabled (platform : Platform H) {world : World H}
    (disabled : world.client.echoEnabled = false) :
    enable platform world =
      if world.client.settings.autoStart && !world.client.hasStarted then
        start platform (applyPendingUser platform (reenabled world))
      else applyPendingUser platform (reenabled world) := by
  have frame := applyPendingUser_frame platform (reenabled world)
  have settings : (applyPendingUser platform (reenabled world)).client.settings =
      world.client.settings := frame.settings
  have hasStarted : (applyPendingUser platform (reenabled world)).client.hasStarted =
      world.client.hasStarted := frame.hasStarted
  rw [← settings, ← hasStarted]
  simp only [enable, disabled, Bool.false_eq_true, if_false]
  rfl

end Echo.Client
