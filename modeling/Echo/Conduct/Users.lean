import Echo.Conduct.Sessions

/-!
# The conduct of users and switches

The helper is asked, and tokens are watched, only while users are followed.  Starting,
enabling and disabling the client end here, since they attend to the user and close the
session.
-/

namespace Echo.Client

open Echo.Transition

variable {H : Type} {calls : DelegateCall → Prop} {checked : Prop}
  {related : World H → World H → Prop} {left right : World H}

/-- Every call that attending to a user may make is among `calls`. -/
structure UserTells (calls : DelegateCall → Prop) : Prop where
  deviceID : ∀ deviceID, calls (.updateDeviceID deviceID)
  labels : ∀ user, calls (.updateBBCUserLabels user)
  stateChange : calls .userStateChange
  event : ∀ actionType actionName eventLabels,
    calls (.userActionEvent actionType actionName eventLabels)
  clearCache : calls .clearCache

/-! ## The expiry timer -/

section Timers

variable (platform : Platform H)

theorem removeSchedule_conforms :
    Conforms platform (Action.Attends calls) ReadsUser (fun world => world.client.FollowsTokens)
      removeSchedule := by
  intro checked related respects left right called same
  unfold removeSchedule
  rw [(respects.reads same).timer]
  split
  · exact same
  · rename_i timer _
    have settled := respects.act (.settleTimer timer) ⟨trivial, fun _ => trivial⟩ same
    exact respects.act (.invalidateTimer timer) ⟨trivial, called⟩ settled

theorem scheduleTokenExpiry_conforms (user : BBCUser) :
    Conforms platform (Action.Attends calls) ReadsUser (fun world => world.client.FollowsTokens)
      (scheduleTokenExpiry platform user) := by
  intro checked related respects left right called same
  have removed := removeSchedule_conforms platform respects called same
  have remembered := respects.act (.setUserForTimer (some user)) ⟨trivial, fun _ => trivial⟩ removed
  have switches := (@removeSchedule_conforms H calls platform).sameSwitches_of_attends left
  unfold scheduleTokenExpiry
  dsimp only
  rw [(respects.reads removed).now]
  split
  · rename_i positive
    refine respects.act (.debug _ _) ⟨trivial, fun _ => trivial⟩
      (respects.act (.scheduleTimer _ user) ⟨trivial, fun isChecked => ?_⟩ remembered)
    exact ⟨switches.followsTokens (called isChecked), positive⟩
  · exact remembered

/-- A timer that fires belongs to a client that watches tokens. -/
theorem fireTimer_conforms (labels : ∀ user, calls (.updateBBCUserLabels user))
    (timer : TimerRef) :
    Conforms platform (Action.Attends calls) ReadsUser TimersWatched (fireTimer timer) := by
  intro checked related respects left right called same
  have reads := respects.reads same
  have settled := respects.act (.settleTimer timer) ⟨trivial, fun _ => trivial⟩ same
  have forgotten {left right : World H} (same : related left right) :=
    respects.act (.setUserForTimer none) ⟨trivial, fun _ => trivial⟩ same
  unfold fireTimer
  rw [reads.timers]
  split
  · rename_i pending
    have exist : left.timers ≠ [] := by
      intro none
      rw [← reads.timers, none] at pending
      simp at pending
    have current : (left.settleTimer timer).client.user.userForTimer =
        (right.settleTimer timer).client.user.userForTimer := reads.userForTimer
    unfold expireToken
    dsimp only
    rw [current]
    split
    · rename_i user kept
      have honours (isChecked : checked) :
          (left.settleTimer timer).client.Honours (.updateBBCUserLabels user) := by
        obtain ⟨started, watches⟩ := called isChecked exist
        exact ⟨started, watches.1, .inr (current.trans kept)⟩
      exact forgotten (respects.act (.broadcast (.updateBBCUserLabels user))
        ⟨labels user, honours⟩ settled)
    · exact forgotten settled
  · exact same

theorem resetUserData_conforms (clears : calls .clearCache) (user : BBCUser)
    (reason : Option DeviceIDResetReason) :
    Conforms platform (Action.Attends calls) ReadsUser (fun world => world.client.FollowsTokens)
      (resetUserData platform user reason) := by
  intro checked related respects left right called same
  have reads := respects.reads same
  have debugged (level : EchoDebugLevel) (message : String) :=
    respects.act (.debug level message) ⟨trivial, fun _ => trivial⟩ same
  unfold resetUserData
  rw [reads.now, reads.previousUser]
  dsimp only
  split
  · cases reason with
    | none =>
        split
        · exact scheduleTokenExpiry_conforms platform user respects called same
        · exact same
    | some reason =>
        have cleared := respects.act (.broadcast .clearCache) ⟨clears, fun _ => trivial⟩
          (debugged .info "Clearing cache and internal data due to session and device id change")
        split
        · exact scheduleTokenExpiry_conforms platform user respects called cleared
        · exact cleared
  · split
    · exact removeSchedule_conforms platform respects called (debugged _ _)
    · exact same

end Timers

/-! ## Setting the user -/

section Users

variable (platform : Platform H)

/-- An update is due in both worlds or in neither. -/
theorem userShouldUpdate_related
    (respects : Respects (Action.apply platform) (Performing (Action.Receives calls) checked)
      ReadsUser related)
    (same : related left right) (user : BBCUser) :
    (userShouldUpdate user left).1 = (userShouldUpdate user right).1 ∧
      related (userShouldUpdate user left).2 (userShouldUpdate user right).2 := by
  have reads := respects.reads same
  unfold userShouldUpdate
  rw [reads.eventsEnabled_eq, reads.settings]
  split
  · rename_i off
    have isOff : eventsEnabled left = false := reads.eventsEnabled_eq.trans (by simpa using off)
    exact ⟨rfl, respects.act (.keepUser user) ⟨trivial, fun _ => isOff⟩ same⟩
  · split
    · exact ⟨rfl, respects.act (.setPreviousUser user) ⟨trivial, fun _ => trivial⟩ same⟩
    · exact ⟨rfl, same⟩

/-- Where an update is due, nothing was changed to find out. -/
theorem userShouldUpdate_of_due {user : BBCUser} {world : World H}
    (due : (userShouldUpdate user world).1 = true) :
    (userShouldUpdate user world).2 = world ∧ world.client.FollowsUsers := by
  unfold userShouldUpdate at due ⊢
  split at due
  · cases due
  · rename_i on
    split at due
    · cases due
    · rename_i idv5
      rw [if_neg on, if_neg idv5]
      have isOn : eventsEnabled world = true := by simpa using on
      obtain ⟨enabled, started⟩ := Bool.and_eq_true_iff.mp isOn
      exact ⟨rfl, enabled, started, by simpa using idv5⟩

theorem loadPreviousUser_conforms :
    Conforms platform (Action.Attends calls) ReadsUser (fun world => world.client.FollowsUsers)
      (loadPreviousUser platform) := by
  intro checked related respects left right called same
  have reads := respects.reads same
  have asked := respects.act (.callHelper .getBBCUser) ⟨trivial, called⟩ same
  unfold loadPreviousUser
  dsimp only
  rw [reads.previousUser, World.callUserPromise_fst, World.callUserPromise_fst, reads.userPromise]
  split
  · exact same
  · exact respects.act (.setPreviousUser _) ⟨trivial, fun _ => trivial⟩ asked

theorem shareDeviceID_conforms (updates : ∀ deviceID, calls (.updateDeviceID deviceID)) :
    Conforms platform (Action.Attends calls) ReadsUser (fun world => world.client.FollowsUsers)
      (shareDeviceID platform) := by
  intro checked related respects left right called same
  have asked := respects.act (.callHelper .getDeviceID) ⟨trivial, called⟩ same
  unfold shareDeviceID
  dsimp only
  rw [World.callUserPromise_fst, World.callUserPromise_fst, (respects.reads same).userPromise]
  split
  · exact respects.act (.broadcast (.updateDeviceID _)) ⟨updates _, called⟩ asked
  · exact asked

/-- What the helper answers when a user is set in a world. -/
def resultFor (user : BBCUser) (world : World H) : UserPromiseHelperResult :=
  (platform.userPromise.setBBCUser user (loadPreviousUser platform world).userPromise).1

/-- The world in which the token schedule is reconsidered. -/
def shareUser (user : BBCUser) (world : World H) : World H :=
  shareDeviceID platform
    ((loadPreviousUser platform world).callUserPromise (.setBBCUser user)
      (platform.userPromise.setBBCUser user)).2

theorem storeUser_result (user : BBCUser) (world : World H) :
    (storeUser platform user world).1 = resultFor platform user world :=
  rfl

theorem storeUser_snd (user : BBCUser) (world : World H) :
    (storeUser platform user world).2 =
      if (shareUser platform user world).client.settings.resetDataOnUserStateChangeEnabled then
        resetUserData platform user (resultFor platform user world).deviceIDResetReason
          (shareUser platform user world)
      else shareUser platform user world :=
  rfl

theorem shareUser_conforms (updates : ∀ deviceID, calls (.updateDeviceID deviceID))
    (user : BBCUser) :
    Conforms platform (Action.Attends calls) ReadsUser (fun world => world.client.FollowsUsers)
      (shareUser platform user) := by
  intro checked related respects left right called same
  have loads := @loadPreviousUser_conforms H calls platform
  have loaded := loads respects called same
  have follows (isChecked : checked) : (loadPreviousUser platform left).client.FollowsUsers :=
    (loads.sameSwitches_of_attends left).followsUsers (called isChecked)
  have stored := respects.act (.callHelper (.setBBCUser user)) ⟨trivial, follows⟩ loaded
  exact shareDeviceID_conforms platform updates respects (by exact follows) stored

section Tells

variable (tells : UserTells calls)

include tells

/-- Both helpers answer alike. -/
theorem storeUser_related
    (respects : Respects (Action.apply platform) (Performing (Action.Attends calls) checked)
      ReadsUser related)
    (called : checked → left.client.FollowsUsers) (same : related left right) (user : BBCUser) :
    (storeUser platform user left).1 = (storeUser platform user right).1 ∧
      related (storeUser platform user left).2 (storeUser platform user right).2 := by
  have loaded := loadPreviousUser_conforms platform respects called same
  have shares := shareUser_conforms platform tells.deviceID user
  have shared := shares respects called same
  have answered : resultFor platform user left = resultFor platform user right := by
    rw [resultFor, resultFor, (respects.reads loaded).userPromise]
  refine ⟨answered, ?_⟩
  rw [storeUser_snd, storeUser_snd, answered, (respects.reads shared).settings]
  split
  · rename_i resets
    refine resetUserData_conforms platform tells.clearCache user _ respects (fun isChecked => ?_)
      shared
    refine ⟨(shares.sameSwitches_of_attends left).followsUsers (called isChecked), ?_⟩
    rw [(respects.reads shared).settings]
    exact resets
  · exact shared

theorem storeUser_conforms (user : BBCUser) :
    Conforms platform (Action.Attends calls) ReadsUser (fun world => world.client.FollowsUsers)
      fun world => (storeUser platform user world).2 :=
  fun _ _ respects _ _ called same =>
    (storeUser_related platform tells respects called same user).2

theorem resetDeviceId_conforms (reason : DeviceIDResetReason)
    (result : UserPromiseHelperResult) :
    Conforms platform (Action.Attends calls) ReadsUser (fun world => world.client.FollowsUsers)
      (resetDeviceId platform reason result) := by
  intro checked related respects left right called same
  have settings := (respects.reads same).settings
  unfold resetDeviceId postponesEvent
  rw [settings]
  split
  · rename_i postpones
    have follows (isChecked : checked) : left.client.FollowsTokens := by
      refine ⟨called isChecked, ?_⟩
      rw [settings]
      exact (Bool.and_eq_true_iff.mp postpones).1
    have told := respects.act (.broadcast .userStateChange) ⟨tells.stateChange, follows⟩ same
    exact respects.act (.callHelper (.setPostponedUserStateTransition result.userStateTransition))
      ⟨trivial, follows⟩ told
  · exact same

theorem sendUserUpdateEvent_conforms (update : UserUpdate) (result : UserPromiseHelperResult) :
    Conforms platform (Action.Attends calls) ReadsUser (fun world => world.client.FollowsUsers)
      (sendUserUpdateEvent platform update result) := by
  intro checked related respects left right called same
  have told (labels : Labels) := respects.act
    (.broadcast (.userActionEvent update.actionType update.actionName (some labels)))
    ⟨tells.event _ _ _, fun isChecked => ⟨(called isChecked).1, .inr (called isChecked)⟩⟩ same
  unfold sendUserUpdateEvent
  dsimp only
  split
  · exact respects.act (.callHelper .clearPostponedUserStateTransition) ⟨trivial, called⟩ (told _)
  · exact told _

theorem reportUser_conforms (user : BBCUser) (result : UserPromiseHelperResult) :
    Conforms platform (Action.Attends calls) ReadsUser (fun world => world.client.FollowsUsers)
      (reportUser platform user result) := by
  intro checked related respects left right called same
  have honours (isChecked : checked) : left.client.Honours (.updateBBCUserLabels user) :=
    ⟨(called isChecked).2.1, (called isChecked).2.2, .inl (called isChecked).1⟩
  have labelled := respects.act (.broadcast (.updateBBCUserLabels user))
    ⟨tells.labels user, honours⟩ same
  have settled {left right : World H} (same : related left right) :=
    respects.act .forgetUser ⟨trivial, fun _ => trivial⟩
      (respects.act (.setPreviousUser user) ⟨trivial, fun _ => trivial⟩ same)
  unfold reportUser
  dsimp only
  split
  · exact settled
      (sendUserUpdateEvent_conforms platform tells _ result respects (by exact called) labelled)
  · exact settled labelled

theorem setBBCUser_conforms (user : BBCUser) :
    Conforms platform (Action.Receives calls) ReadsUser Anywhere (setBBCUser platform user) := by
  intro checked related respects left right called same
  have attends : Respects (Action.apply platform) (Performing (Action.Attends calls) checked)
      ReadsUser related :=
    respects.mono (fun _ _ taken => ⟨taken.1.receives, taken.2⟩) fun _ _ => id
  obtain ⟨due, updated⟩ := userShouldUpdate_related platform respects same user
  unfold setBBCUser
  dsimp only
  cases isDue : (userShouldUpdate user left).1 with
  | false =>
      rw [← due, isDue]
      exact updated
  | true =>
      obtain ⟨unchanged, follows⟩ := userShouldUpdate_of_due isDue
      obtain ⟨unchanged', -⟩ := userShouldUpdate_of_due (due.symm.trans isDue)
      obtain ⟨answered, stored⟩ :=
        storeUser_related platform tells attends (fun _ => follows) same user
      have stillFollows : (storeUser platform user left).2.client.FollowsUsers :=
        ((storeUser_conforms platform tells user).sameSwitches_of_attends left).followsUsers follows
      rw [← due, isDue, unchanged, unchanged', answered]
      split
      · contradiction
      · split
        · exact reportUser_conforms platform tells user _ attends (fun _ => stillFollows) stored
        · rename_i reason _
          have resets := resetDeviceId_conforms platform tells reason
            (storeUser platform user right).1
          have reset := resets attends (fun _ => stillFollows) stored
          rw [postponesEvent, postponesEvent, (respects.reads reset).settings]
          split
          · exact reset
          · refine reportUser_conforms platform tells user _ attends (fun _ => ?_) reset
            exact (resets.sameSwitches_of_attends _).followsUsers stillFollows

end Tells

end Users

/-! ## Starting, enabling and disabling -/

section Switches

variable (platform : Platform H) (tells : UserTells calls)

include tells

/-- Whether the client starts is decided before anything is read of its users. -/
theorem start_conforms (starts : calls .start) :
    Conforms platform (Action.Starts calls) ReadsPending Anywhere (start platform) := by
  intro checked related respects left right called same
  have reads := respects.reads same
  unfold start
  rw [reads.echoEnabled, reads.hasStarted]
  dsimp only
  split
  · exact same
  · rename_i due
    have isDue : left.client.echoEnabled = true ∧ left.client.hasStarted = false := by
      rw [reads.echoEnabled, reads.hasStarted]
      simpa using due
    have told := respects.act (.broadcast .start) ⟨starts, fun _ => isDue⟩ same
    have started := respects.act .setStarted ⟨trivial, fun _ => trivial⟩ told
    have pending : (left.broadcast .start).setStarted.client.user.bbcUserSetWhileDisabled =
        (right.broadcast .start).setStarted.client.user.bbcUserSetWhileDisabled :=
      reads.pending
    rw [pending]
    split
    · exact (setBBCUser_conforms platform tells _).mono Action.Receives.starts
        ReadsPending.toReadsUser respects called started
    · exact started

theorem applyPendingUser_conforms :
    Conforms platform (Action.Receives calls) ReadsPending Anywhere
      (applyPendingUser platform) := by
  intro checked related respects left right called same
  have reads := respects.reads same
  unfold applyPendingUser
  rw [reads.pending, reads.hasStarted]
  split
  · rename_i user _ _
    have set := (setBBCUser_conforms platform tells user).mono id ReadsPending.toReadsUser
      respects called same
    exact respects.act .forgetUser ⟨trivial, fun _ => trivial⟩ set
  · exact same

theorem enable_conforms (starts : calls .start) (enables : calls .enable) :
    Conforms platform (Action.Switches calls) ReadsPending Anywhere (enable platform) := by
  intro checked related respects left right called same
  have switched := respects.act (.setEnabled true) ⟨rfl, fun _ => trivial⟩ same
  have told : related ((left.setEnabled true).broadcast .enable)
      ((right.setEnabled true).broadcast .enable) := by
    refine respects.act (.broadcast .enable) ⟨enables, fun _ => ?_⟩ switched
    rfl
  have applied := (applyPendingUser_conforms platform tells).mono
    (fun receives => receives.starts.switches) id respects (fun _ => trivial) told
  have settings : (applyPendingUser platform ((left.setEnabled true).broadcast
      .enable)).client.settings = (applyPendingUser platform ((right.setEnabled true).broadcast
        .enable)).client.settings := (respects.reads applied).settings
  have started : (applyPendingUser platform ((left.setEnabled true).broadcast
      .enable)).client.hasStarted = (applyPendingUser platform ((right.setEnabled true).broadcast
        .enable)).client.hasStarted := (respects.reads applied).hasStarted
  unfold enable
  dsimp only
  rw [(respects.reads same).echoEnabled, settings, started]
  split
  · exact same
  · split
    · exact (start_conforms platform tells starts).mono Action.Starts.switches id respects
        (fun _ => trivial) applied
    · exact applied

omit tells in
theorem disable_conforms (removes : ∀ keys, calls (.removeLabels keys))
    (clears : calls .clearMedia) (disables : calls .disable) :
    Conforms platform (Action.Closes calls) ReadsSession Anywhere (disable platform) := by
  intro checked related respects left right called same
  have cleared := (clearMedia_conforms platform removes clears).mono Action.Plays.closes id
    respects called same
  have switched := respects.act (.setEnabled false) ⟨rfl, fun _ => trivial⟩ cleared
  unfold disable
  rw [(respects.reads same).echoEnabled]
  split
  · exact same
  · obtain ⟨noMedia, noBroker⟩ := clearMedia_emptied platform left
    exact respects.act (.broadcast .disable) ⟨disables, fun _ => ⟨rfl, noMedia, noBroker⟩⟩ switched

end Switches

end Echo.Client
