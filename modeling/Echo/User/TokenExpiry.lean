import Echo.User.LatestUser

/-!
# Token expiry

A timer that fires refreshes the labels of the user it was scheduled for.  Only the
timer that the client remembers is ever pending, and it belongs to the latest user,
unless a set leaves the timer of another user running.
-/

namespace Echo.Client

open Echo.Transition Echo.User

variable {H : Type}

/-! ## Pending timers -/

/-- A timer that can still fire. -/
def IsPending (timer : TimerRef) (world : World H) : Prop :=
  (world.timers[timer]?.map TimerState.isPending).getD false = true

instance (timer : TimerRef) (world : World H) : Decidable (IsPending timer world) :=
  inferInstanceAs (Decidable (_ = _))

/-- Only the timer that the client remembers is pending, and it is kept for a user. -/
def ScheduledFor (user : BBCUser) (world : World H) : Prop :=
  ∀ timer, IsPending timer world →
    world.client.user.timer = some timer ∧ world.client.user.userForTimer = some user

theorem IsPending.lt_length {timer : TimerRef} {world : World H}
    (pending : IsPending timer world) : timer < world.timers.length := by
  by_contra outside
  rw [IsPending, List.getElem?_eq_none (Nat.le_of_not_lt outside)] at pending
  cases pending

theorem isPending_settleTimer {timer settled : TimerRef} {world : World H}
    (pending : IsPending timer (world.settleTimer settled)) :
    timer ≠ settled ∧ IsPending timer world := by
  unfold IsPending at pending
  rw [World.settleTimer_timers, List.getElem?_modify] at pending
  by_cases same : settled = timer
  · cases found : world.timers[timer]? with
    | none => simp [found] at pending
    | some state => simp [found, same] at pending
  · exact ⟨fun equal => same equal.symm, by simpa [same, IsPending] using pending⟩

/-- Settling the timer that a schedule is about leaves none pending. -/
theorem ScheduledFor.not_isPending_settleTimer {user : BBCUser} {world : World H}
    (scheduled : ScheduledFor user world) {settled : TimerRef}
    (isTimer : world.client.user.timer = some settled) (timer : TimerRef) :
    ¬IsPending timer (world.settleTimer settled) := by
  intro pending
  obtain ⟨other, stillPending⟩ := isPending_settleTimer pending
  obtain ⟨timerEq, _⟩ := scheduled timer stillPending
  exact other (Option.some.inj (timerEq.symm.trans isTimer))

/-- Nothing that a schedule is about has changed. -/
structure SameSchedule (before after : World H) : Prop where
  timers : after.timers = before.timers
  timer : after.client.user.timer = before.client.user.timer
  userForTimer : after.client.user.userForTimer = before.client.user.userForTimer

theorem ScheduledFor.of_same {user : BBCUser} {before after : World H}
    (scheduled : ScheduledFor user before) (same : SameSchedule before after) :
    ScheduledFor user after := by
  intro timer pending
  rw [same.timer, same.userForTimer]
  apply scheduled timer
  rw [IsPending, ← same.timers]
  exact pending

theorem SessionFrame.sameSchedule {before after : World H} (frame : SessionFrame before after) :
    SameSchedule before after :=
  ⟨frame.timers, congrArg UserState.timer frame.user, congrArg UserState.userForTimer frame.user⟩

theorem SameSchedule.trans {before middle after : World H} (first : SameSchedule before middle)
    (second : SameSchedule middle after) : SameSchedule before after where
  timers := second.timers.trans first.timers
  timer := second.timer.trans first.timer
  userForTimer := second.userForTimer.trans first.userForTimer

/-! ## The schedule of a user -/

theorem removeSchedule_not_isPending {user : BBCUser} {world : World H}
    (scheduled : ScheduledFor user world) (timer : TimerRef) :
    ¬IsPending timer (removeSchedule world) := by
  unfold removeSchedule
  split
  · rename_i noTimer
    intro pending
    obtain ⟨timerEq, _⟩ := scheduled timer pending
    rw [noTimer] at timerEq
    cases timerEq
  · rename_i current isTimer
    exact scheduled.not_isPending_settleTimer isTimer timer

/-- Scheduling a user replaces whatever was scheduled before. -/
theorem scheduleTokenExpiry_scheduledFor (platform : Platform H) (user : BBCUser)
    {other : BBCUser} {world : World H} (scheduled : ScheduledFor other world) :
    ScheduledFor user (scheduleTokenExpiry platform user world) := by
  have removed := removeSchedule_not_isPending scheduled
  unfold scheduleTokenExpiry
  dsimp only
  split
  · intro timer pending
    refine ⟨?_, rfl⟩
    have bound : timer < (removeSchedule world).timers.length + 1 := by
      simpa using pending.lt_length
    rcases Nat.lt_or_eq_of_le (Nat.le_of_lt_succ bound) with earlier | rfl
    · apply absurd _ (removed timer)
      simpa [IsPending, List.getElem?_append_left earlier] using pending
    · rfl
  · intro timer pending
    exact absurd pending (removed timer)

/-- A set gives the schedule up or takes it over: the user's token is valid and has a
timestamp, or it has expired while the previous user's has not. -/
def RenewsSchedule (platform : Platform H) (user : BBCUser) (world : World H) : Prop :=
  (platform.tokenState user world.now = .valid ∧ user.tokenRefreshTimestamp.isSome) ∨
    (platform.tokenState user world.now = .expired ∧
      platform.tokenState (previousUserOf platform world) world.now ≠ .expired)

instance (platform : Platform H) (user : BBCUser) (world : World H) :
    Decidable (RenewsSchedule platform user world) :=
  inferInstanceAs (Decidable (_ ∨ _))

/-- A reset of the user data schedules the user anew, or changes nothing about the
schedule. -/
theorem resetUserData_schedule (platform : Platform H) (user : BBCUser)
    (reason : Option DeviceIDResetReason) {latest : BBCUser} {world : World H}
    (known : world.client.user.previousUser = some (previousUserOf platform world))
    (scheduled : ScheduledFor latest world) :
    (RenewsSchedule platform user world →
        ScheduledFor user (resetUserData platform user reason world)) ∧
      (¬RenewsSchedule platform user world →
        SameSchedule world (resetUserData platform user reason world)) := by
  have cleared : SameSchedule world (if reason.isSome then
      clearCache (world.debug .info
        "Clearing cache and internal data due to session and device id change")
    else world) := by
    split
    · exact ⟨rfl, rfl, rfl⟩
    · exact ⟨rfl, rfl, rfl⟩
  unfold resetUserData RenewsSchedule
  rw [known, Option.map_some]
  by_cases valid : platform.tokenState user world.now = .valid
  · simp only [valid, if_true, true_and, reduceCtorEq, false_and, or_false]
    constructor
    · intro timestamp
      rw [if_pos timestamp]
      exact scheduleTokenExpiry_scheduledFor platform user (scheduled.of_same cleared)
    · intro noTimestamp
      rw [if_neg noTimestamp]
      exact cleared
  · simp only [valid, if_false, false_and, false_or, ne_eq, Option.some.injEq]
    constructor
    · intro expires
      rw [if_pos expires]
      have logged : ScheduledFor latest
          (world.debug .info "changing state from valid (or none) to expired") :=
        scheduled.of_same ⟨rfl, rfl, rfl⟩
      intro timer pending
      exact absurd pending (removeSchedule_not_isPending logged timer)
    · intro expires
      rw [if_neg expires]
      exact ⟨rfl, rfl, rfl⟩

theorem shareUser_sameSchedule (platform : Platform H) (user : BBCUser) (world : World H) :
    SameSchedule world (shareUser platform user world) := by
  have userEq := shareUser_user platform user world
  constructor
  · exact (shareDeviceID_shares platform _).timers.trans (loadPreviousUser_timers platform world)
  · rw [userEq]
  · rw [userEq]

theorem previousUserOf_shareUser (platform : Platform H) (user : BBCUser) (world : World H) :
    previousUserOf platform (shareUser platform user world) = previousUserOf platform world := by
  rw [previousUserOf, shareUser_user]
  rfl

section Applied

variable (platform : Platform H) (user : BBCUser) {world : World H}
  (on : eventsEnabled world = true) (idv5 : world.client.settings.idv5Enabled = true)

include on idv5

/-- What follows once the user is stored does not concern the schedule. -/
theorem setBBCUser_sameSchedule :
    SameSchedule (storeUser platform user world).2 (setBBCUser platform user world) := by
  by_cases postpones : Postpones platform user world
  · obtain ⟨setEq, enabled⟩ := setBBCUser_of_postpones platform user on idv5 postpones
    rw [setEq, resetDeviceId, if_pos enabled]
    exact ⟨rfl, rfl, rfl⟩
  · rw [setBBCUser_of_not_postpones platform user on idv5 postpones]
    unfold reportUser sendUserUpdateEvent
    dsimp only
    split
    · split
      · exact ⟨rfl, rfl, rfl⟩
      · exact ⟨rfl, rfl, rfl⟩
    · exact ⟨rfl, rfl, rfl⟩

/-- The schedule after a set that is not put off. -/
theorem setBBCUser_schedule
    (reset : world.client.settings.resetDataOnUserStateChangeEnabled = true)
    {latest : BBCUser} (scheduled : ScheduledFor latest world) :
    (RenewsSchedule platform user world →
        ScheduledFor user (setBBCUser platform user world)) ∧
      (¬RenewsSchedule platform user world →
        SameSchedule world (setBBCUser platform user world)) := by
  have shared := shareUser_sameSchedule platform user world
  have known : (shareUser platform user world).client.user.previousUser =
      some (previousUserOf platform (shareUser platform user world)) := by
    rw [previousUserOf_shareUser, shareUser_user]
  have sharedReset : (shareUser platform user
      world).client.settings.resetDataOnUserStateChangeEnabled = true := by
    rw [(shareUser_frame platform user world).settings]
    exact reset
  have renewsIff : RenewsSchedule platform user (shareUser platform user world) ↔
      RenewsSchedule platform user world := by
    rw [RenewsSchedule, RenewsSchedule, (shareUser_frame platform user world).now,
      previousUserOf_shareUser]
  have stored := resetUserData_schedule platform user
    (resultFor platform user world).deviceIDResetReason known (scheduled.of_same shared)
  have after := setBBCUser_sameSchedule platform user on idv5
  rw [storeUser_snd, if_pos sharedReset] at after
  rw [renewsIff] at stored
  constructor
  · intro renews
    exact (stored.1 renews).of_same after
  · intro leaves
    exact (shared.trans (stored.2 leaves)).trans after

end Applied

/-! ## Steps and runs -/

/-- A set that finds the timer of another user pending takes the schedule over. -/
def RenewsTimer (platform : Platform H) (world : World H) : Op → Prop
  | .lifecycle (.setBBCUser user) =>
      ∀ timer ∈ world.client.user.timer, IsPending timer world →
        world.client.user.userForTimer ≠ some user →
          eventsEnabled world = true ∧ RenewsSchedule platform user world
  | _ => True

/-- The settings under which timers are scheduled. -/
def TracksUsers (world : World H) : Prop :=
  world.client.settings.idv5Enabled = true ∧
    world.client.settings.resetDataOnUserStateChangeEnabled = true

theorem disable_sameSchedule (platform : Platform H) (world : World H) :
    SameSchedule world (disable platform world) := by
  unfold disable
  split
  · exact ⟨rfl, rfl, rfl⟩
  · exact (clearMedia_frame platform world).sameSchedule.trans ⟨rfl, rfl, rfl⟩

section Steps

variable {platform : Platform H} {world : World H} (tracks : TracksUsers world)
  {latest : BBCUser} (scheduled : ScheduledFor latest world)

include tracks scheduled

theorem setBBCUser_scheduledFor {user : BBCUser}
    (renews : RenewsTimer platform world (.lifecycle (.setBBCUser user))) :
    ScheduledFor user (setBBCUser platform user world) := by
  -- Where the schedule stays, no timer of another user may be pending.
  have kept (leaves : ¬(eventsEnabled world = true ∧ RenewsSchedule platform user world)) :
      ScheduledFor user world := by
    intro timer pending
    obtain ⟨isTimer, _⟩ := scheduled timer pending
    by_contra other
    exact leaves (renews timer isTimer pending fun same => other ⟨isTimer, same⟩)
  cases events : eventsEnabled world with
  | false =>
      rw [setBBCUser_of_off platform user events]
      exact (kept (by simp [events])).of_same ⟨rfl, rfl, rfl⟩
  | true =>
      obtain ⟨renewed, unchanged⟩ :=
        setBBCUser_schedule platform user events tracks.1 tracks.2 scheduled
      by_cases renewing : RenewsSchedule platform user world
      · exact renewed renewing
      · exact (kept fun both => renewing both.2).of_same (unchanged renewing)

/-- Supplying the user again that the schedule is for. -/
theorem setBBCUser_scheduledFor_same : ScheduledFor latest (setBBCUser platform latest world) := by
  apply setBBCUser_scheduledFor tracks scheduled
  intro timer _ pending other
  exact absurd (scheduled timer pending).2 other

theorem start_scheduledFor (kept : (account world).Kept latest) :
    ScheduledFor latest (start platform world) := by
  cases idle : !world.client.echoEnabled || world.client.hasStarted with
  | true =>
      rw [start_of_idle platform idle]
      exact scheduled
  | false =>
      simp only [Bool.or_eq_false_iff, Bool.not_eq_false'] at idle
      have begun : ScheduledFor latest (world.broadcast .start).setStarted :=
        scheduled.of_same ⟨rfl, rfl, rfl⟩
      have pending : world.client.user.bbcUserSetWhileDisabled = some latest :=
        kept.unstarted idle.2
      have startedTracks : TracksUsers (world.broadcast .start).setStarted := tracks
      rw [start_of_due platform idle.1 idle.2, pending]
      exact setBBCUser_scheduledFor_same startedTracks begun

theorem applyPendingUser_scheduledFor
    (pendingLatest : ∀ user, (account world).pending = some user → user = latest) :
    ScheduledFor latest (applyPendingUser platform world) := by
  unfold applyPendingUser
  split
  · rename_i user pendingEq _
    rcases pendingLatest user pendingEq with rfl
    exact (setBBCUser_scheduledFor_same tracks scheduled).of_same ⟨rfl, rfl, rfl⟩
  · exact scheduled

theorem enable_scheduledFor (kept : (account world).Kept latest) :
    ScheduledFor latest (enable platform world) := by
  cases enabledEq : world.client.echoEnabled with
  | true =>
      rw [enable, enabledEq]
      exact scheduled
  | false =>
      have reenabledTracks : TracksUsers (reenabled world) := tracks
      have reenabledScheduled : ScheduledFor latest (reenabled world) :=
        scheduled.of_same ⟨rfl, rfl, rfl⟩
      have applied : ScheduledFor latest (applyPendingUser platform (reenabled world)) := by
        apply applyPendingUser_scheduledFor reenabledTracks reenabledScheduled
        rw [account_reenabled]
        exact kept.pending
      have appliedTracks : TracksUsers (applyPendingUser platform (reenabled world)) := by
        rw [TracksUsers, (applyPendingUser_frame platform (reenabled world)).settings]
        exact tracks
      obtain ⟨postponed, appliedEq⟩ := account_applyPendingUser platform reenabledTracks.1
      have appliedKept : (account (applyPendingUser platform (reenabled world))).Kept latest := by
        rw [appliedEq, account_reenabled]
        exact (Account.applyPending_follows kept postponed).kept
      rw [enable_of_disabled platform enabledEq]
      split
      · exact start_scheduledFor appliedTracks applied appliedKept
      · exact applied

omit tracks in
theorem fireTimer_scheduledFor (timer : TimerRef) :
    ScheduledFor latest (fireTimer timer world) := by
  unfold fireTimer
  split
  · rename_i pending
    have settled := scheduled.not_isPending_settleTimer (scheduled timer pending).1
    intro other stillPending
    apply absurd _ (settled other)
    unfold expireToken at stillPending
    dsimp only at stillPending
    split at stillPending
    · exact stillPending
    · exact stillPending
  · exact scheduled

/-- A step keeps the schedule for the latest user. -/
theorem step_scheduledFor (kept : (account world).Kept latest) {op : Op}
    (renews : RenewsTimer platform world op) :
    ScheduledFor (op.suppliedUser.getD latest) (step platform world op) := by
  cases op with
  | lifecycle call =>
      cases call with
      | setBBCUser user => exact setBBCUser_scheduledFor tracks scheduled renews
      | start => exact start_scheduledFor tracks scheduled kept
      | enable => exact enable_scheduledFor tracks scheduled kept
      | disable => exact scheduled.of_same (disable_sameSchedule platform world)
  | fireTimer timer => exact fireTimer_scheduledFor scheduled timer
  | clock now => exact scheduled.of_same ⟨rfl, rfl, rfl⟩
  | _ => exact scheduled.of_same (step_frame platform world rfl).sameSchedule

end Steps

/-- A launched client resets user data only with idv5. -/
theorem Launched.tracksUsers {platform : Platform H} {arguments : InitArguments}
    {world : World H} (launched : Launched platform arguments world)
    (reset : world.client.settings.resetDataOnUserStateChangeEnabled = true) :
    TracksUsers world := by
  refine ⟨?_, reset⟩
  rw [launched.settings_eq] at reset ⊢
  exact (Bool.and_eq_true_iff.mp reset).1

theorem prepare_scheduledFor (platform : Platform H) (arguments : InitArguments) (store : H)
    (now : Date) (user : BBCUser) :
    ScheduledFor user (prepare platform arguments store now) := by
  have noTimers : (prepare platform arguments store now).timers = [] := by
    unfold prepare
    dsimp only
    split <;> rfl
  intro timer pending
  exact absurd pending.lt_length (by simp [noTimers])

theorem Launched.scheduledFor {platform : Platform H} {arguments : InitArguments}
    {world : World H} (launched : Launched platform arguments world)
    (reset : world.client.settings.resetDataOnUserStateChangeEnabled = true) :
    ScheduledFor arguments.bbcUser world := by
  have tracks := launched.tracksUsers reset
  obtain ⟨store, now, rfl⟩ := launched.exists_complete
  have scheduled := prepare_scheduledFor platform arguments store now arguments.bbcUser
  rw [TracksUsers, complete_settings] at tracks
  have registered (started : World H) (scheduled : ScheduledFor arguments.bbcUser started) :
      ScheduledFor arguments.bbcUser started.register :=
    scheduled.of_same ⟨rfl, rfl, rfl⟩
  rw [complete_eq]
  split
  · exact registered _ (start_scheduledFor tracks scheduled
      (prepare_account_kept platform arguments store now))
  · exact registered _ scheduled

theorem scheduledFor_run {platform : Platform H} {arguments : InitArguments} {world : World H}
    (launched : Launched platform arguments world)
    (reset : world.client.settings.resetDataOnUserStateChangeEnabled = true) {ops : List Op}
    (always : Always platform
      (fun world op => ReplacesPending platform world op ∧ RenewsTimer platform world op)
      world ops) :
    ScheduledFor (latestUser arguments.bbcUser ops) (run platform world ops) := by
  have preserved (history : List Op) (world : World H) (op : Op)
      (holds : TracksUsers world ∧ (account world).Kept (latestUser arguments.bbcUser history) ∧
        ScheduledFor (latestUser arguments.bbcUser history) world)
      (allowed : ReplacesPending platform world op ∧ RenewsTimer platform world op) :
      TracksUsers (step platform world op) ∧
        (account (step platform world op)).Kept (latestUser arguments.bbcUser (history ++ [op])) ∧
        ScheduledFor (latestUser arguments.bbcUser (history ++ [op])) (step platform world op) := by
    rcases holds with ⟨tracks, kept, scheduled⟩
    rw [TracksUsers, step_settings, latestUser_concat]
    exact ⟨tracks, (account_step tracks.1 kept allowed.1).kept,
      step_scheduledFor tracks scheduled kept allowed.2⟩
  have tracks := launched.tracksUsers reset
  exact (history_run preserved
    ⟨tracks, launched.account_kept tracks.1, launched.scheduledFor reset⟩ always).2.2

/-- A timer that fires updates the labels of the user it is kept for. -/
theorem emitted_fireTimer {platform : Platform H} {world : World H} {latest user : BBCUser}
    (scheduled : ScheduledFor latest world) {timer : TimerRef} {client : EchoClient}
    (delivered : .broadcast (.updateBBCUserLabels user) client ∈
      emitted platform world (.fireTimer timer)) :
    user = latest := by
  rw [emitted, step, fireTimer] at delivered
  split at delivered
  · rename_i pending
    obtain ⟨_, keptFor⟩ := scheduled timer pending
    simp only [expireToken, World.settleTimer_client, keptFor, World.withUser_log,
      World.broadcast_log, World.settleTimer_log, List.drop_left, List.mem_singleton,
      Effect.broadcast.injEq, DelegateCall.updateBBCUserLabels.injEq] at delivered
    exact delivered.1
  · simp at delivered

/-- The labels that an expiring token refreshes are those of the app's last user, along
every run in which each set takes over the schedule if it finds the timer of another
user pending, and no set is postponed while another user is still put off. -/
theorem expireToken_latestUser {platform : Platform H} {arguments : InitArguments}
    {world : World H} (launched : Launched platform arguments world)
    (reset : world.client.settings.resetDataOnUserStateChangeEnabled = true) {ops : List Op}
    (always : Always platform
      (fun world op => ReplacesPending platform world op ∧ RenewsTimer platform world op)
      world ops) :
    ∀ first timer, first ++ [.fireTimer timer] <+: ops →
      ∀ user client, .broadcast (.updateBBCUserLabels user) client ∈
          emitted platform (run platform world first) (.fireTimer timer) →
        user = latestUser arguments.bbcUser first := by
  intro first timer initial user client delivered
  have before := ((always_concat_iff _ _ _ _ _).mp (always.restrict initial)).1
  exact emitted_fireTimer (scheduledFor_run launched reset before) delivered

instance (platform : Platform H) (world : World H) :
    (op : Op) → Decidable (RenewsTimer platform world op)
  | .lifecycle (.setBBCUser _) => inferInstanceAs (Decidable (∀ _ ∈ _, _ → _ → _))
  | .lifecycle .start | .lifecycle .enable | .lifecycle .disable | .media _ | .live _ _
  | .onDemand _ _ | .report _ | .getComScoreDeviceID | .fireTimer _ | .playhead _ | .clock _ =>
      .isTrue trivial

/-- Another user whose token was refreshed at time zero. -/
def otherUser : BBCUser := ⟨true, some "other", some 0⟩

/-- A second user takes the schedule of the first over, and its token expires. -/
def renewedTimer : List Op :=
  [.lifecycle (.setBBCUser otherUser), .clock tokenLife, .fireTimer 0, .fireTimer 1]

theorem expireToken_latestUser_renewedTimer :
    let expiring := run reference (trackingWorld signedInUser { user := signedOut })
      (renewedTimer.take 3)
    .broadcast (.updateBBCUserLabels otherUser) expiring.client ∈
        emitted reference expiring (.fireTimer 1) ∧
      otherUser = latestUser signedInUser (renewedTimer.take 3) := by
  intro expiring
  have delivered : .broadcast (.updateBBCUserLabels otherUser) expiring.client ∈
      emitted reference expiring (.fireTimer 1) := by decide
  have always : Always reference
      (fun world op => ReplacesPending reference world op ∧ RenewsTimer reference world op)
      (trackingWorld signedInUser { user := signedOut }) renewedTimer := by decide
  have launched := trackingWorld_launched signedInUser { user := signedOut }
  exact ⟨delivered, expireToken_latestUser launched (by decide) always (renewedTimer.take 3) 1
    List.prefix_rfl otherUser _ delivered⟩

/-- The user signs out, and the timer of its token fires. -/
def signOutBeforeExpiry : List Op :=
  [.lifecycle (.setBBCUser signedOut), .clock tokenLife]

/-- The labels of the user that has signed out are delivered again. -/
theorem not_expireToken_latestUser_signOut :
    Launched reference (trackingArguments signedInUser)
        (trackingWorld signedInUser { user := signedInUser }) ∧
      TracksUsers (trackingWorld signedInUser { user := signedInUser }) ∧
      ∃ user client, .broadcast (.updateBBCUserLabels user) client ∈
          emitted reference (run reference (trackingWorld signedInUser { user := signedInUser })
            signOutBeforeExpiry) (.fireTimer 0) ∧
        user ≠ latestUser signedInUser signOutBeforeExpiry := by
  refine ⟨trackingWorld_launched signedInUser { user := signedInUser }, ⟨by decide, by decide⟩,
    signedInUser, (run reference (trackingWorld signedInUser { user := signedInUser })
      signOutBeforeExpiry).client, ?_, by decide⟩
  decide

end Echo.Client
