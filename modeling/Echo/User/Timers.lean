import Echo.User.Schedule
import Echo.User.TokenExpiry

/-!
# The timers of the client

`scheduleTokenExpiry`, `removeSchedule` and `expireToken` each write to a different part
of the timer, its invalidation and `userForTimer`.  Together they are the moves of a
schedule with one slot, so the pairing of the timer with its user survives every order of
them.
-/

namespace Echo.Client

open Echo.Transition Echo.User

variable {H : Type}

/-- The timer that an effect creates, and the user it is for. -/
def Effect.created : Effect → Option (TimerRef × BBCUser)
  | .scheduleTimer timer _ user => some (timer, user)
  | _ => none

/-- The schedule of a client. -/
def schedule (world : World H) : Schedule BBCUser where
  created := world.log.filterMap Effect.created
  pending := world.timers.map TimerState.isPending
  timer := world.client.user.timer
  owner := world.client.user.userForTimer

theorem isPending_schedule_iff {timer : TimerRef} {world : World H} :
    (schedule world).IsPending timer ↔ IsPending timer world := by
  unfold Schedule.IsPending IsPending schedule
  rw [List.getElem?_map]

theorem mem_created_iff {timer : TimerRef} {user : BBCUser} {world : World H} :
    (timer, user) ∈ (schedule world).created ↔
      ∃ timeInterval, .scheduleTimer timer timeInterval user ∈ world.log := by
  constructor
  · intro created
    obtain ⟨effect, logged, creates⟩ := List.mem_filterMap.mp created
    cases effect with
    | scheduleTimer other timeInterval owner =>
        cases creates
        exact ⟨timeInterval, logged⟩
    | _ => cases creates
  · rintro ⟨timeInterval, logged⟩
    exact List.mem_filterMap.mpr ⟨_, logged, rfl⟩

/-! ## What creates no timer -/

theorem schedule_append (effect : Effect) (untimed : effect.created = none) {before after : World H}
    (same : SameSchedule before after) (log : after.log = before.log ++ [effect]) :
    schedule after = schedule before := by
  have createdEq : after.log.filterMap Effect.created = before.log.filterMap Effect.created := by
    rw [log, List.filterMap_append]
    simp [untimed]
  simp only [schedule, createdEq, same.timers, same.timer, same.userForTimer]

@[simp]
theorem schedule_broadcast (call : DelegateCall) (world : World H) :
    schedule (world.broadcast call) = schedule world :=
  schedule_append (.broadcast call world.client) rfl ⟨rfl, rfl, rfl⟩ rfl

@[simp]
theorem schedule_debug (level : EchoDebugLevel) (message : String) (world : World H) :
    schedule (world.debug level message) = schedule world :=
  schedule_append (.debug level message) rfl ⟨rfl, rfl, rfl⟩ rfl

@[simp]
theorem schedule_callUserPromise {α : Type} (call : UserPromiseCall) (action : H → α × H)
    (world : World H) : schedule (world.callUserPromise call action).2 = schedule world :=
  schedule_append (.userPromise call) rfl ⟨rfl, rfl, rfl⟩ rfl

theorem Effect.OfSession.created {effect : Effect} (ofSession : effect.OfSession) :
    effect.created = none := by
  cases effect <;> first | rfl | simp [OfSession, kind] at ofSession

theorem SessionFrame.schedule_eq {before after : World H} (frame : SessionFrame before after) :
    schedule after = schedule before := by
  have createdEq : after.log.filterMap Effect.created = before.log.filterMap Effect.created :=
    filterMap_extends frame.log fun _ => Effect.OfSession.created
  simp only [schedule, createdEq, frame.timers, frame.user]

theorem schedule_shareUser (platform : Platform H) (user : BBCUser) (world : World H) :
    schedule (shareUser platform user world) = schedule world := by
  have loaded : schedule (loadPreviousUser platform world) = schedule world := by
    unfold loadPreviousUser
    split
    · rfl
    · exact schedule_callUserPromise .getBBCUser platform.userPromise.getBBCUser world
  unfold shareUser shareDeviceID
  dsimp only
  split
  · rw [schedule_broadcast, schedule_callUserPromise, schedule_callUserPromise, loaded]
  · rw [schedule_callUserPromise, schedule_callUserPromise, loaded]

theorem schedule_reportUser (platform : Platform H) (user : BBCUser)
    (result : UserPromiseHelperResult) (world : World H) :
    schedule (reportUser platform user result world) = schedule world := by
  have reported (sent : World H) (same : schedule sent = schedule world) :
      schedule (sent.withUser fun state => { state with
        previousUser := some user, bbcUserSetWhileDisabled := none }) = schedule world := same
  unfold reportUser sendUserUpdateEvent
  dsimp only
  apply reported
  split
  · split
    · rw [schedule_callUserPromise, schedule_broadcast, schedule_broadcast]
    · rw [schedule_broadcast, schedule_broadcast]
  · rw [schedule_broadcast]

/-! ## The moves of a set -/

theorem schedule_removeSchedule (world : World H) :
    schedule (removeSchedule world) = (schedule world).cancel := by
  unfold removeSchedule Schedule.cancel
  cases timerEq : world.client.user.timer with
  | none => simp [schedule, timerEq]
  | some timer =>
      have settled := map_modify_of_intertwines TimerState.isPending
        (fun state => { state with isPending := false }) (fun _ => false) (fun _ => rfl)
        world.timers timer
      simp [schedule, timerEq, Schedule.settle, settled, Effect.created]

theorem schedule_scheduleTokenExpiry (platform : Platform H) (user : BBCUser) (world : World H) :
    schedule (scheduleTokenExpiry platform user world) =
      (schedule world).renew user
        (decide (platform.getTimeUntilTokenExpiry user world.now > 0)) := by
  have removed := schedule_removeSchedule world
  have now : (removeSchedule world).now = world.now := by
    unfold removeSchedule
    split <;> rfl
  unfold scheduleTokenExpiry Schedule.renew
  dsimp only
  rw [now, ← removed]
  split
  · rename_i lasts
    rw [schedule_debug]
    simp [schedule, Schedule.create, lasts, Effect.created]
  · rename_i lasts
    simp [schedule, lasts]

/-- What a reset of the user data does to the schedule. -/
def resetMoves (platform : Platform H) (user : BBCUser) (world : World H) :
    List (Move BBCUser) :=
  if platform.tokenState user world.now = .valid then
    if user.tokenRefreshTimestamp.isSome then
      [.renew user (decide (platform.getTimeUntilTokenExpiry user world.now > 0))]
    else []
  else if platform.tokenState user world.now = .expired ∧
      platform.tokenState (previousUserOf platform world) world.now ≠ .expired then
    [.cancel]
  else []

/-- What a set does to the schedule. -/
def setMoves (platform : Platform H) (user : BBCUser) (world : World H) : List (Move BBCUser) :=
  if eventsEnabled world && world.client.settings.idv5Enabled &&
      world.client.settings.resetDataOnUserStateChangeEnabled then
    resetMoves platform user world
  else []

theorem schedule_resetUserData (platform : Platform H) (user : BBCUser)
    (reason : Option DeviceIDResetReason) {world : World H}
    (known : world.client.user.previousUser = some (previousUserOf platform world)) :
    schedule (resetUserData platform user reason world) =
      Transition.run Move.apply (schedule world) (resetMoves platform user world) := by
  have cleared : schedule (if reason.isSome then
      clearCache (world.debug .info
        "Clearing cache and internal data due to session and device id change")
    else world) = schedule world := by
    split
    · rw [clearCache, schedule_broadcast, schedule_debug]
    · rfl
  have clearedNow : (if reason.isSome then
      clearCache (world.debug .info
        "Clearing cache and internal data due to session and device id change")
    else world).now = world.now := by
    split <;> rfl
  unfold resetUserData resetMoves
  rw [known, Option.map_some]
  simp only [ne_eq, Option.some.injEq]
  split
  · split
    · rw [schedule_scheduleTokenExpiry, cleared, clearedNow]
      rfl
    · exact cleared
  · split
    · rw [schedule_removeSchedule, schedule_debug]
      rfl
    · rfl

theorem schedule_setBBCUser (platform : Platform H) (user : BBCUser) (world : World H) :
    schedule (setBBCUser platform user world) =
      Transition.run Move.apply (schedule world) (setMoves platform user world) := by
  unfold setMoves
  cases on : eventsEnabled world with
  | false =>
      rw [setBBCUser_of_off platform user on]
      rfl
  | true =>
      cases idv5 : world.client.settings.idv5Enabled with
      | false =>
          simp only [setBBCUser, userShouldUpdate, on, idv5]
          rfl
      | true =>
          have stored : schedule (storeUser platform user world).2 =
              Transition.run Move.apply (schedule world)
                (if world.client.settings.resetDataOnUserStateChangeEnabled then
                  resetMoves platform user world else []) := by
            have frame := shareUser_frame platform user world
            have known : (shareUser platform user world).client.user.previousUser =
                some (previousUserOf platform (shareUser platform user world)) := by
              rw [previousUserOf_shareUser, shareUser_user]
            have movesEq : resetMoves platform user (shareUser platform user world) =
                resetMoves platform user world := by
              unfold resetMoves
              rw [frame.now, previousUserOf_shareUser]
            rw [storeUser_snd, frame.settings]
            split
            · rw [schedule_resetUserData platform user _ known, movesEq, schedule_shareUser]
            · exact schedule_shareUser platform user world
          have after : schedule (setBBCUser platform user world) =
              schedule (storeUser platform user world).2 := by
            by_cases postpones : Postpones platform user world
            · obtain ⟨setEq, enabled⟩ := setBBCUser_of_postpones platform user on idv5 postpones
              rw [setEq, resetDeviceId, if_pos enabled, schedule_callUserPromise,
                schedule_broadcast]
            · rw [setBBCUser_of_not_postpones platform user on idv5 postpones,
                schedule_reportUser]
          rw [after, stored]
          simp

/-! ## The moves of a step -/

/-- The operations that set a user: the one that the app supplies, or the one that was put
off. -/
def Op.Applies (world : World H) (user : BBCUser) (op : Op) : Prop :=
  op = .lifecycle (.setBBCUser user) ∨
    (op = .lifecycle .start ∨ op = .lifecycle .enable) ∧
      world.client.user.bbcUserSetWhileDisabled = some user

/-- The step makes moves, and renews the schedule only for the user that it sets. -/
def Moves (world after : World H) (op : Op) : Prop :=
  ∃ moves, schedule after = Transition.run Move.apply (schedule world) moves ∧
    ∀ user lasts, .renew user lasts ∈ moves → op.Applies world user

theorem Moves.of_eq {world after : World H} (same : schedule after = schedule world) (op : Op) :
    Moves world after op :=
  ⟨[], same, nofun⟩

theorem mem_setMoves {platform : Platform H} {user other : BBCUser} {world : World H}
    {lasts : Bool} (renews : .renew other lasts ∈ setMoves platform user world) : other = user := by
  unfold setMoves resetMoves at renews
  split at renews
  · split at renews
    · split at renews
      · cases List.mem_singleton.mp renews
        rfl
      · cases renews
    · split at renews
      · cases List.mem_singleton.mp renews
      · cases renews
  · cases renews

theorem Moves.of_set {platform : Platform H} {world before after : World H} {user : BBCUser}
    {op : Op} (applies : op.Applies world user) (sameBefore : schedule before = schedule world)
    (sameAfter : schedule after = schedule (setBBCUser platform user before)) :
    Moves world after op := by
  refine ⟨setMoves platform user before, ?_, ?_⟩
  · rw [sameAfter, schedule_setBBCUser, sameBefore]
  · intro other lasts renews
    rw [mem_setMoves renews]
    exact applies

theorem start_moves (platform : Platform H) {world before : World H} {op : Op}
    (starts : op = .lifecycle .start ∨ op = .lifecycle .enable)
    (same : schedule before = schedule world)
    (pending : before.client.user.bbcUserSetWhileDisabled =
      world.client.user.bbcUserSetWhileDisabled) :
    Moves world (start platform before) op := by
  cases idle : !before.client.echoEnabled || before.client.hasStarted with
  | true =>
      rw [start_of_idle platform idle]
      exact .of_eq same op
  | false =>
      simp only [Bool.or_eq_false_iff, Bool.not_eq_false'] at idle
      have begun : schedule (before.broadcast .start).setStarted = schedule world :=
        (schedule_broadcast .start before).trans same
      rw [start_of_due platform idle.1 idle.2]
      cases pendingEq : before.client.user.bbcUserSetWhileDisabled with
      | none => exact .of_eq begun op
      | some user => exact .of_set (.inr ⟨starts, pending ▸ pendingEq⟩) begun rfl

theorem enable_moves (platform : Platform H) (world : World H) :
    Moves world (enable platform world) (.lifecycle .enable) := by
  cases enabledEq : world.client.echoEnabled with
  | true =>
      rw [enable, enabledEq]
      exact .of_eq rfl _
  | false =>
      have reenabledEq : schedule (reenabled world) = schedule world :=
        schedule_broadcast .enable (world.setEnabled true)
      rw [enable_of_disabled platform enabledEq]
      cases startedEq : world.client.hasStarted with
      | false =>
          have unstarted : (reenabled world).client.hasStarted = false := startedEq
          rw [applyPendingUser_of_unstarted platform unstarted]
          split
          · exact start_moves platform (.inr rfl) reenabledEq rfl
          · exact .of_eq reenabledEq _
      | true =>
          rw [if_neg (by simp)]
          have startedStill : (reenabled world).client.hasStarted = true := startedEq
          unfold applyPendingUser
          rw [startedStill]
          cases pendingEq : (reenabled world).client.user.bbcUserSetWhileDisabled with
          | none => exact .of_eq reenabledEq _
          | some user => exact .of_set (.inr ⟨.inr rfl, pendingEq⟩) reenabledEq rfl

theorem schedule_fireTimer (timer : TimerRef) (world : World H) :
    schedule (fireTimer timer world) = (schedule world).expire timer := by
  have pendingEq : (schedule world).pending[timer]? =
      world.timers[timer]?.map TimerState.isPending := List.getElem?_map
  have settled : schedule (world.settleTimer timer) = (schedule world).settle timer := by
    have modified := map_modify_of_intertwines TimerState.isPending
      (fun state => { state with isPending := false }) (fun _ => false) (fun _ => rfl)
      world.timers timer
    simp [schedule, Schedule.settle, modified]
  unfold fireTimer Schedule.expire
  rw [pendingEq, ← settled]
  split
  · unfold expireToken
    dsimp only
    split
    · exact congrArg (fun schedule : Schedule BBCUser => { schedule with owner := none })
        (schedule_broadcast _ (world.settleTimer timer))
    · rfl
  · rfl

/-- Every step makes moves on the schedule. -/
theorem step_moves (platform : Platform H) (world : World H) (op : Op) :
    Moves world (step platform world op) op := by
  cases op with
  | clock now => exact .of_eq rfl _
  | fireTimer timer =>
      refine ⟨[.expire timer], schedule_fireTimer timer world, ?_⟩
      intro user lasts renews
      cases List.mem_singleton.mp renews
  | lifecycle call =>
      cases call with
      | setBBCUser user => exact .of_set (.inl rfl) rfl rfl
      | start => exact start_moves platform (.inl rfl) rfl rfl
      | enable => exact enable_moves platform world
      | disable =>
          apply Moves.of_eq
          change schedule (disable platform world) = schedule world
          unfold disable
          split
          · rfl
          · exact (schedule_broadcast .disable _).trans
              (clearMedia_frame platform world).schedule_eq
  | _ => exact .of_eq (step_frame platform world rfl).schedule_eq _

/-! ## Runs -/

theorem schedule_prepare (platform : Platform H) (arguments : InitArguments) (store : H)
    (now : Date) : schedule (prepare platform arguments store now) = ⟨[], [], none, none⟩ := by
  obtain ⟨isDebugEnabled, level, settings⟩ := debugSettings_eq
    (collateConfig platform arguments.config)
  unfold prepare
  dsimp only
  rw [settings]
  split
  · simp [createDelegates, configuredClient, schedule, Effect.created]
  · simp [createDelegates, configuredClient, schedule, Effect.created]

theorem complete_moves (platform : Platform H) (world : World H) :
    Moves world (complete platform world) (.lifecycle .start) := by
  have announced (after : World H) : schedule after.register = schedule after := by
    simp [schedule, registrations, Effect.created]
  rw [complete_eq]
  split
  · have started : Moves world (start platform world) (.lifecycle .start) :=
      start_moves platform (.inl rfl) rfl rfl
    obtain ⟨moves, startEq, renews⟩ := started
    exact ⟨moves, (announced _).trans startEq, renews⟩
  · exact .of_eq (announced world) _

variable {platform : Platform H} {arguments : InitArguments} {world : World H}

/-- The client comes out of its initialiser with a paired schedule, and with a timer for
no other user than the one it was constructed with. -/
theorem Launched.paired (launched : Launched platform arguments world) :
    (schedule world).Paired ∧ ∀ timer user, (timer, user) ∈ (schedule world).created →
      user = arguments.bbcUser := by
  obtain ⟨store, now, rfl⟩ := launched.exists_complete
  obtain ⟨delegates, prepared⟩ := prepare_client platform arguments store now
  obtain ⟨moves, completeEq, renews⟩ :=
    complete_moves platform (prepare platform arguments store now)
  rw [schedule_prepare] at completeEq
  rw [completeEq]
  have unscheduled : (⟨[], [], none, none⟩ : Schedule BBCUser).Paired := by
    refine ⟨rfl, nofun, ?_⟩
    intro timer pending
    exact absurd pending.lt_length (Nat.not_lt_zero timer)
  refine ⟨Move.paired_run unscheduled moves, ?_⟩
  intro timer user created
  rcases Move.mem_created_run created with before | ⟨lasts, member⟩
  · cases before
  · rcases renews user lasts member with supplied | ⟨_, pending⟩
    · cases supplied
    · rw [prepared] at pending
      exact (Option.some.inj pending).symm

theorem paired_step (isPaired : (schedule world).Paired) (op : Op) :
    (schedule (step platform world op)).Paired := by
  obtain ⟨moves, scheduleEq, _⟩ := step_moves platform world op
  rw [scheduleEq]
  exact Move.paired_run isPaired moves

theorem Launched.paired_run (launched : Launched platform arguments world) (ops : List Op) :
    (schedule (run platform world ops)).Paired := by
  have preserved (world : World H) (op : Op) (isPaired : (schedule world).Paired) :
      (schedule (step platform world op)).Paired := paired_step isPaired op
  exact invariant_run_of_step preserved launched.paired.1 ops

/-- A timer that can no longer fire never will. -/
theorem settled_run {timer : TimerRef} (settled : (schedule world).Settled timer)
    (ops : List Op) : (schedule (run platform world ops)).Settled timer := by
  have preserved (world : World H) (op : Op) (settled : (schedule world).Settled timer) :
      (schedule (step platform world op)).Settled timer := by
    obtain ⟨moves, scheduleEq, _⟩ := step_moves platform world op
    rw [scheduleEq]
    exact Move.settled_run settled moves
  exact invariant_run_of_step preserved settled ops

/-! ## What a timer pushes -/

/-- The users whose labels a step pushes to the delegates. -/
def pushes (platform : Platform H) (world : World H) (op : Op) : List BBCUser :=
  (emitted platform world op).filterMap fun
    | .broadcast (.updateBBCUserLabels user) _ => some user
    | _ => none

theorem pushes_of_pending {timer : TimerRef} (pending : IsPending timer world) :
    pushes platform world (.fireTimer timer) = world.client.user.userForTimer.toList := by
  have fires : fireTimer timer world = expireToken (world.settleTimer timer) := if_pos pending
  rw [pushes, emitted, step, fires]
  unfold expireToken
  cases owner : world.client.user.userForTimer with
  | none => simp [owner]
  | some user => simp [owner]

theorem pushes_of_not_pending {timer : TimerRef} (idle : ¬IsPending timer world) :
    pushes platform world (.fireTimer timer) = [] := by
  have unchanged : fireTimer timer world = world := if_neg idle
  rw [pushes, emitted, step, unchanged, List.drop_length]
  rfl

theorem pushes_of_settled {timer : TimerRef} (settled : (schedule world).Settled timer) :
    pushes platform world (.fireTimer timer) = [] :=
  pushes_of_not_pending (mt isPending_schedule_iff.mpr settled.2)

/-- A set replaces the schedule: it goes through, with a token that is valid and has a
timestamp, whenever that token expires. -/
def ReplacesSchedule (platform : Platform H) (user : BBCUser) (world : World H) : Prop :=
  eventsEnabled world = true ∧ world.client.settings.idv5Enabled = true ∧
    world.client.settings.resetDataOnUserStateChangeEnabled = true ∧
      platform.tokenState user world.now = .valid ∧ user.tokenRefreshTimestamp.isSome = true

theorem setMoves_of_replaces {user : BBCUser} (replaces : ReplacesSchedule platform user world) :
    setMoves platform user world =
      [.renew user (decide (platform.getTimeUntilTokenExpiry user world.now > 0))] := by
  obtain ⟨on, idv5, reset, valid, timestamp⟩ := replaces
  simp [setMoves, resetMoves, on, idv5, reset, valid, timestamp]

/-- A new schedule settles the timers of all earlier ones. -/
theorem settled_of_replaces (isPaired : (schedule world).Paired) {user : BBCUser}
    (replaces : ReplacesSchedule platform user world) {timer : TimerRef}
    (created : timer < world.timers.length) :
    (schedule (step platform world (.lifecycle (.setBBCUser user)))).Settled timer := by
  have scheduleEq : schedule (step platform world (.lifecycle (.setBBCUser user))) =
      Transition.run Move.apply (schedule world) (setMoves platform user world) :=
    schedule_setBBCUser platform user world
  rw [scheduleEq, setMoves_of_replaces replaces]
  apply isPaired.settled_renew
  simpa [schedule] using created

/-- A timer that fires pushes the user it was created for, or nothing. -/
theorem pushes_own (isPaired : (schedule world).Paired) (timer : TimerRef) :
    pushes platform world (.fireTimer timer) = [] ∨
      ∃ timeInterval user, .scheduleTimer timer timeInterval user ∈ world.log ∧
        pushes platform world (.fireTimer timer) = [user] := by
  by_cases pending : IsPending timer world
  · right
    obtain ⟨_, user, created, owner⟩ :=
      isPaired.paired timer (isPending_schedule_iff.mpr pending)
    obtain ⟨timeInterval, logged⟩ := mem_created_iff.mp created
    have ownerEq : world.client.user.userForTimer = some user := owner
    refine ⟨timeInterval, user, logged, ?_⟩
    rw [pushes_of_pending pending, ownerEq]
    rfl
  · exact .inl (pushes_of_not_pending pending)

/-- Only the user that a step sets is scheduled in it. -/
theorem applies_of_scheduled (isPaired : (schedule world).Paired) {op : Op} {timer : TimerRef}
    {timeInterval : Int} {user : BBCUser}
    (scheduled : .scheduleTimer timer timeInterval user ∈ emitted platform world op) :
    op.Applies world user := by
  obtain ⟨moves, scheduleEq, renews⟩ := step_moves platform world op
  have isPairedAfter : (schedule (step platform world op)).Paired := paired_step isPaired op
  have split : (schedule (step platform world op)).created =
      (schedule world).created ++ (emitted platform world op).filterMap Effect.created := by
    rw [schedule, step_log, List.filterMap_append]
    rfl
  have creates : (timer, user) ∈ (emitted platform world op).filterMap Effect.created :=
    List.mem_filterMap.mpr ⟨_, scheduled, rfl⟩
  have created : (timer, user) ∈ (schedule (step platform world op)).created := by
    rw [split]
    exact List.mem_append_right _ creates
  rw [scheduleEq] at created
  rcases Move.mem_created_run created with before | ⟨lasts, member⟩
  · exact absurd before (isPairedAfter.not_mem_of_append split creates)
  · exact renews user lasts member

/-- What holds of the timers of a client in every run. -/
structure TimersPaired (platform : Platform H) (arguments : InitArguments) (world : World H) :
    Prop where
  /-- Only the timer that the client remembers is pending. -/
  stored : ∀ ops timer, IsPending timer (run platform world ops) →
    (run platform world ops).client.user.timer = some timer
  /-- It is kept for the user that it was created for. -/
  owned : ∀ ops timer, IsPending timer (run platform world ops) →
    ∃ timeInterval user, .scheduleTimer timer timeInterval user ∈ (run platform world ops).log ∧
      (run platform world ops).client.user.userForTimer = some user
  /-- That is the user of the set in the step that created it, -/
  created : ∀ ops op timer timeInterval user,
    .scheduleTimer timer timeInterval user ∈ emitted platform (run platform world ops) op →
      op.Applies (run platform world ops) user
  /-- or the user of the initialiser, -/
  initial : ∀ timer timeInterval user, .scheduleTimer timer timeInterval user ∈ world.log →
    user = arguments.bbcUser
  /-- and there is one such set only. -/
  unique : ∀ ops timer timeInterval user otherInterval other,
    .scheduleTimer timer timeInterval user ∈ (run platform world ops).log →
    .scheduleTimer timer otherInterval other ∈ (run platform world ops).log → user = other
  /-- A timer pushes the labels of its own user, -/
  own : ∀ ops timer, pushes platform (run platform world ops) (.fireTimer timer) = [] ∨
    ∃ timeInterval user, .scheduleTimer timer timeInterval user ∈ (run platform world ops).log ∧
      pushes platform (run platform world ops) (.fireTimer timer) = [user]
  /-- and does so once. -/
  once : ∀ ops later timer,
    pushes platform (run platform world ops) (.fireTimer timer) = [] ∨
      pushes platform (run platform world (ops ++ .fireTimer timer :: later))
        (.fireTimer timer) = []
  /-- The timer of a schedule that a set replaces pushes nothing, -/
  replaced : ∀ ops user later timer, timer < (run platform world ops).timers.length →
    ReplacesSchedule platform user (run platform world ops) →
      pushes platform (run platform world (ops ++ .lifecycle (.setBBCUser user) :: later))
        (.fireTimer timer) = []
  /-- nor does any timer once there is a later one. -/
  superseded : ∀ ops timer later timeInterval user, timer < later →
    .scheduleTimer later timeInterval user ∈ (run platform world ops).log →
      pushes platform (run platform world ops) (.fireTimer timer) = []

/-- One pending timer, paired with its user, in every run of a launched client. -/
theorem timers_paired (launched : Launched platform arguments world) :
    TimersPaired platform arguments world := by
  have pairs := launched.paired_run
  constructor
  · intro ops timer pending
    exact ((pairs ops).paired timer (isPending_schedule_iff.mpr pending)).1
  · intro ops timer pending
    obtain ⟨_, user, created, owner⟩ :=
      (pairs ops).paired timer (isPending_schedule_iff.mpr pending)
    obtain ⟨timeInterval, logged⟩ := mem_created_iff.mp created
    exact ⟨timeInterval, user, logged, owner⟩
  · intro ops op timer timeInterval user scheduled
    exact applies_of_scheduled (pairs ops) scheduled
  · intro timer timeInterval user logged
    exact launched.paired.2 timer user (mem_created_iff.mpr ⟨timeInterval, logged⟩)
  · intro ops timer timeInterval user otherInterval other logged again
    exact (pairs ops).owner_unique (mem_created_iff.mpr ⟨timeInterval, logged⟩)
      (mem_created_iff.mpr ⟨otherInterval, again⟩)
  · intro ops timer
    exact pushes_own (pairs ops) timer
  · intro ops later timer
    by_cases pending : IsPending timer (run platform world ops)
    · right
      have settled : (schedule (step platform (run platform world ops)
          (.fireTimer timer))).Settled timer := by
        rw [step, schedule_fireTimer]
        exact (isPending_schedule_iff.mpr pending).settled_expire
      rw [run_append_cons]
      exact pushes_of_settled (settled_run settled later)
    · exact .inl (pushes_of_not_pending pending)
  · intro ops user later timer created replaces
    rw [run_append_cons]
    exact pushes_of_settled (settled_run (settled_of_replaces (pairs ops) replaces created) later)
  · intro ops timer later timeInterval user earlier logged
    exact pushes_of_settled ((pairs ops).settled_of_lt
      (mem_created_iff.mpr ⟨timeInterval, logged⟩) earlier)

theorem timers_paired_trackingWorld :
    TimersPaired reference (trackingArguments signedInUser)
      (trackingWorld signedInUser { user := signedOut }) :=
  timers_paired (trackingWorld_launched signedInUser { user := signedOut })

end Echo.Client
