import Echo.Protocol.Launch
import Echo.User.Events
import Echo.Client.Reference

/-!
# The trace of users

What the helper and the delegates are told about users, in order.  Every user that the
helper stores is followed, in the same operation, by the device id it may have led to,
and then either by the labels of that very user or by a change of state that keeps them
back.  Labels come otherwise only from a timer, and only of a user stored before.
-/

namespace Echo.Client

open Echo.Transition

variable {H : Type}

inductive UserStep
  | stored (user : BBCUser)
  | named (deviceID : String)
  | labelled (user : BBCUser)
  | changed
  deriving DecidableEq

def Effect.userStep : Effect → Option UserStep
  | .userPromise (.setBBCUser user) => some (.stored user)
  | .broadcast (.updateDeviceID deviceID) _ => some (.named deviceID)
  | .broadcast (.updateBBCUserLabels user) _ => some (.labelled user)
  | .broadcast .userStateChange _ => some .changed
  | _ => none

def userSteps (log : List Effect) : List UserStep :=
  log.filterMap Effect.userStep

@[simp]
theorem userSteps_append (first second : List Effect) :
    userSteps (first ++ second) = userSteps first ++ userSteps second :=
  List.filterMap_append

/-- What may be told about users. -/
inductive UserTrace : List UserStep → Prop
  | start : UserTrace []
  | reported {steps : List UserStep} (earlier : UserTrace steps) (user : BBCUser)
      (deviceID : Option String) :
      UserTrace (steps ++ .stored user :: (deviceID.map .named).toList ++ [.labelled user])
  | changed {steps : List UserStep} (earlier : UserTrace steps) (user : BBCUser)
      (deviceID : Option String) :
      UserTrace (steps ++ .stored user :: (deviceID.map .named).toList ++ [.changed])
  | expired {steps : List UserStep} (earlier : UserTrace steps) {user : BBCUser}
      (known : .stored user ∈ steps) : UserTrace (steps ++ [.labelled user])

/-! ## The parts of `setBBCUser` -/

/-- The device id that the helper answers after it has stored a user. -/
def deviceIDFor (platform : Platform H) (user : BBCUser) (world : World H) : Option String :=
  (platform.userPromise.getDeviceID
    (platform.userPromise.setBBCUser user (loadPreviousUser platform world).userPromise).2).1

theorem shareUser_steps (platform : Platform H) (user : BBCUser) (world : World H) :
    userSteps (shareUser platform user world).log =
      userSteps world.log ++
        .stored user :: ((deviceIDFor platform user world).map .named).toList := by
  have loaded : userSteps (loadPreviousUser platform world).log = userSteps world.log := by
    unfold loadPreviousUser
    split
    · rfl
    · exact (userSteps_append _ _).trans (List.append_nil _)
  unfold shareUser shareDeviceID deviceIDFor
  dsimp only
  rw [World.callUserPromise_fst, World.callUserPromise_snd_userPromise]
  cases (platform.userPromise.getDeviceID
    (platform.userPromise.setBBCUser user (loadPreviousUser platform world).userPromise).2).1 with
  | none =>
      simp only [World.callUserPromise_snd_log, userSteps_append, loaded, List.append_assoc]
      rfl
  | some deviceID =>
      simp only [World.broadcast_log, World.callUserPromise_snd_log, userSteps_append, loaded,
        List.append_assoc]
      rfl

/-- The timer of a world is kept, or renewed for the given user. -/
structure Renews (user : BBCUser) (before after : World H) : Prop where
  steps : userSteps after.log = userSteps before.log
  owner : after.client.user.userForTimer = before.client.user.userForTimer ∨
    after.client.user.userForTimer = some user

theorem removeSchedule_renews (user : BBCUser) (world : World H) :
    Renews user world (removeSchedule world) := by
  unfold removeSchedule
  split
  · exact ⟨rfl, .inl rfl⟩
  · exact ⟨by simp [userSteps, Effect.userStep], .inl rfl⟩

theorem scheduleTokenExpiry_renews (platform : Platform H) (user : BBCUser) (world : World H) :
    Renews user world (scheduleTokenExpiry platform user world) := by
  have removed := (removeSchedule_renews user world).steps
  unfold scheduleTokenExpiry
  dsimp only
  split
  · refine ⟨?_, .inr rfl⟩
    rw [World.debug_log, World.scheduleTimer_log, userSteps_append, userSteps_append,
      World.withUser_log, removed]
    simp [userSteps, Effect.userStep]
  · exact ⟨removed, .inr rfl⟩

theorem resetUserData_renews (platform : Platform H) (user : BBCUser)
    (reason : Option DeviceIDResetReason) (world : World H) :
    Renews user world (resetUserData platform user reason world) := by
  have cleared : Renews user world (if reason.isSome then clearCache (world.debug .info
      "Clearing cache and internal data due to session and device id change") else world) := by
    split
    · exact ⟨by simp [clearCache, userSteps, Effect.userStep], .inl rfl⟩
    · exact ⟨rfl, .inl rfl⟩
  unfold resetUserData
  dsimp only
  split
  · split
    · have scheduled := scheduleTokenExpiry_renews platform user
        (if reason.isSome then clearCache (world.debug .info
          "Clearing cache and internal data due to session and device id change") else world)
      refine ⟨scheduled.steps.trans cleared.steps, ?_⟩
      rcases scheduled.owner with kept | renewed
      · rw [kept]
        exact cleared.owner
      · exact .inr renewed
    · exact cleared
  · split
    · have removed := removeSchedule_renews user (world.debug .info
        "changing state from valid (or none) to expired")
      exact ⟨removed.steps.trans (by simp [userSteps, Effect.userStep]), removed.owner⟩
    · exact ⟨rfl, .inl rfl⟩

theorem storeUser_renews (platform : Platform H) (user : BBCUser) (world : World H) :
    Renews user (shareUser platform user world) (storeUser platform user world).2 := by
  rw [storeUser_snd]
  split
  · exact resetUserData_renews platform user _ _
  · exact ⟨rfl, .inl rfl⟩

theorem reportUser_steps (platform : Platform H) (user : BBCUser)
    (result : UserPromiseHelperResult) (world : World H) :
    userSteps (reportUser platform user result world).log =
        userSteps world.log ++ [.labelled user] ∧
      (reportUser platform user result world).client.user.userForTimer =
        world.client.user.userForTimer := by
  have sent (update : UserUpdate) (world : World H) :
      userSteps (sendUserUpdateEvent platform update result world).log = userSteps world.log ∧
        (sendUserUpdateEvent platform update result world).client = world.client := by
    unfold sendUserUpdateEvent
    dsimp only
    split
    · exact ⟨by simp [userSteps, Effect.userStep], rfl⟩
    · exact ⟨by simp [userSteps, Effect.userStep], rfl⟩
  have labelled : userSteps (world.broadcast (.updateBBCUserLabels user)).log =
      userSteps world.log ++ [.labelled user] := by
    rw [World.broadcast_log, userSteps_append]
    rfl
  unfold reportUser
  dsimp only
  split
  · obtain ⟨steps, client⟩ := sent (userUpdate platform result)
      (world.broadcast (.updateBBCUserLabels user))
    exact ⟨steps.trans labelled, by rw [World.withUser, client]; rfl⟩
  · exact ⟨labelled, rfl⟩

section Applied

variable (platform : Platform H) (user : BBCUser) {world : World H}
  (on : eventsEnabled world = true) (idv5 : world.client.settings.idv5Enabled = true)

include on idv5

/-- A user that is applied is stored, and then reported or postponed. -/
theorem setBBCUser_steps :
    userSteps (setBBCUser platform user world).log =
        userSteps world.log ++
          .stored user :: ((deviceIDFor platform user world).map .named).toList ++
          [if Postpones platform user world then .changed else .labelled user] ∧
      ((setBBCUser platform user world).client.user.userForTimer =
          world.client.user.userForTimer ∨
        (setBBCUser platform user world).client.user.userForTimer = some user) := by
  have shared := shareUser_steps platform user world
  have stored := storeUser_renews platform user world
  have owner := stored.owner
  rw [shareUser_user] at owner
  by_cases postpones : Postpones platform user world
  · obtain ⟨setEq, enabled⟩ := setBBCUser_of_postpones platform user on idv5 postpones
    rw [setEq, resetDeviceId, if_pos enabled, if_pos postpones]
    constructor
    · simp only [World.callUserPromise_snd_log, World.broadcast_log, userSteps_append,
        stored.steps, shared, List.append_assoc]
      rfl
    · exact owner
  · obtain ⟨steps, kept⟩ := reportUser_steps platform user (resultFor platform user world)
      (storeUser platform user world).2
    rw [setBBCUser_of_not_postpones platform user on idv5 postpones, if_neg postpones, steps,
      stored.steps, shared, kept]
    exact ⟨rfl, owner⟩

end Applied

/-! ## Every operation -/

/-- The trace so far is allowed, and the timer waits for a user of it. -/
structure Traced (world : World H) : Prop where
  trace : UserTrace (userSteps world.log)
  owner : ∀ user, world.client.user.userForTimer = some user →
    .stored user ∈ userSteps world.log

theorem Traced.of_silent {before after : World H} (traced : Traced before)
    (steps : userSteps after.log = userSteps before.log)
    (owner : after.client.user.userForTimer = before.client.user.userForTimer) :
    Traced after := by
  constructor
  · rw [steps]
    exact traced.trace
  · rw [steps, owner]
    exact traced.owner

theorem Effect.userStep_of_kind {effect : Effect} (other : effect.kind ≠ .user) :
    effect.userStep = none := by
  cases effect with
  | userPromise call => exact absurd rfl other
  | broadcast call client =>
      cases call with
      | updateDeviceID deviceID => exact absurd rfl other
      | updateBBCUserLabels user => exact absurd rfl other
      | userStateChange => exact absurd rfl other
      | _ => rfl
  | _ => rfl

/-- Reports and media are not about users. -/
theorem Traced.session {before after : World H} (traced : Traced before)
    (frame : SessionFrame before after) : Traced after := by
  have steps : userSteps after.log = userSteps before.log := by
    refine filterMap_extends frame.log fun effect ofSession => ?_
    apply Effect.userStep_of_kind
    intro isUser
    simp [Effect.OfSession, isUser] at ofSession
  exact traced.of_silent steps (by rw [frame.user])

theorem setBBCUser_traced (platform : Platform H) (user : BBCUser) {world : World H}
    (traced : Traced world) : Traced (setBBCUser platform user world) := by
  cases on : eventsEnabled world with
  | false =>
      rw [setBBCUser_of_off platform user on]
      exact traced.of_silent rfl rfl
  | true =>
      cases idv5 : world.client.settings.idv5Enabled with
      | false =>
          have remembered : setBBCUser platform user world =
              world.withUser fun state => { state with previousUser := some user } := by
            simp [setBBCUser, userShouldUpdate, on, idv5]
          rw [remembered]
          exact traced.of_silent rfl rfl
      | true =>
          obtain ⟨steps, owner⟩ := setBBCUser_steps platform user on idv5
          constructor
          · rw [steps]
            split
            · exact traced.trace.changed user _
            · exact traced.trace.reported user _
          · intro waiting waits
            rw [steps]
            rcases owner with kept | renewed
            · rw [kept] at waits
              simp [traced.owner waiting waits]
            · rw [renewed] at waits
              obtain rfl := Option.some.inj waits
              simp

theorem start_traced (platform : Platform H) {world : World H} (traced : Traced world) :
    Traced (start platform world) := by
  have started : Traced (world.broadcast .start).setStarted :=
    traced.of_silent (by simp [userSteps, Effect.userStep]) rfl
  unfold start
  dsimp only
  split
  · exact traced
  · split
    · exact setBBCUser_traced platform _ started
    · exact started

theorem applyPendingUser_traced (platform : Platform H) {world : World H}
    (traced : Traced world) : Traced (applyPendingUser platform world) := by
  unfold applyPendingUser
  split
  · exact (setBBCUser_traced platform _ traced).of_silent rfl rfl
  · exact traced

theorem LifecycleCall.perform_traced (platform : Platform H) (call : LifecycleCall)
    {world : World H} (traced : Traced world) : Traced (call.perform platform world) := by
  cases call with
  | setBBCUser user => exact setBBCUser_traced platform user traced
  | start => exact start_traced platform traced
  | enable =>
      have switched : Traced (reenabled world) :=
        traced.of_silent (by simp [reenabled, userSteps, Effect.userStep]) rfl
      have applied := applyPendingUser_traced platform switched
      cases enabled : world.client.echoEnabled with
      | true =>
          simp only [perform, Client.enable, enabled, if_true]
          exact traced
      | false =>
          rw [perform, enable_of_disabled platform enabled]
          split
          · exact start_traced platform applied
          · exact applied
  | disable =>
      have cleared := traced.session (clearMedia_frame platform world)
      simp only [perform, Client.disable]
      split
      · exact traced
      · exact cleared.of_silent (by simp [userSteps, Effect.userStep]) rfl

theorem fireTimer_traced (timer : TimerRef) {world : World H} (traced : Traced world) :
    Traced (fireTimer timer world) := by
  unfold fireTimer
  split
  · unfold expireToken
    dsimp only
    split
    · rename_i user waits
      constructor
      · have steps : userSteps ((world.settleTimer timer).broadcast
            (.updateBBCUserLabels user)).log = userSteps world.log ++ [.labelled user] := by
          rw [World.broadcast_log, userSteps_append]
          rfl
        rw [World.withUser_log, steps]
        exact traced.trace.expired (traced.owner user waits)
      · intro user waits
        cases waits
    · constructor
      · exact traced.trace
      · intro user waits
        cases waits
  · exact traced

theorem step_traced (platform : Platform H) {world : World H} (traced : Traced world)
    (op : Op) : Traced (step platform world op) := by
  cases op with
  | lifecycle call => exact call.perform_traced platform traced
  | fireTimer timer => exact fireTimer_traced timer traced
  | clock now => exact traced.of_silent rfl rfl
  | _ => exact traced.session (step_frame platform world rfl)

theorem Launched.traced {platform : Platform H} {arguments : InitArguments} {world : World H}
    (launched : Launched platform arguments world) : Traced world := by
  obtain ⟨store, now, rfl⟩ := launched.exists_complete
  have prepared : Traced (prepare platform arguments store now) := by
    have silent : userSteps (prepare platform arguments store now).log = [] := by
      apply List.filterMap_eq_nil_iff.mpr
      intro effect member
      rcases prepare_log platform arguments store now effect member with setup | rfl
      · exact Effect.userStep_of_kind (by simp [setup])
      · rfl
    obtain ⟨delegates, client⟩ := prepare_client platform arguments store now
    constructor
    · rw [silent]
      exact .start
    · rw [client]
      intro user waits
      cases waits
  have registered {world : World H} (traced : Traced world) : Traced world.register :=
    traced.of_silent (by simp [registrations, userSteps, Effect.userStep]) rfl
  rw [complete_eq]
  split
  · exact registered (start_traced platform prepared)
  · exact registered prepared

/-- Whatever the app does, the helper and the delegates are told about users in this
order. -/
theorem userTrace_run {platform : Platform H} {arguments : InitArguments} {world : World H}
    (launched : Launched platform arguments world) (ops : List Op) :
    UserTrace (userSteps (run platform world ops).log) := by
  have stepwise : ∀ (world : World H) (op : Op), Traced world →
      Traced (step platform world op) := fun _ op traced => step_traced platform traced op
  exact (invariant_run_of_step stepwise launched.traced ops).trace

theorem userTrace_renewed :
    UserTrace (userSteps (run reference (trackingWorld signedOut { user := signedOut })
      [.lifecycle (.setBBCUser signedInUser), .fireTimer 0]).log) :=
  userTrace_run (trackingWorld_launched signedOut { user := signedOut }) _

end Echo.Client
