import Echo.Client.Frame

/-!
# What the user operations leave alone

Setting a user, and a timer that fires, change neither the media session nor
the life of the client.
-/

namespace Echo.Client

open Echo.Transition

variable {H : Type}

/-- No effects on the session or the life of the client, and no change to what
these rest on. -/
structure UserFrame (before after : World H) : Prop where
  settings : after.client.settings = before.client.settings
  echoEnabled : after.client.echoEnabled = before.client.echoEnabled
  hasStarted : after.client.hasStarted = before.client.hasStarted
  session : after.client.session = before.client.session
  brokers : after.brokers = before.brokers
  now : after.now = before.now
  log : Extends Effect.OfUser before.log after.log

namespace UserFrame

theorem refl (world : World H) : UserFrame world world :=
  ⟨rfl, rfl, rfl, rfl, rfl, rfl, Extends.refl _ _⟩

theorem trans {before middle after : World H} (first : UserFrame before middle)
    (second : UserFrame middle after) : UserFrame before after where
  settings := second.settings.trans first.settings
  echoEnabled := second.echoEnabled.trans first.echoEnabled
  hasStarted := second.hasStarted.trans first.hasStarted
  session := second.session.trans first.session
  brokers := second.brokers.trans first.brokers
  now := second.now.trans first.now
  log := first.log.trans second.log

/-- Receiving a user stays within the frame, action by action. -/
theorem act (platform : Platform H) {action : Action}
    (receives : action.Receives fun call => call.kind ∈ [EffectKind.report, .user])
    (world : World H) : UserFrame world (action.apply platform world) := by
  have logged (effect : Effect) (ofUser : effect.kind ∈ [EffectKind.report, .user]) :
      Extends Effect.OfUser world.log (world.log ++ [effect]) :=
    Extends.single Effect.OfUser (by exact ofUser) _
  cases action with
  | debug level message => exact ⟨rfl, rfl, rfl, rfl, rfl, rfl, logged _ (by simp [Effect.kind])⟩
  | broadcast call => exact ⟨rfl, rfl, rfl, rfl, rfl, rfl, logged _ receives⟩
  | setPreviousUser user => exact ⟨rfl, rfl, rfl, rfl, rfl, rfl, Extends.refl _ _⟩
  | keepUser user => exact ⟨rfl, rfl, rfl, rfl, rfl, rfl, Extends.refl _ _⟩
  | forgetUser => exact ⟨rfl, rfl, rfl, rfl, rfl, rfl, Extends.refl _ _⟩
  | setUserForTimer user => exact ⟨rfl, rfl, rfl, rfl, rfl, rfl, Extends.refl _ _⟩
  | settleTimer timer => exact ⟨rfl, rfl, rfl, rfl, rfl, rfl, Extends.refl _ _⟩
  | invalidateTimer timer =>
      exact ⟨rfl, rfl, rfl, rfl, rfl, rfl, logged _ (by simp [Effect.kind])⟩
  | scheduleTimer timeInterval user =>
      exact ⟨rfl, rfl, rfl, rfl, rfl, rfl, logged _ (by simp [Effect.kind])⟩
  | callHelper call => exact ⟨rfl, rfl, rfl, rfl, rfl, rfl, logged _ (by simp [Effect.kind])⟩
  | _ => exact receives.elim

/-- So does an operation that does no more than that. -/
theorem of_receives {platform : Platform H} {reads : World H → World H → Prop}
    {callable : World H → Prop} {operation : World H → World H} [Std.Refl reads]
    (conforms : Conforms platform (Action.Receives fun call =>
      call.kind ∈ [EffectKind.report, .user]) reads callable operation)
    (world : World H) : UserFrame world (operation world) :=
  conforms.frame .refl .trans (fun world _ receives => act platform receives world) world

theorem of_attends {platform : Platform H} {reads : World H → World H → Prop}
    {callable : World H → Prop} {operation : World H → World H} [Std.Refl reads]
    (conforms : Conforms platform (Action.Attends fun call =>
      call.kind ∈ [EffectKind.report, .user]) reads callable operation)
    (world : World H) : UserFrame world (operation world) :=
  of_receives (conforms.mono Action.Attends.receives id) world

end UserFrame

section Users

variable (platform : Platform H)

/-- The calls about a user are of the kinds that the frame allows. -/
theorem userTells_kind : UserTells fun call => call.kind ∈ [EffectKind.report, .user] where
  deviceID _ := by simp
  labels _ := by simp
  stateChange := by simp
  event _ _ _ := by simp
  clearCache := List.mem_cons_self

theorem shareUser_frame (user : BBCUser) (world : World H) :
    UserFrame world (shareUser platform user world) :=
  .of_attends (shareUser_conforms platform userTells_kind.deviceID user) world

theorem storeUser_frame (user : BBCUser) (world : World H) :
    UserFrame world (storeUser platform user world).2 :=
  .of_attends (storeUser_conforms platform userTells_kind user) world

theorem resetDeviceId_frame (reason : DeviceIDResetReason) (result : UserPromiseHelperResult)
    (world : World H) : UserFrame world (resetDeviceId platform reason result world) :=
  .of_attends (resetDeviceId_conforms platform userTells_kind reason result) world

theorem setBBCUser_frame (user : BBCUser) (world : World H) :
    UserFrame world (setBBCUser platform user world) :=
  .of_receives (setBBCUser_conforms platform userTells_kind user) world

theorem applyPendingUser_frame (world : World H) :
    UserFrame world (applyPendingUser platform world) :=
  .of_receives (applyPendingUser_conforms platform userTells_kind) world

end Users

/-- A token that expires is a matter of the user. -/
theorem fireTimer_frame (platform : Platform H) (timer : TimerRef) (world : World H) :
    UserFrame world (fireTimer timer world) :=
  .of_attends (fireTimer_conforms platform userTells_kind.labels timer) world

/-! ## Lifecycle operations -/

theorem start_of_idle (platform : Platform H) {world : World H}
    (idle : (!world.client.echoEnabled || world.client.hasStarted) = true) :
    start platform world = world := by
  simp only [start, idle, if_true]

/-- Past its guards, `start` tells the delegates and then only concerns the
user. -/
theorem start_frame (platform : Platform H) {world : World H}
    (enabled : world.client.echoEnabled = true) (unstarted : world.client.hasStarted = false) :
    UserFrame (world.broadcast .start).setStarted (start platform world) := by
  simp only [start, enabled, unstarted, Bool.not_true, Bool.or_self, Bool.false_eq_true, if_false]
  split
  · exact setBBCUser_frame platform _ _
  · exact .refl _

end Echo.Client
