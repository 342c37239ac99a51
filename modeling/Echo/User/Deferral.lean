import Echo.Transition.Erasure
import Echo.User.LatestUser

/-!
# Users that are kept for later

A client that is disabled, or has not been started, keeps the user it is given until
events are turned on.  `withoutPending` forgets that user.  Only three operations look at
it, so a client whose events are off runs like one that was never given a user, and the
operation that turns events on sets the last user as if it had been supplied right then.
-/

namespace Echo.Client

variable {H : Type}

/-! ## Forgetting the pending user -/

@[simps]
def UserState.withoutPending (state : UserState) : UserState :=
  { state with bbcUserSetWhileDisabled := none }

@[simps]
def EchoClient.withoutPending (client : EchoClient) : EchoClient :=
  { client with user := client.user.withoutPending }

/-- An effect as delegates see it that cannot read the pending user. -/
def Effect.withoutPending : Effect → Effect
  | .broadcast call client => .broadcast call client.withoutPending
  | effect => effect

@[simps]
def World.withoutPending (world : World H) : World H :=
  { world with
    client := world.client.withoutPending
    log := world.log.map Effect.withoutPending }

/-- A delegate hears nothing of the pending user. -/
theorem received_withoutPending (index : Nat) (world : World H) :
    received index world.withoutPending.log = received index world.log := by
  simp only [received, World.withoutPending_log, List.filterMap_map]
  congr 1
  funext effect
  cases effect <;> rfl

/-! ## Actions and operations -/

theorem Effect.MakesBroker.withoutPending_eq {made : Effect} (makes : made.MakesBroker) :
    made.withoutPending = made := by
  cases made with
  | makeLiveBroker playerDelegate media essUrl useHttps essEnabled => rfl
  | makeOnDemandBroker playerDelegate media => rfl
  | _ => exact makes.elim

theorem World.broadcast_withoutPending (call : DelegateCall) (world : World H) :
    (world.broadcast call).withoutPending = world.withoutPending.broadcast call := by
  simp [broadcast, emit, withoutPending, Effect.withoutPending]

/-- It makes no difference to an action, unless it keeps a user, whether the pending user is
forgotten before or after. -/
theorem Action.apply_withoutPending (platform : Platform H) (world : World H) {action : Action}
    (other : ∀ user, action ≠ .keepUser user) :
    (action.apply platform world).withoutPending = action.apply platform world.withoutPending := by
  cases action with
  | debug level message =>
      simp [apply, World.debug, World.emit, World.withoutPending, Effect.withoutPending]
  | broadcast call => exact World.broadcast_withoutPending call world
  | callDelegate index call =>
      simp [apply, World.emit, World.withoutPending, Effect.withoutPending]
  | callBroker broker call =>
      simp [apply, World.callBroker, World.withoutPending, Effect.withoutPending]
  | adoptBroker made state =>
      simp [apply, World.adoptBroker, World.withoutPending, EchoClient.withoutPending,
        made.property.withoutPending_eq]
  | keepUser user => exact absurd rfl (other user)
  | invalidateTimer timer =>
      simp [apply, World.emit, World.withoutPending, Effect.withoutPending]
  | scheduleTimer timeInterval user =>
      simp [apply, World.scheduleTimer, World.withoutPending, EchoClient.withoutPending,
        UserState.withoutPending, Effect.withoutPending]
  | callHelper call => simp [apply, World.withoutPending, Effect.withoutPending]
  | _ => rfl

section Operations

variable (platform : Platform H) (world : World H)

/-- What is said of operations that neither look at the pending user nor keep one. -/
theorem Conforms.withoutPending {platform : Platform H} {footprint : Action → Prop}
    {reads : World H → World H → Prop} {callable : World H → Prop}
    {operation : World H → World H}
    (conforms : Conforms platform footprint reads callable operation)
    (readsSame : ∀ world, reads world world.withoutPending)
    (keepsNone : ∀ user, ¬footprint (.keepUser user)) (world : World H) :
    (operation world).withoutPending = operation world.withoutPending := by
  let related (left right : World H) : Prop := left.withoutPending = right
  show related (operation world) (operation world.withoutPending)
  refine conforms.related rfl ?_ ?_
  · rintro left right rfl
    exact readsSame left
  · rintro left right action taken rfl
    refine action.apply_withoutPending platform left fun user same => ?_
    exact keepsNone user (same ▸ taken)

/-- The operations outside the life of the client do neither. -/
theorem step_withoutPending_of_other {op : Op} (other : ∀ call, op ≠ .lifecycle call) :
    (step platform world op).withoutPending = step platform world.withoutPending op := by
  have conforms := step_conforms_all platform op
  refine conforms.withoutPending (fun world => ?_) (fun user taken => ?_) world
  · cases op with
    | report call => exact call.reads_refl world
    | lifecycle call => exact absurd rfl (other call)
    | fireTimer timer => exact ⟨rfl, rfl, rfl, rfl, rfl, rfl, rfl, rfl, rfl⟩
    | clock now => trivial
    | _ => exact ⟨rfl, rfl, rfl, rfl, rfl⟩
  · cases op with
    | report call => exact ReportCall.reports_of_footprint taken
    | media call => cases call <;> exact taken
    | lifecycle call => exact absurd rfl (other call)
    | clock now => cases taken
    | _ => exact taken

/-- Nor does disabling. -/
theorem disable_withoutPending :
    (disable platform world).withoutPending = disable platform world.withoutPending :=
  (step_conforms_all platform (.lifecycle .disable)).withoutPending
    (fun _ => ⟨rfl, rfl, rfl, rfl, rfl⟩) (fun _ => id) world

/-- While events are on, no user is kept. -/
theorem setBBCUser_withoutPending {world : World H} (on : eventsEnabled world = true)
    (user : BBCUser) :
    (setBBCUser platform user world).withoutPending =
      setBBCUser platform user world.withoutPending := by
  let related (left right : World H) : Prop :=
    left.withoutPending = right ∧ eventsEnabled left = true
  suffices both : related (setBBCUser platform user world)
      (setBBCUser platform user world.withoutPending) from both.1
  refine (step_conforms_all platform (.lifecycle (.setBBCUser user))).related_of_callable trivial
    ⟨rfl, on⟩ ?_ ?_
  · rintro left right ⟨rfl, _⟩
    exact ⟨rfl, rfl, rfl, rfl, rfl, rfl, rfl, rfl, rfl⟩
  · rintro left right action taken checked ⟨rfl, leftOn⟩
    have keepsNone (user : BBCUser) : action ≠ .keepUser user := by
      rintro rfl
      exact absurd (leftOn.symm.trans checked) (by decide)
    refine ⟨action.apply_withoutPending platform left keepsNone, ?_⟩
    cases action with
    | setStarted => exact taken.elim
    | setEnabled enabled => exact taken.elim
    | _ => exact leftOn

end Operations

/-! ## Other operations -/

/-- Whether events are on is part of the account. -/
theorem eventsEnabled_of_account {before after : World H} (same : account after = account before) :
    eventsEnabled after = eventsEnabled before :=
  congrArg (fun account : User.Account => account.enabled && account.started) same

theorem account_step_of_other (platform : Platform H) (world : World H) {op : Op}
    (other : ∀ call, op ≠ .lifecycle call) :
    account (step platform world op) = account world := by
  cases op with
  | lifecycle call => exact absurd rfl (other call)
  | fireTimer timer => exact account_fireTimer timer world
  | clock now => rfl
  | _ => exact (step_frame platform world rfl).account_eq

/-! ## Turning events on -/

section Activation

variable (platform : Platform H) {world : World H}

/-- The operation that supplies a user, if there is one. -/
def supplies (user : Option BBCUser) : List Op :=
  user.toList.map fun user => .lifecycle (.setBBCUser user)

theorem eventsEnabled_setBBCUser (user : BBCUser) (world : World H) :
    eventsEnabled (setBBCUser platform user world) = eventsEnabled world := by
  have frame := setBBCUser_frame platform user world
  rw [eventsEnabled, frame.echoEnabled, frame.hasStarted]
  rfl

theorem eventsEnabled_start_of_due (enabled : world.client.echoEnabled = true)
    (unstarted : world.client.hasStarted = false) :
    eventsEnabled (start platform world) = true := by
  have begun : eventsEnabled (world.broadcast .start).setStarted = true := by
    simp [eventsEnabled, enabled]
  rw [start_of_due platform enabled unstarted]
  split
  · rw [eventsEnabled_setBBCUser, begun]
  · exact begun

/-- Starting sets the user that was kept, after it has started. -/
theorem start_withoutPending (enabled : world.client.echoEnabled = true)
    (unstarted : world.client.hasStarted = false) :
    (start platform world).withoutPending =
      run platform (start platform world.withoutPending)
        (supplies world.client.user.bbcUserSetWhileDisabled) := by
  have begun : eventsEnabled (world.broadcast .start).setStarted = true := by
    simp [eventsEnabled, enabled]
  have plain : start platform world.withoutPending =
      (world.broadcast .start).setStarted.withoutPending := by
    rw [start_of_due platform (show world.withoutPending.client.echoEnabled = true from enabled)
      unstarted]
    exact congrArg World.setStarted (World.broadcast_withoutPending _ _).symm
  rw [start_of_due platform enabled unstarted, plain]
  cases world.client.user.bbcUserSetWhileDisabled with
  | none => rfl
  | some user => exact setBBCUser_withoutPending platform begun user

theorem eventsEnabled_disable (world : World H) :
    eventsEnabled (disable platform world) = false := by
  unfold disable
  split
  · rename_i disabled
    simp only [Bool.not_eq_true'] at disabled
    simp [eventsEnabled, disabled]
  · rfl

theorem reenabled_withoutPending (world : World H) :
    (reenabled world).withoutPending = reenabled world.withoutPending :=
  World.broadcast_withoutPending _ _

theorem enable_of_started (disabled : world.client.echoEnabled = false)
    (started : world.client.hasStarted = true) :
    enable platform world = applyPendingUser platform (reenabled world) := by
  rw [enable_of_disabled platform disabled, started, Bool.not_true, Bool.and_false]
  rfl

theorem enable_of_autoStart (disabled : world.client.echoEnabled = false)
    (unstarted : world.client.hasStarted = false)
    (autoStart : world.client.settings.autoStart = true) :
    enable platform world = start platform (reenabled world) := by
  rw [enable_of_disabled platform disabled, unstarted, autoStart,
    applyPendingUser_of_unstarted platform
      (show (reenabled world).client.hasStarted = false from unstarted)]
  rfl

theorem enable_of_manual (disabled : world.client.echoEnabled = false)
    (unstarted : world.client.hasStarted = false)
    (manual : world.client.settings.autoStart = false) :
    enable platform world = reenabled world := by
  rw [enable_of_disabled platform disabled, manual, Bool.false_and,
    applyPendingUser_of_unstarted platform
      (show (reenabled world).client.hasStarted = false from unstarted)]
  rfl

/-- Enabling a client that has started sets the user, after it has enabled the client. -/
theorem applyPendingUser_withoutPending (on : eventsEnabled world = true) :
    (applyPendingUser platform world).withoutPending =
      run platform (applyPendingUser platform world.withoutPending)
        (supplies world.client.user.bbcUserSetWhileDisabled) := by
  have started : world.client.hasStarted = true := (Bool.and_eq_true_iff.mp on).2
  have plain : applyPendingUser platform world.withoutPending = world.withoutPending := rfl
  rw [plain, applyPendingUser, started]
  cases world.client.user.bbcUserSetWhileDisabled with
  | none => rfl
  | some user => exact setBBCUser_withoutPending platform on user

/-- Enabling sets the user if it turns events on, after it has done so. -/
theorem enable_withoutPending (disabled : world.client.echoEnabled = false)
    (on : eventsEnabled (enable platform world) = true) :
    (enable platform world).withoutPending =
      run platform (enable platform world.withoutPending)
        (supplies world.client.user.bbcUserSetWhileDisabled) := by
  have disabled' : world.withoutPending.client.echoEnabled = false := disabled
  cases started : world.client.hasStarted with
  | true =>
      have enabled : eventsEnabled (reenabled world) = true := by
        simp [eventsEnabled, reenabled, started]
      rw [enable_of_started platform disabled started,
        enable_of_started platform disabled' started, ← reenabled_withoutPending]
      exact applyPendingUser_withoutPending platform enabled
  | false =>
      cases autoStart : world.client.settings.autoStart with
      | true =>
          rw [enable_of_autoStart platform disabled started autoStart,
            enable_of_autoStart platform disabled' started autoStart, ← reenabled_withoutPending]
          exact start_withoutPending platform rfl started
      | false =>
          rw [enable_of_manual platform disabled started autoStart] at on
          simp [eventsEnabled, reenabled, started] at on

/-- The operation that turns events on sets the user right afterwards. -/
theorem step_withoutPending_of_on {op : Op} (off : eventsEnabled world = false)
    (on : eventsEnabled (step platform world op) = true) :
    (step platform world op).withoutPending =
      run platform world.withoutPending
        (op :: supplies world.client.user.bbcUserSetWhileDisabled) := by
  rw [run, Transition.run_cons]
  cases op with
  | lifecycle call =>
      cases call with
      | setBBCUser user =>
          rw [step, LifecycleCall.perform, eventsEnabled_setBBCUser, off] at on
          cases on
      | start =>
          cases idle : !world.client.echoEnabled || world.client.hasStarted with
          | true =>
              rw [step, LifecycleCall.perform, start_of_idle platform idle, off] at on
              cases on
          | false =>
              simp only [Bool.or_eq_false_iff, Bool.not_eq_false'] at idle
              exact start_withoutPending platform idle.1 idle.2
      | enable =>
          cases disabled : world.client.echoEnabled with
          | true =>
              rw [step, LifecycleCall.perform, enable, disabled, if_pos rfl, off] at on
              cases on
          | false => exact enable_withoutPending platform disabled on
      | disable =>
          rw [step, LifecycleCall.perform, eventsEnabled_disable] at on
          cases on
  | _ =>
      rw [eventsEnabled_of_account
        (account_step_of_other platform world fun _ same => by cases same), off] at on
      cases on

end Activation

/-! ## While events are off -/

section Off

variable (platform : Platform H) {world : World H} {op : Op}

/-- Events are off before and after an operation. -/
structure StaysOff (world : World H) (op : Op) : Prop where
  before : eventsEnabled world = false
  after : eventsEnabled (step platform world op) = false

variable (stays : StaysOff platform world op)

include stays

theorem StaysOff.start_idle (starts : op = .lifecycle .start) :
    (!world.client.echoEnabled || world.client.hasStarted) = true := by
  subst starts
  cases idle : !world.client.echoEnabled || world.client.hasStarted with
  | true => rfl
  | false =>
      simp only [Bool.or_eq_false_iff, Bool.not_eq_false'] at idle
      have on := eventsEnabled_start_of_due platform idle.1 idle.2
      exact absurd (on.symm.trans stays.after) (by decide)

/-- Enabling leaves events off if the client has not started, nor starts by itself. -/
theorem StaysOff.enable_manual (enables : op = .lifecycle .enable)
    (disabled : world.client.echoEnabled = false) :
    world.client.hasStarted = false ∧ world.client.settings.autoStart = false := by
  subst enables
  have off : eventsEnabled (enable platform world) = false := stays.after
  cases started : world.client.hasStarted with
  | true =>
      have frame := applyPendingUser_frame platform (reenabled world)
      rw [enable_of_started platform disabled started, eventsEnabled, frame.echoEnabled,
        frame.hasStarted, show (reenabled world).client.hasStarted = true from started] at off
      cases off
  | false =>
      cases autoStart : world.client.settings.autoStart with
      | true =>
          have on := eventsEnabled_start_of_due platform
            (show (reenabled world).client.echoEnabled = true from rfl) started
          rw [enable_of_autoStart platform disabled started autoStart, on] at off
          cases off
      | false => exact ⟨rfl, rfl⟩

theorem step_withoutPending (unsupplied : op.suppliedUser = none) :
    (step platform world op).withoutPending = step platform world.withoutPending op := by
  cases op with
  | lifecycle call =>
      cases call with
      | setBBCUser user => cases unsupplied
      | start =>
          have idle := stays.start_idle platform rfl
          have idle' : (!world.withoutPending.client.echoEnabled ||
              world.withoutPending.client.hasStarted) = true := idle
          simp only [step, LifecycleCall.perform]
          rw [start_of_idle platform idle, start_of_idle platform idle']
      | enable =>
          simp only [step, LifecycleCall.perform]
          cases disabled : world.client.echoEnabled with
          | true => simp [enable, disabled]
          | false =>
              obtain ⟨unstarted, manual⟩ := stays.enable_manual platform rfl disabled
              rw [enable_of_manual platform disabled unstarted manual, reenabled_withoutPending]
              exact (enable_of_manual platform
                (show world.withoutPending.client.echoEnabled = false from disabled)
                unstarted manual).symm
      | disable => exact disable_withoutPending platform world
  | _ => exact step_withoutPending_of_other platform world fun _ same => by cases same

/-- Of several users the last is kept. -/
theorem step_pending :
    (step platform world op).client.user.bbcUserSetWhileDisabled =
      op.suppliedUser.or world.client.user.bbcUserSetWhileDisabled := by
  cases op with
  | lifecycle call =>
      cases call with
      | setBBCUser user =>
          rw [step, LifecycleCall.perform, setBBCUser_of_off platform user stays.before]
          rfl
      | start =>
          rw [step, LifecycleCall.perform, start_of_idle platform (stays.start_idle platform rfl)]
          rfl
      | enable =>
          simp only [step, LifecycleCall.perform]
          cases disabled : world.client.echoEnabled with
          | true => simp [enable, disabled, Op.suppliedUser]
          | false =>
              obtain ⟨unstarted, manual⟩ := stays.enable_manual platform rfl disabled
              rw [enable_of_manual platform disabled unstarted manual]
              rfl
      | disable =>
          rcases account_disable platform world with idle | disabled
          · exact congrArg User.Account.pending idle
          · exact congrArg User.Account.pending disabled
  | _ =>
      exact congrArg User.Account.pending
        (account_step_of_other platform world fun _ same => by cases same)

end Off

/-! ## Runs -/

/-- The user that is kept after operations during which events are off. -/
def pendingUser (pending : Option BBCUser) (ops : List Op) : Option BBCUser :=
  ops.foldl (fun pending op => op.suppliedUser.or pending) pending

/-- The operations that supply no user. -/
def unsupplied (ops : List Op) : List Op :=
  ops.filter fun op => op.suppliedUser.isNone

section Runs

variable (platform : Platform H) {world : World H} {ops : List Op}

theorem run_withoutPending (always : Always platform (StaysOff platform) world ops) :
    (run platform world ops).withoutPending =
        run platform world.withoutPending (unsupplied ops) ∧
      (run platform world ops).client.user.bbcUserSetWhileDisabled =
        pendingUser world.client.user.bbcUserSetWhileDisabled ops := by
  constructor
  · apply Transition.projected_run_filter World.withoutPending _ _ always
    · intro world op stays supplied
      cases op with
      | lifecycle call =>
          cases call with
          | setBBCUser user =>
              rw [step, LifecycleCall.perform, setBBCUser_of_off platform user stays.before]
              rfl
          | _ => cases supplied
      | _ => cases supplied
    · intro world op stays unsupplied
      exact step_withoutPending platform stays (Option.isNone_iff_eq_none.mp unsupplied)
  · induction ops generalizing world with
    | nil => rfl
    | cons op ops ih =>
        rw [run, Transition.run_cons, ih always.2, step_pending platform always.1]
        rfl

/-- If every operation finds events off, all but the last leave them off. -/
theorem always_staysOff {op : Op}
    (off : Always platform (fun world _ => eventsEnabled world = false) world (ops ++ [op])) :
    Always platform (StaysOff platform) world ops := by
  induction ops generalizing world with
  | nil => exact trivial
  | cons first ops ih =>
      obtain ⟨before, later⟩ := off
      refine ⟨⟨before, ?_⟩, ih later⟩
      cases ops with
      | nil => exact later.1
      | cons second ops => exact later.1

/-- A user that is supplied while events are off has no effect but to be set by the
operation that turns them on, as if the app supplied it right afterwards, and then only if
it was the last. -/
theorem deferredUser_run {op : Op}
    (off : Always platform (fun world _ => eventsEnabled world = false) world (ops ++ [op]))
    (on : eventsEnabled (run platform world (ops ++ [op])) = true) :
    let plain := run platform world.withoutPending (unsupplied ops ++
      op :: supplies (pendingUser world.client.user.bbcUserSetWhileDisabled ops))
    (run platform world (ops ++ [op])).withoutPending = plain ∧
      ∀ index, received index (run platform world (ops ++ [op])).log =
        received index plain.log := by
  intro plain
  obtain ⟨erased, pending⟩ := run_withoutPending platform (always_staysOff platform off)
  have same : (run platform world (ops ++ [op])).withoutPending = plain := by
    have last := ((Transition.always_concat_iff _ _ _ _ _).mp off).2
    rw [run_concat] at on ⊢
    rw [step_withoutPending_of_on platform last on, erased, pending]
    exact (Transition.run_append _ _ _ _).symm
  refine ⟨same, fun index => ?_⟩
  rw [← same, received_withoutPending]

end Runs

/-- Two users are supplied to a client that has been disabled. -/
def suppliedTwice : List Op :=
  [.lifecycle (.setBBCUser signedInUser), .lifecycle (.setBBCUser signedOut)]

/-- Only the second of them counts, once the client is enabled again. -/
theorem deferredUser_suppliedTwice :
    let world := run reference (trackingWorld signedOut { user := signedOut })
      [.lifecycle .disable]
    ∀ index, received index (run reference world (suppliedTwice ++ [.lifecycle .enable])).log =
      received index (run reference world.withoutPending
        [.lifecycle .enable, .lifecycle (.setBBCUser signedOut)]).log :=
  (deferredUser_run reference (by decide) (by decide)).2

end Echo.Client
