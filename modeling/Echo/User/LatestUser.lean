import Echo.User.Account
import Echo.Client.Reference

/-!
# The latest user wins

Every step of the client is an operation on the account of users, or leaves it
alone.  Hence, once events are on, the helper's last user is the app's last user,
unless a set was postponed while another user was still put off.
-/

namespace Echo.Client

open Echo.Transition Echo.User

variable {H : Type}

/-! ## The account that a world keeps -/

def Effect.storedUser : Effect → Option BBCUser
  | .userPromise (.setBBCUser user) => some user
  | _ => none

/-- The users that the helper was given. -/
def storedUsers (log : List Effect) : List BBCUser :=
  log.filterMap Effect.storedUser

def UserEvent.storedUser : UserEvent → Option BBCUser
  | .stored user => some user
  | _ => none

/-- Any delegate's view of the account shows them. -/
theorem storedUsers_eq (index : Nat) (log : List Effect) :
    storedUsers log = (userEvents index log).filterMap UserEvent.storedUser := by
  rw [userEvents, List.filterMap_filterMap]
  apply List.filterMap_congr
  intro effect _
  cases effect with
  | userPromise call => cases call <;> rfl
  | broadcast call client => cases call <;> rfl
  | delegate other call =>
      cases call with
      | userActionEvent actionType actionName eventLabels =>
          by_cases same : other = index
          · simp [Effect.userEvent, Effect.storedUser, UserEvent.storedUser, same]
          · simp [Effect.userEvent, Effect.storedUser, same]
      | _ => rfl
  | _ => rfl

/-- Only calls on the helper give it a user. -/
theorem storedUsers_of_extends {allowed : Effect → Prop} {before after : List Effect}
    (extended : Extends allowed before after)
    (silent : ∀ effect, allowed effect → effect.kind ≠ .user) :
    storedUsers after = storedUsers before := by
  apply filterMap_extends extended
  intro effect isAllowed
  have other := silent effect isAllowed
  cases effect with
  | userPromise call => exact absurd rfl other
  | _ => rfl

def account (world : World H) : Account where
  enabled := world.client.echoEnabled
  started := world.client.hasStarted
  pending := world.client.user.bbcUserSetWhileDisabled
  stored := storedUsers world.log

theorem SessionFrame.account_eq {before after : World H} (frame : SessionFrame before after) :
    account after = account before := by
  have stored : storedUsers after.log = storedUsers before.log := by
    apply storedUsers_of_extends frame.log
    intro effect ofSession isUser
    simp [Effect.OfSession, isUser] at ofSession
  rw [account, frame.echoEnabled, frame.hasStarted, frame.user, stored]
  rfl

/-! ## The operations on it -/

theorem storedUsers_setEvents (platform : Platform H) (user : BBCUser) (world : World H) :
    (setEvents platform user world).filterMap UserEvent.storedUser = [user] := by
  unfold setEvents
  split
  · rfl
  · unfold reportEvents
    dsimp only
    split
    · split <;> rfl
    · rfl

theorem account_setBBCUser (platform : Platform H) (user : BBCUser) {world : World H}
    (idv5 : world.client.settings.idv5Enabled = true) :
    account (setBBCUser platform user world) =
      (account world).supply user (Postpones platform user world) := by
  cases events : eventsEnabled world with
  | false =>
      have off : (world.client.echoEnabled && world.client.hasStarted) = false := events
      rw [setBBCUser_of_off platform user events]
      simp only [account, Account.supply, off]
      rfl
  | true =>
      have on : (world.client.echoEnabled && world.client.hasStarted) = true := events
      have frame := setBBCUser_frame platform user world
      simp only [account, Account.supply, on, if_true, frame.echoEnabled, frame.hasStarted,
        setBBCUser_pending platform user events idv5, storedUsers_eq 0,
        setBBCUser_events platform user events idv5, List.filterMap_append,
        storedUsers_setEvents, decide_eq_true_eq]

theorem account_broadcast {call : DelegateCall} (other : call.kind ≠ .user) (world : World H) :
    account (world.broadcast call) = account world := by
  have stored : storedUsers (world.broadcast call).log = storedUsers world.log :=
    storedUsers_of_extends
      (Extends.single (fun effect => effect.kind ≠ .user) other world.log) fun _ => id
  rw [account, stored]
  rfl

theorem account_begun (world : World H) :
    account (world.broadcast .start).setStarted = { account world with started := true } := by
  rw [← account_broadcast (show DelegateCall.start.kind ≠ .user by decide) world]
  rfl

theorem account_start (platform : Platform H) {world : World H}
    (idv5 : world.client.settings.idv5Enabled = true) :
    ∃ postponed, account (start platform world) = (account world).start postponed := by
  cases idle : !world.client.echoEnabled || world.client.hasStarted with
  | true =>
      refine ⟨false, ?_⟩
      rw [start_of_idle platform idle, Account.start]
      exact (if_pos idle).symm
  | false =>
      have due : ¬(!(account world).enabled || (account world).started) = true := by
        simpa [account] using idle
      simp only [Bool.or_eq_false_iff, Bool.not_eq_false'] at idle
      rw [start_of_due platform idle.1 idle.2]
      cases pendingEq : world.client.user.bbcUserSetWhileDisabled with
      | none =>
          refine ⟨false, ?_⟩
          simp only [Account.start, if_neg due,
            show (account world).pending = none from pendingEq, account_begun]
      | some user =>
          refine ⟨Postpones platform user (world.broadcast .start).setStarted, ?_⟩
          have supplied := account_setBBCUser platform user
            (show (world.broadcast .start).setStarted.client.settings.idv5Enabled = true from idv5)
          simp only [supplied, account_begun, Account.start, if_neg due,
            show (account world).pending = some user from pendingEq]

theorem account_applyPendingUser (platform : Platform H) {world : World H}
    (idv5 : world.client.settings.idv5Enabled = true) :
    ∃ postponed, account (applyPendingUser platform world) =
      (account world).applyPending postponed := by
  unfold applyPendingUser Account.applyPending
  cases pendingEq : world.client.user.bbcUserSetWhileDisabled with
  | none => exact ⟨false, by simp only [show (account world).pending = none from pendingEq]⟩
  | some user =>
      cases startedEq : world.client.hasStarted with
      | false =>
          exact ⟨false, by simp only [show (account world).pending = some user from pendingEq,
            show (account world).started = false from startedEq]⟩
      | true =>
          refine ⟨Postpones platform user world, ?_⟩
          simp only [show (account world).pending = some user from pendingEq,
            show (account world).started = true from startedEq]
          rw [← account_setBBCUser platform user idv5]
          rfl

theorem account_reenabled (world : World H) :
    account (reenabled world) = { account world with enabled := true } := by
  rw [reenabled, account_broadcast (by decide)]
  rfl

theorem account_enable (platform : Platform H) {world : World H}
    (idv5 : world.client.settings.idv5Enabled = true) :
    ∃ autoStart appliedPostponed startPostponed, account (enable platform world) =
      (account world).enable autoStart appliedPostponed startPostponed := by
  refine ⟨world.client.settings.autoStart, ?_⟩
  cases enabledEq : world.client.echoEnabled with
  | true =>
      refine ⟨false, false, ?_⟩
      simp only [enable, Account.enable, enabledEq,
        show (account world).enabled = true from enabledEq, if_true]
  | false =>
      have frame := applyPendingUser_frame platform (reenabled world)
      obtain ⟨appliedPostponed, applied⟩ := account_applyPendingUser platform
        (show (reenabled world).client.settings.idv5Enabled = true from idv5)
      obtain ⟨startPostponed, started⟩ := account_start platform
        (show (applyPendingUser platform (reenabled world)).client.settings.idv5Enabled = true by
          rw [frame.settings]
          exact idv5)
      refine ⟨appliedPostponed, startPostponed, ?_⟩
      rw [account_reenabled] at applied
      have startedEq : (Account.applyPending appliedPostponed
          { account world with enabled := true }).started = world.client.hasStarted := by
        rw [← applied]
        exact frame.hasStarted
      rw [enable_of_disabled platform enabledEq]
      simp only [Account.enable, show (account world).enabled = false from enabledEq,
        Bool.false_eq_true, if_false, startedEq]
      split
      · rw [started, applied]
      · rw [applied]

theorem account_disable (platform : Platform H) (world : World H) :
    account (disable platform world) = account world ∨
      account (disable platform world) = (account world).disable := by
  unfold disable
  split
  · exact .inl rfl
  · right
    rw [account_broadcast (by decide), Account.disable,
      ← (clearMedia_frame platform world).account_eq]
    rfl

/-! ## Steps and runs -/

/-- The user that the app supplies with an operation. -/
def Op.suppliedUser : Op → Option BBCUser
  | .lifecycle (.setBBCUser user) => some user
  | _ => none

/-- The last user that the app has supplied, the initialiser's argument at first. -/
def latestUser (bbcUser : BBCUser) (ops : List Op) : BBCUser :=
  ops.foldl (fun latest op => op.suppliedUser.getD latest) bbcUser

theorem latestUser_concat (bbcUser : BBCUser) (ops : List Op) (op : Op) :
    latestUser bbcUser (ops ++ [op]) = op.suppliedUser.getD (latestUser bbcUser ops) := by
  simp [latestUser]

/-- A set that will be postponed finds no other user put off. -/
def ReplacesPending (platform : Platform H) (world : World H) : Op → Prop
  | .lifecycle (.setBBCUser user) =>
      eventsEnabled world = true → Postpones platform user world →
        ∀ pending ∈ world.client.user.bbcUserSetWhileDisabled, pending = user
  | _ => True

theorem account_fireTimer (timer : TimerRef) (world : World H) :
    account (fireTimer timer world) = account world := by
  unfold fireTimer expireToken
  split
  · dsimp only
    split
    · simp [account, storedUsers, Effect.storedUser]
    · rfl
  · rfl

/-- A step keeps the account in order. -/
theorem account_step {platform : Platform H} {world : World H}
    (idv5 : world.client.settings.idv5Enabled = true) {latest : BBCUser}
    (kept : (account world).Kept latest) {op : Op} (replaces : ReplacesPending platform world op) :
    (account world).Follows (op.suppliedUser.getD latest)
      (account (step platform world op)) := by
  have unchanged {after : World H} (accountEq : account after = account world) :
      (account world).Follows latest (account after) := by
    rw [accountEq]
    exact ⟨kept, .refl _ _⟩
  cases op with
  | lifecycle call =>
      cases call with
      | setBBCUser user =>
          rw [step, LifecycleCall.perform, account_setBBCUser platform user idv5]
          apply Account.supply_follows
          intro enabled started postpones
          exact replaces (by simp [eventsEnabled, show world.client.echoEnabled = true from enabled,
            show world.client.hasStarted = true from started]) (of_decide_eq_true postpones)
      | start =>
          obtain ⟨postponed, accountEq⟩ := account_start platform idv5
          rw [step, LifecycleCall.perform, accountEq]
          exact Account.start_follows kept postponed
      | enable =>
          obtain ⟨autoStart, appliedPostponed, startPostponed, accountEq⟩ :=
            account_enable platform idv5
          rw [step, LifecycleCall.perform, accountEq]
          exact Account.enable_follows kept autoStart appliedPostponed startPostponed
      | disable =>
          rcases account_disable platform world with idle | disabled
          · exact unchanged idle
          · rw [step, LifecycleCall.perform, disabled]
            exact Account.disable_follows kept
  | fireTimer timer => exact unchanged (account_fireTimer timer world)
  | clock now => exact unchanged rfl
  | _ => exact unchanged (step_frame platform world rfl).account_eq

/-- Before validation the client has put its argument off. -/
theorem prepare_account_kept (platform : Platform H) (arguments : InitArguments) (store : H)
    (now : Date) :
    (account (prepare platform arguments store now)).Kept arguments.bbcUser := by
  obtain ⟨delegates, prepared⟩ := prepare_client platform arguments store now
  have pending : (account (prepare platform arguments store now)).pending =
      some arguments.bbcUser := by
    rw [account, prepared]
    rfl
  have unstarted : (account (prepare platform arguments store now)).started = false := by
    rw [account, prepared]
    rfl
  constructor
  · intro user pendingEq
    exact Option.some.inj (pendingEq.symm.trans pending)
  · intro _
    exact pending
  · intro started
    exact absurd (started.symm.trans unstarted) (by decide)
  · intro _ started
    exact absurd (started.symm.trans unstarted) (by decide)

/-- The initialiser leaves the account of its own argument in order. -/
theorem Launched.account_kept {platform : Platform H} {arguments : InitArguments}
    {world : World H} (launched : Launched platform arguments world)
    (idv5 : world.client.settings.idv5Enabled = true) :
    (account world).Kept arguments.bbcUser := by
  obtain ⟨store, now, rfl⟩ := launched.exists_complete
  have preparedKept := prepare_account_kept platform arguments store now
  rw [complete_settings] at idv5
  have registered (world : World H) : account world.register = account world := by
    simp [account, storedUsers, registrations, Effect.storedUser]
  rw [complete_eq, registered]
  split
  · obtain ⟨postponed, started⟩ := account_start platform idv5
    rw [started]
    exact (Account.start_follows preparedKept postponed).kept
  · exact preparedKept

theorem account_run {platform : Platform H} {arguments : InitArguments} {world : World H}
    (launched : Launched platform arguments world)
    (idv5 : world.client.settings.idv5Enabled = true) {ops : List Op}
    (always : Always platform (ReplacesPending platform) world ops) :
    (run platform world ops).client.settings.idv5Enabled = true ∧
      (account (run platform world ops)).Kept (latestUser arguments.bbcUser ops) := by
  have preserved (history : List Op) (world : World H) (op : Op)
      (holds : world.client.settings.idv5Enabled = true ∧
        (account world).Kept (latestUser arguments.bbcUser history))
      (replaces : ReplacesPending platform world op) :
      (step platform world op).client.settings.idv5Enabled = true ∧
        (account (step platform world op)).Kept
          (latestUser arguments.bbcUser (history ++ [op])) := by
    rw [step_settings, latestUser_concat]
    exact ⟨holds.1, (account_step holds.1 holds.2 replaces).kept⟩
  exact history_run preserved ⟨idv5, launched.account_kept idv5⟩ always

/-- The latest user wins, along every run in which no set is postponed while another
user is still put off: whenever a part of the run ends with the client enabled and
started, the helper was given the app's last user last, and no step, `enable` and
`start` included, gives the helper a user that the app has replaced. -/
theorem latestUser_stored {platform : Platform H} {arguments : InitArguments}
    {world : World H} (launched : Launched platform arguments world)
    (idv5 : world.client.settings.idv5Enabled = true) {ops : List Op}
    (always : Always platform (ReplacesPending platform) world ops) :
    (∀ first, first <+: ops → (run platform world first).client.echoEnabled = true →
      (run platform world first).client.hasStarted = true →
        (storedUsers (run platform world first).log).getLast? =
          some (latestUser arguments.bbcUser first)) ∧
      ∀ first op, first ++ [op] <+: ops →
        ∀ user ∈ storedUsers (emitted platform (run platform world first) op),
          user = latestUser arguments.bbcUser (first ++ [op]) := by
  constructor
  · intro first initial enabled started
    obtain ⟨_, kept⟩ := account_run launched idv5 (always.restrict initial)
    exact kept.current enabled started
  · intro first op initial user member
    obtain ⟨before, replaces⟩ := (always_concat_iff _ _ _ _ _).mp (always.restrict initial)
    obtain ⟨stillIdv5, kept⟩ := account_run launched idv5 before
    obtain ⟨given, storedEq, allLatest⟩ := (account_step stillIdv5 kept replaces).given
    have emittedEq : storedUsers (emitted platform (run platform world first) op) = given := by
      have appended : storedUsers (run platform world first).log ++
          storedUsers (emitted platform (run platform world first) op) =
          storedUsers (run platform world first).log ++ given := by
        calc
          _ = storedUsers (step platform (run platform world first) op).log := by
            rw [step_log]
            exact List.filterMap_append.symm
          _ = _ := storedEq
      exact List.append_cancel_left appended
    rw [emittedEq] at member
    rw [latestUser_concat]
    exact allLatest user member

instance (platform : Platform H) (world : World H) :
    (op : Op) → Decidable (ReplacesPending platform world op)
  | .lifecycle (.setBBCUser _) => inferInstanceAs (Decidable (_ → _ → _))
  | .lifecycle .start | .lifecycle .enable | .lifecycle .disable | .media _ | .live _ _
  | .onDemand _ _ | .report _ | .getComScoreDeviceID | .fireTimer _ | .playhead _ | .clock _ =>
      .isTrue trivial

/-- A user signs in, which is postponed, and signs out while the client is disabled. -/
def signOutWhileDisabled : List Op :=
  [.lifecycle (.setBBCUser signedInUser), .lifecycle .disable,
    .lifecycle (.setBBCUser signedOut), .lifecycle .enable]

theorem latestUser_stored_signOutWhileDisabled :
    (∀ first, first <+: signOutWhileDisabled →
      (run reference (trackingWorld signedOut { user := signedOut }) first).client.echoEnabled =
        true →
      (run reference (trackingWorld signedOut { user := signedOut }) first).client.hasStarted =
        true →
        (storedUsers (run reference (trackingWorld signedOut { user := signedOut })
          first).log).getLast? = some (latestUser signedOut first)) ∧
      ∀ first op, first ++ [op] <+: signOutWhileDisabled →
        ∀ user ∈ storedUsers (emitted reference
          (run reference (trackingWorld signedOut { user := signedOut }) first) op),
          user = latestUser signedOut (first ++ [op]) :=
  latestUser_stored (trackingWorld_launched signedOut { user := signedOut }) (by decide)
    (by decide)

/-- The initialiser's user signs in, which is postponed, and then signs out, which is
postponed too; `enable` finds the first user still put off. -/
def signOutThenReenable : List Op :=
  [.lifecycle (.setBBCUser signedOut), .lifecycle .disable, .lifecycle .enable]

/-- The helper is given the user last that the app has replaced. -/
theorem not_latestUser_stored_signOutThenReenable :
    Launched reference (trackingArguments signedInUser)
        (trackingWorld signedInUser { user := signedOut }) ∧
      (trackingWorld signedInUser { user := signedOut }).client.settings.idv5Enabled = true ∧
      (run reference (trackingWorld signedInUser { user := signedOut })
        signOutThenReenable).client.echoEnabled = true ∧
      (run reference (trackingWorld signedInUser { user := signedOut })
        signOutThenReenable).client.hasStarted = true ∧
      (storedUsers (run reference (trackingWorld signedInUser { user := signedOut })
        signOutThenReenable).log).getLast? ≠
        some (latestUser signedInUser signOutThenReenable) :=
  ⟨trackingWorld_launched signedInUser { user := signedOut }, by decide, by decide, by decide,
    by decide⟩

end Echo.Client
