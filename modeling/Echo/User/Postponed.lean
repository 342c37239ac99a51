import Echo.Client.App
import Echo.Client.Laws
import Echo.User.Events

/-!
# Postponed transitions

A change of user that resets the device id cannot be reported at once; the helper
keeps its transition until a later set, perhaps in a later launch, reports it and
clears the slot.  The transition is lost when that set reports the reset of the
device id instead.
-/

namespace Echo.Client

open Echo.Transition

variable {H : Type}

/-! ## Reading a log -/

/-- The user action events that the delegate at an index has received. -/
def userActions (index : Nat) (log : List Effect) : List DelegateCall :=
  (received index log).filter DelegateCall.isUserAction

def Effect.trackPostponed (slot : Option UserStateTransition) :
    Effect → Option UserStateTransition
  | .userPromise (.setPostponedUserStateTransition transition) => some transition
  | .userPromise .clearPostponedUserStateTransition => none
  | _ => slot

/-- The transition that is postponed after some calls. -/
def postponedAfter (slot : Option UserStateTransition) (log : List Effect) :
    Option UserStateTransition :=
  log.foldl Effect.trackPostponed slot

theorem postponedAfter_append (slot : Option UserStateTransition) (first second : List Effect) :
    postponedAfter slot (first ++ second) = postponedAfter (postponedAfter slot first) second :=
  List.foldl_append

def UserEvent.action : UserEvent → Option DelegateCall
  | .reported actionType actionName eventLabels =>
      some (.userActionEvent actionType actionName eventLabels)
  | _ => none

def UserEvent.trackPostponed (slot : Option UserStateTransition) :
    UserEvent → Option UserStateTransition
  | .postponed transition => some transition
  | .cleared => none
  | _ => slot

/-- The user actions are those of the delegate's account of users. -/
theorem userActions_eq (index : Nat) (log : List Effect) :
    userActions index log = (userEvents index log).filterMap UserEvent.action := by
  rw [userActions, received, userEvents, List.filter_filterMap, List.filterMap_filterMap]
  apply List.filterMap_congr
  intro effect _
  cases effect with
  | broadcast call client => cases call <;> rfl
  | delegate other call =>
      by_cases same : other = index
      · cases call <;> simp [Effect.receivedBy, Effect.userEvent, same, Option.filter,
          DelegateCall.isUserAction, UserEvent.action]
      · cases call <;> simp [Effect.receivedBy, Effect.userEvent, same]
  | userPromise call => cases call <;> rfl
  | _ => rfl

/-- Every account of users shows what is postponed. -/
theorem postponedAfter_eq (index : Nat) (slot : Option UserStateTransition)
    (log : List Effect) :
    postponedAfter slot log = (userEvents index log).foldl UserEvent.trackPostponed slot := by
  unfold postponedAfter userEvents
  induction log generalizing slot with
  | nil => rfl
  | cons effect log ih =>
      rw [List.foldl_cons, List.filterMap_cons, ih]
      cases effect with
      | userPromise call => cases call <;> rfl
      | broadcast call client => cases call <;> rfl
      | delegate other call =>
          cases call with
          | userActionEvent actionType actionName eventLabels =>
              by_cases same : other = index
              · simp [Effect.userEvent, Effect.trackPostponed, UserEvent.trackPostponed, same]
              · simp [Effect.userEvent, Effect.trackPostponed, same]
          | _ => rfl
      | _ => rfl

theorem userEvent_eq_cleared_iff (index : Nat) (effect : Effect) :
    effect.userEvent index = some .cleared ↔
      effect = .userPromise .clearPostponedUserStateTransition := by
  constructor
  · intro eventEq
    unfold Effect.userEvent at eventEq
    split at eventEq
    all_goals first | rfl | simp at eventEq
  · rintro rfl
    rfl

theorem userEvent_eq_postponed_iff (index : Nat) (effect : Effect)
    (transition : UserStateTransition) :
    effect.userEvent index = some (.postponed transition) ↔
      effect = .userPromise (.setPostponedUserStateTransition transition) := by
  constructor
  · intro eventEq
    unfold Effect.userEvent at eventEq
    split at eventEq
    all_goals simp_all
  · rintro rfl
    rfl

theorem mem_userEvents_iff {effect : Effect} {event : UserEvent} {index : Nat}
    (only : ∀ other : Effect, other.userEvent index = some event ↔ other = effect)
    (log : List Effect) : event ∈ userEvents index log ↔ effect ∈ log := by
  rw [userEvents, List.mem_filterMap]
  constructor
  · rintro ⟨other, member, eventEq⟩
    exact (only other).mp eventEq ▸ member
  · intro member
    exact ⟨effect, member, (only effect).mpr rfl⟩

/-- An effect that neither fills nor empties the slot. -/
def Effect.LeavesSlot (effect : Effect) : Prop :=
  effect ≠ .userPromise .clearPostponedUserStateTransition ∧
    ∀ transition, effect ≠ .userPromise (.setPostponedUserStateTransition transition)

theorem Effect.leavesSlot_of_kind {effect : Effect} (other : effect.kind ≠ .user) :
    effect.LeavesSlot := by
  constructor
  · rintro rfl
    exact other rfl
  · rintro transition rfl
    exact other rfl

theorem trackPostponed_of_leavesSlot {effect : Effect} (leaves : effect.LeavesSlot)
    (slot : Option UserStateTransition) : effect.trackPostponed slot = slot := by
  cases effect with
  | userPromise call =>
      cases call with
      | setPostponedUserStateTransition transition => exact absurd rfl (leaves.2 transition)
      | clearPostponedUserStateTransition => exact absurd rfl leaves.1
      | _ => rfl
  | _ => rfl

/-! ## One set -/

/-- A postponed transition is reported before it is forgotten: when the slot is
cleared, every delegate has received exactly one user action, which is named after the
postponed transition and marked as a reset.  Nothing is reported when a transition is
postponed. -/
structure ReportsPostponed (platform : Platform H) (delegates : List Delegate)
    (slot : Option UserStateTransition) (effects : List Effect) : Prop where
  reported : .userPromise .clearPostponedUserStateTransition ∈ effects →
    ∃ transition ∈ slot, ∀ index < delegates.length, ∃ eventLabels,
      userActions index effects = [.userActionEvent userStateChangeAction
        (platform.transitionValue transition) (some eventLabels)] ∧
        eventLabels.lookup "device_id_reset" = some "1"
  exclusive : ∀ transition,
    .userPromise (.setPostponedUserStateTransition transition) ∈ effects →
      ∀ index, userActions index effects = []

/-- The set clears the slot but reports the reset of the device id instead of the
postponed transition: the library was installed or upgraded, or there is no transition
to report. -/
def DropsPostponed (platform : Platform H) (user : BBCUser) (world : World H) : Prop :=
  (resultFor platform user world).isPostponedUserStateChange = true ∧
    ¬Postpones platform user world ∧
    ∃ reason ∈ (resultFor platform user world).deviceIDResetReason,
      (resultFor platform user world).userStateTransition = .none ∨
        reason = .firstInstall ∨ reason = .echoUpgrade

theorem userUpdate_of_not_drops {platform : Platform H} {result : UserPromiseHelperResult}
    (names : ¬∃ reason ∈ result.deviceIDResetReason, result.userStateTransition = .none ∨
      reason = .firstInstall ∨ reason = .echoUpgrade) :
    (userUpdate platform result).actionType = userStateChangeAction ∧
      (userUpdate platform result).actionName =
        platform.transitionValue result.userStateTransition := by
  unfold userUpdate
  dsimp only
  split
  · exact ⟨rfl, rfl⟩
  · rename_i reason reasonEq
    have other : ¬(result.userStateTransition = .none ∨ reason = .firstInstall ∨
        reason = .echoUpgrade) := fun resets => names ⟨reason, reasonEq, resets⟩
    rw [if_neg other]
    split
    · exact ⟨rfl, rfl⟩
    · exact ⟨rfl, rfl⟩

theorem userUpdate_of_drops {platform : Platform H} {result : UserPromiseHelperResult}
    (resets : ∃ reason ∈ result.deviceIDResetReason, result.userStateTransition = .none ∨
      reason = .firstInstall ∨ reason = .echoUpgrade) :
    (userUpdate platform result).actionType = echoDeviceIDActionType := by
  obtain ⟨reason, reasonEq, resets⟩ := resets
  have known : result.deviceIDResetReason = some reason := reasonEq
  simp only [userUpdate, known, if_pos resets]

/-- The mark of a reset survives the label that is added to every report. -/
theorem lookup_deviceIDResetLabels {platform : Platform H}
    (distinct : platform.labelKey .isBackground ≠ "device_id_reset") :
    (deviceIDResetLabels.insert (platform.labelKey .isBackground) "true").lookup
      "device_id_reset" = some "1" := by
  rw [Finmap.lookup_insert_of_ne _ distinct.symm]
  rfl

/-- What a set reports when it clears the slot. -/
theorem setEvents_of_cleared {platform : Platform H} {user : BBCUser} {world : World H}
    (cleared : .cleared ∈ setEvents platform user world) :
    ¬Postpones platform user world ∧
      (resultFor platform user world).isPostponedUserStateChange = true ∧
      (setEvents platform user world).filterMap UserEvent.action =
        [.userActionEvent (userUpdate platform (resultFor platform user world)).actionType
          (userUpdate platform (resultFor platform user world)).actionName
          (some (deviceIDResetLabels.insert (platform.labelKey .isBackground) "true"))] := by
  unfold setEvents reportEvents at cleared ⊢
  dsimp only at cleared ⊢
  by_cases postpones : Postpones platform user world
  · simp [postpones] at cleared
  · rw [if_neg postpones] at cleared ⊢
    split at cleared
    · rename_i reports
      rw [if_pos reports]
      cases postponed : (resultFor platform user world).isPostponedUserStateChange with
      | false => simp [postponed] at cleared
      | true => exact ⟨postpones, rfl, rfl⟩
    · simp at cleared

/-- A set that drops the postponed transition clears the slot. -/
theorem cleared_of_drops {platform : Platform H} {user : BBCUser} {world : World H}
    (drops : DropsPostponed platform user world) :
    .cleared ∈ setEvents platform user world := by
  obtain ⟨postponed, reports, reason, known, _⟩ := drops
  have reset : (resultFor platform user world).deviceIDResetReason = some reason := known
  simp [setEvents, reportEvents, reports, postponed, reset]

/-- A postponed set reports nothing. -/
theorem setEvents_of_postponed {platform : Platform H} {user : BBCUser} {world : World H}
    {transition : UserStateTransition}
    (postponed : .postponed transition ∈ setEvents platform user world) :
    (setEvents platform user world).filterMap UserEvent.action = [] := by
  unfold setEvents reportEvents at postponed ⊢
  dsimp only at postponed ⊢
  by_cases postpones : Postpones platform user world
  · rw [if_pos postpones]
    rfl
  · rw [if_neg postpones] at postponed
    split at postponed
    · split at postponed
      · simp at postponed
      · simp at postponed
    · simp at postponed

section Call

variable {platform : Platform H} {slot : H → Option UserStateTransition}
  (laws : PostponedSlot platform.userPromise slot) {user : BBCUser} {world : World H}

include laws

theorem slot_loadPreviousUser :
    slot (loadPreviousUser platform world).userPromise = slot world.userPromise := by
  unfold loadPreviousUser
  split
  · rfl
  · exact laws.getBBCUser world.userPromise

theorem slot_storeUser :
    slot (storeUser platform user world).2.userPromise = slot world.userPromise := by
  rw [(storeUser_reschedules platform user world).userPromise, shareUser,
    shareDeviceID_userPromise, laws.getDeviceID]
  exact (laws.setBBCUser user _).trans (slot_loadPreviousUser laws)

theorem resultFor_isPostponed :
    (resultFor platform user world).isPostponedUserStateChange =
      (slot world.userPromise).isSome := by
  rw [resultFor, laws.isPostponed, slot_loadPreviousUser laws]

theorem resultFor_transition {transition : UserStateTransition}
    (member : transition ∈ slot world.userPromise) :
    (resultFor platform user world).userStateTransition = transition := by
  apply laws.transition
  rw [slot_loadPreviousUser laws]
  exact member

/-- The slot after a set is the one that its events leave. -/
theorem slot_setBBCUser (on : eventsEnabled world = true)
    (idv5 : world.client.settings.idv5Enabled = true) :
    slot (setBBCUser platform user world).userPromise =
      (setEvents platform user world).foldl UserEvent.trackPostponed
        (slot world.userPromise) := by
  by_cases postpones : Postpones platform user world
  · obtain ⟨setEq, enabled⟩ := setBBCUser_of_postpones platform user on idv5 postpones
    rw [setEq, resetDeviceId, if_pos enabled, setEvents, if_pos postpones]
    exact laws.fills _ _
  · rw [setBBCUser_of_not_postpones platform user on idv5 postpones, setEvents,
      if_neg postpones]
    unfold reportUser reportEvents sendUserUpdateEvent
    dsimp only
    split
    · split
      · exact laws.empties _
      · exact slot_storeUser laws
    · exact slot_storeUser laws

/-- The calls of a set report what was postponed exactly if the set does not drop it. -/
theorem reportsPostponed_iff (distinct : platform.labelKey .isBackground ≠ "device_id_reset")
    {effects : List Effect}
    (events : ∀ index, userEvents index effects = setEvents platform user world)
    (delegates : List Delegate) :
    ReportsPostponed platform delegates (slot world.userPromise) effects ↔
      delegates = [] ∨ ¬DropsPostponed platform user world := by
  have clearedIff : .userPromise .clearPostponedUserStateTransition ∈ effects ↔
      .cleared ∈ setEvents platform user world := by
    rw [← events 0, mem_userEvents_iff (userEvent_eq_cleared_iff 0)]
  have actionsEq (index : Nat) : userActions index effects =
      (setEvents platform user world).filterMap UserEvent.action := by
    rw [userActions_eq, events]
  constructor
  · intro reports
    by_contra both
    rw [not_or, not_not] at both
    rcases both with ⟨someDelegate, drops⟩
    have cleared := cleared_of_drops drops
    obtain ⟨transition, _, allReported⟩ := reports.reported (clearedIff.mpr cleared)
    obtain ⟨eventLabels, actions, _⟩ :=
      allReported 0 (List.length_pos_iff.mpr someDelegate)
    rw [actionsEq, (setEvents_of_cleared cleared).2.2, userUpdate_of_drops drops.2.2] at actions
    simp [userStateChangeAction, echoDeviceIDActionType] at actions
  · intro keeps
    constructor
    · intro clears
      have cleared := clearedIff.mp clears
      obtain ⟨reports, postponed, actions⟩ := setEvents_of_cleared cleared
      rw [resultFor_isPostponed laws] at postponed
      obtain ⟨transition, slotEq⟩ := Option.isSome_iff_exists.mp postponed
      refine ⟨transition, slotEq, ?_⟩
      intro index present
      have keptIn : ¬DropsPostponed platform user world := by
        rcases keeps with none | kept
        · rw [none] at present
          exact absurd present (Nat.not_lt_zero index)
        · exact kept
      have named : (userUpdate platform (resultFor platform user world)).actionType =
          userStateChangeAction ∧ _ := userUpdate_of_not_drops fun resets =>
        keptIn ⟨(resultFor_isPostponed laws).trans postponed, reports, resets⟩
      refine ⟨_, ?_, lookup_deviceIDResetLabels distinct⟩
      rw [actionsEq, actions, named.1, named.2, resultFor_transition laws slotEq]
    · intro transition stores index
      rw [actionsEq]
      apply setEvents_of_postponed
      rw [← events 0, mem_userEvents_iff (userEvent_eq_postponed_iff 0 · transition)]
      exact stores

end Call

/-! ## The set in a step -/

/-- The set that `start` makes, and the world it is made in. -/
def startCall (world : World H) : Option (BBCUser × World H) :=
  if !world.client.echoEnabled || world.client.hasStarted then none
  else world.client.user.bbcUserSetWhileDisabled.map fun user =>
    (user, (world.broadcast .start).setStarted)

/-- The set that `enable` makes, itself or through `start`. -/
def enableCall (world : World H) : Option (BBCUser × World H) :=
  if world.client.echoEnabled then none
  else if world.client.hasStarted then
    world.client.user.bbcUserSetWhileDisabled.map fun user => (user, reenabled world)
  else if world.client.settings.autoStart then startCall (reenabled world)
  else none

/-- The set that the initialiser makes once the configuration is valid. -/
def completeCall (world : World H) : Option (BBCUser × World H) :=
  if world.client.echoEnabled && world.client.settings.autoStart then startCall world else none

/-- The set that a step of the app makes. -/
def userCall (platform : Platform H) (world : World H) : AppOp → Option (BBCUser × World H)
  | .op (.lifecycle (.setBBCUser user)) => some (user, world)
  | .op (.lifecycle .start) => startCall world
  | .op (.lifecycle .enable) => enableCall world
  | .op _ => none
  | .launch arguments now =>
      match isValidConfig platform arguments.appName
          (collateConfig platform arguments.config) with
      | .error _ => none
      | .ok () => completeCall (prepare platform arguments world.userPromise now)

/-- A set goes through with events on and idv5. -/
def GoesThrough (call : BBCUser × World H) : Prop :=
  eventsEnabled call.2 = true ∧ call.2.client.settings.idv5Enabled = true

instance (call : BBCUser × World H) : Decidable (GoesThrough call) :=
  inferInstanceAs (Decidable (_ ∧ _))

/-- What a function with at most one set does to the slot and to the account of
users. -/
def Accounted (platform : Platform H) (slot : H → Option UserStateTransition)
    (before after : World H) (call : Option (BBCUser × World H)) : Prop :=
  (∃ made ∈ call, GoesThrough made ∧ slot made.2.userPromise = slot before.userPromise ∧
    (∀ index, userEvents index after.log =
      userEvents index before.log ++ setEvents platform made.1 made.2) ∧
    slot after.userPromise = (setEvents platform made.1 made.2).foldl UserEvent.trackPostponed
      (slot before.userPromise)) ∨
  ((∀ made ∈ call, ¬GoesThrough made) ∧ Extends Effect.LeavesSlot before.log after.log ∧
    slot after.userPromise = slot before.userPromise)

section Steps

variable {platform : Platform H} {slot : H → Option UserStateTransition}
  (laws : PostponedSlot platform.userPromise slot) {world : World H}

include laws

theorem setBBCUser_accounted (user : BBCUser) :
    Accounted platform slot world (setBBCUser platform user world) (some (user, world)) := by
  by_cases through : GoesThrough (user, world)
  · exact .inl ⟨(user, world), rfl, through, rfl,
      setBBCUser_events platform user through.1 through.2,
      slot_setBBCUser laws through.1 through.2⟩
  · right
    refine ⟨?_, ?_⟩
    · rintro made ⟨⟩
      exact through
    · have unheard : (setBBCUser platform user world).log = world.log ∧
          (setBBCUser platform user world).userPromise = world.userPromise := by
        cases events : eventsEnabled world with
        | false =>
            rw [setBBCUser_of_off platform user events]
            exact ⟨rfl, rfl⟩
        | true =>
            have idv5 : world.client.settings.idv5Enabled = false := by
              simpa [GoesThrough, events] using through
            simp [setBBCUser, userShouldUpdate, events, idv5]
      rw [unheard.1, unheard.2]
      exact ⟨.refl _ _, rfl⟩

omit laws in
/-- Calls that are not accounted may come first. -/
theorem Accounted.of_prefix {before middle after : World H} {call : Option (BBCUser × World H)}
    (first : ∀ index, userEvents index middle.log = userEvents index before.log)
    (leaves : Extends Effect.LeavesSlot before.log middle.log)
    (same : slot middle.userPromise = slot before.userPromise)
    (accounted : Accounted platform slot middle after call) :
    Accounted platform slot before after call := by
  rcases accounted with ⟨made, member, through, slotEq, events, slotAfter⟩ |
    ⟨none, extended, slotAfter⟩
  · left
    refine ⟨made, member, through, slotEq.trans same, ?_, ?_⟩
    · intro index
      rw [events, first]
    · rw [slotAfter, same]
  · right
    exact ⟨none, leaves.trans extended, slotAfter.trans same⟩

omit laws in
/-- Or they may come last. -/
theorem Accounted.of_suffix {before middle after : World H} {call : Option (BBCUser × World H)}
    (accounted : Accounted platform slot before middle call)
    (last : ∀ index, userEvents index after.log = userEvents index middle.log)
    (leaves : Extends Effect.LeavesSlot middle.log after.log)
    (same : after.userPromise = middle.userPromise) :
    Accounted platform slot before after call := by
  rcases accounted with ⟨made, member, through, slotEq, events, slotAfter⟩ |
    ⟨none, extended, slotAfter⟩
  · left
    refine ⟨made, member, through, slotEq, ?_, ?_⟩
    · intro index
      rw [last, events]
    · rw [same, slotAfter]
  · right
    refine ⟨none, extended.trans leaves, ?_⟩
    rw [same, slotAfter]

omit laws in
/-- Nothing is accounted for. -/
theorem Accounted.of_leaves {before after : World H}
    (leaves : Extends Effect.LeavesSlot before.log after.log)
    (same : after.userPromise = before.userPromise) :
    Accounted platform slot before after none := by
  right
  refine ⟨?_, leaves, congrArg slot same⟩
  rintro made ⟨⟩

omit laws in
/-- Telling the delegates about the life of the client may come first. -/
theorem Accounted.of_broadcast {call : DelegateCall} (lifecycle : call.kind = .lifecycle)
    {before middle after : World H} {made : Option (BBCUser × World H)} {client : EchoClient}
    (log : middle.log = before.log ++ [.broadcast call client])
    (same : middle.userPromise = before.userPromise)
    (accounted : Accounted platform slot middle after made) :
    Accounted platform slot before after made := by
  apply accounted.of_prefix
  · intro index
    rw [log, userEvents_append]
    cases call <;> first | cases lifecycle; done | exact List.append_nil _
  · rw [log]
    apply Extends.single
    apply Effect.leavesSlot_of_kind
    rw [show Effect.kind (.broadcast call client) = .lifecycle from lifecycle]
    decide
  · rw [same]

theorem start_accounted : Accounted platform slot world (start platform world)
    (startCall world) := by
  unfold startCall
  cases idle : !world.client.echoEnabled || world.client.hasStarted with
  | true =>
      rw [start_of_idle platform idle]
      exact .of_leaves (.refl _ _) rfl
  | false =>
      simp only [Bool.or_eq_false_iff, Bool.not_eq_false'] at idle
      rw [start_of_due platform idle.1 idle.2]
      have begun {after : World H} {made : Option (BBCUser × World H)} :
          Accounted platform slot (world.broadcast .start).setStarted after made →
            Accounted platform slot world after made :=
        .of_broadcast (show DelegateCall.start.kind = .lifecycle from rfl) rfl rfl
      apply begun
      cases pendingEq : world.client.user.bbcUserSetWhileDisabled with
      | none => exact .of_leaves (.refl _ _) rfl
      | some user => exact setBBCUser_accounted laws user

theorem applyPendingUser_accounted :
    Accounted platform slot world (applyPendingUser platform world)
      (if world.client.hasStarted then
        world.client.user.bbcUserSetWhileDisabled.map fun user => (user, world)
      else none) := by
  unfold applyPendingUser
  cases startedEq : world.client.hasStarted with
  | false =>
      cases pendingEq : world.client.user.bbcUserSetWhileDisabled with
      | none => exact .of_leaves (.refl _ _) rfl
      | some user => exact .of_leaves (.refl _ _) rfl
  | true =>
      cases pendingEq : world.client.user.bbcUserSetWhileDisabled with
      | none => exact .of_leaves (.refl _ _) rfl
      | some user => exact setBBCUser_accounted laws user

theorem enable_accounted : Accounted platform slot world (enable platform world)
    (enableCall world) := by
  unfold enableCall
  cases enabledEq : world.client.echoEnabled with
  | true =>
      rw [enable, enabledEq]
      exact .of_leaves (.refl _ _) rfl
  | false =>
      have told {after : World H} {made : Option (BBCUser × World H)} :
          Accounted platform slot (reenabled world) after made →
            Accounted platform slot world after made :=
        .of_broadcast (show DelegateCall.enable.kind = .lifecycle from rfl) rfl rfl
      have applied : Accounted platform slot (reenabled world)
          (applyPendingUser platform (reenabled world))
          (if world.client.hasStarted then
            world.client.user.bbcUserSetWhileDisabled.map fun user => (user, reenabled world)
          else none) := applyPendingUser_accounted laws
      rw [enable_of_disabled platform enabledEq]
      apply told
      cases startedEq : world.client.hasStarted with
      | true =>
          rw [startedEq] at applied
          simpa using applied
      | false =>
          have unstarted : (reenabled world).client.hasStarted = false := startedEq
          rw [applyPendingUser_of_unstarted platform unstarted]
          cases world.client.settings.autoStart with
          | true => exact start_accounted laws
          | false => exact .of_leaves (.refl _ _) rfl

theorem complete_accounted :
    Accounted platform slot world (complete platform world) (completeCall world) := by
  have registered {after : World H} {made : Option (BBCUser × World H)}
      (accounted : Accounted platform slot world after made) :
      Accounted platform slot world after.register made := by
    apply accounted.of_suffix
    · intro index
      simp [userEvents, registrations, Effect.userEvent]
    · refine ⟨registrations, rfl, ?_⟩
      intro effect member
      apply Effect.leavesSlot_of_kind
      simp only [registrations, List.mem_cons, List.not_mem_nil, or_false] at member
      rcases member with rfl | rfl | rfl <;> simp [Effect.kind]
    · rfl
  rw [complete_eq, completeCall]
  split
  · exact registered (start_accounted laws)
  · exact registered (.of_leaves (.refl _ _) rfl)

end Steps

theorem SessionFrame.leavesSlot {before after : World H} (frame : SessionFrame before after) :
    Extends Effect.LeavesSlot before.log after.log := by
  apply frame.log.mono
  intro effect ofSession
  apply Effect.leavesSlot_of_kind
  intro isUser
  simp [Effect.OfSession, isUser] at ofSession

theorem disable_leavesSlot (platform : Platform H) (world : World H) :
    Extends Effect.LeavesSlot world.log (disable platform world).log ∧
      (disable platform world).userPromise = world.userPromise := by
  unfold disable
  split
  · exact ⟨.refl _ _, rfl⟩
  · have cleared := clearMedia_frame platform world
    constructor
    · exact cleared.leavesSlot.trans
        (.single _ (Effect.leavesSlot_of_kind (by simp [Effect.kind])) _)
    · exact cleared.userPromise

theorem fireTimer_leavesSlot (timer : TimerRef) (world : World H) :
    Extends Effect.LeavesSlot world.log (fireTimer timer world).log ∧
      (fireTimer timer world).userPromise = world.userPromise := by
  unfold fireTimer expireToken
  split
  · dsimp only
    split
    · constructor
      · exact .single _ (by simp [Effect.LeavesSlot]) _
      · rfl
    · exact ⟨.refl _ _, rfl⟩
  · exact ⟨.refl _ _, rfl⟩

/-- Every operation on a client is accounted for. -/
theorem step_accounted {platform : Platform H} {slot : H → Option UserStateTransition}
    (laws : PostponedSlot platform.userPromise slot) (world : World H) (op : Op) :
    Accounted platform slot world (step platform world op) (userCall platform world (.op op)) := by
  cases op with
  | lifecycle call =>
      cases call with
      | setBBCUser user => exact setBBCUser_accounted laws user
      | start => exact start_accounted laws
      | enable => exact enable_accounted laws
      | disable =>
          obtain ⟨leaves, same⟩ := disable_leavesSlot platform world
          exact .of_leaves leaves same
  | fireTimer timer =>
      obtain ⟨leaves, same⟩ := fireTimer_leavesSlot timer world
      exact .of_leaves leaves same
  | clock now => exact .of_leaves (.refl _ _) rfl
  | _ =>
      exact .of_leaves (step_frame platform world rfl).leavesSlot
        (step_frame platform world rfl).userPromise

theorem userEvent_of_setup {effect : Effect} (setup : effect.kind = .setup) (index : Nat) :
    effect.userEvent index = none := by
  cases effect with
  | broadcast call client => cases call <;> cases setup
  | delegate other call => cases call <;> cases setup
  | userPromise call => cases setup
  | _ => rfl

/-- The first part of the initialiser is not accounted for. -/
theorem prepare_leavesSlot {platform : Platform H} {slot : H → Option UserStateTransition}
    (laws : PostponedSlot platform.userPromise slot) (arguments : InitArguments) (store : H)
    (now : Date) :
    slot (prepare platform arguments store now).userPromise = slot store ∧
      Extends Effect.LeavesSlot [] (prepare platform arguments store now).log ∧
      ∀ index, userEvents index (prepare platform arguments store now).log = [] := by
  have logged := prepare_log platform arguments store now
  refine ⟨?_, ⟨_, (List.nil_append _).symm, ?_⟩, ?_⟩
  · unfold prepare
    dsimp only
    split
    · exact (laws.clearWebviewCookies _).trans (laws.create _ store)
    · exact laws.create _ store
  · intro effect member
    rcases logged effect member with setup | rfl
    · apply Effect.leavesSlot_of_kind
      rw [setup]
      decide
    · simp [Effect.LeavesSlot]
  · intro index
    apply List.filterMap_eq_nil_iff.mpr
    intro effect member
    rcases logged effect member with setup | rfl
    · exact userEvent_of_setup setup index
    · rfl

theorem initialise_accounted {platform : Platform H} {slot : H → Option UserStateTransition}
    (laws : PostponedSlot platform.userPromise slot) (arguments : InitArguments) (now : Date)
    (world : World H) :
    Accounted platform slot (prepare platform arguments world.userPromise now)
      (initialise platform arguments world.userPromise now).1
      (userCall platform world (.launch arguments now)) := by
  unfold initialise userCall
  dsimp only
  cases valid : isValidConfig platform arguments.appName
      (collateConfig platform arguments.config) with
  | error message =>
      have logged : Effect.LeavesSlot (.debug .error message) :=
        Effect.leavesSlot_of_kind (by simp [Effect.kind])
      exact .of_leaves (.single _ logged _) rfl
  | ok _ => exact complete_accounted laws

/-! ## Runs -/

/-- The set of a step, if it goes through, does not drop a postponed transition. -/
def KeepsPostponed (platform : Platform H) (world : World H) (op : AppOp) : Prop :=
  delegatesOf platform world op = [] ∨
    ∀ call ∈ userCall platform world op, GoesThrough call →
      ¬DropsPostponed platform call.1 call.2

section Runs

variable {platform : Platform H} {slot : H → Option UserStateTransition}
  (laws : PostponedSlot platform.userPromise slot)

include laws

/-- The calls of a step of the app are those of its set, or leave the slot alone. -/
theorem appEffects_cases (world : World H) (op : AppOp) :
    (∃ call ∈ userCall platform world op, GoesThrough call ∧
      slot call.2.userPromise = slot world.userPromise ∧
      (∀ index, userEvents index (appEffects platform world op) =
        setEvents platform call.1 call.2) ∧
      slot (appStep platform world op).userPromise =
        (setEvents platform call.1 call.2).foldl UserEvent.trackPostponed
          (slot world.userPromise)) ∨
    ((∀ call ∈ userCall platform world op, ¬GoesThrough call) ∧
      (∀ effect ∈ appEffects platform world op, effect.LeavesSlot) ∧
      slot (appStep platform world op).userPromise = slot world.userPromise) := by
  cases op with
  | op op =>
      have logEq := step_log platform world op
      rcases step_accounted laws world op with
        ⟨call, member, through, slotEq, events, slotAfter⟩ | ⟨none, extended, slotAfter⟩
      · left
        refine ⟨call, member, through, slotEq, ?_, slotAfter⟩
        intro index
        have appended := events index
        rw [logEq, userEvents_append] at appended
        exact List.append_cancel_left appended
      · exact .inr ⟨none, extended.drop_length, slotAfter⟩
  | launch arguments now =>
      obtain ⟨slotEq, leaves, silent⟩ :=
        prepare_leavesSlot laws arguments world.userPromise now
      have reached : (appStep platform world (.launch arguments now)).userPromise =
          (initialise platform arguments world.userPromise now).1.userPromise := by
        unfold appStep relaunch
        dsimp only
        split
        · rename_i launched initialised
          rw [initialised]
        · rename_i failed message initialised
          rw [initialised]
      rcases initialise_accounted laws arguments now world with
        ⟨call, member, through, slotCall, events, slotAfter⟩ | ⟨none, extended, slotAfter⟩
      · left
        refine ⟨call, member, through, slotCall.trans slotEq, ?_, ?_⟩
        · intro index
          exact (events index).trans (by rw [silent, List.nil_append])
        · rw [reached, slotAfter, slotEq]
      · right
        refine ⟨none, ?_, ?_⟩
        · exact (leaves.trans extended).drop_length
        · rw [reached, slotAfter, slotEq]

/-- The slot after a step is the one that its calls leave. -/
theorem slot_appStep (world : World H) (op : AppOp) :
    slot (appStep platform world op).userPromise =
      postponedAfter (slot world.userPromise) (appEffects platform world op) := by
  rcases appEffects_cases laws world op with
    ⟨call, _, _, _, events, slotAfter⟩ | ⟨_, leaves, slotAfter⟩
  · rw [slotAfter, postponedAfter_eq 0, events]
  · rw [slotAfter]
    symm
    apply foldl_extends ⟨_, (List.nil_append _).symm, leaves⟩
    intro seen effect leavesSlot
    exact trackPostponed_of_leavesSlot leavesSlot seen

/-- Across launches, the slot holds what the calls of the run have left in it. -/
theorem slot_appRun (world : World H) (ops : List AppOp) :
    slot (appRun platform world ops).userPromise =
      postponedAfter (slot world.userPromise) (appLog platform world ops) := by
  induction ops using List.reverseRecOn with
  | nil => rfl
  | append_singleton ops op ih =>
      rw [appRun_concat, slot_appStep laws, ih, appLog_concat, postponedAfter_append]

/-- One step reports what is postponed exactly if its set keeps it. -/
theorem reportsPostponed_appEffects_iff
    (distinct : platform.labelKey .isBackground ≠ "device_id_reset") (world : World H)
    (op : AppOp) :
    ReportsPostponed platform (delegatesOf platform world op) (slot world.userPromise)
        (appEffects platform world op) ↔
      KeepsPostponed platform world op := by
  rcases appEffects_cases laws world op with
    ⟨call, member, through, slotEq, events, _⟩ | ⟨none, leaves, _⟩
  · rw [← slotEq, reportsPostponed_iff laws distinct events, KeepsPostponed]
    constructor
    · rintro (noDelegates | kept)
      · exact .inl noDelegates
      · right
        intro other otherMember _
        rw [Option.mem_unique otherMember member]
        exact kept
    · rintro (noDelegates | kept)
      · exact .inl noDelegates
      · exact .inr (kept call member through)
  · constructor
    · intro _
      right
      intro call member through
      exact absurd through (none call member)
    · intro _
      constructor
      · intro clears
        exact absurd rfl (leaves _ clears).1
      · intro transition stores
        exact absurd rfl ((leaves _ stores).2 transition)

end Runs

instance (platform : Platform H) (user : BBCUser) (world : World H) :
    Decidable (DropsPostponed platform user world) :=
  inferInstanceAs (Decidable (_ ∧ _ ∧ _))

instance (platform : Platform H) (world : World H) (op : AppOp) :
    Decidable (KeepsPostponed platform world op) :=
  inferInstanceAs (Decidable (_ ∨ _))

/-- A user signs in, which is postponed until the next launch. -/
def signInThenRelaunch : List AppOp :=
  [.op (.lifecycle (.setBBCUser signedInUser)), .launch (trackingArguments signedInUser) 0]

/-- A postponed sign-in, before the first launch of an upgraded library. -/
noncomputable def upgradedWorld : World Store :=
  { launchedWorld with
    userPromise := { user := signedInUser, slot := some .signIn, upgraded := true } }

end Echo.Client
