import Echo.Protocol.Launch

/-!
# Steps that keep to the contract

What the client has checked when it takes an action is what the contract asks of the entry
that the action logs, and it is enough to see that timers only exist where tokens are
watched.  Every operation checks its actions, but for the search for a device id.
-/

namespace Echo.Client

open Echo.Transition

variable {H : Type}

/-! ## Actions -/

namespace Action.Checked

variable {action : Action} {world : World H}

/-- A checked action logs what honours the contract. -/
theorem honoured (checked : action.Checked world) {effect : Effect}
    (logged : effect ∈ action.effect world) : effect.Honoured world.client.settings := by
  cases action with
  | debug level message =>
      cases logged
      trivial
  | broadcast call =>
      cases logged
      exact ⟨rfl, checked⟩
  | callDelegate index call => exact checked.elim
  | callBroker broker call =>
      cases logged
      trivial
  | adoptBroker made state =>
      obtain ⟨made, makes⟩ := made
      cases logged
      cases made with
      | makeLiveBroker playerDelegate media essUrl useHttps essEnabled => trivial
      | makeOnDemandBroker playerDelegate media => trivial
      | _ => exact makes.elim
  | invalidateTimer timer =>
      cases logged
      exact ⟨checked.1.2.2, checked.2⟩
  | scheduleTimer timeInterval user =>
      cases logged
      exact ⟨⟨checked.1.1.2.2, checked.1.2⟩, checked.2⟩
  | callHelper call =>
      cases logged
      cases call with
      | clearWebviewCookies => exact checked.elim
      | setPostponedUserStateTransition transition => exact ⟨checked.1.2.2, checked.2⟩
      | setBBCUser user => exact checked.2.2
      | getBBCUser => exact checked.2.2
      | getDeviceID => exact checked.2.2
      | clearPostponedUserStateTransition => exact checked.2.2
  | _ => cases logged

/-- A checked action makes no timer where tokens are not watched. -/
theorem timersWatched (platform : Platform H) (checked : action.Checked world)
    (watched : TimersWatched world) : TimersWatched (action.apply platform world) := by
  cases action with
  | scheduleTimer timeInterval user =>
      intro _
      obtain ⟨⟨⟨_, started, idv5⟩, reset⟩, _⟩ := checked
      exact ⟨started, idv5, reset⟩
  | settleTimer timer =>
      intro exist
      refine watched fun none => exist ?_
      simp [Action.apply, World.settleTimer, none]
  | setStarted =>
      intro exist
      exact ⟨rfl, (watched exist).2⟩
  | _ => exact watched

end Action.Checked

/-! ## Steps -/

/-- The settings stay, and the log grows by entries that honour the contract. -/
structure Honest (before after : World H) : Prop where
  settings : after.client.settings = before.client.settings
  log : Extends (Effect.Honoured before.client.settings) before.log after.log

namespace Honest

theorem refl (world : World H) : Honest world world :=
  ⟨rfl, .refl _ _⟩

theorem trans {before middle after : World H} (first : Honest before middle)
    (second : Honest middle after) : Honest before after where
  settings := second.settings.trans first.settings
  log := first.log.trans (first.settings ▸ second.log)

theorem act (platform : Platform H) {world : World H} {action : Action}
    (checked : action.Checked world) : Honest world (action.apply platform world) where
  settings := action.apply_settings platform world
  log := Action.extends_apply platform fun _ logged => checked.honoured logged

end Honest

/-- The contract only leaves out the search for the device id of ComScore. -/
theorem Op.callable {world : World H} (watched : TimersWatched world) {op : Op}
    (other : op ≠ .getComScoreDeviceID) : op.Callable world := by
  cases op with
  | getComScoreDeviceID => exact absurd rfl other
  | fireTimer timer => exact watched
  | _ => trivial

theorem step_honest (platform : Platform H) {world : World H} (watched : TimersWatched world)
    {op : Op} (other : op ≠ .getComScoreDeviceID) : Honest world (step platform world op) :=
  (step_conforms_all platform op).frame_of_callable .refl .trans
    (fun _ _ _ checked => .act platform checked) (Op.callable watched other)

theorem step_timersWatched (platform : Platform H) {world : World H}
    (watched : TimersWatched world) (op : Op) : TimersWatched (step platform world op) := by
  by_cases asks : op = .getComScoreDeviceID
  · subst asks
    have frame : SessionFrame world (step platform world .getComScoreDeviceID) :=
      step_frame platform world rfl
    intro exist
    rw [frame.hasStarted, frame.settings]
    exact watched (frame.timers ▸ exist)
  · exact (step_conforms_all platform op).invariant
      (fun _ _ reached _ checked => checked.timersWatched platform reached)
      (Op.callable watched asks) watched

end Echo.Client
