import Echo.Conduct.Action
import Echo.Transition.Footprint

/-!
# Operations and their footprints

`Conforms` says of an operation which actions it may take, what it knows when it takes them,
and what it reads to choose them.  This is said once for each operation.  What an operation
changes, what it leaves alone, what it says, and which differences between two worlds it
cannot see, then follow from what the single actions do.
-/

namespace Echo.Client

open Echo.Transition

variable {H : Type}

/-! ## What is read -/

/-- The two worlds may differ in everything. -/
def ReadsNothing (_left _right : World H) : Prop :=
  True

/-- What the operations of a session look at. -/
structure ReadsSession (left right : World H) : Prop where
  settings : left.client.settings = right.client.settings
  echoEnabled : left.client.echoEnabled = right.client.echoEnabled
  playerDelegate : left.client.playerDelegate = right.client.playerDelegate
  session : left.client.session = right.client.session
  brokers : left.brokers = right.brokers

/-- What the operations on a user look at. -/
structure ReadsUser (left right : World H) : Prop where
  settings : left.client.settings = right.client.settings
  echoEnabled : left.client.echoEnabled = right.client.echoEnabled
  hasStarted : left.client.hasStarted = right.client.hasStarted
  previousUser : left.client.user.previousUser = right.client.user.previousUser
  userForTimer : left.client.user.userForTimer = right.client.user.userForTimer
  timer : left.client.user.timer = right.client.user.timer
  timers : left.timers = right.timers
  now : left.now = right.now
  userPromise : left.userPromise = right.userPromise

/-- Starting and enabling also look at the user that was set while disabled. -/
structure ReadsPending (left right : World H) : Prop extends ReadsUser left right where
  pending : left.client.user.bbcUserSetWhileDisabled = right.client.user.bbcUserSetWhileDisabled

theorem ReadsUser.refl (world : World H) : ReadsUser world world :=
  ⟨rfl, rfl, rfl, rfl, rfl, rfl, rfl, rfl, rfl⟩

instance : Std.Refl (@ReadsNothing H) :=
  ⟨fun _ => trivial⟩

instance : Std.Refl (@ReadsSession H) :=
  ⟨fun _ => ⟨rfl, rfl, rfl, rfl, rfl⟩⟩

instance : Std.Refl (@ReadsUser H) :=
  ⟨.refl⟩

instance : Std.Refl (@ReadsPending H) :=
  ⟨fun world => ⟨.refl world, rfl⟩⟩

theorem ReadsUser.eventsEnabled_eq {left right : World H} (reads : ReadsUser left right) :
    eventsEnabled left = eventsEnabled right := by
  simp only [eventsEnabled, reads.echoEnabled, reads.hasStarted]

/-! ## Conduct -/

/-- The actions of a footprint, with what is known of them if the operation was called where
it may be. -/
def Performing (footprint : Action → Prop) (checked : Prop) (world : World H)
    (action : Action) : Prop :=
  footprint action ∧ (checked → action.Checked world)

/-- The operation takes actions of the footprint only, and chooses them by what it reads.
Called where it may be called, it takes none without having checked that it may. -/
def Conforms (platform : Platform H) (footprint : Action → Prop)
    (reads : World H → World H → Prop) (callable : World H → Prop)
    (operation : World H → World H) : Prop :=
  ∀ ⦃checked : Prop⦄,
    Follows (Action.apply platform) (Performing footprint checked) reads
      (fun world => checked → callable world) operation

/-- The operation may be called in every world. -/
def Anywhere (_world : World H) : Prop :=
  True

/-- Wherever the operation is called, it checks nothing. -/
def Nowhere (_world : World H) : Prop :=
  False

namespace Conforms

variable {platform : Platform H} {footprint wider : Action → Prop}
  {reads further : World H → World H → Prop} {callable : World H → Prop}
  {operation : World H → World H}

theorem mono (conforms : Conforms platform footprint reads callable operation)
    (within : ∀ {action}, footprint action → wider action)
    (readsLess : ∀ {left right}, further left right → reads left right) :
    Conforms platform wider further callable operation :=
  fun _ => Follows.mono (@conforms _) (fun _ _ taken => ⟨within taken.1, taken.2⟩)
    fun _ _ => readsLess

variable (conforms : Conforms platform footprint reads callable operation)

include conforms

/-- Two worlds stay related if every action of the footprint keeps them related. -/
theorem related {related : World H → World H → Prop} {left right : World H}
    (same : related left right)
    (readsSame : ∀ {left right}, related left right → reads left right)
    (act : ∀ {left right} action, footprint action → related left right →
      related (action.apply platform left) (action.apply platform right)) :
    related (operation left) (operation right) := by
  refine (@conforms False) ⟨readsSame, ?_⟩ False.elim same
  intro left right action taken same
  exact act action taken.1 same

/-- So they do if the actions that the operation has checked keep them related. -/
theorem related_of_callable {related : World H → World H → Prop} {left right : World H}
    (called : callable left) (same : related left right)
    (readsSame : ∀ {left right}, related left right → reads left right)
    (act : ∀ {left right} action, footprint action → action.Checked left → related left right →
      related (action.apply platform left) (action.apply platform right)) :
    related (operation left) (operation right) := by
  refine (@conforms True) ⟨readsSame, ?_⟩ (fun _ => called) same
  intro left right action taken same
  exact act action taken.1 (taken.2 trivial) same

variable [Std.Refl reads]

/-- The operation changes no more than the actions of its footprint change. -/
theorem frame {unchanged : World H → World H → Prop} (refl : ∀ world, unchanged world world)
    (trans : ∀ {before middle after}, unchanged before middle → unchanged middle after →
      unchanged before after)
    (each : ∀ world action, footprint action → unchanged world (action.apply platform world))
    (world : World H) : unchanged world (operation world) :=
  Follows.frame (@conforms False) refl trans
    (fun world action taken => each world action taken.1) False.elim

/-- The operation leaves a component alone that the actions of its footprint leave alone. -/
theorem unchanged {β : Type} (component : World H → β)
    (each : ∀ world action, footprint action →
      component (action.apply platform world) = component world)
    (world : World H) : component (operation world) = component world := by
  let same (before after : World H) : Prop := component after = component before
  have refl (world : World H) : same world world := rfl
  have trans {before middle after : World H} (first : same before middle)
      (second : same middle after) : same before after :=
    Eq.trans second first
  show same world (operation world)
  exact conforms.frame refl trans each world

/-- The operation keeps what the actions of its footprint keep, once it has checked them. -/
theorem invariant {holds : World H → Prop}
    (each : ∀ world action, holds world → footprint action → action.Checked world →
      holds (action.apply platform world))
    {world : World H} (called : callable world) (initially : holds world) :
    holds (operation world) :=
  Follows.invariant (@conforms True)
    (fun world action before taken => each world action before taken.1 (taken.2 trivial))
    (fun _ => called) initially

/-- The frame of an operation that has checked its actions. -/
theorem frame_of_callable {unchanged : World H → World H → Prop}
    (refl : ∀ world, unchanged world world)
    (trans : ∀ {before middle after}, unchanged before middle → unchanged middle after →
      unchanged before after)
    (each : ∀ world action, footprint action → action.Checked world →
      unchanged world (action.apply platform world))
    {world : World H} (called : callable world) : unchanged world (operation world) :=
  conforms.invariant
    (fun reached action before taken checked => trans before (each reached action taken checked))
    called (refl world)

/-- The operation adds to the log what the actions of its footprint add. -/
theorem extends_log {allowed : Effect → Prop}
    (each : ∀ (world : World H) action, footprint action →
      ∀ effect ∈ action.effect world, allowed effect)
    (world : World H) : Extends allowed world.log (operation world).log := by
  let extended (before after : World H) : Prop := Extends allowed before.log after.log
  show extended world (operation world)
  exact conforms.frame (fun _ => .refl _ _) .trans
    (fun world action taken => Action.extends_apply platform (each world action taken)) world

/-- So it does if it has checked them. -/
theorem extends_log_of_callable {allowed : Effect → Prop}
    (each : ∀ (world : World H) action, footprint action → action.Checked world →
      ∀ effect ∈ action.effect world, allowed effect)
    {world : World H} (called : callable world) :
    Extends allowed world.log (operation world).log := by
  let extended (before after : World H) : Prop := Extends allowed before.log after.log
  show extended world (operation world)
  exact conforms.frame_of_callable (fun _ => .refl _ _) .trans
    (fun world action taken checked =>
      Action.extends_apply platform (each world action taken checked)) called

end Conforms

/-! ## The switches -/

/-- What the client was configured with stays, and so does whether it is on. -/
structure SameSwitches (before after : World H) : Prop where
  settings : after.client.settings = before.client.settings
  echoEnabled : after.client.echoEnabled = before.client.echoEnabled
  hasStarted : after.client.hasStarted = before.client.hasStarted

namespace SameSwitches

variable {before middle after : World H}

theorem refl (world : World H) : SameSwitches world world :=
  ⟨rfl, rfl, rfl⟩

theorem trans (first : SameSwitches before middle) (second : SameSwitches middle after) :
    SameSwitches before after :=
  ⟨second.settings.trans first.settings, second.echoEnabled.trans first.echoEnabled,
    second.hasStarted.trans first.hasStarted⟩

theorem followsUsers (same : SameSwitches before after) (follows : before.client.FollowsUsers) :
    after.client.FollowsUsers := by
  unfold EchoClient.FollowsUsers
  rw [same.settings, same.echoEnabled, same.hasStarted]
  exact follows

theorem followsTokens (same : SameSwitches before after) (follows : before.client.FollowsTokens) :
    after.client.FollowsTokens := by
  refine ⟨same.followsUsers follows.1, ?_⟩
  rw [same.settings]
  exact follows.2

end SameSwitches

section Switches

variable {platform : Platform H} {calls : DelegateCall → Prop}
  {reads : World H → World H → Prop} {callable : World H → Prop}
  {operation : World H → World H} [Std.Refl reads]

/-- Running a session and opening one leave the switches alone. -/
theorem Conforms.sameSwitches_of_opens
    (conforms : Conforms platform (Action.Opens calls) reads callable operation)
    (world : World H) : SameSwitches world (operation world) := by
  refine conforms.frame .refl .trans (fun world action opens => ?_) world
  cases action with
  | setCounterNameSet => exact opens.elim
  | setStarted => exact opens.elim
  | setEnabled enabled => exact opens.elim
  | _ => exact ⟨rfl, rfl, rfl⟩

/-- So does attending to a user. -/
theorem Conforms.sameSwitches_of_attends
    (conforms : Conforms platform (Action.Attends calls) reads callable operation)
    (world : World H) : SameSwitches world (operation world) := by
  refine conforms.frame .refl .trans (fun world action attends => ?_) world
  cases action with
  | setStarted => exact attends.elim
  | setEnabled enabled => exact attends.elim
  | _ => exact ⟨rfl, rfl, rfl⟩

end Switches

end Echo.Client
