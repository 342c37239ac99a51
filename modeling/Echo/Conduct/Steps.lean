import Echo.Conduct.Users

/-!
# The conduct of a step

For every operation of a run: what it may tell the delegates, which actions it may take,
where it keeps to the contract, and what it looks at.  The properties of single steps that
follow from these are read off here, and not from the code of each operation again.
-/

namespace Echo.Client

open Echo.Transition

variable {H : Type} {calls : DelegateCall → Prop}

namespace Op

/-- Every call that the operation may make on the delegates is among `calls`. -/
def Tells (calls : DelegateCall → Prop) : Op → Prop
  | .report call => call.Tells calls
  | .getComScoreDeviceID => calls .clearMedia ∧ calls .getDeviceID
  | .media _ | .live _ _ | .onDemand _ _ => SessionTells calls
  | .lifecycle (.setBBCUser _) => UserTells calls
  | .lifecycle .start => UserTells calls ∧ calls .start
  | .lifecycle .enable => UserTells calls ∧ calls .start ∧ calls .enable
  | .lifecycle .disable =>
      (∀ keys, calls (.removeLabels keys)) ∧ calls .clearMedia ∧ calls .disable
  | .fireTimer _ => ∀ user, calls (.updateBBCUserLabels user)
  | .playhead _ | .clock _ => True

/-- The actions that the operation may take. -/
def Footprint (calls : DelegateCall → Prop) : Op → Action → Prop
  | .report call => call.Footprint calls
  | .media (.setMedia _) => Action.Opens calls
  | .getComScoreDeviceID | .media _ | .live _ _ | .onDemand _ _ | .playhead _ =>
      Action.Plays calls
  | .fireTimer _ => Action.Attends calls
  | .lifecycle (.setBBCUser _) => Action.Receives calls
  | .lifecycle .start => Action.Starts calls
  | .lifecycle .enable => Action.Switches calls
  | .lifecycle .disable => Action.Closes calls
  | .clock now => fun action => action = .setClock now

/-- Where the operation keeps to the contract. -/
def Callable : Op → World H → Prop
  | .getComScoreDeviceID => Nowhere
  | .fireTimer _ => TimersWatched
  | _ => Anywhere

/-- What the operation looks at.  The log, the identities that were handed out, and the cache
mode are nowhere among it. -/
def Reads (left right : World H) : Op → Prop
  | .report call => call.Reads left right
  | .lifecycle (.setBBCUser _) | .fireTimer _ => ReadsUser left right
  | .lifecycle .start | .lifecycle .enable => ReadsPending left right
  | .clock _ => True
  | _ => ReadsSession left right

instance (op : Op) : Std.Refl fun left right : World H => op.Reads left right where
  refl world := by
    have pending : ReadsPending world world := Std.Refl.refl world
    cases op with
    | report call => exact call.reads_refl world
    | lifecycle call =>
        cases call with
        | setBBCUser user => exact pending.toReadsUser
        | start => exact pending
        | enable => exact pending
        | disable => exact ⟨rfl, rfl, rfl, rfl, rfl⟩
    | fireTimer timer => exact pending.toReadsUser
    | clock now => trivial
    | _ => exact ⟨rfl, rfl, rfl, rfl, rfl⟩

/-- Nothing is asked of the calls that are all allowed. -/
theorem tells_of_forall (all : ∀ call, calls call) (op : Op) : op.Tells calls := by
  have session : SessionTells calls :=
    ⟨⟨fun _ => all _, all _, fun _ => all _, fun _ => all _⟩, fun _ => all _, fun _ => all _,
      fun _ _ => all _, fun _ _ _ => all _, fun _ _ _ _ => all _, fun _ _ _ => all _, all _⟩
  have user : UserTells calls :=
    ⟨fun _ => all _, fun _ => all _, all _, fun _ _ _ => all _, all _⟩
  cases op with
  | report call => cases call <;> simp [Tells, ReportCall.Tells, all]
  | getComScoreDeviceID => exact ⟨all _, all _⟩
  | lifecycle call =>
      cases call with
      | setBBCUser supplied => exact user
      | start => exact ⟨user, all _⟩
      | enable => exact ⟨user, all _, all _⟩
      | disable => exact ⟨fun _ => all _, all _, all _⟩
  | fireTimer timer => exact fun _ => all _
  | playhead position => trivial
  | clock now => trivial
  | _ => exact session

end Op

/-- Every operation of a run keeps to its footprint. -/
theorem step_conforms (platform : Platform H) {op : Op} (tells : op.Tells calls) :
    Conforms platform (op.Footprint calls) (fun left right => op.Reads left right) op.Callable
      fun world => step platform world op := by
  cases op with
  | report call => exact call.perform_conforms platform tells
  | getComScoreDeviceID => exact getComScoreDeviceID_conforms platform tells.1 tells.2
  | media call =>
      by_cases opens : ∃ media, call = .setMedia media
      · obtain ⟨media, rfl⟩ := opens
        exact MediaCall.perform_conforms platform tells (.setMedia media)
      · have footprint : (Op.media call).Footprint calls = Action.Plays calls := by
          cases call with
          | setMedia media => exact absurd ⟨media, rfl⟩ opens
          | _ => rfl
        rw [footprint]
        exact MediaCall.perform_plays platform tells fun media same => opens ⟨media, same⟩
  | live broker callback => exact callback.perform_conforms platform tells
  | onDemand broker callback => exact callback.perform_conforms platform tells
  | playhead position => exact movePlayhead_conforms platform position
  | lifecycle call =>
      cases call with
      | setBBCUser user => exact setBBCUser_conforms platform tells user
      | start => exact start_conforms platform tells.1 tells.2
      | enable => exact enable_conforms platform tells.1 tells.2.1 tells.2.2
      | disable => exact disable_conforms platform tells.1 tells.2.1 tells.2.2
  | fireTimer timer => exact fireTimer_conforms platform tells timer
  | clock now =>
      intro checked related respects left right called same
      exact respects.act (.setClock now) ⟨rfl, fun _ => trivial⟩ same

/-- What every operation of a run may do, whatever it tells the delegates. -/
theorem step_conforms_all (platform : Platform H) (op : Op) :
    Conforms platform (op.Footprint fun _ => True) (fun left right => op.Reads left right)
      op.Callable fun world => step platform world op :=
  step_conforms platform (op.tells_of_forall fun _ => trivial)

end Echo.Client
