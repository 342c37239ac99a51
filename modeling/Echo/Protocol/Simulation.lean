import Echo.Protocol.Launch
import Echo.Client.Reference
import Echo.Transition.Simulation

/-!
# Runs of the client are runs of the machine

The move of an operation does not depend on the delegate that observes it.  One run
of the protocol machine therefore explains the flags, the session and the brokers of a
client, and what all its delegates hear, from the machine's empty state on.
-/

namespace Echo.Protocol

open Echo.Client

/-- The machine before its first move. -/
def State.fresh (enabled : Bool) : State where
  enabled
  started := false
  session := {}
  brokers := []
  heard := []

namespace State

/-- What is left of a state when nobody listens. -/
@[simps]
def muted (state : State) : State :=
  { state with heard := [] }

theorem muted_eq_iff {first second : State} :
    first.muted = second.muted ↔
      first.enabled = second.enabled ∧ first.started = second.started ∧
        first.session = second.session ∧ first.brokers = second.brokers := by
  simp [muted]

@[simp]
theorem muted_setPhase_brokers (phase : BrokerPhase) (state : State) :
    (state.muted.setPhase phase).brokers = (state.setPhase phase).brokers := by
  unfold setPhase muted
  cases state.session.broker <;> rfl

end State

/-- What was heard before a move does not matter to it. -/
theorem Act.muted_apply (state : State) (act : Act) :
    (act.apply state).muted = (act.apply state.muted).muted := by
  rw [State.muted_eq_iff]
  cases act with
  | release position labels =>
      have unsuppressed := State.muted_setPhase_brokers .started
        (state.withSession Session.unsuppressed)
      exact ⟨by simp [apply], by simp [apply], by simp [apply], unsuppressed.symm⟩
  | _ => simp [apply, State.close]

/-- A guard does not ask what was heard. -/
theorem Act.guard_muted_iff (state : State) (act : Act) :
    act.Guard state.muted ↔ act.Guard state := by
  cases act <;> rfl

/-- A run of the machine. -/
abbrev perform (state : State) (acts : List Act) : State :=
  Transition.run (fun state act => act.apply state) state acts

/-- Every move of the run is made where its guard holds. -/
abbrev Guarded (state : State) (acts : List Act) : Prop :=
  Transition.Always (fun state act => act.apply state) (fun state act => act.Guard state)
    state acts

end Echo.Protocol

namespace Echo.Client

open Echo.Protocol

variable {H : Type}

/-- The moves that the operations of a run make. -/
def acts (platform : Platform H) (world : World H) (ops : List Op) : List Act :=
  Transition.translate (step platform) (fun world op => op.act platform world) world ops

/-- The machine of a client that is about to be launched. -/
def InitArguments.fresh (platform : Platform H) (arguments : InitArguments) : State :=
  .fresh (configFlag (collateConfig platform arguments.config) .echoEnabled)

/-- The move that the initialiser makes. -/
def InitArguments.acts (platform : Platform H) (arguments : InitArguments) : List Act :=
  if configFlag (collateConfig platform arguments.config) .echoEnabled &&
      configFlag (collateConfig platform arguments.config) .echoAutoStart then
    [.start]
  else
    []

/-- The moves explain what a delegate sees. -/
theorem observe_run_eq_perform (platform : Platform H) {world : World H} {index : Nat}
    (present : index < world.client.settings.delegates.length) (ops : List Op) :
    observe index (run platform world ops) =
      perform (observe index world) (acts platform world ops) := by
  let explains (world : World H) (state : State) : Prop :=
    index < world.client.settings.delegates.length ∧ observe index world = state
  have simulates (world : World H) (state : State) (op : Op) (explained : explains world state) :
      explains (step platform world op) ((op.act platform world).apply state) := by
    obtain ⟨stillPresent, rfl⟩ := explained
    refine ⟨?_, (step_performs platform stillPresent op).result⟩
    rw [step_settings]
    exact stillPresent
  have guarded (world : World H) (state : State) (op : Op) (explained : explains world state) :
      (op.act platform world).Guard state := by
    obtain ⟨stillPresent, rfl⟩ := explained
    exact (step_performs platform stillPresent op).guard
  exact (Transition.simulated_run guarded simulates ⟨present, rfl⟩ ops).2.2

/-- With or without delegates, the moves are guarded and explain the rest of the state. -/
theorem muted_run_eq_perform (platform : Platform H) {world : World H} {state : State}
    (initially : (observe 0 world).muted = state.muted) (ops : List Op) :
    Guarded state (acts platform world ops) ∧
      (observe 0 (run platform world ops)).muted =
        (perform state (acts platform world ops)).muted := by
  let explains (world : World H) (state : State) : Prop :=
    (observe 0 world).muted = state.muted
  have guarded (world : World H) (state : State) (op : Op) (explained : explains world state) :
      (op.act platform world).Guard state := by
    rw [← Act.guard_muted_iff, ← explained, Act.guard_muted_iff]
    by_cases asks : op = .getComScoreDeviceID
    · subst asks
      trivial
    · exact (step_performs_of_ne platform asks world 0).guard
  have simulates (world : World H) (state : State) (op : Op) (explained : explains world state) :
      explains (step platform world op) ((op.act platform world).apply state) := by
    change (observe 0 (step platform world op)).muted = _
    rw [Act.muted_apply, ← explained, ← Act.muted_apply]
    -- The pass over the delegates is the one move that only some of them hear.
    by_cases asks : op = .getComScoreDeviceID
    · subst asks
      rw [step, getComScoreDeviceID_eq]
      rfl
    · rw [(step_performs_of_ne platform asks world 0).result]
  exact Transition.simulated_run guarded simulates initially ops

theorem Launched.observe_eq_perform {platform : Platform H} {arguments : InitArguments}
    {world : World H} (launched : Launched platform arguments world) (index : Nat) :
    Guarded (arguments.fresh platform) (arguments.acts platform) ∧
      observe index world = perform (arguments.fresh platform) (arguments.acts platform) := by
  have autoStart : world.client.settings.autoStart =
      configFlag (collateConfig platform arguments.config) .echoAutoStart := by
    rw [launched.settings_eq]
    rfl
  rw [launched.observe_eq index, autoStart, InitArguments.fresh, InitArguments.acts]
  cases configFlag (collateConfig platform arguments.config) .echoEnabled with
  | false => exact ⟨trivial, rfl⟩
  | true =>
      cases configFlag (collateConfig platform arguments.config) .echoAutoStart with
      | false => exact ⟨trivial, rfl⟩
      | true => exact ⟨⟨⟨rfl, rfl⟩, trivial⟩, rfl⟩

/-- Whatever the app does, one guarded run of the machine, with one move for every
operation after the launch, explains the client, and what each delegate hears. -/
theorem machine_explains_run {platform : Platform H} {arguments : InitArguments}
    {world : World H} (launched : Launched platform arguments world) (ops : List Op) :
    (acts platform world ops).length = ops.length ∧
      Guarded (arguments.fresh platform) (arguments.acts platform ++ acts platform world ops) ∧
      (∀ index, (observe index (run platform world ops)).muted =
        (perform (arguments.fresh platform)
          (arguments.acts platform ++ acts platform world ops)).muted) ∧
      ∀ index, index < world.client.settings.delegates.length →
        observe index (run platform world ops) =
          perform (arguments.fresh platform)
            (arguments.acts platform ++ acts platform world ops) := by
  have performed : perform (arguments.fresh platform)
      (arguments.acts platform ++ acts platform world ops) =
        perform (perform (arguments.fresh platform) (arguments.acts platform))
          (acts platform world ops) :=
    Transition.run_append _ _ _ _
  obtain ⟨startGuarded, started⟩ := launched.observe_eq_perform 0
  obtain ⟨runGuarded, reached⟩ :=
    muted_run_eq_perform platform (congrArg State.muted started) ops
  refine ⟨Transition.length_translate _ _ _ _,
    (Transition.always_append_iff _ _ _ _ _).mpr ⟨startGuarded, runGuarded⟩, ?_, ?_⟩
  · intro index
    rw [performed]
    exact reached
  · intro index present
    rw [performed, observe_run_eq_perform platform present,
      (launched.observe_eq_perform index).2]

/-- A session of live media that is interrupted while it plays. -/
def interruption : List Op :=
  [.report (.setPlayerDelegate 0), .media (.setMedia (liveMedia true)),
    .media (.avPlayEvent 0 none), .lifecycle .disable, .lifecycle .enable]

theorem machine_explains_interruption :
    observe 0 (run reference launchedWorld interruption) =
      perform (.fresh true)
        [.start, .idle, .setMedia (liveMedia true) (some .live), .play 0 none, .disable,
          .enable false] :=
  (machine_explains_run launchedWorld_launched interruption).2.2.2 0 (by decide)

end Echo.Client
