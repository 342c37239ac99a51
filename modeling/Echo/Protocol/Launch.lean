import Echo.Protocol.Refinement

/-!
# Runs of the protocol machine

A launched client starts the machine in a state without session, brokers or
calls, except that an enabled client with `autoStart` has told its delegates to
start.  From there an invariant of the machine is an invariant of every run of
the client.
-/

namespace Echo.Client

open Echo.Protocol

variable {H : Type}

/-! ## Settings never change -/

theorem Action.apply_settings (platform : Platform H) (world : World H) (action : Action) :
    (action.apply platform world).client.settings = world.client.settings := by
  cases action <;> rfl

theorem step_settings (platform : Platform H) (world : World H) (op : Op) :
    (step platform world op).client.settings = world.client.settings :=
  (step_conforms_all platform op).unchanged (fun world => world.client.settings)
    (fun world action _ => action.apply_settings platform world) world

theorem run_settings (platform : Platform H) (world : World H) (ops : List Op) :
    (run platform world ops).client.settings = world.client.settings :=
  Transition.invariant_run_of_step
    (fun state op same => (step_settings platform state op).trans same) rfl ops

/-- What a delegate hears of a step that performs a move. -/
theorem Performs.heard_emitted {platform : Platform H} {world : World H} {index : Nat} {op : Op}
    {act : Act} (performs : Performs index world act (step platform world op)) :
    heard index (emitted platform world op) = act.calls (observe index world) := by
  have heardEq : heard index (step platform world op).log =
      heard index world.log ++ act.calls (observe index world) :=
    (congrArg State.heard performs.result).trans (Act.apply_heard _ _)
  rw [step_log, heard_append] at heardEq
  exact List.append_cancel_left heardEq

/-- What a delegate hears of one step. -/
theorem heard_emitted (platform : Platform H) {world : World H} {index : Nat}
    (present : index < world.client.settings.delegates.length) (op : Op) :
    heard index (emitted platform world op) =
      (op.act platform world).calls (observe index world) :=
  (step_performs platform present op).heard_emitted

/-! ## Launching -/

/-- The delegates have heard nothing when the configuration is validated. -/
theorem observe_prepare (platform : Platform H) (arguments : InitArguments) (store : H)
    (now : Date) (index : Nat) :
    observe index (prepare platform arguments store now) =
      { enabled := configFlag (collateConfig platform arguments.config) .echoEnabled
        started := false
        session := {}
        brokers := []
        heard := [] } := by
  have silent : heard index [debugSettings (collateConfig platform arguments.config)] = [] := by
    obtain ⟨isDebugEnabled, level, settings⟩ := debugSettings_eq
      (collateConfig platform arguments.config)
    rw [settings]
    rfl
  unfold prepare
  dsimp only
  split
  · simp only [createDelegates, observe, World.emit_log, World.callUserPromise_snd_log,
      heard_append, silent]
    rfl
  · simp only [createDelegates, observe, World.emit_log, heard_append, silent]
    rfl

theorem observe_complete (platform : Platform H) (world : World H)
    (unstarted : world.client.hasStarted = false) (index : Nat) :
    observe index (complete platform world) =
      if world.client.echoEnabled && world.client.settings.autoStart then
        Act.start.apply (observe index world)
      else observe index world := by
  have registered (world : World H) : observe index world.register = observe index world := by
    simp only [observe, World.register_log, heard_append]
    exact congrArg _ (List.append_nil _)
  rw [complete_eq, registered]
  cases due : world.client.echoEnabled && world.client.settings.autoStart with
  | false => simp
  | true =>
      simp only [Bool.and_eq_true] at due
      simp only [if_true]
      exact observe_start platform due.1 unstarted index

theorem complete_settings (platform : Platform H) (world : World H) :
    (complete platform world).client.settings = world.client.settings := by
  rw [complete_eq, World.register_client]
  split
  · exact step_settings platform world (.lifecycle .start)
  · rfl

/-- The settings of a launched client are those of its configuration. -/
theorem Launched.settings_eq {platform : Platform H} {arguments : InitArguments}
    {world : World H} (launched : Launched platform arguments world) :
    world.client.settings =
      { (configuredClient platform (collateConfig platform arguments.config)
          arguments.bbcUser).settings with
        delegates := world.client.settings.delegates } := by
  obtain ⟨store, now, rfl⟩ := launched.exists_complete
  obtain ⟨delegates, prepared⟩ := prepare_client platform arguments store now
  rw [complete_settings, prepared]

/-- The protocol state in which a launched client begins its run. -/
theorem Launched.observe_eq {platform : Platform H} {arguments : InitArguments}
    {world : World H} (launched : Launched platform arguments world) (index : Nat) :
    observe index world =
      { enabled := configFlag (collateConfig platform arguments.config) .echoEnabled
        started := configFlag (collateConfig platform arguments.config) .echoEnabled &&
          world.client.settings.autoStart
        session := {}
        brokers := []
        heard := if configFlag (collateConfig platform arguments.config) .echoEnabled &&
          world.client.settings.autoStart then [.start] else [] } := by
  obtain ⟨store, now, rfl⟩ := launched.exists_complete
  have prepared := observe_prepare platform arguments store now index
  have enabled := congrArg State.enabled prepared
  rw [complete_settings, observe_complete platform _ (congrArg State.started prepared), prepared,
    show (prepare platform arguments store now).client.echoEnabled = _ from enabled]
  cases configFlag (collateConfig platform arguments.config) .echoEnabled &&
      (prepare platform arguments store now).client.settings.autoStart with
  | false => rfl
  | true => rfl

/-! ## Invariants -/

/-- An invariant of the machine that survives every allowed move survives every
allowed step of the client. -/
theorem observe_step (invariant : State → Prop) {platform : Platform H} {index : Nat}
    {world : World H} {op : Op} (holds : invariant (observe index world))
    (preserved : (op.act platform world).Guard (observe index world) →
      invariant ((op.act platform world).apply (observe index world))) :
    invariant (observe index (step platform world op)) := by
  rcases step_performs_or_idle platform world op index with performs | unobserved
  · rw [performs.result]
    exact preserved performs.guard
  · rw [unobserved]
    exact holds

/-- Such an invariant holds wherever a run of the client ends. -/
theorem observe_run (invariant : State → Prop) {platform : Platform H}
    {condition : World H → Op → Prop} {index : Nat}
    (preserved : ∀ world op, invariant (observe index world) → condition world op →
      (op.act platform world).Guard (observe index world) →
      invariant ((op.act platform world).apply (observe index world)))
    {world : World H} (initially : invariant (observe index world)) {ops : List Op}
    (always : Always platform condition world ops) :
    invariant (observe index (run platform world ops)) := by
  have stepwise : ∀ (world : World H) (op : Op), invariant (observe index world) →
      condition world op → invariant (observe index (step platform world op)) := by
    intro world op holds allowed
    exact observe_step invariant holds (preserved world op holds allowed)
  exact Transition.invariant_run stepwise initially always

end Echo.Client
