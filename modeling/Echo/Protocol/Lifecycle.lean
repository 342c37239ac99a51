import Echo.Client.Reference
import Echo.Protocol.Launch
import Mathlib.Data.List.Chain

/-!
# The life of the client as its delegates hear it

A delegate is started once, by an enabled client, and is told in strict
alternation that the client is enabled and disabled.  What it was last told is
the state of the client, and before it is disabled its media is cleared.
-/

namespace Echo.Client

open Echo.Protocol Echo.Transition

variable {H : Type}

/-- The status that a call tells a delegate. -/
def DelegateCall.status : DelegateCall → Option Bool
  | .enable => some true
  | .disable => some false
  | _ => none

/-- What the calls tell about the client, from its configured status on. -/
def told (configured : Bool) (calls : List DelegateCall) : List Bool :=
  configured :: calls.filterMap DelegateCall.status

theorem told_append (configured : Bool) (first second : List DelegateCall) :
    told configured (first ++ second) =
      told configured first ++ second.filterMap DelegateCall.status := by
  rw [told, List.filterMap_append]
  rfl

theorem told_filter (configured : Bool) (calls : List DelegateCall) :
    told configured (calls.filter DelegateCall.isProtocol) = told configured calls := by
  rw [told, List.filterMap_filter]
  congr 2
  funext call
  cases call <;> rfl

theorem count_start_filter (calls : List DelegateCall) :
    (calls.filter DelegateCall.isProtocol).count .start = calls.count .start :=
  List.count_filter rfl

end Echo.Client

namespace Echo.Protocol

open Echo.Client Echo.Transition

/-- What the calls heard so far say about the two lifecycle flags. -/
structure Told (configured : Bool) (state : State) : Prop where
  started : state.heard.count .start = if state.started then 1 else 0
  alternates : (told configured state.heard).IsChain (· ≠ ·)
  last : (told configured state.heard).getLast? = some state.enabled

/-- Other moves make no lifecycle call. -/
theorem Act.kind_ne_lifecycle {act : Act} (other : act.isLifecycle = false) (state : State) :
    ∀ call ∈ act.calls state, call.kind ≠ .lifecycle := by
  intro call member
  cases act with
  | start => exact absurd other (by simp [isLifecycle])
  | enable starts => exact absurd other (by simp [isLifecycle])
  | disable => exact absurd other (by simp [isLifecycle])
  | setMedia media broker =>
      cases broker with
      | none =>
          simp only [calls, Option.map_none, Option.toList_none, List.nil_append, List.mem_cons,
            List.not_mem_nil, or_false] at member
          rcases member with rfl | rfl <;> simp
      | some kind =>
          simp only [calls, Option.map_some, Option.toList_some, List.cons_append,
            List.nil_append, List.mem_cons, List.not_mem_nil, or_false] at member
          rcases member with rfl | rfl | rfl <;> simp
  | setMediaLength length =>
      rw [calls] at member
      split at member
      · rw [List.mem_singleton.mp member]
        simp
      · exact absurd member List.not_mem_nil
  | navigate navigation position eventLabels =>
      rw [List.mem_singleton.mp member, Navigation.call_kind]
      simp
  | idle => exact absurd member List.not_mem_nil
  | suppress eventLabels => exact absurd member List.not_mem_nil
  | unsuppress => exact absurd member List.not_mem_nil
  | _ =>
      rw [List.mem_singleton.mp member]
      simp

/-- Only disabling the client disables a delegate. -/
theorem Act.eq_disable_of_mem_calls {act : Act} {state : State}
    (member : .disable ∈ act.calls state) : act = .disable := by
  cases act with
  | disable => rfl
  | start => simp [calls] at member
  | enable starts => cases starts <;> simp [calls] at member
  | _ => exact absurd rfl (kind_ne_lifecycle rfl state _ member)

namespace Told

variable {configured : Bool} {state : State}

/-- Moves that leave the flags alone make no lifecycle call. -/
theorem of_silent (holds : Told configured state) {next : State}
    {calls : List DelegateCall} (heardEq : next.heard = state.heard ++ calls)
    (enabledEq : next.enabled = state.enabled) (startedEq : next.started = state.started)
    (silent : ∀ call ∈ calls, call.kind ≠ .lifecycle) : Told configured next := by
  have noStart : calls.count .start = 0 :=
    List.count_eq_zero.mpr fun member => silent .start member rfl
  have noStatus : calls.filterMap DelegateCall.status = [] := by
    apply List.filterMap_eq_nil_iff.mpr
    intro call member
    have other := silent call member
    cases call <;> first | rfl | exact absurd rfl other
  have toldEq : told configured next.heard = told configured state.heard := by
    rw [heardEq, told_append, noStatus, List.append_nil]
  constructor
  · rw [heardEq, List.count_append, noStart, startedEq]
    exact holds.started
  · rw [toldEq]
    exact holds.alternates
  · rw [toldEq, enabledEq]
    exact holds.last

/-- A new status differs from the last one told. -/
theorem alternates_concat (holds : Told configured state) {status : Bool}
    (changes : state.enabled ≠ status) :
    (told configured state.heard ++ [status]).IsChain (· ≠ ·) := by
  rw [List.isChain_append]
  refine ⟨holds.alternates, by simp, ?_⟩
  intro lastTold isLast next isNext
  rw [holds.last] at isLast
  simp only [Option.mem_def, Option.some.injEq, List.head?_cons] at isLast isNext
  rw [← isLast, ← isNext]
  exact changes

/-- Every guarded move keeps the delegates informed. -/
theorem apply (holds : Told configured state) {act : Act} (guard : act.Guard state) :
    Told configured (act.apply state) := by
  have heardEq := Act.apply_heard state act
  cases act with
  | start =>
      obtain ⟨enabled, unstarted⟩ := guard
      have statusEq : told configured (Act.start.apply state).heard =
          told configured state.heard := by
        rw [heardEq, told_append]
        exact List.append_nil _
      constructor
      · have count := holds.started
        rw [unstarted] at count
        rw [heardEq, List.count_append, count]
        rfl
      · rw [statusEq]
        exact holds.alternates
      · rw [statusEq]
        exact holds.last
  | enable starts =>
      obtain ⟨disabled, unstarted⟩ := guard
      have statusEq : told configured ((Act.enable starts).apply state).heard =
          told configured state.heard ++ [true] := by
        rw [heardEq, told_append]
        cases starts <;> rfl
      constructor
      · have count := holds.started
        rw [heardEq, List.count_append, count]
        cases starts with
        | false => simp [Act.calls, Act.apply]
        | true => simp [Act.calls, Act.apply, unstarted rfl]
      · rw [statusEq]
        exact holds.alternates_concat (by simp [disabled])
      · rw [statusEq, List.getLast?_concat]
        rfl
  | disable =>
      have statusEq : told configured (Act.disable.apply state).heard =
          told configured state.heard ++ [false] := by
        rw [heardEq, told_append]
        rfl
      constructor
      · rw [heardEq, List.count_append, holds.started]
        simp [Act.calls, Act.apply, State.close]
      · rw [statusEq]
        exact holds.alternates_concat (by simp [show state.enabled = true from guard])
      · rw [statusEq, List.getLast?_concat]
        rfl
  | _ =>
      exact holds.of_silent heardEq (Act.apply_enabled_of_not_lifecycle rfl state)
        (Act.apply_started_of_not_lifecycle rfl state) (Act.kind_ne_lifecycle rfl state)

end Told

/-- A client that starts by itself has started whenever it is enabled. -/
def AutoStarted (autoStart : Bool) (state : State) : Prop :=
  autoStart = true → state.enabled = true → state.started = true

theorem AutoStarted.apply {autoStart : Bool} {state : State}
    (holds : AutoStarted autoStart state) {act : Act}
    (due : ∀ starts, act = .enable starts → starts = (autoStart && !state.started)) :
    AutoStarted autoStart (act.apply state) := by
  intro auto enabled
  cases act with
  | start => rfl
  | enable starts =>
      rw [due starts rfl, auto]
      cases started : state.started <;> simp [Act.apply, started]
  | disable => exact absurd enabled Bool.false_ne_true
  | _ =>
      rw [Act.apply_enabled_of_not_lifecycle rfl] at enabled
      rw [Act.apply_started_of_not_lifecycle rfl]
      exact holds auto enabled

/-- No move forgets that the client has started. -/
theorem Act.started_apply {state : State} (started : state.started = true) (act : Act) :
    (act.apply state).started = true := by
  cases act with
  | start => rfl
  | enable starts => simp [apply, started]
  | disable => simp [apply, State.close, started]
  | _ =>
      rw [apply_started_of_not_lifecycle rfl]
      exact started

end Echo.Protocol

namespace Echo.Client

open Echo.Protocol Echo.Transition

variable {H : Type}

/-! ## Runs of the client -/

theorem hasStarted_run {platform : Platform H} {world : World H}
    (started : world.client.hasStarted = true) (ops : List Op) :
    (run platform world ops).client.hasStarted = true := by
  have observed : (observe 0 world).started = true := started
  exact observe_run (fun state => state.started = true)
    (fun _ _ started _ _ => Act.started_apply started _) observed
    (always_true (step platform) world ops)

theorem autoStarted_step {platform : Platform H} {world : World H}
    (holds : AutoStarted world.client.settings.autoStart (observe 0 world)) (op : Op) :
    AutoStarted (step platform world op).client.settings.autoStart
      (observe 0 (step platform world op)) := by
  rw [step_settings]
  apply observe_step (AutoStarted world.client.settings.autoStart) holds
  intro _
  apply holds.apply
  intro starts enables
  have takes := op.act_takes platform world
  rw [enables] at takes
  cases takes
  rfl

theorem autoStarted_run (platform : Platform H) {world : World H}
    (holds : AutoStarted world.client.settings.autoStart (observe 0 world)) (ops : List Op) :
    AutoStarted world.client.settings.autoStart (observe 0 (run platform world ops)) := by
  have stepwise : ∀ (world : World H) (op : Op),
      AutoStarted world.client.settings.autoStart (observe 0 world) →
      AutoStarted (step platform world op).client.settings.autoStart
        (observe 0 (step platform world op)) := by
    intro world op holds
    exact autoStarted_step holds op
  rw [← run_settings platform world ops]
  exact invariant_run_of_step stepwise holds ops

/-- Before a delegate hears that the client is disabled, in the same operation,
it is told to clear its media. -/
theorem clearMedia_before_disable {platform : Platform H} {world : World H} {op : Op}
    {index : Nat} (present : index < world.client.settings.delegates.length)
    {before after : List DelegateCall}
    (disables : received index (emitted platform world op) = before ++ .disable :: after) :
    .clearMedia ∈ before := by
  have callsEq := heard_emitted platform present op
  rw [heard, disables, List.filter_append, List.filter_cons_of_pos (by rfl)] at callsEq
  have disabling : op.act platform world = .disable := by
    apply Act.eq_disable_of_mem_calls
    rw [← callsEq]
    simp
  rw [disabling, Act.calls] at callsEq
  cases kept : before.filter DelegateCall.isProtocol with
  | nil => simp [kept] at callsEq
  | cons call calls =>
      rw [kept, List.cons_append, List.cons.injEq] at callsEq
      have member : call ∈ before.filter DelegateCall.isProtocol := by
        rw [kept]
        exact List.mem_cons_self
      exact callsEq.1 ▸ (List.mem_filter.mp member).1

/-- What a delegate has been told about the life of the client. -/
structure LifecycleTold (configured : Bool) (index : Nat) (world : World H) : Prop where
  started : (received index world.log).count .start = if world.client.hasStarted then 1 else 0
  alternates : (told configured (received index world.log)).IsChain (· ≠ ·)
  last : (told configured (received index world.log)).getLast? = some (isEnabled world)

theorem lifecycleTold_of_told {configured : Bool} {index : Nat} {world : World H}
    (holds : Told configured (observe index world)) : LifecycleTold configured index world where
  started := (count_start_filter _).symm.trans holds.started
  alternates := told_filter configured (received index world.log) ▸ holds.alternates
  last := told_filter configured (received index world.log) ▸ holds.last

theorem Launched.told {platform : Platform H} {arguments : InitArguments} {world : World H}
    (launched : Launched platform arguments world) (index : Nat) :
    Told (configFlag (collateConfig platform arguments.config) .echoEnabled)
      (observe index world) := by
  rw [launched.observe_eq index]
  cases configFlag (collateConfig platform arguments.config) .echoEnabled with
  | false => exact ⟨rfl, List.isChain_singleton _, rfl⟩
  | true =>
      cases world.client.settings.autoStart with
      | false => exact ⟨rfl, List.isChain_singleton _, rfl⟩
      | true => exact ⟨rfl, List.isChain_singleton _, rfl⟩

theorem Launched.autoStarted {platform : Platform H} {arguments : InitArguments}
    {world : World H} (launched : Launched platform arguments world) :
    AutoStarted world.client.settings.autoStart (observe 0 world) := by
  rw [launched.observe_eq 0]
  intro auto enabled
  simp only [auto, Bool.and_true]
  exact enabled

/-- Every start in the log of a launched client came from an enabled one. -/
theorem Launched.startsEnabled {platform : Platform H} {arguments : InitArguments}
    {world : World H} (launched : Launched platform arguments world) :
    ∀ effect ∈ world.log, effect.StartsEnabled := by
  obtain ⟨store, now, rfl⟩ := launched.exists_complete
  obtain ⟨entries, extended, allowed⟩ :=
    complete_extends platform (prepare platform arguments store now)
  intro effect member
  rw [extended] at member
  rcases List.mem_append.mp member with prepared | completed
  · apply Effect.startsEnabled_of_kind
    rcases prepare_log platform arguments store now effect prepared with setup | rfl
    · simp [setup]
    · simp [Effect.kind]
  · exact allowed effect completed

theorem startsEnabled_run {platform : Platform H} {world : World H}
    (holds : ∀ effect ∈ world.log, effect.StartsEnabled) (ops : List Op) :
    ∀ effect ∈ (run platform world ops).log, effect.StartsEnabled := by
  have stepwise : ∀ (world : World H) (op : Op), (∀ effect ∈ world.log, effect.StartsEnabled) →
      ∀ effect ∈ (step platform world op).log, effect.StartsEnabled := by
    intro world op holds effect member
    obtain ⟨entries, extended, allowed⟩ := step_extends platform world op
    rw [extended] at member
    rcases List.mem_append.mp member with earlier | added
    · exact holds effect earlier
    · exact allowed effect added
  exact invariant_run_of_step stepwise holds ops

/-- The lifecycle protocol of every run from a valid configuration.  A delegate is
started at most once, namely when the client has started; every start came from an
enabled client; the statuses told alternate from the configured one and end with
the client's own; a start is never taken back; a client with `autoStart` has
started whenever it is enabled; and media is cleared before a delegate is
disabled. -/
theorem lifecycle_protocol {platform : Platform H} {arguments : InitArguments}
    {world : World H} (launched : Launched platform arguments world) (ops : List Op) :
    (∀ index, index < world.client.settings.delegates.length →
      LifecycleTold (configFlag (collateConfig platform arguments.config) .echoEnabled) index
        (run platform world ops)) ∧
    (∀ effect ∈ (run platform world ops).log, effect.StartsEnabled) ∧
    (∀ later, (run platform world ops).client.hasStarted = true →
      (run platform (run platform world ops) later).client.hasStarted = true) ∧
    (world.client.settings.autoStart = true → isEnabled (run platform world ops) = true →
      (run platform world ops).client.hasStarted = true) ∧
    (∀ index, index < world.client.settings.delegates.length → ∀ op before after,
      received index (emitted platform (run platform world ops) op) =
        before ++ .disable :: after → .clearMedia ∈ before) := by
  refine ⟨?_, startsEnabled_run launched.startsEnabled ops, ?_, ?_, ?_⟩
  · intro index present
    apply lifecycleTold_of_told
    exact observe_run (Told _) (fun _ _ holds _ guard => holds.apply guard) (launched.told index)
      (always_true _ _ ops)
  · intro later started
    exact hasStarted_run started later
  · exact autoStarted_run platform launched.autoStarted ops
  · intro index present op before after
    rw [← run_settings platform world ops] at present
    exact clearMedia_before_disable present

/-- Two rounds of disabling and enabling a client that has started by itself. -/
theorem lifecycle_two_rounds :
    LifecycleTold true 0 (run reference launchedWorld
      [.lifecycle .disable, .lifecycle .start, .lifecycle .enable, .lifecycle .disable]) :=
  (lifecycle_protocol launchedWorld_launched _).1 0 (by decide)

end Echo.Client
