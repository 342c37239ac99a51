import Echo.Protocol.Ownership

/-!
# What a broker is told

The log also determines what every broker was called with.  The calls of one step are
those of its move, and they all go to the broker that is current when the step begins.
A broker is therefore addressed in turns: it is started, for media that is not live
right after it was given a position, or stopped.  Once it has been released it is
stopped, and it is never called again.
-/

namespace Echo.Client

open Echo.Protocol Echo.Transition

variable {H : Type}

/-! ## The calls of a step -/

/-- What one broker was called with. -/
def callsTo (broker : BrokerRef) (calls : List (BrokerRef × BrokerCall)) : List BrokerCall :=
  calls.filterMap fun entry => if entry.1 = broker then some entry.2 else none

theorem callsTo_append (broker : BrokerRef) (first second : List (BrokerRef × BrokerCall)) :
    callsTo broker (first ++ second) = callsTo broker first ++ callsTo broker second :=
  List.filterMap_append

theorem callsTo_addressed (broker : BrokerRef) (current : Option BrokerRef)
    (calls : List BrokerCall) :
    callsTo broker (addressed current calls) = if current = some broker then calls else [] := by
  cases current with
  | none => rfl
  | some ref =>
      by_cases same : ref = broker
      · simp [callsTo, addressed, same]
      · simp [callsTo, addressed, same]

/-- The broker calls of a step are the turn of its move, for the current broker. -/
theorem step_tells (platform : Platform H) (world : World H) (op : Op) :
    Tells ((op.act platform world).turn world.client.session) world
      (step platform world op) := by
  by_cases asks : op = .getComScoreDeviceID
  · subst asks
    exact getComScoreDeviceID_tells world
  · exact (step_performs_of_ne platform asks world 0).told

end Echo.Client

namespace Echo.Protocol

open Echo.Client

/-! ## The turns of a broker -/

/-- A turn, and the phase it leaves the broker in.  Brokers of some kinds may be started
where they are, brokers of others are given a position first. -/
inductive Turn (kinds : BrokerKind → Prop) : List BrokerCall → BrokerPhase → Prop
  | start (live : kinds .live) : Turn kinds [.start] .started
  | startAt (position : UInt64) (onDemand : kinds .onDemand) :
      Turn kinds [.setPosition position, .start] .started
  | stop : Turn kinds [.stop] .stopped

/-- What a broker may be called with before it is in a phase. -/
inductive Conversation (kinds : BrokerKind → Prop) : List BrokerCall → BrokerPhase → Prop
  | made : Conversation kinds [] .made
  | turn {calls next : List BrokerCall} {before after : BrokerPhase}
      (earlier : Conversation kinds calls before) (turn : Turn kinds next after) :
      Conversation kinds (calls ++ next) after

/-- A broker that is stopped was told so last. -/
theorem Conversation.getLast_of_stopped {kinds : BrokerKind → Prop} {calls : List BrokerCall}
    (conversation : Conversation kinds calls .stopped) : calls.getLast? = some .stop := by
  generalize phaseEq : BrokerPhase.stopped = phase at conversation
  cases conversation with
  | made => cases phaseEq
  | turn earlier turn =>
      subst phaseEq
      cases turn with
      | stop => simp

theorem Turn.mono {kinds wider : BrokerKind → Prop} {calls : List BrokerCall}
    {phase : BrokerPhase} (turn : Turn kinds calls phase)
    (implies : ∀ kind, kinds kind → wider kind) : Turn wider calls phase := by
  cases turn with
  | start live => exact .start (implies .live live)
  | startAt position onDemand => exact .startAt position (implies .onDemand onDemand)
  | stop => exact .stop

/-- The kind of broker that serves the media of a session. -/
def Serves (session : Session) (kind : BrokerKind) : Prop :=
  session.media.isSome = true ∧ (kind = .live ↔ session.isLive = true)

/-- A move of the machine is a turn of the current broker, or leaves it alone. -/
theorem Act.turn_current {state : State} {act : Act} (guard : act.Guard state)
    {broker : BrokerRef} (current : state.session.broker = some broker)
    (made : broker < state.brokers.length) :
    (act.turn state.session = [] ∧ (act.apply state).phaseOf broker = state.phaseOf broker) ∨
      ∃ phase, Turn (Serves state.session) (act.turn state.session) phase ∧
        (act.apply state).phaseOf broker = some phase := by
  have same {next : State} (brokersEq : next.brokers = state.brokers) :
      next.phaseOf broker = state.phaseOf broker := by
    rw [State.phaseOf, brokersEq, State.phaseOf]
  have set {next : State} (phase : BrokerPhase)
      (brokersEq : next.brokers = (state.setPhase phase).brokers) :
      next.phaseOf broker = some phase := by
    rw [State.phaseOf, brokersEq]
    exact State.phaseOf_setPhase_current current made phase
  have playTurn (stored : state.session.media.isSome = true) (position : UInt64) :
      Turn (Serves state.session)
        (if state.session.isLive then [.start] else [.setPosition position, .start])
        .started := by
    split
    · rename_i live
      exact .start ⟨stored, by simp [live]⟩
    · rename_i notLive
      exact .startAt position ⟨stored, by simp [notLive]⟩
  cases act with
  | disable => exact .inr ⟨.stopped, .stop, set .stopped rfl⟩
  | setMedia media kind =>
      refine .inr ⟨.stopped, .stop, ?_⟩
      have stopped := State.phaseOf_setPhase_current current made .stopped
      have madeAfter : broker < (state.setPhase .stopped).brokers.length := by simpa using made
      rw [State.phaseOf] at stopped
      simp only [apply, State.hear_brokers, State.adopt_brokers, State.close,
        State.withSession_brokers, State.phaseOf, List.getElem?_append_left madeAfter, stopped]
  | play position eventLabels =>
      exact .inr ⟨.started, playTurn guard.2.1 position, set .started rfl⟩
  | release position eventLabels =>
      refine .inr ⟨.started, playTurn guard.2.2.2 position, ?_⟩
      have unsuppressed : (state.withSession .unsuppressed).session.broker = some broker := current
      exact State.phaseOf_setPhase_current unsuppressed made .started
  | suppress eventLabels =>
      obtain ⟨_, enrichedLive, _⟩ := guard
      have live : state.session.isLive = true := by
        obtain ⟨media, stored, holds⟩ := (Option.any_eq_true _ _).mp enrichedLive
        rw [Session.isLive, stored]
        exact (Bool.and_eq_true_iff.mp holds).1
      have served : Serves state.session .live :=
        ⟨Session.isSome_of_isEnrichedLive enrichedLive, by simp [live]⟩
      exact .inr ⟨.started, .start served, set .started rfl⟩
  | navigate navigation position eventLabels => exact .inr ⟨.stopped, .stop, set .stopped rfl⟩
  | _ => exact .inl ⟨rfl, same rfl⟩

/-- A move of the machine leaves the other brokers alone. -/
theorem Act.phaseOf_apply_other {state : State} {broker : BrokerRef}
    (other : state.session.broker ≠ some broker) (made : broker < state.brokers.length)
    (act : Act) : (act.apply state).phaseOf broker = state.phaseOf broker := by
  have same {next : State} (brokersEq : next.brokers = state.brokers) :
      next.phaseOf broker = state.phaseOf broker := by
    rw [State.phaseOf, brokersEq, State.phaseOf]
  have set {next : State} (phase : BrokerPhase)
      (brokersEq : next.brokers = (state.setPhase phase).brokers) :
      next.phaseOf broker = state.phaseOf broker := by
    rw [State.phaseOf, brokersEq]
    exact State.phaseOf_setPhase_other other phase
  cases act with
  | disable => exact set .stopped rfl
  | setMedia media kind =>
      have kept := State.phaseOf_setPhase_other other .stopped
      have madeAfter : broker < (state.setPhase .stopped).brokers.length := by simpa using made
      rw [State.phaseOf] at kept
      simp only [apply, State.hear_brokers, State.adopt_brokers, State.close,
        State.withSession_brokers, State.phaseOf, List.getElem?_append_left madeAfter, kept]
  | play position eventLabels => exact set .started rfl
  | release position eventLabels =>
      have unsuppressed : (state.withSession .unsuppressed).session.broker ≠ some broker := other
      exact State.phaseOf_setPhase_other unsuppressed .started
  | suppress eventLabels => exact set .started rfl
  | navigate navigation position eventLabels => exact set .stopped rfl
  | _ => exact same rfl

/-- A broker that a move makes is idle. -/
theorem Act.phaseOf_apply_fresh {state : State} {broker : Nat} (act : Act)
    (fresh : state.brokers.length ≤ broker)
    (made : broker < (act.apply state).brokers.length) :
    (act.apply state).phaseOf broker = some .made := by
  have none {next : State} (lengthEq : next.brokers.length = state.brokers.length)
      (madeNext : broker < next.brokers.length) : False := by
    omega
  cases act with
  | setMedia media kind =>
      cases kind with
      | none => exact (none (by simp [apply, State.close]) made).elim
      | some kind =>
          have last : broker = state.brokers.length := by
            simp [apply, State.close] at made
            omega
          simp [apply, State.close, State.phaseOf, last]
  | disable => exact (none (by simp [apply, State.close]) made).elim
  | play position eventLabels => exact (none (by simp [apply]) made).elim
  | release position eventLabels => exact (none (by simp [apply]) made).elim
  | suppress eventLabels => exact (none (by simp [apply]) made).elim
  | navigate navigation position eventLabels => exact (none (by simp [apply]) made).elim
  | _ => exact (none rfl made).elim

/-- A broker only becomes current when it is made. -/
theorem Act.broker_apply {state : State} {act : Act} {broker : Nat}
    (current : (act.apply state).session.broker = some broker) :
    state.session.broker = some broker ∨ state.brokers.length ≤ broker := by
  rw [Act.apply_session] at current
  cases act with
  | disable => cases current
  | setMedia media kind =>
      cases kind with
      | none => cases current
      | some kind =>
          right
          exact Nat.le_of_eq (Option.some.inj current)
  | navigate navigation position eventLabels =>
      exact .inl ((state.session.navigated_broker navigation).symm.trans current)
  | _ => exact .inl current

/-- Brokers are never lost. -/
theorem Act.length_brokers_apply (state : State) (act : Act) :
    state.brokers.length ≤ (act.apply state).brokers.length := by
  cases act <;> simp [apply, State.close]

end Echo.Protocol

namespace Echo.Client

open Echo.Protocol Echo.Transition

variable {H : Type}

/-- Every broker that was made has been called in turns that suit its kind, and none was
called before it was made. -/
structure BrokerContract (suits : BrokerKind → BrokerKind → Prop) (world : World H) : Prop where
  unmade : ∀ broker, world.brokers.length ≤ broker →
    callsTo broker (brokerLog world.log) = []
  conversation : ∀ broker kind phase, world.kindOf broker = some kind →
    world.phaseOf broker = some phase →
      Conversation (suits kind) (callsTo broker (brokerLog world.log)) phase

/-- What one broker is told in a step. -/
theorem callsTo_step (platform : Platform H) (world : World H) (op : Op) (broker : BrokerRef) :
    callsTo broker (brokerLog (step platform world op).log) =
      callsTo broker (brokerLog world.log) ++
        if world.client.session.broker = some broker then
          (op.act platform world).turn world.client.session
        else [] := by
  rw [step_tells platform world op, callsTo_append, callsTo_addressed]

/-- One step of the client is a turn of the current broker, or leaves it alone; it leaves
every other broker alone, and brokers that it makes are idle. -/
theorem phaseOf_step (platform : Platform H) (world : World H) (op : Op) (broker : Nat) :
    (world.client.session.broker = some broker → broker < world.brokers.length →
      ((op.act platform world).turn world.client.session = [] ∧
          (step platform world op).phaseOf broker = world.phaseOf broker) ∨
        ∃ phase, Turn (Serves world.client.session)
            ((op.act platform world).turn world.client.session) phase ∧
          (step platform world op).phaseOf broker = some phase) ∧
      (world.client.session.broker ≠ some broker → broker < world.brokers.length →
        (step platform world op).phaseOf broker = world.phaseOf broker) ∧
      (world.brokers.length ≤ broker → broker < (step platform world op).brokers.length →
        (step platform world op).phaseOf broker = some .made) := by
  by_cases asks : op = .getComScoreDeviceID
  · subst asks
    have kept : (step platform world .getComScoreDeviceID).brokers = world.brokers := by
      rw [step, getComScoreDeviceID_eq]
    have phaseEq : (step platform world .getComScoreDeviceID).phaseOf broker =
        world.phaseOf broker := by
      rw [World.phaseOf, World.phaseOf, kept]
    refine ⟨fun _ _ => .inl ⟨rfl, phaseEq⟩, fun _ _ => phaseEq, ?_⟩
    intro fresh made
    rw [kept] at made
    exact absurd made (Nat.not_lt.mpr fresh)
  · have performs := step_performs_of_ne platform asks world 0
    have phaseEq : (step platform world op).phaseOf broker =
        ((op.act platform world).apply (observe 0 world)).phaseOf broker := by
      rw [← performs.result, observe_phaseOf]
    have lengthEq : (step platform world op).brokers.length =
        ((op.act platform world).apply (observe 0 world)).brokers.length := by
      rw [← performs.result]
      exact (List.length_map _).symm
    have before : (observe 0 world).brokers.length = world.brokers.length := List.length_map _
    rw [phaseEq, lengthEq, ← before, ← observe_phaseOf 0 world broker]
    exact ⟨Act.turn_current performs.guard, fun other made => Act.phaseOf_apply_other other made _,
      Act.phaseOf_apply_fresh _⟩

theorem kindOf_step (platform : Platform H) (op : Op) {world : World H} {broker : Nat}
    (made : broker < world.brokers.length) :
    (step platform world op).kindOf broker = world.kindOf broker := by
  rw [← observe_kindOf 0 world broker, ← observe_kindOf 0 (step platform world op) broker]
  rcases step_performs_or_idle platform world op 0 with performs | unobserved
  · rw [performs.result]
    exact Act.kindOf_apply (by simpa [observe] using made) _
  · rw [unobserved]

theorem length_brokers_step (platform : Platform H) (world : World H) (op : Op) :
    world.brokers.length ≤ (step platform world op).brokers.length := by
  have counted (world : World H) : (observe 0 world).brokers.length = world.brokers.length :=
    List.length_map _
  rw [← counted, ← counted]
  rcases step_performs_or_idle platform world op 0 with performs | unobserved
  · rw [performs.result]
    exact Act.length_brokers_apply _ _
  · rw [unobserved]

theorem lt_length_of_phaseOf {world : World H} {broker : BrokerRef} {phase : BrokerPhase}
    (known : world.phaseOf broker = some phase) : broker < world.brokers.length := by
  obtain ⟨entry, found, _⟩ := Option.map_eq_some_iff.mp known
  exact (List.getElem?_eq_some_iff.mp found).1

/-- A step keeps the contract, if the current broker suits the media it serves. -/
theorem BrokerContract.step {suits : BrokerKind → BrokerKind → Prop} {world : World H}
    (contract : BrokerContract suits world) (platform : Platform H) (op : Op)
    (made : ∀ broker, world.client.session.broker = some broker → broker < world.brokers.length)
    (suited : ∀ broker kind served, world.client.session.broker = some broker →
      world.kindOf broker = some kind → Serves world.client.session served → suits kind served) :
    BrokerContract suits (Client.step platform world op) where
  unmade := by
    intro broker fresh
    have growing := length_brokers_step platform world op
    have notCurrent : world.client.session.broker ≠ some broker := by
      intro current
      exact absurd (made broker current) (Nat.not_lt.mpr (growing.trans fresh))
    rw [callsTo_step, if_neg notCurrent, List.append_nil]
    exact contract.unmade broker (growing.trans fresh)
  conversation := by
    intro broker kind phase kindEq phaseEq
    obtain ⟨ofCurrent, ofOther, ofFresh⟩ := phaseOf_step platform world op broker
    rw [callsTo_step]
    by_cases old : broker < world.brokers.length
    · rw [kindOf_step platform op old] at kindEq
      by_cases current : world.client.session.broker = some broker
      · rw [if_pos current]
        rcases ofCurrent current old with ⟨silent, same⟩ | ⟨next, turn, reached⟩
        · rw [silent, List.append_nil]
          rw [same] at phaseEq
          exact contract.conversation broker kind phase kindEq phaseEq
        · rw [reached] at phaseEq
          obtain rfl := Option.some.inj phaseEq
          obtain ⟨entry, found⟩ : ∃ entry, world.brokers[broker]? = some entry :=
            ⟨_, List.getElem?_eq_getElem old⟩
          have before : world.phaseOf broker = some entry.phase := by
            rw [World.phaseOf, found]
            rfl
          exact .turn (contract.conversation broker kind entry.phase kindEq before)
            (turn.mono fun served serves => suited broker kind served current kindEq serves)
      · rw [if_neg current, List.append_nil]
        rw [ofOther current old] at phaseEq
        exact contract.conversation broker kind phase kindEq phaseEq
    · have fresh : world.brokers.length ≤ broker := Nat.not_lt.mp old
      rw [ofFresh fresh (lt_length_of_phaseOf phaseEq)] at phaseEq
      obtain rfl := Option.some.inj phaseEq
      have notCurrent : world.client.session.broker ≠ some broker :=
        fun current => old (made broker current)
      rw [if_neg notCurrent, List.append_nil, contract.unmade broker fresh]
      exact .made

theorem Launched.brokerContract {platform : Platform H} {arguments : InitArguments}
    {world : World H} (launched : Launched platform arguments world)
    (suits : BrokerKind → BrokerKind → Prop) : BrokerContract suits world := by
  have noBrokers : world.brokers = [] :=
    List.map_eq_nil_iff.mp (congrArg State.brokers (launched.observe_eq 0))
  have silent : brokerLog world.log = [] := by
    obtain ⟨store, now, rfl⟩ := launched.exists_complete
    have prepared : brokerLog (prepare platform arguments store now).log = [] := by
      apply List.filterMap_eq_nil_iff.mpr
      intro effect member
      rcases prepare_log platform arguments store now effect member with setup | rfl
      · cases effect with
        | broker ref call => cases setup
        | _ => rfl
      · rfl
    have unstarted : (prepare platform arguments store now).client.hasStarted = false :=
      congrArg State.started (observe_prepare platform arguments store now 0)
    have registered : brokerLog registrations = [] := rfl
    rw [complete_eq, World.register_log, brokerLog_append, registered, List.append_nil]
    split
    · rename_i due
      rw [Bool.and_eq_true] at due
      have started := Tells.ofUser (start_frame platform due.1 unstarted)
      simpa [Tells, prepared] using started
    · exact prepared
  constructor
  · intro broker _
    rw [silent]
    rfl
  · intro broker kind phase kindEq _
    simp [World.kindOf, noBrokers] at kindEq

/-- A broker that was released does not become current again. -/
theorem released_step (platform : Platform H) {world : World H} (op : Op) {broker : Nat}
    (made : broker < world.brokers.length)
    (released : world.client.session.broker ≠ some broker) :
    (step platform world op).client.session.broker ≠ some broker := by
  intro current
  rw [← observe_session 0] at current released
  rcases step_performs_or_idle platform world op 0 with performs | unobserved
  · rw [performs.result] at current
    rcases Act.broker_apply current with before | fresh
    · exact released before
    · have counted : (observe 0 world).brokers.length = world.brokers.length :=
        List.length_map _
      omega
  · rw [unobserved] at current
    exact released current

/-- A broker that was released is never called again. -/
theorem callsTo_run_of_released (platform : Platform H) {world : World H} {broker : Nat}
    (made : broker < world.brokers.length)
    (released : world.client.session.broker ≠ some broker) (ops : List Op) :
    callsTo broker (brokerLog (run platform world ops).log) =
      callsTo broker (brokerLog world.log) := by
  induction ops generalizing world with
  | nil => rfl
  | cons op ops ih =>
      have told := callsTo_step platform world op broker
      rw [if_neg released, List.append_nil] at told
      exact (ih (made.trans_le (length_brokers_step platform world op))
        (released_step platform op made released)).trans told

/-- The current broker has the kind that serves its media. -/
theorem served_eq_kind {world : World H} (matched : Matched (observe 0 world))
    {broker : BrokerRef} {kind served : BrokerKind}
    (current : world.client.session.broker = some broker)
    (kindEq : world.kindOf broker = some kind) (serves : Serves world.client.session served) :
    served = kind := by
  obtain ⟨stored, servedLive⟩ := serves
  obtain ⟨media, mediaEq⟩ := Option.isSome_iff_exists.mp stored
  have kindLive := matched broker media current mediaEq
  rw [observe_kindOf, kindEq, Option.some.injEq] at kindLive
  have same : world.client.session.isLive = media.isLive := by
    rw [Session.isLive, mediaEq]
    rfl
  rw [same, ← kindLive] at servedLive
  cases served with
  | live => exact (servedLive.mp rfl).symm
  | onDemand =>
      cases kind with
      | live => exact servedLive.mpr rfl
      | onDemand => rfl

theorem lt_length_of_current {world : World H} (owned : Owned (observe 0 world))
    (broker : Nat) (current : world.client.session.broker = some broker) :
    broker < world.brokers.length := by
  simpa [observe] using owned.made broker current

theorem BrokerContract.getLast_of_stopped {suits : BrokerKind → BrokerKind → Prop}
    {world : World H} (contract : BrokerContract suits world) {broker : BrokerRef}
    (stopped : world.phaseOf broker = some .stopped) :
    (callsTo broker (brokerLog world.log)).getLast? = some .stop := by
  obtain ⟨entry, found, _⟩ := Option.map_eq_some_iff.mp stopped
  have kindEq : world.kindOf broker = some entry.kind := by
    rw [World.kindOf, found]
    rfl
  exact (contract.conversation broker entry.kind .stopped kindEq stopped).getLast_of_stopped

/-- Whatever the app does, each of its brokers is called in turns, and one that was
released was stopped and is never called again. -/
theorem brokerContract_run {platform : Platform H} {arguments : InitArguments}
    {world : World H} (launched : Launched platform arguments world) (ops later : List Op) :
    BrokerContract (fun _ _ => True) (run platform world ops) ∧
      ∀ broker, broker < (run platform world ops).brokers.length →
        (run platform world ops).client.session.broker ≠ some broker →
        (callsTo broker (brokerLog (run platform world ops).log)).getLast? = some .stop ∧
          callsTo broker (brokerLog (run platform world (ops ++ later)).log) =
            callsTo broker (brokerLog (run platform world ops).log) := by
  have stepwise : ∀ (world : World H) (op : Op),
      (Owned (observe 0 world) ∧ BrokerContract (fun _ _ => True) world) →
      Owned (observe 0 (step platform world op)) ∧
        BrokerContract (fun _ _ => True) (step platform world op) := by
    rintro world op ⟨owned, contract⟩
    refine ⟨observe_step Owned owned owned.apply, contract.step platform op ?_ ?_⟩
    · exact lt_length_of_current owned
    · intro _ _ _ _ _ _
      trivial
  have contract := (invariant_run_of_step stepwise
    ⟨(launched.owned 0).1, launched.brokerContract _⟩ ops).2
  refine ⟨contract, ?_⟩
  intro broker made released
  have stopped : (run platform world ops).phaseOf broker = some .stopped := by
    have replaced := (launched.owned_run ops 0).replaced broker (by simpa [observe] using made)
      released
    simpa using replaced
  refine ⟨contract.getLast_of_stopped stopped, ?_⟩
  have continued : run platform world (ops ++ later) =
      run platform (run platform world ops) later := run_append _ _ _ _
  rw [continued]
  exact callsTo_run_of_released platform made released later

theorem brokerContract_episode :
    (callsTo 0 (brokerLog (run reference launchedWorld
      ([.report (.setPlayerDelegate 0), .media (.setMedia (liveMedia true)),
        .media (.avPlayEvent 0 none), .lifecycle .disable] ++
        [.lifecycle .enable, .live 0 .releaseSuppressedPlay])).log)) =
      callsTo 0 (brokerLog (run reference launchedWorld
        [.report (.setPlayerDelegate 0), .media (.setMedia (liveMedia true)),
          .media (.avPlayEvent 0 none), .lifecycle .disable]).log) :=
  ((brokerContract_run launchedWorld_launched
    [.report (.setPlayerDelegate 0), .media (.setMedia (liveMedia true)),
      .media (.avPlayEvent 0 none), .lifecycle .disable]
    [.lifecycle .enable, .live 0 .releaseSuppressedPlay]).2 0 (by decide) (by decide)).2

/-- If brokers call back while they run, and update live media only, then live brokers are
never given a position, and no other is started without one. -/
theorem brokerKinds_run {platform : Platform H} {arguments : InitArguments}
    {world : World H} (launched : Launched platform arguments world) {ops : List Op}
    (always : Always platform (fun world op => CallsBackRunning world op ∧ UpdatesLive op)
      world ops) :
    BrokerContract (fun kind served => served = kind) (run platform world ops) := by
  have stepwise : ∀ (world : World H) (op : Op),
      (Owned (observe 0 world) ∧ Matched (observe 0 world) ∧
        world.client.settings.essUrl.isSome = true ∧
        BrokerContract (fun kind served => served = kind) world) →
      (CallsBackRunning world op ∧ UpdatesLive op) →
      Owned (observe 0 (step platform world op)) ∧ Matched (observe 0 (step platform world op)) ∧
        (step platform world op).client.settings.essUrl.isSome = true ∧
        BrokerContract (fun kind served => served = kind) (step platform world op) := by
    rintro world op ⟨owned, matched, hasUrl, contract⟩ ⟨running, live⟩
    refine ⟨observe_step Owned owned owned.apply, ?_, ?_, ?_⟩
    · exact observe_step Matched matched fun _ => matched_step owned matched hasUrl running live
    · rw [step_settings]
      exact hasUrl
    · refine contract.step platform op (lt_length_of_current owned) ?_
      intro broker kind served current kindEq serves
      exact served_eq_kind matched current kindEq serves
  exact (invariant_run stepwise ⟨(launched.owned 0).1, (launched.owned 0).2,
    launched.essUrl_isSome, launched.brokerContract _⟩ always).2.2.2

theorem brokerKinds_episode :
    BrokerContract (fun kind served => served = kind) (run reference launchedWorld
      [.report (.setPlayerDelegate 0), .media (.setMedia (liveMedia true)),
        .media (.avPlayEvent 0 none), .media (.navigation .avPause 0 none)]) :=
  brokerKinds_run launchedWorld_launched (by decide)

/-! ## Brokers handed over -/

/-- The broker that a call hands over. -/
def DelegateCall.handed : DelegateCall → Option BrokerRef
  | .setBroker broker => some broker
  | _ => none

/-- A move hands over the broker that it makes. -/
theorem handed_calls (state : State) (act : Act) :
    ((act.calls state).filterMap DelegateCall.handed = [] ∧
        (act.apply state).brokers.length = state.brokers.length) ∨
      ((act.calls state).filterMap DelegateCall.handed = [state.brokers.length] ∧
        (act.apply state).brokers.length = state.brokers.length + 1) := by
  cases act with
  | setMedia media kind =>
      cases kind with
      | none => exact .inl ⟨rfl, by simp [Act.apply, State.close]⟩
      | some kind => exact .inr ⟨rfl, by simp [Act.apply, State.close]⟩
  | enable starts =>
      cases starts with
      | false => exact .inl ⟨rfl, rfl⟩
      | true => exact .inl ⟨rfl, rfl⟩
  | setMediaLength length =>
      refine .inl ⟨?_, rfl⟩
      rw [Act.calls]
      split
      · rfl
      · rfl
  | navigate navigation position eventLabels =>
      refine .inl ⟨?_, by simp [Act.apply]⟩
      cases navigation <;> rfl
  | _ => exact .inl ⟨rfl, by simp [Act.apply, State.close]⟩

/-- Every broker that is ever made is handed to every delegate once, in the order they
are made in. -/
theorem handedBrokers_run {platform : Platform H} {arguments : InitArguments}
    {world : World H} (launched : Launched platform arguments world) (ops : List Op)
    (index : Nat) :
    (received index (run platform world ops).log).filterMap DelegateCall.handed =
      List.range (run platform world ops).brokers.length := by
  have stepwise : ∀ (world : World H) (op : Op),
      (observe index world).heard.filterMap DelegateCall.handed =
        List.range (observe index world).brokers.length → True →
      (op.act platform world).Guard (observe index world) →
      ((op.act platform world).apply (observe index world)).heard.filterMap
          DelegateCall.handed =
        List.range ((op.act platform world).apply (observe index world)).brokers.length := by
    intro world op handed _ _
    rw [Act.apply_heard, List.filterMap_append, handed]
    rcases handed_calls (observe index world) (op.act platform world) with
      ⟨none, count⟩ | ⟨fresh, count⟩
    · rw [none, count, List.append_nil]
    · rw [fresh, count, List.range_succ]
  have initially : (observe index world).heard.filterMap DelegateCall.handed =
      List.range (observe index world).brokers.length := by
    rw [launched.observe_eq index]
    split <;> rfl
  have carried := observe_run
    (fun state => state.heard.filterMap DelegateCall.handed = List.range state.brokers.length)
    stepwise initially (always_true (step platform) world ops)
  have counted : (observe index (run platform world ops)).brokers.length =
      (run platform world ops).brokers.length := List.length_map _
  have protocol : (heard index (run platform world ops).log).filterMap DelegateCall.handed =
      (received index (run platform world ops).log).filterMap DelegateCall.handed := by
    rw [heard, List.filterMap_filter]
    congr 1
    funext call
    cases call <;> rfl
  rw [← counted, ← protocol]
  exact carried

theorem handedBrokers_twoSessions :
    (received 0 (run reference launchedWorld [.report (.setPlayerDelegate 0),
      .media (.setMedia (liveMedia true)), .media (.setMedia (liveMedia false))]).log).filterMap
        DelegateCall.handed =
      List.range (run reference launchedWorld [.report (.setPlayerDelegate 0),
        .media (.setMedia (liveMedia true)),
        .media (.setMedia (liveMedia false))]).brokers.length :=
  handedBrokers_run launchedWorld_launched _ 0

end Echo.Client
