import Echo.Configuration.Precedence
import Echo.Protocol.Launch

/-!
# Who owns the brokers

The client makes a broker for each session and keeps it at most until the next.
Whatever the app does, a broker that runs is the client's own, serves media that
is set, and was made for media of its kind; every other broker has been stopped.
-/

namespace Echo.Client

/-- The broker that the last `setBroker` among the calls handed over. -/
def DelegateCall.updateBroker (handed : Option BrokerRef) : DelegateCall → Option BrokerRef
  | .setBroker broker => some broker
  | _ => handed

/-- The broker that the delegate at an index was last handed. -/
def handedBroker (index : Nat) (log : List Effect) : Option BrokerRef :=
  Transition.run DelegateCall.updateBroker none (received index log)

theorem updateBroker_of_not_protocol (handed : Option BrokerRef) (call : DelegateCall)
    (silent : call.isProtocol = false) : call.updateBroker handed = handed := by
  cases call <;> first | rfl | simp [DelegateCall.isProtocol] at silent

theorem handedBroker_eq_heard (index : Nat) (log : List Effect) :
    handedBroker index log = Transition.run DelegateCall.updateBroker none (heard index log) :=
  (Transition.run_filter updateBroker_of_not_protocol none (received index log)).symm

/-! ## Navigation -/

theorem Session.navigated_broker (session : Session) (navigation : Navigation) :
    (session.navigated navigation).broker = session.broker := by
  by_cases ends : navigation = .avEnd
  · subst ends
    cases stored : session.media with
    | none => rw [Session.navigated, stored]
    | some media => rw [session.navigated_avEnd (by simp [stored])]
  · obtain ⟨update, _, navigatedEq⟩ := session.navigated_of_ne_avEnd ends
    rw [navigatedEq]

/-- A navigation that leaves media leaves it live or on demand as it was. -/
theorem Session.navigated_isLive {navigation : Navigation} {session : Session} {media : Media}
    (stored : (session.navigated navigation).media = some media) :
    ∃ original, session.media = some original ∧ original.isLive = media.isLive := by
  by_cases ends : navigation = .avEnd
  · subst ends
    cases before : session.media with
    | none =>
        rw [Session.navigated, before] at stored
        exact absurd (before.symm.trans stored) (by simp)
    | some original =>
        rw [session.navigated_avEnd (by simp [before])] at stored
        cases stored
  · obtain ⟨update, inPlace, navigatedEq⟩ := session.navigated_of_ne_avEnd ends
    rw [navigatedEq] at stored
    obtain ⟨original, originalStored, rfl⟩ := Option.map_eq_some_iff.mp stored
    exact ⟨original, originalStored, (congrArg Media.isLive (inPlace original)).symm⟩

end Echo.Client

namespace Echo.Protocol

open Echo.Client Echo.Transition

namespace State

def phaseOf (broker : BrokerRef) (state : State) : Option BrokerPhase :=
  state.brokers[broker]?.map Broker.phase

def kindOf (broker : BrokerRef) (state : State) : Option BrokerKind :=
  state.brokers[broker]?.map Broker.kind

theorem lt_length_of_phaseOf {state : State} {broker : BrokerRef} {phase : BrokerPhase}
    (known : state.phaseOf broker = some phase) : broker < state.brokers.length := by
  obtain ⟨entry, found, _⟩ := Option.map_eq_some_iff.mp known
  exact (List.getElem?_eq_some_iff.mp found).1

theorem phaseOf_setPhase_current {state : State} {broker : BrokerRef}
    (current : state.session.broker = some broker) (made : broker < state.brokers.length)
    (phase : BrokerPhase) : (state.setPhase phase).phaseOf broker = some phase := by
  simp [setPhase, current, phaseOf, List.getElem?_eq_getElem made]

theorem phaseOf_setPhase_other {state : State} {broker : BrokerRef}
    (other : state.session.broker ≠ some broker) (phase : BrokerPhase) :
    (state.setPhase phase).phaseOf broker = state.phaseOf broker := by
  unfold setPhase
  split
  · rfl
  · rename_i current isCurrent
    have differs : current ≠ broker := fun same => other (same ▸ isCurrent)
    simp [phaseOf, differs]

theorem kindOf_setPhase (state : State) (broker : BrokerRef) (phase : BrokerPhase) :
    (state.setPhase phase).kindOf broker = state.kindOf broker := by
  unfold setPhase
  split
  · rfl
  · rename_i current _
    by_cases same : current = broker
    · simp [kindOf, same, Function.comp_def]
    · simp [kindOf, same]

end State

/-- The ownership of brokers. -/
structure Owned (state : State) : Prop where
  made : ∀ broker, state.session.broker = some broker → broker < state.brokers.length
  running : ∀ broker, state.phaseOf broker = some .started →
    state.session.broker = some broker ∧ state.enabled = true ∧
      state.session.media.isSome = true
  replaced : ∀ broker, broker < state.brokers.length → state.session.broker ≠ some broker →
    state.phaseOf broker = some .stopped
  handed : ∀ broker, state.session.broker = some broker →
    Transition.run DelegateCall.updateBroker none state.heard = some broker

namespace Owned

variable {state : State}

/-- A move that neither makes nor moves a broker. -/
theorem of_same_brokers (owned : Owned state) {next : State}
    (brokersEq : next.brokers = state.brokers)
    (brokerEq : next.session.broker = state.session.broker)
    (running : ∀ broker, state.phaseOf broker = some .started →
      next.enabled = true ∧ next.session.media.isSome = true)
    (handedEq : Transition.run DelegateCall.updateBroker none next.heard =
      Transition.run DelegateCall.updateBroker none state.heard) : Owned next := by
  have phaseEq (broker : BrokerRef) : next.phaseOf broker = state.phaseOf broker := by
    rw [State.phaseOf, brokersEq, State.phaseOf]
  constructor
  · rw [brokerEq, brokersEq]
    exact owned.made
  · intro broker started
    rw [phaseEq] at started
    rw [brokerEq]
    exact ⟨(owned.running broker started).1, running broker started⟩
  · rw [brokerEq, brokersEq]
    intro broker made other
    rw [phaseEq]
    exact owned.replaced broker made other
  · rw [brokerEq, handedEq]
    exact owned.handed

/-- The current broker may be started while its media is set. -/
theorem setPhase_started (owned : Owned state) (enabled : state.enabled = true)
    (stored : state.session.media.isSome = true) : Owned (state.setPhase .started) := by
  constructor
  · simpa using owned.made
  · intro broker started
    simp only [State.setPhase_session, State.setPhase_enabled]
    by_cases current : state.session.broker = some broker
    · exact ⟨current, enabled, stored⟩
    · rw [State.phaseOf_setPhase_other current] at started
      exact owned.running broker started
  · intro broker made other
    rw [State.setPhase_brokers_length] at made
    rw [State.setPhase_session] at other
    rw [State.phaseOf_setPhase_other other]
    exact owned.replaced broker made other
  · simpa using owned.handed

/-- Once the current broker is stopped, every broker is. -/
theorem phaseOf_setPhase_stopped (owned : Owned state) {broker : BrokerRef}
    (made : broker < state.brokers.length) :
    (state.setPhase .stopped).phaseOf broker = some .stopped := by
  by_cases current : state.session.broker = some broker
  · exact State.phaseOf_setPhase_current current made .stopped
  · rw [State.phaseOf_setPhase_other current]
    exact owned.replaced broker made current

theorem not_started_of_stopped (owned : Owned state) (broker : BrokerRef) :
    (state.setPhase .stopped).phaseOf broker ≠ some .started := by
  intro started
  have made := State.lt_length_of_phaseOf started
  rw [State.setPhase_brokers_length] at made
  rw [owned.phaseOf_setPhase_stopped made] at started
  cases started

theorem setPhase_stopped (owned : Owned state) : Owned (state.setPhase .stopped) := by
  constructor
  · simpa using owned.made
  · intro broker started
    exact absurd started (owned.not_started_of_stopped broker)
  · intro broker made other
    rw [State.setPhase_brokers_length] at made
    exact owned.phaseOf_setPhase_stopped made
  · simpa using owned.handed

/-- A closed session has no broker, and every broker made so far is stopped. -/
theorem close (owned : Owned state) : Owned state.close := by
  constructor
  · intro broker current
    cases current
  · intro broker started
    exact absurd started (owned.not_started_of_stopped broker)
  · intro broker made _
    rw [State.close, State.withSession_brokers, State.setPhase_brokers_length] at made
    exact owned.phaseOf_setPhase_stopped made
  · intro broker current
    cases current

/-- A session without a broker may adopt one. -/
theorem adopt (owned : Owned state) (free : state.session.broker = none) (media : Media)
    (broker : Option BrokerKind) : Owned (state.adopt media broker) := by
  cases broker with
  | none =>
      apply owned.of_same_brokers
      · simp
      · simp
      · intro current started
        have owner := (owned.running current started).1
        rw [free] at owner
        cases owner
      · simp
  | some kind =>
      have earlier {current : BrokerRef} (made : current < state.brokers.length) :
          (state.adopt media (some kind)).phaseOf current = state.phaseOf current := by
        simp [State.phaseOf, List.getElem?_append_left made]
      have latest : (state.adopt media (some kind)).brokers[state.brokers.length]? =
          some ⟨kind, .made⟩ := by
        simp
      have bound {current : BrokerRef}
          (made : current < (state.adopt media (some kind)).brokers.length) :
          current < state.brokers.length ∨ current = state.brokers.length := by
        rw [State.adopt_brokers, List.length_append] at made
        exact Nat.lt_succ_iff_lt_or_eq.mp made
      constructor
      · intro current isCurrent
        simp only [State.adopt_session, Option.elim_some, Option.some.injEq] at isCurrent
        simp [← isCurrent]
      · intro current started
        rcases bound (State.lt_length_of_phaseOf started) with made | rfl
        · rw [earlier made] at started
          have owner := (owned.running current started).1
          rw [free] at owner
          cases owner
        · rw [State.phaseOf, latest] at started
          cases started
      · intro current made other
        simp only [State.adopt_session, Option.elim_some, ne_eq, Option.some.injEq] at other
        rcases bound made with before | rfl
        · rw [earlier before]
          exact owned.replaced current before (by simp [free])
        · exact absurd rfl other
      · intro current isCurrent
        simp only [State.adopt_session, Option.elim_some] at isCurrent
        rw [State.adopt_heard, run_append, ← isCurrent]
        rfl

/-- Calls other than `setBroker` do not change which broker was handed over. -/
theorem handed_append {heard calls : List DelegateCall}
    (silent : ∀ handed, ∀ call ∈ calls, call.updateBroker handed = handed) :
    Transition.run DelegateCall.updateBroker none (heard ++ calls) =
      Transition.run DelegateCall.updateBroker none heard := by
  rw [run_append]
  generalize Transition.run DelegateCall.updateBroker none heard = handed
  induction calls with
  | nil => rfl
  | cons call calls ih =>
      rw [run_cons, silent handed call List.mem_cons_self]
      exact ih fun handed other member => silent handed other (List.mem_cons_of_mem call member)

theorem hear (owned : Owned state) {calls : List DelegateCall}
    (silent : ∀ handed, ∀ call ∈ calls, call.updateBroker handed = handed) :
    Owned (state.hear calls) := by
  refine owned.of_same_brokers (by rfl) (by rfl) ?_ ?_
  · intro broker started
    exact (owned.running broker started).2
  · exact handed_append silent

/-- The session may change but for its broker, and for whether it has media. -/
theorem withSession (owned : Owned state) {update : Session → Session}
    (brokerEq : (update state.session).broker = state.session.broker)
    (stored : state.session.media.isSome = true → (update state.session).media.isSome = true) :
    Owned (state.withSession update) := by
  refine owned.of_same_brokers (by rfl) (by exact brokerEq) ?_ (by rfl)
  intro broker started
  obtain ⟨_, enabled, isStored⟩ := owned.running broker started
  exact ⟨enabled, stored isStored⟩

theorem navigate (owned : Owned state) (navigation : Navigation) (position : UInt64)
    (eventLabels : Option Labels) :
    Owned ((Act.navigate navigation position eventLabels).apply state) := by
  have silent (handed : Option BrokerRef) :
      (navigation.call position eventLabels).updateBroker handed = handed := by
    cases navigation <;> rfl
  refine owned.setPhase_stopped.of_same_brokers (by rfl) ?_ ?_ ?_
  · simpa [Act.apply] using state.session.navigated_broker navigation
  · intro broker started
    exact absurd started (owned.not_started_of_stopped broker)
  · exact handed_append (by simpa using silent)

/-- Every guarded move keeps the ownership. -/
theorem apply (owned : Owned state) {act : Act} (guard : act.Guard state) :
    Owned (act.apply state) := by
  cases act with
  | idle => exact owned
  | start =>
      refine owned.of_same_brokers (by rfl) (by rfl) ?_ ?_
      · intro broker started
        exact (owned.running broker started).2
      · exact handed_append (by simp [DelegateCall.updateBroker])
  | enable starts =>
      refine owned.of_same_brokers (by rfl) (by rfl) ?_ ?_
      · intro broker started
        exact ⟨rfl, (owned.running broker started).2.2⟩
      · cases starts <;> exact handed_append (by simp [DelegateCall.updateBroker])
  | disable =>
      refine owned.close.of_same_brokers (by rfl) (by rfl) ?_ ?_
      · intro broker started
        exact absurd started (owned.not_started_of_stopped broker)
      · exact handed_append (by simp [DelegateCall.updateBroker])
  | forget => exact owned.hear (by simp [DelegateCall.updateBroker])
  | setMedia media broker =>
      have cleared : Owned (state.close.hear [.clearMedia]) :=
        owned.close.hear (by simp [DelegateCall.updateBroker])
      exact (cleared.adopt rfl media broker).hear (by simp [DelegateCall.updateBroker])
  | setMediaLength length =>
      refine (owned.hear ?_).withSession rfl ?_
      · split <;> simp [DelegateCall.updateBroker]
      · simp [Session.mapMedia]
  | play position eventLabels =>
      refine ((owned.setPhase_started guard.1 guard.2.1).hear ?_).withSession rfl ?_
      · simp [DelegateCall.updateBroker]
      · simp [Session.playing, Session.mapMedia]
  | suppress eventLabels =>
      exact (owned.setPhase_started guard.1
        (Session.isSome_of_isEnrichedLive guard.2.1)).withSession rfl id
  | release position eventLabels =>
      have released : Owned (state.withSession .unsuppressed) := owned.withSession rfl id
      refine ((released.setPhase_started guard.1 guard.2.2.2).hear ?_).withSession rfl ?_
      · simp [DelegateCall.updateBroker]
      · simp [Session.playing, Session.mapMedia]
  | unsuppress => exact owned.withSession rfl id
  | navigate navigation position eventLabels =>
      exact owned.navigate navigation position eventLabels
  | userAction actionType actionName position eventLabels =>
      exact owned.hear (by simp [DelegateCall.updateBroker])
  | liveMediaUpdate media newPosition oldPosition =>
      have updated : Owned (state.withSession (.updated media)) :=
        owned.withSession rfl fun _ => rfl
      exact updated.hear (by simp [DelegateCall.updateBroker])

end Owned

/-! ## Brokers serve media of their kind -/

/-- The current broker was made live exactly when the current media is live. -/
def Matched (state : State) : Prop :=
  ∀ broker media, state.session.broker = some broker → state.session.media = some media →
    (state.kindOf broker = some .live ↔ media.isLive = true)

/-- A broker keeps the kind it was made with. -/
theorem Act.kindOf_apply {state : State} {broker : BrokerRef}
    (made : broker < state.brokers.length) (act : Act) :
    (act.apply state).kindOf broker = state.kindOf broker := by
  have kindOf_eq (state next : State) (brokersEq : next.brokers = state.brokers) :
      next.kindOf broker = state.kindOf broker := by
    rw [State.kindOf, brokersEq, State.kindOf]
  cases act with
  | setMedia media kind =>
      have madeAfter : broker < (state.setPhase .stopped).brokers.length := by simpa using made
      rw [← state.kindOf_setPhase broker .stopped]
      simp [apply, State.close, State.kindOf, List.getElem?_append_left madeAfter]
  | disable =>
      exact (kindOf_eq (state.setPhase .stopped) _ rfl).trans (state.kindOf_setPhase _ _)
  | play position eventLabels =>
      exact (kindOf_eq (state.setPhase .started) _ rfl).trans (state.kindOf_setPhase _ _)
  | suppress eventLabels =>
      exact (kindOf_eq (state.setPhase .started) _ rfl).trans (state.kindOf_setPhase _ _)
  | navigate navigation position eventLabels =>
      exact (kindOf_eq (state.setPhase .stopped) _ rfl).trans (state.kindOf_setPhase _ _)
  | release position eventLabels =>
      exact (kindOf_eq ((state.withSession .unsuppressed).setPhase .started) _ rfl).trans
        ((state.withSession .unsuppressed).kindOf_setPhase _ _)
  | _ => exact kindOf_eq _ _ rfl

/-- Unless it opens or updates a session, a move keeps the broker it does not
release, and the kind of the media it does not end. -/
theorem Act.session_keeps {state : State} {act : Act}
    (opens : ∀ media broker, act ≠ .setMedia media broker)
    (updates : ∀ media newPosition oldPosition,
      act ≠ .liveMediaUpdate media newPosition oldPosition)
    {broker : BrokerRef} {media : Media} (current : (act.session state).broker = some broker)
    (stored : (act.session state).media = some media) :
    state.session.broker = some broker ∧
      ∃ original, state.session.media = some original ∧ original.isLive = media.isLive := by
  cases act with
  | setMedia media broker => exact absurd rfl (opens media broker)
  | liveMediaUpdate media newPosition oldPosition =>
      exact absurd rfl (updates media newPosition oldPosition)
  | disable => cases current
  | navigate navigation position eventLabels =>
      exact ⟨(state.session.navigated_broker navigation).symm.trans current,
        Session.navigated_isLive stored⟩
  | setMediaLength length =>
      obtain ⟨original, originalStored, rfl⟩ := Option.map_eq_some_iff.mp stored
      exact ⟨current, original, originalStored, rfl⟩
  | play position eventLabels =>
      obtain ⟨original, originalStored, rfl⟩ := Option.map_eq_some_iff.mp stored
      exact ⟨current, original, originalStored, rfl⟩
  | release position eventLabels =>
      obtain ⟨original, originalStored, rfl⟩ := Option.map_eq_some_iff.mp stored
      exact ⟨current, original, originalStored, rfl⟩
  | _ => exact ⟨current, media, stored, rfl⟩

/-- Brokers keep serving media of their kind, if they are made for such media and
only a running live broker updates the session, with live media. -/
theorem Matched.apply {state : State} (matched : Matched state) (owned : Owned state)
    {act : Act}
    (matching : ∀ media kind, act = .setMedia media (some kind) →
      (kind = .live ↔ media.isLive = true))
    (updates : ∀ media newPosition oldPosition,
      act = .liveMediaUpdate media newPosition oldPosition → media.isLive = true ∧
        ∃ broker, state.phaseOf broker = some .started ∧ state.kindOf broker = some .live) :
    Matched (act.apply state) := by
  intro broker media current stored
  rw [Act.apply_session] at current stored
  by_cases opens : ∃ opened kind, act = .setMedia opened kind
  · obtain ⟨opened, kind, rfl⟩ := opens
    cases kind with
    | none => cases current
    | some kind =>
        rw [← Option.some.inj current, ← Option.some.inj stored, ← matching opened kind rfl]
        simp [State.kindOf, Act.apply, State.close]
  · by_cases updated : ∃ live newPosition oldPosition,
        act = .liveMediaUpdate live newPosition oldPosition
    · obtain ⟨live, newPosition, oldPosition, rfl⟩ := updated
      obtain ⟨isLive, running, started, liveKind⟩ := updates live newPosition oldPosition rfl
      have owner := (owned.running running started).1
      have same : running = broker := by
        rw [show state.session.broker = some broker from current] at owner
        exact (Option.some.inj owner).symm
      rw [Act.kindOf_apply (owned.made broker current), ← same, liveKind,
        ← Option.some.inj stored]
      simp [isLive]
    · obtain ⟨isCurrent, original, originalStored, sameLive⟩ := Act.session_keeps
        (fun media kind same => opens ⟨media, kind, same⟩)
        (fun media newPosition oldPosition same =>
          updated ⟨media, newPosition, oldPosition, same⟩) current stored
      rw [Act.kindOf_apply (owned.made broker isCurrent), ← sameLive]
      exact matched broker original isCurrent originalStored

end Echo.Protocol

namespace Echo.Client

open Echo.Protocol Echo.Transition

variable {H : Type}

/-! ## Runs of the client -/

@[simp]
theorem observe_phaseOf (index : Nat) (world : World H) (broker : BrokerRef) :
    (observe index world).phaseOf broker = world.phaseOf broker := by
  simp [State.phaseOf, World.phaseOf, observe, BrokerState.observe, Function.comp_def]

@[simp]
theorem observe_kindOf (index : Nat) (world : World H) (broker : BrokerRef) :
    (observe index world).kindOf broker = world.kindOf broker := by
  simp [State.kindOf, World.kindOf, observe, BrokerState.observe, Function.comp_def]

/-- A broker calls back only between its `start()` and its `stop()`, in the
protocol it was made for. -/
def CallsBackRunning (world : World H) : Op → Prop
  | .live broker _ => world.phaseOf broker = some .started ∧ world.kindOf broker = some .live
  | .onDemand broker _ =>
      world.phaseOf broker = some .started ∧ world.kindOf broker = some .onDemand
  | _ => True

/-- Updates of live media carry live media. -/
def UpdatesLive : Op → Prop
  | .live _ (.liveMediaUpdate media _ _) => media.isLive = true
  | _ => True

instance (world : World H) : (op : Op) → Decidable (CallsBackRunning world op)
  | .live _ _ | .onDemand _ _ => inferInstanceAs (Decidable (_ ∧ _))
  | .report _ | .getComScoreDeviceID | .media _ | .lifecycle _ | .fireTimer _ | .playhead _
  | .clock _ => .isTrue trivial

instance : (op : Op) → Decidable (UpdatesLive op)
  | .live _ (.liveMediaUpdate media _ _) => inferInstanceAs (Decidable (media.isLive = true))
  | .live _ (.liveTimestampUpdate _) | .live _ (.setEssError _ _) | .live _ (.setEssSuccess _)
  | .live _ .releaseSuppressedPlay | .live _ (.sendHeartbeat _ _) | .onDemand _ _
  | .report _ | .getComScoreDeviceID | .media _ | .lifecycle _ | .fireTimer _ | .playhead _
  | .clock _ => .isTrue trivial

/-- Where every broker is, and whom it belongs to. -/
structure BrokersOwned (world : World H) : Prop where
  unique : ∀ first second, world.phaseOf first = some .started →
    world.phaseOf second = some .started → first = second
  running : ∀ broker, world.phaseOf broker = some .started →
    world.client.session.broker = some broker ∧ world.client.echoEnabled = true ∧
      world.client.session.media.isSome = true
  replaced : ∀ broker, broker < world.brokers.length →
    world.client.session.broker ≠ some broker → world.phaseOf broker = some .stopped
  kind : ∀ broker media, world.client.session.broker = some broker →
    world.client.session.media = some media →
      (world.kindOf broker = some .live ↔ media.isLive = true)
  handed : ∀ broker, world.client.session.broker = some broker →
    ∀ index, index < world.client.settings.delegates.length →
      handedBroker index world.log = some broker

theorem brokersOwned_of_observe {world : World H}
    (owned : ∀ index, Owned (observe index world)) (matched : Matched (observe 0 world)) :
    BrokersOwned world where
  unique := by
    intro first second firstStarted secondStarted
    have firstOwner := ((owned 0).running first (by simpa using firstStarted)).1
    have secondOwner := ((owned 0).running second (by simpa using secondStarted)).1
    exact Option.some.inj (firstOwner.symm.trans secondOwner)
  running := by
    intro broker started
    exact (owned 0).running broker (by simpa using started)
  replaced := by
    intro broker made other
    simpa using (owned 0).replaced broker (by simpa [observe] using made) other
  kind := by
    intro broker media current stored
    simpa using matched broker media current stored
  handed := by
    intro broker current index _
    rw [handedBroker_eq_heard]
    exact (owned index).handed broker current

/-- The factory is asked for a live broker exactly for live media, because there
is always an ESS url. -/
theorem brokerKind_iff_isLive {settings : Settings} (hasUrl : settings.essUrl.isSome = true)
    (media : Media) : settings.brokerKind media = .live ↔ media.isLive = true := by
  cases isLive : media.isLive <;> simp [Settings.brokerKind, hasUrl, isLive]

theorem matched_step {platform : Platform H} {world : World H} {op : Op} {index : Nat}
    (owned : Owned (observe index world)) (matched : Matched (observe index world))
    (hasUrl : world.client.settings.essUrl.isSome = true)
    (running : CallsBackRunning world op) (live : UpdatesLive op) :
    Matched ((op.act platform world).apply (observe index world)) := by
  have takes := op.act_takes platform world
  apply matched.apply owned
  · intro media kind opens
    rw [opens] at takes
    obtain ⟨_, _, _, broker⟩ := takes.of_setMedia
    obtain ⟨_, _, rfl⟩ := Option.map_eq_some_iff.mp broker.symm
    exact brokerKind_iff_isLive hasUrl media
  · intro media newPosition oldPosition updates
    rw [updates] at takes
    cases takes with
    | liveMediaUpdate broker =>
        exact ⟨live, broker, by simpa using running.1, by simpa using running.2⟩

theorem Launched.essUrl_isSome {platform : Platform H} {arguments : InitArguments}
    {world : World H} (launched : Launched platform arguments world) :
    world.client.settings.essUrl.isSome = true := by
  have present : EchoConfigKey.essURL ∈ collateConfig platform arguments.config :=
    mem_collateConfig platform arguments.config (by decide)
  have configured := congrArg Settings.essUrl launched.settings_eq
  rw [configured]
  exact Finmap.lookup_isSome.mpr present

/-- A launched client has no brokers. -/
theorem Launched.owned {platform : Platform H} {arguments : InitArguments} {world : World H}
    (launched : Launched platform arguments world) (index : Nat) :
    Owned (observe index world) ∧ Matched (observe index world) := by
  rw [launched.observe_eq index]
  refine ⟨⟨?_, ?_, ?_, ?_⟩, ?_⟩
  · intro broker current
    cases current
  · intro broker started
    cases started
  · intro broker made
    exact absurd made (Nat.not_lt_zero broker)
  · intro broker current
    cases current
  · intro broker media current
    cases current

/-- Brokers are owned along every run. -/
theorem Launched.owned_run {platform : Platform H} {arguments : InitArguments}
    {world : World H} (launched : Launched platform arguments world) (ops : List Op)
    (index : Nat) : Owned (observe index (run platform world ops)) :=
  observe_run Owned (fun _ _ owned _ guard => owned.apply guard) (launched.owned index).1
    (always_true (step platform) world ops)

/-- The ownership of brokers along every run in which they call back only while
they run, and update the session with live media. -/
theorem brokersOwned_throughout {platform : Platform H} {arguments : InitArguments}
    {world : World H} (launched : Launched platform arguments world) {ops : List Op}
    (always : Always platform (fun world op => CallsBackRunning world op ∧ UpdatesLive op)
      world ops) :
    ∀ first, first <+: ops → BrokersOwned (run platform world first) := by
  have stepwise (index : Nat) : ∀ (world : World H) (op : Op),
      (Owned (observe index world) ∧ Matched (observe index world) ∧
        world.client.settings.essUrl.isSome = true) →
      (CallsBackRunning world op ∧ UpdatesLive op) →
      (Owned (observe index (step platform world op)) ∧
        Matched (observe index (step platform world op)) ∧
        (step platform world op).client.settings.essUrl.isSome = true) := by
    rintro world op ⟨owned, matched, hasUrl⟩ ⟨running, live⟩
    refine ⟨observe_step Owned owned owned.apply, ?_, ?_⟩
    · exact observe_step Matched matched fun _ => matched_step owned matched hasUrl running live
    · rw [step_settings]
      exact hasUrl
  intro first initial
  have carried (index : Nat) := invariant_run (stepwise index)
    ⟨(launched.owned index).1, (launched.owned index).2, launched.essUrl_isSome⟩
    (always.restrict initial)
  exact brokersOwned_of_observe (fun index => (carried index).1) (carried 0).2.1

/-- A live session is played, replaced by another one, and ended. -/
theorem brokersOwned_replaced_session :
    BrokersOwned (run reference launchedWorld
      [.report (.setPlayerDelegate 0), .media (.setMedia (liveMedia false)),
        .media (.avPlayEvent 0 none), .live 0 (.liveMediaUpdate (liveMedia true) 0 0),
        .live 0 .releaseSuppressedPlay, .media (.setMedia (liveMedia true)),
        .media (.avPlayEvent 0 none), .live 1 (.sendHeartbeat "beat" 0),
        .media (.navigation .avEnd 0 none)]) :=
  brokersOwned_throughout launchedWorld_launched (by decide) _ List.prefix_rfl

end Echo.Client
