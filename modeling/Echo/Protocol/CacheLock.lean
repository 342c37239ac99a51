import Echo.Client.Reference
import Echo.Protocol.Closed

/-!
# The cache mode lock

The cache mode may not change while a play of the current session is active.  The
flag that guards it is set by a delivered play and cleared by `avEndEvent` alone,
so it is the right one as long as an active play is neither replaced nor disabled,
and an ended session is not opened again by a late update.
-/

namespace Echo.Client

open Echo.Transition

variable {H : Type}

/-- How far the current session has come, as the delegates hear it. -/
structure Progress where
  played : Bool := false
  ended : Bool := false
  deriving DecidableEq

def DelegateCall.updateProgress (progress : Progress) : DelegateCall → Progress
  | .setMedia _ => {}
  | .avPlayEvent _ _ => { progress with played := true }
  | .avEndEvent _ _ => { progress with ended := true }
  | _ => progress

/-- The progress of the session begun by the last `setMedia` that the delegate at
an index received. -/
def progress (index : Nat) (log : List Effect) : Progress :=
  Transition.run DelegateCall.updateProgress {} (received index log)

theorem updateProgress_of_not_protocol (progress : Progress) (call : DelegateCall)
    (silent : call.isProtocol = false) : call.updateProgress progress = progress := by
  cases call <;> first | rfl | simp [DelegateCall.isProtocol] at silent

theorem progress_eq_heard (index : Nat) (log : List Effect) :
    progress index log = Transition.run DelegateCall.updateProgress {} (heard index log) :=
  (run_filter updateProgress_of_not_protocol {} (received index log)).symm

end Echo.Client

namespace Echo.Protocol

open Echo.Client Echo.Transition

def State.progress (state : State) : Progress :=
  Transition.run DelegateCall.updateProgress {} state.heard

/-- The flag tells whether the session was played and not ended, and is only set
while there is media; an ended session has none. -/
structure Locks (state : State) : Prop where
  active : state.session.mediaActive = (state.progress.played && !state.progress.ended)
  stored : state.session.mediaActive = true → state.session.media.isSome = true
  ended : state.progress.ended = true → state.session.media = none

/-- The moves under which the flag stays right. -/
structure KeepsLock (state : State) (act : Act) : Prop where
  opens : ∀ media broker, act = .setMedia media broker → state.session.mediaActive = false
  disables : act = .disable → state.session.mediaActive = false
  updates : ∀ media newPosition oldPosition,
    act = .liveMediaUpdate media newPosition oldPosition → state.progress.ended = false

namespace Locks

variable {state : State}

theorem progress_apply (state : State) (act : Act) :
    (act.apply state).progress =
      Transition.run DelegateCall.updateProgress state.progress (act.calls state) := by
  rw [State.progress, Act.apply_heard, run_append]
  rfl

/-- Moves that keep the flag, the progress and whether there is media. -/
theorem of_same (locks : Locks state) {next : State}
    (activeEq : next.session.mediaActive = state.session.mediaActive)
    (mediaEq : next.session.media.isSome = state.session.media.isSome)
    (progressEq : next.progress = state.progress) : Locks next := by
  constructor
  · rw [activeEq, progressEq]
    exact locks.active
  · rw [activeEq, mediaEq]
    exact locks.stored
  · rw [progressEq]
    intro ended
    have noMedia := mediaEq
    rw [locks.ended ended] at noMedia
    simpa using noMedia

/-- A delivered play sets the flag. -/
theorem of_played (locks : Locks state) {next : State}
    (isActive : next.session.mediaActive = true)
    (before : state.session.media.isSome = true) (after : next.session.media.isSome = true)
    (progressEq : next.progress = { state.progress with played := true }) : Locks next := by
  have notEnded : state.progress.ended = false := by
    cases ended : state.progress.ended with
    | false => rfl
    | true =>
        rw [locks.ended ended] at before
        cases before
  constructor
  · simp [isActive, progressEq, notEnded]
  · intro _
    exact after
  · intro ended
    simp [progressEq, notEnded] at ended

/-- A navigation either ends the session, flag and all, or touches none of it. -/
theorem navigate (locks : Locks state) (stored : state.session.media.isSome = true)
    (navigation : Navigation) (position : UInt64) (eventLabels : Option Labels) :
    Locks ((Act.navigate navigation position eventLabels).apply state) := by
  have progressEq := progress_apply state (.navigate navigation position eventLabels)
  have sessionEq := Act.apply_session state (.navigate navigation position eventLabels)
  by_cases ends : navigation = .avEnd
  · subst ends
    have endedEq : ((Act.navigate .avEnd position eventLabels).apply state).progress =
        { state.progress with ended := true } := progressEq
    rw [Act.session, Session.navigated_avEnd stored] at sessionEq
    constructor
    · rw [endedEq, sessionEq]
      simp
    · rw [sessionEq]
      intro active
      cases active
    · rw [sessionEq]
      intro _
      rfl
  · obtain ⟨update, _, navigatedEq⟩ := state.session.navigated_of_ne_avEnd ends
    rw [Act.session, navigatedEq] at sessionEq
    apply locks.of_same
    · rw [sessionEq]
    · rw [sessionEq]
      simp
    · rw [progressEq]
      cases navigation with
      | avEnd => exact absurd rfl ends
      | _ => rfl

/-- An allowed move keeps the flag right. -/
theorem apply (locks : Locks state) {act : Act} (guard : act.Guard state)
    (keeps : KeepsLock state act) : Locks (act.apply state) := by
  have progressEq := progress_apply state act
  have sessionEq := Act.apply_session state act
  cases act with
  | idle => exact locks
  | setMedia media broker =>
      have inactive := keeps.opens media broker rfl
      have fresh : ((Act.setMedia media broker).apply state).progress = {} := by
        rw [progressEq]
        cases broker <;> rfl
      constructor
      · rw [fresh, sessionEq]
        exact inactive
      · rw [sessionEq]
        intro _
        rfl
      · rw [fresh]
        intro ended
        cases ended
  | disable =>
      have inactive := keeps.disables rfl
      constructor
      · rw [progressEq, sessionEq]
        exact locks.active
      · rw [sessionEq]
        intro active
        exact absurd (inactive.symm.trans active) Bool.false_ne_true
      · rw [sessionEq]
        intro _
        rfl
  | liveMediaUpdate media newPosition oldPosition =>
      have notEnded := keeps.updates media newPosition oldPosition rfl
      constructor
      · rw [progressEq, sessionEq]
        exact locks.active
      · rw [sessionEq]
        intro _
        rfl
      · rw [progressEq]
        intro ended
        exact absurd (notEnded.symm.trans ended) Bool.false_ne_true
  | play position eventLabels =>
      refine locks.of_played ?_ guard.2.1 ?_ progressEq
      · rw [sessionEq]
        rfl
      · rw [sessionEq]
        simpa [Act.session, Session.playing, Session.mapMedia] using guard.2.1
  | release position eventLabels =>
      refine locks.of_played ?_ guard.2.2.2 ?_ progressEq
      · rw [sessionEq]
        rfl
      · rw [sessionEq]
        simpa [Act.session, Session.playing, Session.unsuppressed, Session.mapMedia]
          using guard.2.2.2
  | navigate navigation position eventLabels =>
      exact locks.navigate guard.2 navigation position eventLabels
  | setMediaLength length =>
      apply locks.of_same
      · rw [sessionEq]
        rfl
      · rw [sessionEq]
        simp [Act.session, Session.mapMedia]
      · rw [progressEq, Act.calls]
        split <;> rfl
  | enable starts =>
      apply locks.of_same
      · rw [sessionEq]
        rfl
      · rw [sessionEq]
        rfl
      · rw [progressEq]
        cases starts <;> rfl
  | _ =>
      apply locks.of_same
      · rw [sessionEq]
        rfl
      · rw [sessionEq]
        rfl
      · rw [progressEq]
        rfl

end Locks

end Echo.Protocol

namespace Echo.Client

open Echo.Protocol Echo.Transition

variable {H : Type}

/-! ## Runs of the client -/

/-- The client has media that was played since it was set, and not ended. -/
def InPlay (index : Nat) (world : World H) : Prop :=
  world.client.session.media.isSome = true ∧ (progress index world.log).played = true ∧
    (progress index world.log).ended = false

/-- The cache mode may change exactly while no media is in play, by the account of
the delegate at an index. -/
structure CacheLock (platform : Platform H) (index : Nat) (world : World H) : Prop where
  accepted : ∀ cacheMode, ¬InPlay index world →
    received index (emitted platform world (.report (.setCacheMode cacheMode))) =
        [.setCacheMode cacheMode] ∧
      getCacheMode (step platform world (.report (.setCacheMode cacheMode))) = cacheMode
  refused : ∀ cacheMode, InPlay index world →
    received index (emitted platform world (.report (.setCacheMode cacheMode))) = [] ∧
      getCacheMode (step platform world (.report (.setCacheMode cacheMode))) =
        getCacheMode world
  stored : world.client.session.mediaActive = true → world.client.session.media.isSome = true

/-- A session is neither opened nor disabled over an active play, and no update
arrives for one that `avEndEvent` has ended. -/
def LeavesLock (index : Nat) (world : World H) (op : Op) : Prop :=
  (OpensSession world op → world.client.session.mediaActive = false) ∧
    (op = .lifecycle .disable ∧ world.client.echoEnabled = true →
      world.client.session.mediaActive = false) ∧
    (op.isLiveMediaUpdate = true → (progress index world.log).ended = false)

instance (index : Nat) (world : World H) (op : Op) : Decidable (LeavesLock index world op) :=
  inferInstanceAs (Decidable ((_ → _) ∧ (_ → _) ∧ (_ → _)))

theorem inPlay_iff {index : Nat} {world : World H} (locks : Locks (observe index world)) :
    InPlay index world ↔ world.client.session.mediaActive = true := by
  have progressEq : (observe index world).progress = progress index world.log :=
    (progress_eq_heard index world.log).symm
  have active := locks.active
  rw [progressEq] at active
  constructor
  · rintro ⟨_, played, notEnded⟩
    rw [show world.client.session.mediaActive = _ from active, played, notEnded]
    rfl
  · intro isActive
    have both := active.symm.trans isActive
    simp only [Bool.and_eq_true, Bool.not_eq_true'] at both
    exact ⟨locks.stored isActive, both.1, both.2⟩

/-- The flag decides what `setCacheMode` does. -/
theorem setCacheMode_of_inactive (platform : Platform H) {world : World H}
    (inactive : world.client.session.mediaActive = false) (cacheMode : EchoCacheMode)
    (index : Nat) :
    received index (emitted platform world (.report (.setCacheMode cacheMode))) =
        [.setCacheMode cacheMode] ∧
      getCacheMode (step platform world (.report (.setCacheMode cacheMode))) = cacheMode := by
  simp [emitted, step, ReportCall.perform, setCacheMode, inactive, received, Effect.receivedBy,
    getCacheMode]

theorem setCacheMode_of_active (platform : Platform H) {world : World H}
    (active : world.client.session.mediaActive = true) (cacheMode : EchoCacheMode)
    (index : Nat) :
    received index (emitted platform world (.report (.setCacheMode cacheMode))) = [] ∧
      getCacheMode (step platform world (.report (.setCacheMode cacheMode))) =
        getCacheMode world := by
  simp [emitted, step, ReportCall.perform, setCacheMode, active, received, Effect.receivedBy,
    getCacheMode]

theorem cacheLock_of_locks (platform : Platform H) {index : Nat} {world : World H}
    (locks : Locks (observe index world)) : CacheLock platform index world where
  accepted := by
    intro cacheMode notInPlay
    rw [inPlay_iff locks, Bool.not_eq_true] at notInPlay
    exact setCacheMode_of_inactive platform notInPlay cacheMode index
  refused := by
    intro cacheMode inPlay
    exact setCacheMode_of_active platform ((inPlay_iff locks).mp inPlay) cacheMode index
  stored := locks.stored

theorem LeavesLock.keepsLock {platform : Platform H} {index : Nat} {world : World H} {op : Op}
    (leaves : LeavesLock index world op)
    (guard : (op.act platform world).Guard (observe index world)) :
    KeepsLock (observe index world) (op.act platform world) := by
  obtain ⟨opens, disables, updates⟩ := leaves
  have takes := op.act_takes platform world
  constructor
  · intro media broker actEq
    rw [actEq] at takes guard
    obtain ⟨original, rfl, _⟩ := takes.of_setMedia
    exact opens guard
  · intro actEq
    rw [actEq] at takes guard
    cases takes
    exact disables ⟨rfl, guard⟩
  · intro media newPosition oldPosition actEq
    rw [actEq] at takes
    cases takes
    rw [State.progress, show (observe index world).heard = heard index world.log from rfl,
      ← progress_eq_heard]
    exact updates rfl

theorem Launched.locks {platform : Platform H} {arguments : InitArguments} {world : World H}
    (launched : Launched platform arguments world) (index : Nat) :
    Locks (observe index world) := by
  rw [launched.observe_eq index]
  cases configFlag (collateConfig platform arguments.config) .echoEnabled &&
      world.client.settings.autoStart with
  | false => exact ⟨rfl, by simp, by simp⟩
  | true => exact ⟨rfl, by simp, by simp⟩

/-- The lock covers exactly the playing session along every run that leaves it
alone. -/
theorem cacheLock_throughout {platform : Platform H} {arguments : InitArguments}
    {world : World H} (launched : Launched platform arguments world) {index : Nat}
    {ops : List Op} (always : Always platform (LeavesLock index) world ops) :
    ∀ first, first <+: ops → CacheLock platform index (run platform world first) := by
  intro first initial
  apply cacheLock_of_locks
  exact observe_run Locks
    (fun world op locks leaves guard => locks.apply guard (leaves.keepsLock guard))
    (launched.locks index) (always.restrict initial)

/-- A session that is played and ended before it is replaced. -/
theorem cacheLock_ended_session :
    CacheLock reference 0 (run reference launchedWorld
      [.media (.setMedia (liveMedia true)), .media (.avPlayEvent 0 none),
        .report (.setCacheMode .all), .media (.navigation .avEnd 0 none),
        .report (.setCacheMode .all), .media (.setMedia (liveMedia true)),
        .lifecycle .disable]) :=
  cacheLock_throughout launchedWorld_launched (by decide) _ List.prefix_rfl

/-- Media that replaces a playing session is locked before it was ever played. -/
theorem not_cacheLock_replaced_session :
    Launched reference defaultArguments launchedWorld ∧
      ¬CacheLock reference 0 (run reference launchedWorld
        [.media (.setMedia (liveMedia true)), .media (.avPlayEvent 0 none),
          .media (.setMedia (liveMedia true))]) := by
  refine ⟨launchedWorld_launched, ?_⟩
  intro lock
  have accepted := (lock.accepted .all (by unfold InPlay; decide)).2
  exact absurd accepted (by decide)

end Echo.Client
