import Echo.Client.Reference
import Echo.Protocol.Launch

/-!
# Closed sessions

An effective `avEndEvent` or `disable` closes the session until the next effective
`setMedia`.  Every callback respects that, even one that crosses the stop of its
broker in flight, except for an update of live media, which is stored and passed
on without a check.
-/

namespace Echo.Client

/-- A call that only an open session may lead to. -/
def DelegateCall.ofOpenSession : DelegateCall → Bool
  | .liveMediaUpdate _ _ _ => true
  | call => call.kind = .event

theorem isProtocol_of_ofOpenSession {call : DelegateCall} (opened : call.ofOpenSession = true) :
    call.isProtocol = true := by
  cases call <;> first | rfl | cases opened

end Echo.Client

namespace Echo.Protocol

open Echo.Client

/-- Without media, a move that neither opens nor updates a session leaves it
closed, and makes no call of an open session. -/
theorem Act.closed_apply {state : State} (closed : state.session.media = none) {act : Act}
    (guard : act.Guard state) (opens : ∀ media broker, act ≠ .setMedia media broker)
    (updates : ∀ media newPosition oldPosition,
      act ≠ .liveMediaUpdate media newPosition oldPosition) :
    (act.apply state).session.media = none ∧
      ∀ call ∈ act.calls state, call.ofOpenSession = false := by
  have noMedia : ¬state.session.media.isSome = true := by simp [closed]
  rw [apply_session]
  cases act with
  | setMedia media broker => exact absurd rfl (opens media broker)
  | liveMediaUpdate media newPosition oldPosition =>
      exact absurd rfl (updates media newPosition oldPosition)
  | setMediaLength length => exact absurd guard noMedia
  | play position eventLabels => exact absurd guard.2.1 noMedia
  | suppress eventLabels =>
      exact absurd (Session.isSome_of_isEnrichedLive guard.2.1) noMedia
  | release position eventLabels => exact absurd guard.2.2.2 noMedia
  | navigate navigation position eventLabels => exact absurd guard.2 noMedia
  | userAction actionType actionName position eventLabels => exact absurd guard.2 noMedia
  | enable starts =>
      refine ⟨closed, ?_⟩
      cases starts <;> simp [calls, DelegateCall.ofOpenSession]
  | disable => exact ⟨rfl, by simp [calls, DelegateCall.ofOpenSession]⟩
  | _ => exact ⟨closed, by simp [calls, DelegateCall.ofOpenSession]⟩

end Echo.Protocol

namespace Echo.Client

open Echo.Protocol Echo.Transition

variable {H : Type}

/-- An effective `disable` or `avEndEvent`. -/
def ClosesSession (world : World H) : Op → Prop
  | .lifecycle .disable => world.client.echoEnabled = true
  | .media (.navigation .avEnd _ _) =>
      world.client.echoEnabled = true ∧ world.client.session.media.isSome = true
  | _ => False

/-- An effective `setMedia`. -/
def OpensSession (world : World H) : Op → Prop
  | .media (.setMedia _) => world.client.echoEnabled = true
  | _ => False

instance (world : World H) : (op : Op) → Decidable (OpensSession world op)
  | .media (.setMedia _) => inferInstanceAs (Decidable (world.client.echoEnabled = true))
  | .media (.setMediaLength _) | .media (.avPlayEvent _ _) | .media (.navigation _ _ _)
  | .media (.avUserActionEvent _ _ _ _) | .live _ _ | .onDemand _ _ | .report _
  | .getComScoreDeviceID | .lifecycle _ | .fireTimer _ | .playhead _ | .clock _ =>
      .isFalse id

def Op.isLiveMediaUpdate : Op → Bool
  | .live _ (.liveMediaUpdate _ _ _) => true
  | _ => false

/-- The client has no media, and since the session was closed no delegate has
received a call of an open one. -/
def StaysClosed (closed reached : World H) : Prop :=
  reached.client.session.media = none ∧
    ∀ index, index < reached.client.settings.delegates.length →
      ∀ call ∈ received index (reached.log.drop closed.log.length),
        call.ofOpenSession = false

/-- The session after a step whose move is known. -/
theorem step_session {platform : Platform H} {world : World H} {op : Op} {act : Act}
    (actEq : op.act platform world = act) (other : op ≠ .getComScoreDeviceID) :
    (step platform world op).client.session = act.session (observe 0 world) := by
  rw [← actEq, ← Act.apply_session, ← (step_performs_of_ne platform other world 0).result]
  rfl

theorem closesSession_media {platform : Platform H} {world : World H} {op : Op}
    (closes : ClosesSession world op) :
    (step platform world op).client.session.media = none := by
  unfold ClosesSession at closes
  split at closes
  · have disables : (Op.lifecycle .disable).act platform world = .disable := by
      simp [Op.act, LifecycleCall.act, closes]
    rw [step_session disables (by simp)]
    rfl
  · rename_i position eventLabels
    obtain ⟨enabled, stored⟩ := closes
    obtain ⟨media, mediaEq⟩ := Option.isSome_iff_exists.mp stored
    have ends : (Op.media (.navigation .avEnd position eventLabels)).act platform world =
        .navigate .avEnd (reportedPosition media position (stopBroker world))
          (eventLabels.map (sanitiseLabels platform)) := by
      simp [Op.act, MediaCall.act, navigateAct, enabled, mediaEq]
    rw [step_session ends (by simp), Act.session, Session.navigated_avEnd (by exact stored)]
  · exact closes.elim

/-- A step that neither opens the session nor updates live media leaves a closed
session closed. -/
theorem closed_step (platform : Platform H) {world : World H} {op : Op}
    (closed : world.client.session.media = none) (unopened : ¬OpensSession world op)
    (noUpdate : op.isLiveMediaUpdate = false) :
    (step platform world op).client.session.media = none ∧
      ∀ index, index < world.client.settings.delegates.length →
        ∀ call ∈ received index (emitted platform world op), call.ofOpenSession = false := by
  have takes := op.act_takes platform world
  have opens (media : Media) (broker : Option BrokerKind) :
      op.act platform world ≠ .setMedia media broker := by
    intro actEq
    rw [actEq] at takes
    obtain ⟨original, rfl, _⟩ := takes.of_setMedia
    apply unopened
    cases enabled : world.client.echoEnabled with
    | true => exact enabled
    | false => simp [Op.act, MediaCall.act, enabled] at actEq
  have updates (media : Media) (newPosition oldPosition : UInt64) :
      op.act platform world ≠ .liveMediaUpdate media newPosition oldPosition := by
    intro actEq
    rw [actEq] at takes
    cases takes
    exact absurd noUpdate (by simp [Op.isLiveMediaUpdate])
  constructor
  · have observed : (observe 0 world).session.media = none := closed
    exact observe_step (fun state => state.session.media = none) observed
      fun guard => (Act.closed_apply closed guard opens updates).1
  · intro index present call member
    by_contra opened
    rw [Bool.not_eq_false] at opened
    have isHeard : call ∈ heard index (emitted platform world op) :=
      List.mem_filter.mpr ⟨member, isProtocol_of_ofOpenSession opened⟩
    rw [heard_emitted platform present] at isHeard
    have guard := (step_performs platform present op).guard
    rw [(Act.closed_apply closed guard opens updates).2 call isHeard] at opened
    cases opened

theorem StaysClosed.refl {closed : World H} (noMedia : closed.client.session.media = none) :
    StaysClosed closed closed := by
  refine ⟨noMedia, ?_⟩
  intro index _ call member
  rw [List.drop_length] at member
  exact absurd member List.not_mem_nil

theorem StaysClosed.step {platform : Platform H} {closed reached : World H}
    (stays : StaysClosed closed reached) (later : closed.log <+: reached.log) {op : Op}
    (unopened : ¬OpensSession reached op) (noUpdate : op.isLiveMediaUpdate = false) :
    StaysClosed closed (step platform reached op) := by
  obtain ⟨stillClosed, silent⟩ :=
    closed_step platform stays.1 unopened noUpdate
  refine ⟨stillClosed, ?_⟩
  intro index present call member
  rw [step_settings] at present
  rw [step_log, List.drop_append_of_le_length later.length_le, received_append] at member
  rcases List.mem_append.mp member with earlier | emittedNow
  · exact stays.2 index present call earlier
  · exact silent index present call emittedNow

/-- From the close of a session to the next effective `setMedia`, the session stays
closed exactly when no update of live media arrives. -/
theorem staysClosed_throughout_iff {platform : Platform H} {world : World H} {close : Op}
    (closes : ClosesSession world close) {ops : List Op}
    (unopened : Always platform (fun world op => ¬OpensSession world op)
      (step platform world close) ops) :
    (∀ first, first <+: ops →
      StaysClosed (step platform world close)
        (run platform (step platform world close) first)) ↔
      ∀ op ∈ ops, op.isLiveMediaUpdate = false := by
  constructor
  · intro throughout op member
    obtain ⟨before, after, rfl⟩ := List.append_of_mem member
    cases updates : op.isLiveMediaUpdate with
    | false => rfl
    | true =>
        have noMedia := (throughout (before ++ [op]) (by simp)).1
        rw [run_concat] at noMedia
        unfold Op.isLiveMediaUpdate at updates
        split at updates
        · cases noMedia
        · cases updates
  · intro noUpdates
    have stepwise : ∀ (reached : World H) (op : Op),
        (StaysClosed (step platform world close) reached ∧
          (step platform world close).log <+: reached.log) →
        (¬OpensSession reached op ∧ op.isLiveMediaUpdate = false) →
        (StaysClosed (step platform world close) (step platform reached op) ∧
          (step platform world close).log <+: (step platform reached op).log) := by
      rintro reached op ⟨stays, later⟩ ⟨unopened, noUpdate⟩
      refine ⟨stays.step later unopened noUpdate, later.trans ?_⟩
      rw [step_log]
      exact List.prefix_append _ _
    intro first initial
    have allowed := (unopened.restrict initial).and (always_of_forall_mem
      (fun op member => noUpdates op (initial.subset member)) (step platform world close))
    exact (invariant_run stepwise
      ⟨.refl (closesSession_media closes), List.prefix_refl _⟩ allowed).1

/-- The reference client while it plays live media. -/
noncomputable def playingWorld : World Store :=
  run reference launchedWorld [.report (.setPlayerDelegate 0),
    .media (.setMedia (liveMedia true)), .media (.avPlayEvent 0 none)]

/-- Late callbacks other than updates find the session closed, also when the client
is disabled and enabled again. -/
theorem staysClosed_late_callbacks :
    StaysClosed (step reference playingWorld (.media (.navigation .avEnd 0 none)))
      (run reference (step reference playingWorld (.media (.navigation .avEnd 0 none)))
        [.live 0 .releaseSuppressedPlay, .media (.avPlayEvent 0 none), .lifecycle .disable,
          .live 0 (.setEssSuccess true), .lifecycle .enable,
          .live 0 (.sendHeartbeat "beat" 0)]) := by
  have closes : ClosesSession playingWorld (.media (.navigation .avEnd 0 none)) := ⟨rfl, rfl⟩
  exact (staysClosed_throughout_iff closes (by decide)).mpr (by decide) _ List.prefix_rfl

/-- An update that arrives after the end of the session opens it again. -/
theorem not_staysClosed_late_update :
    ClosesSession playingWorld (.media (.navigation .avEnd 0 none)) ∧
      ¬StaysClosed (step reference playingWorld (.media (.navigation .avEnd 0 none)))
        (run reference (step reference playingWorld (.media (.navigation .avEnd 0 none)))
          [.live 0 (.liveMediaUpdate (liveMedia true) 0 0)]) := by
  refine ⟨⟨rfl, rfl⟩, ?_⟩
  intro stays
  exact absurd stays.1 (by decide)

end Echo.Client
