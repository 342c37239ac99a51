import Echo.Isolation.View
import Echo.Protocol.Launch

/-!
# Quantities that follow the media

A tracker folds the calls a delegate hears about the media into a value.  It follows the
current media of the client along a run exactly if every move that writes to the media
tells the tracker a matching story, so each such quantity is settled by looking at five
kinds of moves.
-/

namespace Echo.Client

/-- The calls that hand media over or report on it. -/
def DelegateCall.concernsMedia : DelegateCall → Bool
  | .setMedia _ | .liveMediaUpdate _ _ _ | .setMediaLength _ | .avPlayEvent _ _
  | .avPauseEvent _ _ | .avBufferEvent _ _ | .avEndEvent _ _ | .avRewindEvent _ _ _
  | .avFastForwardEvent _ _ _ | .avSeekEvent _ _ => true
  | _ => false

/-- The media that a navigation event leaves. -/
theorem Session.navigated_media (session : Session) (navigation : Navigation) :
    (session.navigated navigation).media =
      session.media.bind fun media => navigation.media media := by
  cases stored : session.media with
  | none => simp [navigated, stored]
  | some media =>
      rw [navigated, stored]
      dsimp only
      rw [suppressPlay_eq stored]
      cases navigation <;>
        simp [Navigation.before, Navigation.after, stopPlaying, startBuffering, endMedia,
          mapMedia, stored, Navigation.media]

end Echo.Client

namespace Echo.Playback

open Echo.Client Echo.Protocol Echo.Transition

universe u

variable {β : Type u}

/-- A value that the calls about media determine. -/
structure Tracker (β : Type u) where
  initial : β
  tell : β → DelegateCall → β
  ignores : ∀ value call, call.concernsMedia = false → tell value call = value

namespace Tracker

variable (tracker : Tracker β)

/-- The value after a list of calls. -/
def told (calls : List DelegateCall) : β :=
  Transition.run tracker.tell tracker.initial calls

theorem told_append (first second : List DelegateCall) :
    tracker.told (first ++ second) =
      Transition.run tracker.tell (tracker.told first) second :=
  run_append tracker.tell tracker.initial first second

/-- The protocol calls decide the value. -/
theorem told_heard (index : Nat) (log : List Effect) :
    tracker.told (heard index log) = tracker.told (received index log) := by
  have ignores : ∀ value call, DelegateCall.isProtocol call = false →
      tracker.tell value call = value := by
    intro value call silent
    apply tracker.ignores
    cases call <;> first | rfl | simp [DelegateCall.isProtocol] at silent
  exact run_filter ignores tracker.initial (received index log)

/-- The value is the right one for the current media. -/
def Tracks (related : Media → β → Prop) (state : State) : Prop :=
  ∀ media, state.session.media = some media → related media (tracker.told state.heard)

/-- The value after a move. -/
def next (state : State) : Act → β
  | .setMedia media _ => tracker.tell (tracker.told state.heard) (.setMedia media)
  | .setMediaLength length =>
      if length > 0 then tracker.tell (tracker.told state.heard) (.setMediaLength length)
      else tracker.told state.heard
  | .play position eventLabels | .release position eventLabels =>
      tracker.tell (tracker.told state.heard) (.avPlayEvent position eventLabels)
  | .navigate navigation position eventLabels =>
      tracker.tell (tracker.told state.heard) (navigation.call position eventLabels)
  | .liveMediaUpdate media newPosition oldPosition =>
      tracker.tell (tracker.told state.heard) (.liveMediaUpdate media newPosition oldPosition)
  | _ => tracker.told state.heard

theorem told_apply (state : State) (act : Act) :
    tracker.told (act.apply state).heard = tracker.next state act := by
  have ignored (value : β) {call : DelegateCall} (neutral : call.concernsMedia = false) :
      Transition.run tracker.tell value [call] = value := tracker.ignores value call neutral
  rw [Act.apply_heard, told_append]
  cases act with
  | start => exact ignored _ rfl
  | enable starts =>
      cases starts with
      | false => exact ignored _ rfl
      | true =>
          rw [Act.calls, if_pos rfl, run_cons, tracker.ignores _ .enable rfl]
          exact ignored _ rfl
  | disable =>
      rw [Act.calls, run_cons, tracker.ignores _ .clearMedia rfl]
      exact ignored _ rfl
  | forget => exact ignored _ rfl
  | setMedia media broker =>
      rw [Act.calls, run_cons, tracker.ignores _ .clearMedia rfl, run_append]
      cases broker with
      | none => rfl
      | some kind =>
          rw [show Transition.run tracker.tell (tracker.told state.heard)
            (Option.map (fun _ => DelegateCall.setBroker state.brokers.length)
              (some kind)).toList = tracker.told state.heard from ignored _ rfl]
          rfl
  | setMediaLength length =>
      rw [Act.calls, next]
      split
      · rfl
      · rfl
  | userAction actionType actionName position eventLabels => exact ignored _ rfl
  | _ => rfl

/-- The moves after which a value that was right is right for the media. -/
def Preserves (related : Media → β → Prop) (state : State) (act : Act) : Prop :=
  match act with
  | .setMedia media _ | .liveMediaUpdate media _ _ => related media (tracker.next state act)
  | .setMediaLength length => ∀ media, state.session.media = some media →
      related { media with length } (tracker.next state act)
  | .play _ _ | .release _ _ => ∀ media, state.session.media = some media →
      related { media with isPlaying := true, isBuffering := false } (tracker.next state act)
  | .navigate navigation _ _ => ∀ media written, state.session.media = some media →
      navigation.media media = some written → related written (tracker.next state act)
  | _ => True

variable {tracker} {related : Media → β → Prop} {state : State}

/-- A tracker that is right stays right exactly under the moves that preserve it. -/
theorem Tracks.apply_iff (tracks : tracker.Tracks related state) (act : Act) :
    tracker.Tracks related (act.apply state) ↔ tracker.Preserves related state act := by
  unfold Tracks
  rw [Act.apply_session, told_apply]
  cases act with
  | setMedia media broker => simp [Act.session, Preserves]
  | liveMediaUpdate media newPosition oldPosition =>
      simp [Act.session, Session.updated, Preserves]
  | setMediaLength length => simp [Act.session, Session.mapMedia, Preserves]
  | play position eventLabels =>
      simp [Act.session, Session.playing, Session.mapMedia, Preserves]
  | release position eventLabels =>
      simp [Act.session, Session.unsuppressed, Session.playing, Session.mapMedia, Preserves]
  | navigate navigation position eventLabels =>
      simp only [Act.session, Session.navigated_media, Option.bind_eq_some_iff, Preserves]
      constructor
      · intro right media written stored left
        exact right written ⟨media, stored, left⟩
      · rintro right written ⟨media, stored, left⟩
        exact right media written stored left
  | disable => simp [Act.session, Session.closed, Preserves]
  | _ => exact iff_of_true tracks trivial

/-! ## Runs of the client -/

variable {H : Type} {platform : Platform H} {index : Nat}

variable (tracker related) in
/-- What the delegate at an index was told is right for the current media. -/
def Follows (index : Nat) (world : World H) : Prop :=
  ∀ media, world.client.session.media = some media →
    related media (tracker.told (received index world.log))

theorem follows_iff_tracks (index : Nat) (world : World H) :
    tracker.Follows related index world ↔ tracker.Tracks related (observe index world) := by
  unfold Follows Tracks
  rw [← told_heard]
  rfl

theorem Follows.step_iff {world : World H} (follows : tracker.Follows related index world)
    (op : Op) :
    tracker.Follows related index (step platform world op) ↔
      tracker.Preserves related (observe index world) (op.act platform world) := by
  rw [follows_iff_tracks] at follows ⊢
  by_cases asks : op = .getComScoreDeviceID
  · subst asks
    have kept : tracker.Tracks related
        (observe index (step platform world .getComScoreDeviceID)) := by
      apply observe_step (tracker.Tracks related) follows
      intro _
      exact (follows.apply_iff .forget).mpr trivial
    exact iff_of_true kept trivial
  · rw [(step_performs_of_ne platform asks world index).result]
    exact follows.apply_iff _

/-- Along a run of a launched client, a tracker is right everywhere exactly if every step
meets the condition that preserves it. -/
theorem follows_throughout_iff {arguments : InitArguments} {world : World H}
    (launched : Launched platform arguments world) {ops : List Op}
    {condition : World H → Op → Prop}
    (exactly : ∀ world, ∀ op ∈ ops, tracker.Follows related index world →
      (condition world op ↔
        tracker.Preserves related (observe index world) (op.act platform world))) :
    (∀ first, first <+: ops → tracker.Follows related index (run platform world first)) ↔
      Client.Always platform condition world ops := by
  refine Iff.trans ?_ always_iff_forall_concat.symm
  constructor
  · intro everywhere first op initial
    have before := everywhere first ((List.prefix_append first [op]).trans initial)
    have after := everywhere (first ++ [op]) initial
    rw [Client.run_concat, before.step_iff] at after
    exact (exactly _ op (initial.mem (List.mem_append_right first List.mem_cons_self))
      before).mpr after
  · intro conditions first
    induction first using List.reverseRecOn with
    | nil =>
        intro _ media stored
        have noMedia : world.client.session.media = none :=
          congrArg (fun state => state.session.media) (launched.observe_eq 0)
        exact absurd (noMedia.symm.trans stored) nofun
    | append_singleton first op ih =>
        intro initial
        have before := ih ((List.prefix_append first [op]).trans initial)
        rw [Client.run_concat, before.step_iff]
        exact (exactly _ op (initial.mem (List.mem_append_right first List.mem_cons_self))
          before).mp (conditions first op initial)

end Tracker

end Echo.Playback
