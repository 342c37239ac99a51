import Echo.Client.Reference
import Echo.Protocol.Launch

/-!
# Client and delegates agree on the media

A delegate learns which media is set from the calls it receives.  Its view
follows the client through every operation except one: the search for a ComScore
device id tells the delegates to clear media that the client keeps.
-/

namespace Echo.Client

open Echo.Protocol Echo.Transition

variable {H : Type}

/-- How a call changes the media that a delegate has in view. -/
def DelegateCall.updateView (view : Option Media) : DelegateCall → Option Media
  | .setMedia media | .liveMediaUpdate media _ _ => some media
  | .clearMedia | .avEndEvent _ _ => none
  | _ => view

/-- The media that the delegate at an index has in view. -/
def view (index : Nat) (log : List Effect) : Option Media :=
  Transition.run DelegateCall.updateView none (received index log)

/-- No audio/video event among the calls finds the view empty. -/
def EventsInView (calls : List DelegateCall) : Prop :=
  Transition.Always DelegateCall.updateView
    (fun view call => call.kind = .event → view.isSome = true) none calls

theorem updateView_of_not_protocol (view : Option Media) (call : DelegateCall)
    (silent : call.isProtocol = false) : call.updateView view = view := by
  cases call <;> first | rfl | simp [DelegateCall.isProtocol] at silent

theorem view_eq_heard (index : Nat) (log : List Effect) :
    view index log = Transition.run DelegateCall.updateView none (heard index log) :=
  (run_filter updateView_of_not_protocol none (received index log)).symm

theorem eventsInView_iff_heard (index : Nat) (log : List Effect) :
    EventsInView (received index log) ↔ EventsInView (heard index log) := by
  refine (always_filter_iff updateView_of_not_protocol ?_ none (received index log)).symm
  intro view call silent isEvent
  simp [DelegateCall.isProtocol, isEvent] at silent

end Echo.Client

namespace Echo.Protocol

open Echo.Client Echo.Transition

/-- Two optional media are the same object. -/
def SameMedia (first second : Option Media) : Prop :=
  first.map Media.identity = second.map Media.identity

namespace SameMedia

theorem isSome_eq {first second : Option Media} (same : SameMedia first second) :
    first.isSome = second.isSome := by
  simpa using congrArg Option.isSome same

theorem trans {first second third : Option Media} (firstSame : SameMedia first second)
    (secondSame : SameMedia second third) : SameMedia first third :=
  Eq.trans firstSame secondSame

/-- Writing an attribute in place keeps the object. -/
theorem written (media : Option Media) {update : Media → Media}
    (inPlace : ∀ media, (update media).identity = media.identity) :
    SameMedia media (media.map update) := by
  rw [SameMedia, Option.map_map]
  congr 1
  funext media
  exact (inPlace media).symm

end SameMedia

/-- The calls heard so far account for the media of the session, and every event
came with media in view. -/
structure Agree (state : State) : Prop where
  view : SameMedia (Transition.run DelegateCall.updateView none state.heard) state.session.media
  events : EventsInView state.heard

/-- New calls keep the agreement when they lead from any view of the old media to
a view of the new one. -/
theorem Agree.extend {state next : State} (agree : Agree state) {calls : List DelegateCall}
    (heardEq : next.heard = state.heard ++ calls)
    (follows : ∀ view, SameMedia view state.session.media →
      SameMedia (Transition.run DelegateCall.updateView view calls) next.session.media ∧
        Transition.Always DelegateCall.updateView
          (fun view call => call.kind = .event → view.isSome = true) view calls) :
    Agree next := by
  obtain ⟨sameNext, inView⟩ := follows _ agree.view
  constructor
  · rw [heardEq, run_append]
    exact sameNext
  · rw [heardEq, EventsInView, always_append_iff]
    exact ⟨agree.events, inView⟩

/-- A move that tells the delegates about an event, and keeps the media, keeps the
agreement. -/
theorem Agree.event {state next : State} (agree : Agree state) {call : DelegateCall}
    (heardEq : next.heard = state.heard ++ [call])
    (ignored : ∀ view, call.updateView view = view) (stored : state.session.media.isSome = true)
    (kept : SameMedia state.session.media next.session.media) : Agree next := by
  apply agree.extend heardEq
  intro view same
  constructor
  · rw [run_cons, run_nil, ignored]
    exact same.trans kept
  · refine ⟨?_, trivial⟩
    intro _
    exact same.isSome_eq.trans stored

/-- Every navigation but the end keeps the media. -/
theorem SameMedia.navigated (session : Session) {navigation : Navigation}
    (continues : navigation ≠ .avEnd) :
    SameMedia session.media (session.navigated navigation).media := by
  obtain ⟨update, inPlace, navigatedEq⟩ := session.navigated_of_ne_avEnd continues
  rw [navigatedEq]
  exact .written session.media inPlace

/-- The end clears the media on both sides, and any other navigation is an event. -/
theorem Agree.navigate {state : State} (agree : Agree state)
    (stored : state.session.media.isSome = true) (navigation : Navigation) (position : UInt64)
    (eventLabels : Option Labels) :
    Agree ((Act.navigate navigation position eventLabels).apply state) := by
  have heardEq := Act.apply_heard state (.navigate navigation position eventLabels)
  have sessionEq := Act.apply_session state (.navigate navigation position eventLabels)
  by_cases ends : navigation = .avEnd
  · subst ends
    apply agree.extend heardEq
    intro view same
    rw [sessionEq]
    constructor
    · rw [Act.session, Session.navigated_avEnd stored]
      rfl
    · refine ⟨?_, trivial⟩
      intro _
      exact same.isSome_eq.trans stored
  · refine agree.event heardEq ?_ stored ?_
    · intro view
      cases navigation with
      | avEnd => exact absurd rfl ends
      | _ => rfl
    · rw [sessionEq]
      exact .navigated state.session ends

/-- The move that breaks the agreement is the one that clears the delegates'
media and not the client's. -/
theorem Agree.apply {state : State} (agree : Agree state) {act : Act} (guard : act.Guard state)
    (kept : act = .forget → state.session.media = none) : Agree (act.apply state) := by
  have heardEq := Act.apply_heard state act
  have sessionEq := Act.apply_session state act
  cases act with
  | idle => exact agree
  | suppress eventLabels =>
      apply agree.extend heardEq
      intro view same
      exact ⟨sessionEq ▸ same, trivial⟩
  | unsuppress =>
      apply agree.extend heardEq
      intro view same
      exact ⟨sessionEq ▸ same, trivial⟩
  | start =>
      apply agree.extend heardEq
      intro view same
      exact ⟨sessionEq ▸ same, by simp [Act.calls]⟩
  | enable starts =>
      apply agree.extend heardEq
      intro view same
      cases starts with
      | false => exact ⟨sessionEq ▸ same, by simp [Act.calls]⟩
      | true => exact ⟨sessionEq ▸ same, by simp [Act.calls]⟩
  | disable =>
      apply agree.extend heardEq
      intro view same
      rw [sessionEq]
      exact ⟨rfl, by simp [Act.calls]⟩
  | forget =>
      apply agree.extend heardEq
      intro view same
      rw [sessionEq, Act.session, kept rfl]
      exact ⟨rfl, by simp [Act.calls]⟩
  | setMedia media broker =>
      apply agree.extend heardEq
      intro view same
      rw [sessionEq]
      cases broker with
      | none => exact ⟨rfl, by simp [Act.calls]⟩
      | some kind => exact ⟨rfl, by simp [Act.calls]⟩
  | setMediaLength length =>
      apply agree.extend heardEq
      intro view same
      rw [sessionEq]
      have written : SameMedia view
          (state.session.media.map fun media => { media with length }) :=
        same.trans (.written _ fun _ => rfl)
      by_cases positive : length > 0
      · rw [Act.calls, if_pos positive]
        exact ⟨written, by simp⟩
      · rw [Act.calls, if_neg positive]
        exact ⟨written, trivial⟩
  | play position eventLabels =>
      refine agree.event heardEq (fun _ => rfl) guard.2.1 ?_
      rw [sessionEq]
      exact .written _ fun _ => rfl
  | release position eventLabels =>
      refine agree.event heardEq (fun _ => rfl) guard.2.2.2 ?_
      rw [sessionEq]
      exact .written _ fun _ => rfl
  | userAction actionType actionName position eventLabels =>
      refine agree.event heardEq (fun _ => rfl) guard.2 ?_
      rw [sessionEq]
      rfl
  | navigate navigation position eventLabels =>
      exact agree.navigate guard.2 navigation position eventLabels
  | liveMediaUpdate media newPosition oldPosition =>
      apply agree.extend heardEq
      intro view same
      rw [sessionEq]
      exact ⟨rfl, by simp [Act.calls]⟩

end Echo.Protocol

namespace Echo.Client

open Echo.Protocol Echo.Transition

variable {H : Type}

/-- Every delegate has the client's media in view, and has had media in view at
every event. -/
def MediaInView (world : World H) : Prop :=
  ∀ index, index < world.client.settings.delegates.length →
    SameMedia (view index world.log) world.client.session.media ∧
      EventsInView (received index world.log)

theorem mediaInView_iff_agree (world : World H) :
    MediaInView world ↔
      ∀ index, index < world.client.settings.delegates.length → Agree (observe index world) := by
  constructor
  · intro inView index present
    obtain ⟨same, events⟩ := inView index present
    exact ⟨view_eq_heard index world.log ▸ same, (eventsInView_iff_heard _ _).mp events⟩
  · intro agree index present
    exact ⟨(view_eq_heard index world.log).symm ▸ (agree index present).view,
      (eventsInView_iff_heard _ _).mpr (agree index present).events⟩

/-- The device id is not asked for while media is set. -/
def AsksWithoutMedia (world : World H) (op : Op) : Prop :=
  op = .getComScoreDeviceID → world.client.session.media = none

instance (world : World H) (op : Op) : Decidable (AsksWithoutMedia world op) :=
  inferInstanceAs (Decidable (op = .getComScoreDeviceID → world.client.session.media = none))

theorem agree_step {platform : Platform H} {index : Nat} {world : World H} {op : Op}
    (agree : Agree (observe index world)) (asks : AsksWithoutMedia world op)
    (guard : (op.act platform world).Guard (observe index world)) :
    Agree ((op.act platform world).apply (observe index world)) := by
  apply agree.apply guard
  intro forgets
  have takes := op.act_takes platform world
  rw [forgets] at takes
  cases takes
  exact asks rfl

/-- Wherever a run ends in which the device id was only asked for without media,
every delegate has the client's media in view. -/
theorem Launched.mediaInView_run {platform : Platform H} {arguments : InitArguments}
    {world : World H} (launched : Launched platform arguments world) {ops : List Op}
    (always : Always platform AsksWithoutMedia world ops) :
    MediaInView (run platform world ops) := by
  rw [mediaInView_iff_agree]
  intro index _
  refine observe_run Agree (fun _ _ => agree_step) ?_ always
  rw [launched.observe_eq index]
  cases configFlag (collateConfig platform arguments.config) .echoEnabled &&
      world.client.settings.autoStart with
  | false => exact ⟨rfl, trivial⟩
  | true => exact ⟨rfl, by simp [EventsInView]⟩

/-- Asking for the device id empties every view. -/
theorem view_getComScoreDeviceID {world : World H} {index : Nat}
    (present : index < world.client.settings.delegates.length) :
    view index (getComScoreDeviceID world).2.log = none := by
  have heardEq := congrArg State.heard (getComScoreDeviceID_performs present).result
  rw [view_eq_heard, show heard index (getComScoreDeviceID world).2.log = _ from heardEq]
  exact Transition.run_concat DelegateCall.updateView none _ .clearMedia

/-- Client and delegates agree on the media throughout a run exactly when there
are no delegates to disagree, or the device id is only asked for while no media
is set. -/
theorem mediaInView_throughout_iff {platform : Platform H} {arguments : InitArguments}
    {world : World H} (launched : Launched platform arguments world) (ops : List Op) :
    (∀ first, first <+: ops → MediaInView (run platform world first)) ↔
      world.client.settings.delegates = [] ∨ Always platform AsksWithoutMedia world ops := by
  constructor
  · intro throughout
    by_cases alone : world.client.settings.delegates = []
    · exact .inl alone
    · refine .inr (always_iff_forall_concat.mpr ?_)
      intro first op initial asked
      subst asked
      have present : 0 < (run platform world first).client.settings.delegates.length := by
        rw [run_settings]
        exact List.length_pos_iff.mpr alone
      have inView := (throughout (first ++ [.getComScoreDeviceID]) initial 0
        (by rw [run_settings, ← run_settings platform world first]; exact present)).1
      rw [run_concat, step, view_getComScoreDeviceID present, getComScoreDeviceID_eq] at inView
      exact Option.map_eq_none_iff.mp inView.symm
  · intro condition first initial
    rcases condition with alone | always
    · intro index present
      rw [run_settings, alone] at present
      exact absurd present (Nat.not_lt_zero index)
    · exact launched.mediaInView_run (always.restrict initial)

theorem mediaInView_played_session :
    MediaInView (run reference launchedWorld
      [.media (.setMedia (liveMedia true)), .media (.avPlayEvent 0 none),
        .media (.navigation .avEnd 0 none), .getComScoreDeviceID]) :=
  (mediaInView_throughout_iff launchedWorld_launched _).mpr (.inr (by decide)) _
    List.prefix_rfl

/-- The delegate is told to clear the media that the client goes on to report. -/
theorem not_mediaInView_getComScoreDeviceID :
    Launched reference defaultArguments launchedWorld ∧
      ¬MediaInView (run reference launchedWorld
        [.media (.setMedia (liveMedia true)), .getComScoreDeviceID]) := by
  refine ⟨launchedWorld_launched, ?_⟩
  intro inView
  have same := (inView 0 (by decide)).1
  exact absurd same (by unfold SameMedia; decide)

end Echo.Client
