import Echo.Client.Laws
import Echo.Client.Selection
import Echo.Playback.Positions
import Echo.Playback.Tracking

/-!
# The flags of the media

The client keeps on its media whether it plays and whether it buffers, and the delegates
read these flags to drop a second play and to tell the end of buffering from a play.  The
first flag always agrees with the last of the play, pause and buffer events that were
delivered.  The second one is raised by a buffer event and lowered by a play only, so it
survives a pause.
-/

namespace Echo.Client

open Echo.Playback Echo.Protocol Echo.Transition

variable {H : Type}

/-- The events that the flags are about. -/
inductive PlayEvent
  | played
  | paused
  | buffered
  deriving DecidableEq

/-- The last of these events since the current media was handed over. -/
def lastEvent : Tracker (Option PlayEvent) where
  initial := none
  tell last
    | .setMedia _ | .liveMediaUpdate _ _ _ => none
    | .avPlayEvent _ _ => some .played
    | .avPauseEvent _ _ => some .paused
    | .avBufferEvent _ _ => some .buffered
    | _ => last
  ignores := by
    intro value call neutral
    cases call <;> first | rfl | cases neutral

/-- The media that an operation hands to the client. -/
def Op.arriving : Op → Option Media
  | .media (.setMedia handed) | .live _ (.liveMediaUpdate handed _ _) => some handed
  | _ => none

inductive Flag
  | playing
  | buffering

namespace Flag

def isUp : Flag → Media → Bool
  | playing => Media.isPlaying
  | buffering => Media.isBuffering

/-- The event after which the flag is to be up. -/
def event : Flag → PlayEvent
  | playing => .played
  | buffering => .buffered

/-- The flag is up exactly after its event. -/
def Agrees (flag : Flag) (media : Media) (last : Option PlayEvent) : Prop :=
  flag.isUp media = true ↔ last = some flag.event

theorem agrees_of_down {flag : Flag} {media : Media} (down : flag.isUp media = false) :
    flag.Agrees media none := by
  simp [Agrees, down]

theorem isUp_cloneFor (flag : Flag) {platform : Platform H} (copies : CopiesAttributes platform)
    (media : Media) (world : World H) :
    flag.isUp (cloneFor platform media world) = flag.isUp media := by
  cases flag with
  | playing =>
      have playingEq := congrArg Media.isPlaying (copies media)
      exact playingEq
  | buffering =>
      have bufferingEq := congrArg Media.isBuffering (copies media)
      exact bufferingEq

/-- A play raises the one flag and lowers the other. -/
theorem agrees_played (flag : Flag) (media : Media) :
    flag.Agrees { media with isPlaying := true, isBuffering := false } (some .played) := by
  cases flag with
  | playing => exact iff_of_true rfl rfl
  | buffering => exact iff_of_false nofun nofun

/-- A buffer event lowers the one flag and raises the other. -/
theorem agrees_buffered (flag : Flag) (media : Media) :
    flag.Agrees { media with isPlaying := false, isBuffering := true } (some .buffered) := by
  cases flag with
  | playing => exact iff_of_false nofun nofun
  | buffering => exact iff_of_true rfl rfl

end Flag

/-! ## What a step does to the flags -/

/-- The operations that report a pause. -/
def Op.isPause : Op → Bool
  | .media (.navigation .avPause _ _) | .onDemand _ (.avPauseEvent _ _) => true
  | _ => false

section Step

variable {platform : Platform H} {index : Nat} {world : World H} {flag : Flag} {op : Op}

/-- Every step but a pause keeps a flag right, if media arrives with the flag down. -/
theorem Flag.preserved (copies : CopiesAttributes platform)
    (follows : lastEvent.Follows flag.Agrees index world)
    (arrives : ∀ media, op.arriving = some media → flag.isUp media = false)
    (continues : op.isPause = false) :
    lastEvent.Preserves flag.Agrees (observe index world) (op.act platform world) := by
  have tracks := (Tracker.follows_iff_tracks index world).mp follows
  have takes := op.act_takes platform world
  generalize op.act platform world = act at takes
  cases takes with
  | setMedia media =>
      apply agrees_of_down
      exact (flag.isUp_cloneFor copies media world).trans (arrives media rfl)
  | liveMediaUpdate broker media newPosition oldPosition =>
      exact agrees_of_down (arrives media rfl)
  | setMediaLength length =>
      intro media stored
      have untold : lastEvent.next (observe index world) (.setMediaLength length) =
          lastEvent.told (observe index world).heard := ite_id _
      have unflagged : flag.isUp { media with length } = flag.isUp media := by
        cases flag <;> rfl
      rw [Agrees, unflagged, untold]
      exact tracks media stored
  | play position eventLabels reported =>
      intro media _
      exact flag.agrees_played media
  | release broker reported =>
      intro media _
      exact flag.agrees_played media
  | pause broker position eventLabels reported => cases continues
  | navigate event position eventLabels reported =>
      intro media written stored left
      cases event with
      | avPause => cases continues
      | avBuffer =>
          cases left
          exact flag.agrees_buffered media
      | avEnd => cases left
      | _ =>
          cases left
          exact tracks media stored
  | _ => trivial

/-- What a flag has to be after a pause. -/
theorem pause_preserves_iff (pauses : op.isPause = true) :
    lastEvent.Preserves flag.Agrees (observe index world) (op.act platform world) ↔
      (world.client.echoEnabled = true → ∀ media, world.client.session.media = some media →
        flag.isUp { media with isPlaying := false } = false) := by
  have paused (position : UInt64) (labels : Option Labels) :
      lastEvent.Preserves flag.Agrees (observe index world)
        (navigateAct platform .avPause position labels world) ↔
      (world.client.echoEnabled = true → ∀ media, world.client.session.media = some media →
        flag.isUp { media with isPlaying := false } = false) := by
    unfold navigateAct
    cases enabled : world.client.echoEnabled with
    | false => simp [Tracker.Preserves]
    | true =>
        cases stored : world.client.session.media with
        | none => simp [Tracker.Preserves]
        | some media =>
            have unraised : some PlayEvent.paused ≠ some flag.event := by
              cases flag <;> simp [Flag.event]
            have told (reported : UInt64) (sanitised : Option Labels) :
                lastEvent.next (observe index world) (.navigate .avPause reported sanitised) =
                  some .paused := rfl
            simp [Tracker.Preserves, stored, Navigation.media, told, Flag.Agrees, unraised]
  cases op with
  | media call =>
      cases call with
      | navigation event position labels =>
          cases event with
          | avPause => exact paused position labels
          | _ => cases pauses
      | _ => cases pauses
  | onDemand broker callback =>
      cases callback with
      | avPauseEvent position labels => exact paused position labels
      | sendHeartbeat name position => cases pauses
  | _ => cases pauses

/-! ## What a play shows -/

/-- A delivered play is one of two moves. -/
theorem act_of_play {act : Act} {state : State} {position : UInt64} {labels : Option Labels}
    (delivered : .avPlayEvent position labels ∈ act.calls state) :
    act = .play position labels ∨ act = .release position labels := by
  cases act with
  | play reported eventLabels =>
      cases List.mem_singleton.mp delivered
      exact .inl rfl
  | release reported eventLabels =>
      cases List.mem_singleton.mp delivered
      exact .inr rfl
  | navigate navigation reported eventLabels =>
      cases navigation <;> cases List.mem_singleton.mp delivered
  | setMedia media broker => cases broker <;> simp [Act.calls] at delivered
  | setMediaLength length =>
      by_cases positive : length > 0
      · simp [Act.calls, positive] at delivered
      · simp [Act.calls, positive] at delivered
  | enable starts => cases starts <;> simp [Act.calls] at delivered
  | _ => simp [Act.calls] at delivered

/-- Whichever operation delivers a play, the delegates see the media as it was before. -/
theorem media_of_play {position : UInt64} {labels : Option Labels} {client : EchoClient}
    (delivered : .broadcast (.avPlayEvent position labels) client ∈ emitted platform world op) :
    client.session.media = world.client.session.media := by
  have hears : .avPlayEvent position labels ∈ received 0 (emitted platform world op) :=
    List.mem_filterMap.mpr ⟨_, delivered, rfl⟩
  by_cases asks : op = .getComScoreDeviceID
  · subst asks
    have avoids : Avoids (fun call => call.kind == .event) world
        (step platform world .getComScoreDeviceID) :=
      getComScoreDeviceID_avoids platform (by decide) (by decide) world
    have silent := avoids.skipped 0 _ hears
    cases silent
  · have performs := step_performs_of_ne platform asks world 0
    have calls : .avPlayEvent position labels ∈
        (op.act platform world).calls (observe 0 world) := by
      rw [← performs.heard_emitted]
      exact List.mem_filter.mpr ⟨hears, rfl⟩
    have takes := op.act_takes platform world
    rcases act_of_play calls with played | released
    · rw [played] at takes
      cases takes with
      | play asked eventLabels reported =>
          exact (avPlayEvent_ofPlay platform asked eventLabels world).drop_length _ delivered
    · rw [released] at takes
      cases takes with
      | release broker reported =>
          exact (releaseSuppressedPlay_ofPlay platform world).drop_length _ delivered

/-- A play that is not delivered leaves the media as it was. -/
theorem media_of_unplayed {position : UInt64} {labels : Option Labels}
    (undelivered : ∀ reported sanitised, .avPlayEvent reported sanitised ∉
      received index (emitted platform world (.media (.avPlayEvent position labels)))) :
    (step platform world (.media (.avPlayEvent position labels))).client.session.media =
      world.client.session.media := by
  have other : Op.media (.avPlayEvent position labels) ≠ .getComScoreDeviceID := nofun
  have performs := step_performs_of_ne platform other world index
  have takes := (Op.media (.avPlayEvent position labels)).act_takes platform world
  have sessionEq : (step platform world
      (.media (.avPlayEvent position labels))).client.session = _ :=
    (congrArg State.session performs.result).trans (Act.apply_session _ _)
  rw [sessionEq]
  have heardEq := performs.heard_emitted
  generalize (Op.media (.avPlayEvent position labels)).act platform world = act at *
  cases takes with
  | idle => rfl
  | suppress => rfl
  | userAction => rfl
  | play asked eventLabels reported =>
      have member : .avPlayEvent reported (labels.map (sanitiseLabels platform)) ∈
          heard index (emitted platform world (.media (.avPlayEvent position labels))) := by
        rw [heardEq]
        exact List.mem_cons_self
      exact absurd (List.mem_filter.mp member).1 (undelivered _ _)

end Step

/-! ## Runs -/

variable {platform : Platform H} {arguments : InitArguments} {world : World H}

/-- The playing flag along a run, as the delegate at an index can compare it with the
events it has received. -/
structure PlayingFollows (platform : Platform H) (index : Nat) (world : World H)
    (ops : List Op) : Prop where
  /-- The flag is up exactly if the last event was a play. -/
  agrees : ∀ first, first <+: ops → ∀ media,
    (run platform world first).client.session.media = some media →
      (media.isPlaying = true ↔
        lastEvent.told (received index (run platform world first).log) = some .played)
  /-- A play that is refused or held back does not change it. -/
  undelivered : ∀ first position labels,
    first ++ [.media (.avPlayEvent position labels)] <+: ops →
    (∀ reported sanitised, .avPlayEvent reported sanitised ∉ received index
      (emitted platform (run platform world first) (.media (.avPlayEvent position labels)))) →
    (run platform world
        (first ++ [.media (.avPlayEvent position labels)])).client.session.media =
      (run platform world first).client.session.media
  /-- During a play the flag is still as before. -/
  unwritten : ∀ first op, first ++ [op] <+: ops → ∀ position labels client,
    .broadcast (.avPlayEvent position labels) client ∈
        emitted platform (run platform world first) op →
      client.session.media = (run platform world first).client.session.media

/-- The playing flag follows the delivered events, along every run of a launched client in
which media arrives with the flag down. -/
theorem playing_follows (copies : CopiesAttributes platform)
    (launched : Launched platform arguments world) (ops : List Op)
    (arrives : ∀ op ∈ ops, ∀ media, op.arriving = some media → media.isPlaying = false)
    (index : Nat) : PlayingFollows platform index world ops := by
  have preserved : ∀ world, ∀ op ∈ ops, lastEvent.Follows Flag.playing.Agrees index world →
      (True ↔ lastEvent.Preserves Flag.playing.Agrees (observe index world)
        (op.act platform world)) := by
    intro world op member follows
    refine iff_of_true trivial ?_
    cases pauses : op.isPause with
    | false => exact Flag.preserved copies follows (arrives op member) pauses
    | true =>
        rw [pause_preserves_iff pauses]
        intro _ media _
        rfl
  have everywhere := (Tracker.follows_throughout_iff launched preserved).mpr
    (always_iff_forall_concat.mpr fun _ _ _ => trivial)
  constructor
  · exact everywhere
  · intro first position labels _ undelivered
    rw [Client.run_concat]
    exact media_of_unplayed undelivered
  · intro first op _ position labels client delivered
    exact media_of_play delivered

theorem playing_follows_episode :
    PlayingFollows reference 0 launchedWorld
      [.report (.setPlayerDelegate 0), .media (.setMedia episode),
        .media (.avPlayEvent 0 none), .media (.avPlayEvent 4500 none),
        .media (.navigation .avSeek 0 none), .media (.navigation .avPause 0 none)] :=
  playing_follows reference_clone launchedWorld_launched _ (by decide) 0

/-- The buffering flag along a run. -/
structure BufferingFollows (platform : Platform H) (index : Nat) (world : World H)
    (ops : List Op) : Prop where
  /-- The flag is up exactly if the last event was a buffer event. -/
  agrees : ∀ first, first <+: ops → ∀ media,
    (run platform world first).client.session.media = some media →
      (media.isBuffering = true ↔
        lastEvent.told (received index (run platform world first).log) = some .buffered)
  /-- A play that shows the flag up resumes from buffering. -/
  resumes : ∀ first op, first ++ [op] <+: ops → ∀ position labels client media,
    .broadcast (.avPlayEvent position labels) client ∈
        emitted platform (run platform world first) op →
      client.session.media = some media → media.isBuffering = true →
        lastEvent.told (received index (run platform world first).log) = some .buffered

/-- A pause that takes effect finds the media not buffering. -/
def PausesUnbuffered (world : World H) (op : Op) : Prop :=
  op.isPause = true → world.client.echoEnabled = true →
    ∀ media, world.client.session.media = some media → media.isBuffering = false

instance (world : World H) (op : Op) : Decidable (PausesUnbuffered world op) :=
  inferInstanceAs (Decidable (_ → _))

/-- The buffering flag follows the delivered events, along a run of a launched client in
which media arrives with the flag down, exactly if media is never paused while it
buffers. -/
theorem buffering_follows_iff (copies : CopiesAttributes platform)
    (launched : Launched platform arguments world) (ops : List Op)
    (arrives : ∀ op ∈ ops, ∀ media, op.arriving = some media →
      media.isPlaying = false ∧ media.isBuffering = false) (index : Nat) :
    BufferingFollows platform index world ops ↔
      Always platform PausesUnbuffered world ops := by
  have exactly : ∀ world, ∀ op ∈ ops, lastEvent.Follows Flag.buffering.Agrees index world →
      (PausesUnbuffered world op ↔ lastEvent.Preserves Flag.buffering.Agrees
        (observe index world) (op.act platform world)) := by
    intro world op member follows
    cases pauses : op.isPause with
    | false =>
        refine iff_of_true (by simp [PausesUnbuffered, pauses]) ?_
        exact Flag.preserved copies follows
          (fun media arriving => (arrives op member media arriving).2) pauses
    | true =>
        rw [pause_preserves_iff pauses]
        simp only [PausesUnbuffered, pauses, forall_true_left]
        rfl
  have throughout := Tracker.follows_throughout_iff launched exactly
  constructor
  · intro follows
    exact throughout.mp follows.agrees
  · intro unbuffered
    have everywhere := throughout.mpr unbuffered
    constructor
    · exact everywhere
    · intro first op initial position labels client media delivered shown buffering
      rw [media_of_play delivered] at shown
      exact (everywhere first ((List.prefix_append first [op]).trans initial) media shown).mp
        buffering

theorem buffering_follows_resumed :
    BufferingFollows reference 0 launchedWorld
      [.report (.setPlayerDelegate 0), .media (.setMedia episode),
        .media (.avPlayEvent 0 none), .media (.navigation .avBuffer 0 none),
        .media (.avPlayEvent 0 none), .media (.navigation .avPause 0 none)] :=
  (buffering_follows_iff reference_clone launchedWorld_launched _ (by decide) 0).mpr
    (by decide)

/-- The flag survives a pause, so the next play is taken for the end of buffering. -/
theorem not_buffering_follows_paused :
    Launched reference defaultArguments launchedWorld ∧
      ¬BufferingFollows reference 0 launchedWorld
        [.media (.setMedia episode), .media (.navigation .avBuffer 0 none),
          .media (.navigation .avPause 0 none), .media (.avPlayEvent 0 none)] := by
  refine ⟨launchedWorld_launched, ?_⟩
  intro follows
  have stored : (run reference launchedWorld [.media (.setMedia episode),
      .media (.navigation .avBuffer 0 none),
      .media (.navigation .avPause 0 none)]).client.session.media =
        some { episode with isBuffering := true } := by decide
  have resumed := (follows.agrees _ (List.prefix_append _ [Op.media (.avPlayEvent 0 none)]) _
    stored).mp rfl
  exact absurd resumed (by decide)

end Echo.Client
