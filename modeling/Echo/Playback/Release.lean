import Echo.Client.Laws
import Echo.Isolation.Showing

/-!
# Plays that are held back and released

A play of live, enriched media is held back while plays are suppressed: only its
labels are kept.  The broker's release enters `avPlayEvent` again with these labels,
which have been sanitised before, and then does what the play would have done at once.
-/

namespace Echo.Client

variable {H : Type} {platform : Platform H} {world : World H} {media : Media}
  {broker : BrokerRef}

theorem received_emitted_of_log {op : Op} {entries : List Effect}
    (logged : (step platform world op).log = world.log ++ entries) (index : Nat) :
    received index (emitted platform world op) = received index entries := by
  rw [emitted, logged, List.drop_left]

/-! ## Plays of live media -/

section Live

variable (platform) (enabled : world.client.echoEnabled = true)
  (stored : world.client.session.media = some media)
  (current : world.client.session.broker = some broker) (live : media.isLive = true)

include enabled stored current live

/-- A play of live media starts the broker and takes its position. -/
theorem avPlayEvent_of_live (position : UInt64) (labels : Option Labels) :
    avPlayEvent platform position labels world =
      deliverPlay media (world.positionOf broker) (labels.map (sanitiseLabels platform))
        ((announce "avPlayEvent(at:eventLabels:)" position world).callBroker broker .start) := by
  simp only [avPlayEvent, enabled, Bool.not_true, Bool.false_eq_true, if_false, announce,
    World.debug_client, stored, playBroker, current, live, if_true]
  rfl

theorem avPlayEvent_of_suppressing (enriched : media.isEnrichedWithESSData = true)
    (suppressing : world.client.session.suppressingPlayEvent = true) (position : UInt64)
    (labels : Option Labels) :
    avPlayEvent platform position labels world =
      ((announce "avPlayEvent(at:eventLabels:)" position world).callBroker broker
        .start).withSession (.holding (labels.map (sanitiseLabels platform))) := by
  rw [avPlayEvent_of_live platform enabled stored current live, deliverPlay, if_pos]
  simpa [live, enriched, announce] using suppressing

theorem avPlayEvent_of_unsuppressed
    (unsuppressed : world.client.session.suppressingPlayEvent = false) (position : UInt64)
    (labels : Option Labels) :
    avPlayEvent platform position labels world =
      (((announce "avPlayEvent(at:eventLabels:)" position world).callBroker broker
        .start).broadcast (.avPlayEvent (world.positionOf broker)
          (labels.map (sanitiseLabels platform)))).withSession .playing := by
  rw [avPlayEvent_of_live platform enabled stored current live, deliverPlay, if_neg]
  simp [announce, unsuppressed]

/-- Only the labels of a play that is held back remain. -/
theorem held_of_suppressing (enriched : media.isEnrichedWithESSData = true)
    (suppressing : world.client.session.suppressingPlayEvent = true) (position : UInt64)
    (labels : Option Labels) :
    (∀ index,
      received index (emitted platform world (.media (.avPlayEvent position labels))) = []) ∧
      (step platform world (.media (.avPlayEvent position labels))).client = { world.client with
        session := world.client.session.holding (labels.map (sanitiseLabels platform)) } ∧
      (step platform world (.media (.avPlayEvent position labels))).positionOf broker =
        world.positionOf broker := by
  have heldEq : step platform world (.media (.avPlayEvent position labels)) = _ :=
    avPlayEvent_of_suppressing platform enabled stored current live enriched suppressing position
      labels
  refine ⟨?_, ?_, ?_⟩
  · intro index
    rw [received_emitted_of_log ((congrArg World.log heldEq).trans
      (List.append_assoc world.log [_] [_]))]
    rfl
  · rw [heldEq]
    rfl
  · rw [heldEq]
    exact positionOf_callBroker (fun _ => rfl) broker broker _

/-- Without suppression one play is delivered, at the position of the broker. -/
theorem played_of_unsuppressed
    (unsuppressed : world.client.session.suppressingPlayEvent = false) (position : UInt64)
    (labels : Option Labels) :
    (∀ index,
      received index (emitted platform world (.media (.avPlayEvent position labels))) =
        [.avPlayEvent (world.positionOf broker) (labels.map (sanitiseLabels platform))]) ∧
      (step platform world (.media (.avPlayEvent position labels))).client =
        { world.client with session := world.client.session.playing } := by
  have playedEq : step platform world (.media (.avPlayEvent position labels)) = _ :=
    avPlayEvent_of_unsuppressed platform enabled stored current live unsuppressed position labels
  constructor
  · intro index
    have logged := congrArg World.log playedEq
    simp only [World.withSession_log, World.broadcast_log, World.callBroker_log, announce,
      World.debug_log, List.append_assoc, List.cons_append, List.nil_append] at logged
    rw [received_emitted_of_log logged]
    rfl
  · rw [playedEq]
    rfl

end Live

/-! ## Releases -/

/-- A release while plays are suppressed plays with the labels that are held. -/
theorem releaseSuppressedPlay_of_suppressing (enabled : world.client.echoEnabled = true)
    (current : world.client.session.broker = some broker)
    (suppressing : world.client.session.suppressingPlayEvent = true) :
    releaseSuppressedPlay platform world =
      avPlayEvent platform (world.positionOf broker)
        world.client.session.suppressedPlayEventLabels (world.withSession .unsuppressed) := by
  simp only [releaseSuppressedPlay, enabled, current, suppressing, Bool.not_true,
    Bool.false_eq_true, if_false, if_true]
  rfl

/-- Such a release delivers one play, at the position of the broker. -/
theorem released_of_suppressing (platform : Platform H)
    (enabled : world.client.echoEnabled = true)
    (stored : world.client.session.media = some media)
    (current : world.client.session.broker = some broker) (live : media.isLive = true)
    (suppressing : world.client.session.suppressingPlayEvent = true) :
    (∀ index,
      received index (emitted platform world (.live broker .releaseSuppressedPlay)) =
        [.avPlayEvent (world.positionOf broker)
          (world.client.session.suppressedPlayEventLabels.map (sanitiseLabels platform))]) ∧
      (step platform world (.live broker .releaseSuppressedPlay)).client =
        { world.client with session := world.client.session.unsuppressed.playing } := by
  have releasedEq : step platform world (.live broker .releaseSuppressedPlay) =
      step platform (world.withSession .unsuppressed)
        (.media (.avPlayEvent (world.positionOf broker)
          world.client.session.suppressedPlayEventLabels)) :=
    releaseSuppressedPlay_of_suppressing enabled current suppressing
  have playedEnabled : (world.withSession .unsuppressed).client.echoEnabled = true := enabled
  obtain ⟨plays, clientEq⟩ := played_of_unsuppressed platform playedEnabled stored current live
    rfl (world.positionOf broker) world.client.session.suppressedPlayEventLabels
  constructor
  · intro index
    rw [emitted, releasedEq]
    exact plays index
  · rw [releasedEq, clientEq]
    rfl

/-- Without suppression there is nothing to release. -/
theorem releaseSuppressedPlay_of_unsuppressed
    (unsuppressed : world.client.session.suppressingPlayEvent = false) :
    releaseSuppressedPlay platform world = world := by
  unfold releaseSuppressedPlay
  split
  · rfl
  · split
    · rfl
    · rw [if_neg (by simp [unsuppressed])]

/-- A play that is held back and then released, against the same play without
suppression. -/
structure ReleasedAsPlayed (platform : Platform H) (world : World H) (broker : BrokerRef)
    (position : UInt64) (labels : Option Labels) (held released played : World H) : Prop where
  /-- The play is held back. -/
  silent : ∀ index,
    received index (emitted platform world (.media (.avPlayEvent position labels))) = []
  /-- It leaves its labels behind and nothing else. -/
  holds : held.client = { world.client with
    session := world.client.session.holding (labels.map (sanitiseLabels platform)) }
  /-- Its release delivers one play, the one that is delivered without suppression. -/
  delivers : ∀ index, ∃ reported sanitised,
    received index (emitted platform held (.live broker .releaseSuppressedPlay)) =
        [.avPlayEvent reported sanitised] ∧
      received index (emitted platform (world.withSession .unsuppressed)
        (.media (.avPlayEvent position labels))) = [.avPlayEvent reported sanitised]
  /-- The client ends in the same state, but for the labels that are still stored. -/
  ends : ∃ left, released.client =
    { played.client with session := played.client.session.holding left }
  /-- A second release delivers nothing. -/
  spent : ∀ index,
    received index (emitted platform released (.live broker .releaseSuppressedPlay)) = []

/-- In every enabled state with live, enriched media, a broker and plays suppressed,
holding a play back and releasing it is a plain play. -/
theorem released_as_played (cleanser : IdempotentCleanser platform)
    (enabled : world.client.echoEnabled = true)
    (stored : world.client.session.media = some media)
    (current : world.client.session.broker = some broker) (live : media.isLive = true)
    (enriched : media.isEnrichedWithESSData = true)
    (suppressing : world.client.session.suppressingPlayEvent = true) (position : UInt64)
    (labels : Option Labels) :
    ReleasedAsPlayed platform world broker position labels
      (step platform world (.media (.avPlayEvent position labels)))
      (run platform world
        [.media (.avPlayEvent position labels), .live broker .releaseSuppressedPlay])
      (step platform (world.withSession .unsuppressed)
        (.media (.avPlayEvent position labels))) := by
  have resanitised : (labels.map (sanitiseLabels platform)).map (sanitiseLabels platform) =
      labels.map (sanitiseLabels platform) := by
    cases labels with
    | none => rfl
    | some labels => exact congrArg some (sanitiseLabels_idem cleanser labels)
  obtain ⟨silent, holds, positionEq⟩ := held_of_suppressing platform enabled stored current
    live enriched suppressing position labels
  have playedEnabled : (world.withSession .unsuppressed).client.echoEnabled = true := enabled
  obtain ⟨plays, playedEq⟩ := played_of_unsuppressed platform playedEnabled stored current
    live rfl position labels
  change ReleasedAsPlayed platform world broker position labels _
    (step platform (step platform world (.media (.avPlayEvent position labels)))
      (.live broker .releaseSuppressedPlay)) _
  generalize step platform world (.media (.avPlayEvent position labels)) = held at *
  have heldEnabled : held.client.echoEnabled = true := by
    rw [holds]
    exact enabled
  have heldStored : held.client.session.media = some media := by
    rw [holds]
    exact stored
  have heldBroker : held.client.session.broker = some broker := by
    rw [holds]
    exact current
  have heldSuppressing : held.client.session.suppressingPlayEvent = true := by
    rw [holds]
    exact suppressing
  have heldLabels : held.client.session.suppressedPlayEventLabels =
      labels.map (sanitiseLabels platform) := by
    rw [holds]
    rfl
  obtain ⟨releases, clientEq⟩ := released_of_suppressing platform heldEnabled heldStored
    heldBroker live heldSuppressing
  have spent : (step platform held
      (.live broker .releaseSuppressedPlay)).client.session.suppressingPlayEvent = false := by
    rw [clientEq]
    rfl
  constructor
  · exact silent
  · exact holds
  · intro index
    refine ⟨world.positionOf broker, labels.map (sanitiseLabels platform), ?_, plays index⟩
    rw [releases index, heldLabels, resanitised, positionEq]
  · refine ⟨labels.map (sanitiseLabels platform), ?_⟩
    rw [clientEq, playedEq, holds]
    rfl
  · intro index
    have unchanged : step platform (step platform held (.live broker .releaseSuppressedPlay))
        (.live broker .releaseSuppressedPlay) = _ :=
      releaseSuppressedPlay_of_unsuppressed spent
    rw [emitted, unchanged, List.drop_length]
    rfl

/-- A client that cleans its labels, while it holds plays of live media back. -/
noncomputable def suppressingWorld : World Store :=
  run cleansingPlatform cleansingWorld [.report (.setPlayerDelegate 0),
    .media (.setMedia (liveMedia true)), .media (.avPlayEvent 0 none),
    .media (.navigation .avPause 0 none)]

/-- A play with a dirty label is released as it would have been played. -/
theorem released_as_played_suppressingWorld :
    ReleasedAsPlayed cleansingPlatform suppressingWorld 0 7
      (some (Labels.single "some.label_or-other" "news"))
      (step cleansingPlatform suppressingWorld
        (.media (.avPlayEvent 7 (some (Labels.single "some.label_or-other" "news")))))
      (run cleansingPlatform suppressingWorld
        [.media (.avPlayEvent 7 (some (Labels.single "some.label_or-other" "news"))),
          .live 0 .releaseSuppressedPlay])
      (step cleansingPlatform (suppressingWorld.withSession .unsuppressed)
        (.media (.avPlayEvent 7 (some (Labels.single "some.label_or-other" "news"))))) :=
  released_as_played cleansingPlatform_cleanser (by decide)
    (show suppressingWorld.client.session.media = some (liveMedia true) by decide)
    (by decide) rfl rfl (by decide) 7 _

end Echo.Client
