import Echo.Client.Laws
import Echo.Playback.Positions
import Echo.Playback.Tracking
import Echo.Protocol.Closed

/-!
# The announced length

The client checks positions against the length it has stored, the vendors know the one
they were told.  `setMediaLength` does not pass a zero on but stores it all the same, so
the two part there, and where a broker updates the session with on-demand media.
-/

namespace Echo.Client

open Echo.Playback Echo.Protocol Echo.Transition

variable {H : Type}

/-- The length that a delegate was told last, with its media or since. -/
def announcedLength : Tracker (Option UInt64) where
  initial := none
  tell announced
    | .setMedia media => some media.length
    | .setMediaLength length => some length
    | _ => announced
  ignores := by
    intro value call neutral
    cases call <;> first | rfl | cases neutral

/-- On-demand media has the length that was announced. -/
def HasAnnounced (media : Media) (announced : Option UInt64) : Prop :=
  media.consumptionMode ≠ .live → announced = some media.length

/-- The step does not drop the length of on-demand media, nor update the session with
on-demand media of another length than the announced one. -/
def KeepsLength (index : Nat) (world : World H) : Op → Prop
  | .media (.setMediaLength length) =>
      length = 0 → ∀ media ∈ world.client.session.media,
        media.consumptionMode ≠ .live → media.length = 0
  | .live _ (.liveMediaUpdate media _ _) =>
      media.consumptionMode ≠ .live →
        announcedLength.told (received index world.log) = some media.length
  | _ => True

/-- What a navigation event leaves has the same length and consumption mode. -/
theorem Navigation.media_length {navigation : Navigation} {media written : Media}
    (left : navigation.media media = some written) :
    written.length = media.length ∧ written.consumptionMode = media.consumptionMode := by
  cases navigation <;> cases left <;> exact ⟨rfl, rfl⟩

/-- Moves that neither set the length nor update the session keep the announced length
right. -/
theorem announced_preserved {state : State} (tracks : announcedLength.Tracks HasAnnounced state)
    {act : Act} (resizes : ∀ length, act ≠ .setMediaLength length)
    (updates : ∀ media newPosition oldPosition,
      act ≠ .liveMediaUpdate media newPosition oldPosition) :
    announcedLength.Preserves HasAnnounced state act := by
  cases act with
  | setMedia media broker =>
      intro _
      rfl
  | setMediaLength length => exact absurd rfl (resizes length)
  | liveMediaUpdate media newPosition oldPosition => exact absurd rfl (updates _ _ _)
  | play position eventLabels =>
      intro media stored
      exact tracks media stored
  | release position eventLabels =>
      intro media stored
      exact tracks media stored
  | navigate navigation position eventLabels =>
      intro media written stored left
      obtain ⟨lengthEq, modeEq⟩ := Navigation.media_length left
      have untold : announcedLength.next state (.navigate navigation position eventLabels) =
          announcedLength.told state.heard := by
        cases navigation <;> rfl
      intro onDemand
      rw [untold, lengthEq]
      exact tracks media stored (modeEq ▸ onDemand)
  | _ => trivial

theorem keepsLength_iff {platform : Platform H} {index : Nat} {world : World H}
    (follows : announcedLength.Follows HasAnnounced index world) (op : Op) :
    KeepsLength index world op ↔
      announcedLength.Preserves HasAnnounced (observe index world) (op.act platform world) := by
  have tracks := (Tracker.follows_iff_tracks index world).mp follows
  have toldEq : announcedLength.told (observe index world).heard =
      announcedLength.told (received index world.log) := announcedLength.told_heard index world.log
  by_cases resizes : ∃ length, op = .media (.setMediaLength length)
  · obtain ⟨length, rfl⟩ := resizes
    cases stored : world.client.session.media with
    | none => simp [KeepsLength, Op.act, MediaCall.act, stored, Tracker.Preserves]
    | some media =>
        by_cases live : media.consumptionMode = .live
        · simp [KeepsLength, Op.act, MediaCall.act, stored, live, Tracker.Preserves]
        · have announced := follows media stored live
          simp only [KeepsLength, Op.act, MediaCall.act, stored, live, Tracker.Preserves,
            Tracker.next, HasAnnounced, toldEq, announced, observe_session, if_false,
            Option.mem_def, Option.some.injEq, forall_eq', not_false_eq_true, forall_true_left,
            ne_eq]
          by_cases zero : length = 0
          · subst zero
            simp
          · have positive : length > 0 := UInt64.pos_iff_ne_zero.mpr zero
            simp only [zero, positive, false_imp_iff, if_true, true_iff]
            rfl
  · by_cases updates : ∃ broker media newPosition oldPosition,
        op = .live broker (.liveMediaUpdate media newPosition oldPosition)
    · obtain ⟨broker, media, newPosition, oldPosition, rfl⟩ := updates
      simp only [KeepsLength, Op.act, LiveCallback.act, Tracker.Preserves, Tracker.next,
        HasAnnounced, ← toldEq]
      rfl
    · have unconditional : KeepsLength index world op := by
        unfold KeepsLength
        split
        · exact absurd ⟨_, rfl⟩ resizes
        · exact absurd ⟨_, _, _, _, rfl⟩ updates
        · trivial
      have takes := op.act_takes platform world
      refine iff_of_true unconditional (announced_preserved tracks ?_ ?_)
      · intro length actEq
        rw [actEq] at takes
        cases takes
        exact resizes ⟨length, rfl⟩
      · intro media newPosition oldPosition actEq
        rw [actEq] at takes
        cases takes
        exact updates ⟨_, _, _, _, rfl⟩

/-! ## Runs -/

/-- The stored length follows the announced one, and a length that is not passed on is not
stored either. -/
structure LengthAnnounced (platform : Platform H) (index : Nat) (world : World H)
    (ops : List Op) : Prop where
  announced : ∀ first, first <+: ops → ∀ media,
    (run platform world first).client.session.media = some media →
      media.consumptionMode ≠ .live →
        announcedLength.told (received index (run platform world first).log) = some media.length
  unforwarded : ∀ first length, first ++ [.media (.setMediaLength length)] <+: ops →
    (∀ forwarded, .setMediaLength forwarded ∉ received index
      (emitted platform (run platform world first) (.media (.setMediaLength length)))) →
    (run platform world (first ++ [.media (.setMediaLength length)])).client.session.media.map
        Media.length =
      (run platform world first).client.session.media.map Media.length

/-- A length that is passed on is heard. -/
theorem setMediaLength_forwarded {platform : Platform H} {index : Nat} {world : World H}
    (present : index < world.client.settings.delegates.length) {length : UInt64}
    (resizes : (Op.media (.setMediaLength length)).act platform world = .setMediaLength length)
    (positive : length > 0) :
    .setMediaLength length ∈
      received index (emitted platform world (.media (.setMediaLength length))) := by
  have heardEq := heard_emitted platform present (.media (.setMediaLength length))
  rw [resizes, Act.calls, if_pos positive] at heardEq
  have member : .setMediaLength length ∈
      heard index (emitted platform world (.media (.setMediaLength length))) := by
    rw [heardEq]
    exact List.mem_cons_self
  exact (List.mem_filter.mp member).1

/-- A length that is not passed on leaves the stored one as it was, if it keeps it. -/
theorem length_of_unforwarded {platform : Platform H} {index : Nat} {world : World H}
    (present : index < world.client.settings.delegates.length) {length : UInt64}
    (keeps : KeepsLength index world (.media (.setMediaLength length)))
    (unforwarded : ∀ forwarded, .setMediaLength forwarded ∉
      received index (emitted platform world (.media (.setMediaLength length)))) :
    (step platform world (.media (.setMediaLength length))).client.session.media.map
        Media.length =
      world.client.session.media.map Media.length := by
  cases stored : world.client.session.media with
  | none =>
      have idle : (Op.media (.setMediaLength length)).act platform world = .idle := by
        simp [Op.act, MediaCall.act, stored]
      rw [step_session idle (by simp), Act.session, observe_session, stored]
  | some media =>
      by_cases live : media.consumptionMode = .live
      · have idle : (Op.media (.setMediaLength length)).act platform world = .idle := by
          simp [Op.act, MediaCall.act, stored, live]
        rw [step_session idle (by simp), Act.session, observe_session, stored]
      · have resizes : (Op.media (.setMediaLength length)).act platform world =
            .setMediaLength length := by
          simp [Op.act, MediaCall.act, stored, live]
        have zero : length = 0 := by
          by_contra nonzero
          exact unforwarded length (setMediaLength_forwarded present resizes
            (UInt64.pos_iff_ne_zero.mpr nonzero))
        rw [step_session resizes (by simp), Act.session, observe_session]
        simp [Session.mapMedia, stored, zero, keeps zero media stored live]

/-- The client checks positions against the length the vendors were told, along a run of a
launched client, exactly if no step drops the length of on-demand media or updates the
session with on-demand media of another length. -/
theorem lengthAnnounced_iff {platform : Platform H} {arguments : InitArguments}
    {world : World H} (launched : Launched platform arguments world) {index : Nat}
    (present : index < world.client.settings.delegates.length) (ops : List Op) :
    LengthAnnounced platform index world ops ↔
      Always platform (KeepsLength index) world ops := by
  have throughout : (∀ first, first <+: ops →
      announcedLength.Follows HasAnnounced index (run platform world first)) ↔
      Always platform (KeepsLength index) world ops :=
    Tracker.follows_throughout_iff launched fun _ op _ follows => keepsLength_iff follows op
  constructor
  · intro holds
    exact throughout.mp holds.announced
  · intro always
    refine ⟨throughout.mpr always, ?_⟩
    intro first length initial unforwarded
    have keeps := always_iff_forall_concat.mp always first _ initial
    rw [← run_settings platform world first] at present
    rw [Client.run_concat]
    exact length_of_unforwarded present keeps unforwarded

instance (index : Nat) (world : World H) : (op : Op) → Decidable (KeepsLength index world op)
  | .media (.setMediaLength length) =>
      match stored : world.client.session.media with
      | none => .isTrue fun _ media member => by simp [stored] at member
      | some media =>
          decidable_of_iff (length = 0 → media.consumptionMode ≠ .live → media.length = 0)
            (by simp [KeepsLength, stored])
  | .live _ (.liveMediaUpdate _ _ _) => inferInstanceAs (Decidable (_ → _))
  | .live _ (.liveTimestampUpdate _) | .live _ (.setEssError _ _) | .live _ (.setEssSuccess _)
  | .live _ .releaseSuppressedPlay | .live _ (.sendHeartbeat _ _)
  | .media (.setMedia _) | .media (.avPlayEvent _ _) | .media (.navigation _ _ _)
  | .media (.avUserActionEvent _ _ _ _) | .onDemand _ _ | .report _ | .getComScoreDeviceID
  | .lifecycle _ | .fireTimer _ | .playhead _ | .clock _ => .isTrue trivial

/-- The length of an episode is corrected after it was opened. -/
theorem lengthAnnounced_corrected :
    LengthAnnounced reference 0 launchedWorld
      [.report (.setPlayerDelegate 0), .media (.setMedia episode),
        .media (.setMediaLength 6000), .media (.avPlayEvent 0 none)] :=
  (lengthAnnounced_iff launchedWorld_launched (by decide) _).mpr (by decide)

/-- A zero length is not passed on, but the episode loses its length. -/
theorem not_lengthAnnounced_zero :
    Launched reference defaultArguments launchedWorld ∧
      ¬LengthAnnounced reference 0 launchedWorld
        [.media (.setMedia episode), .media (.setMediaLength 0)] := by
  refine ⟨launchedWorld_launched, ?_⟩
  intro holds
  have silent : received 0 (emitted reference
      (run reference launchedWorld [.media (.setMedia episode)])
      (.media (.setMediaLength 0))) = [] := by decide
  have unforwarded : ∀ forwarded, .setMediaLength forwarded ∉ received 0 (emitted reference
      (run reference launchedWorld [.media (.setMedia episode)])
      (.media (.setMediaLength 0))) := by
    intro forwarded
    rw [silent]
    exact List.not_mem_nil
  have kept := holds.unforwarded [.media (.setMedia episode)] 0 (by simp) unforwarded
  exact absurd kept (by decide)

end Echo.Client
