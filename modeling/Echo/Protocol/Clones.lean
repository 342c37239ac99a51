import Echo.Contract.Requests

/-!
# Every session has a media object of its own

`setMedia` hands the delegates a clone of the media it is given.  Over a whole run they are
handed one clone for every media that the app sets while the client is enabled, in that
order, and no two of the clones are the same object.
-/

namespace Echo.Client

open Echo.Protocol Echo.Transition

variable {H : Type}

/-- The media that a delegate is handed for a new session. -/
def DelegateCall.mediaSet : DelegateCall → Option Media
  | .setMedia media => some media
  | _ => none

/-- The media that an operation opens a session for. -/
def Desk.opens (desk : Desk) : Op → List Media
  | .media (.setMedia media) => if desk.enabled then [media] else []
  | _ => []

theorem Desk.opens_of_other (desk : Desk) {op : Op}
    (other : ∀ media, op ≠ .media (.setMedia media)) : desk.opens op = [] := by
  unfold opens
  split
  · exact absurd rfl (other _)
  · rfl

/-! ## Object identities -/

section Identities

variable (platform : Platform H) (world : World H)

theorem setMedia_nextObjectID (media : Media) :
    (setMedia platform media world).nextObjectID =
      world.nextObjectID + (if world.client.echoEnabled then 1 else 0) := by
  have brokered (world : World H) :
      (initBroker platform world).nextObjectID = world.nextObjectID := by
    unfold initBroker makeBroker
    split
    · dsimp only
      split <;> split <;> rfl
    · rfl
  have opened : (openSession platform media world).nextObjectID = world.nextObjectID + 1 := by
    rw [openSession, brokered]
    exact congrArg (· + 1) (clearMedia_keeps platform world).2
  unfold setMedia
  cases world.client.echoEnabled with
  | false => rfl
  | true =>
      dsimp only
      split
      · contradiction
      · split
        · exact opened
        · exact opened

theorem Op.opens_of_adoptClone {calls : DelegateCall → Prop} {op : Op} {media : Media}
    (taken : op.Footprint calls (.adoptClone media)) : ∃ media, op = .media (.setMedia media) := by
  cases op with
  | media call =>
      cases call with
      | setMedia media => exact ⟨media, rfl⟩
      | _ => exact taken.elim
  | report call => exact (ReportCall.reports_of_footprint taken).elim
  | lifecycle call => cases call <;> exact taken.elim
  | clock now => cases taken
  | _ => exact taken.elim

theorem step_nextObjectID_of_other {op : Op} (other : ∀ media, op ≠ .media (.setMedia media)) :
    (step platform world op).nextObjectID = world.nextObjectID := by
  refine (step_conforms_all platform op).unchanged World.nextObjectID
    (fun world action taken => ?_) world
  cases action with
  | adoptClone media =>
      obtain ⟨media, opens⟩ := Op.opens_of_adoptClone taken
      exact absurd opens (other media)
  | _ => rfl

/-- Only a new session takes an identity. -/
theorem step_nextObjectID (op : Op) :
    (step platform world op).nextObjectID =
      world.nextObjectID + (world.client.desk.opens op).length := by
  by_cases sets : ∃ media, op = .media (.setMedia media)
  · obtain ⟨media, rfl⟩ := sets
    rw [step, MediaCall.perform, setMedia_nextObjectID, Desk.opens]
    cases enabled : world.client.echoEnabled <;> simp [EchoClient.desk, enabled]
  · have other (media : Media) : op ≠ .media (.setMedia media) :=
      fun same => sets ⟨media, same⟩
    rw [world.client.desk.opens_of_other other]
    exact step_nextObjectID_of_other platform world other

end Identities

/-! ## The media that are handed over -/

section Handed

variable (platform : Platform H) (world : World H)

/-- The media that a delegate has been handed. -/
def mediaHanded (index : Nat) (log : List Effect) : List Media :=
  (received index log).filterMap DelegateCall.mediaSet

/-- Calls that hand over no media may be left out. -/
theorem mediaHanded_eq_filter (chosen : DelegateCall → Bool)
    (keeps : ∀ media, chosen (.setMedia media) = true) (index : Nat) (log : List Effect) :
    mediaHanded index log =
      ((received index log).filter chosen).filterMap DelegateCall.mediaSet := by
  rw [mediaHanded, List.filterMap_filter]
  apply List.filterMap_congr
  intro call _
  cases call with
  | setMedia media => rw [if_pos (keeps media)]
  | _ => split <;> rfl

theorem mediaHanded_eq_heard (index : Nat) (log : List Effect) :
    mediaHanded index log = (heard index log).filterMap DelegateCall.mediaSet :=
  mediaHanded_eq_filter _ (fun _ => rfl) index log

theorem mediaSet_calls {state : State} {act : Act}
    (other : ∀ media broker, act ≠ .setMedia media broker) :
    (act.calls state).filterMap DelegateCall.mediaSet = [] := by
  cases act with
  | setMedia media broker => exact absurd rfl (other media broker)
  | enable starts => cases starts <;> rfl
  | setMediaLength length =>
      simp only [Act.calls]
      split <;> rfl
  | navigate navigation position eventLabels => cases navigation <;> rfl
  | _ => rfl

theorem setMedia_mediaHanded (media : Media) (state : State) :
    (((MediaCall.setMedia media).act platform world).calls state).filterMap
        DelegateCall.mediaSet =
      (world.client.desk.opens (.media (.setMedia media))).map (cloneFor platform · world) := by
  cases enabled : world.client.echoEnabled with
  | false => simp [MediaCall.act, Desk.opens, EchoClient.desk, enabled, Act.calls]
  | true =>
      simp only [MediaCall.act, Desk.opens, EchoClient.desk, enabled]
      cases world.client.brokerFor (cloneFor platform media world) with
      | none => rfl
      | some kind => rfl

/-- A step hands over clones of the media that it opens sessions for. -/
theorem step_mediaHanded (op : Op) (index : Nat) :
    mediaHanded index (step platform world op).log =
      mediaHanded index world.log ++
        (world.client.desk.opens op).map (cloneFor platform · world) := by
  by_cases asks : op = .getComScoreDeviceID
  · subst asks
    have avoids : Avoids (fun call => call.mediaSet.isSome) world
        (step platform world .getComScoreDeviceID) :=
      getComScoreDeviceID_avoids platform rfl rfl world
    have filtered := mediaHanded_eq_filter (fun call => call.mediaSet.isSome) (fun _ => rfl) index
    rw [filtered, avoids.received_eq, ← filtered]
    exact (List.append_nil _).symm
  · have performs := step_performs_of_ne platform asks world index
    have grown : heard index (step platform world op).log =
        heard index world.log ++ (op.act platform world).calls (observe index world) := by
      have result := congrArg State.heard performs.result
      rw [Act.apply_heard] at result
      exact result
    rw [mediaHanded_eq_heard, mediaHanded_eq_heard, grown, List.filterMap_append]
    congr 1
    by_cases sets : ∃ media, op = .media (.setMedia media)
    · obtain ⟨media, rfl⟩ := sets
      exact setMedia_mediaHanded platform world media _
    · rw [world.client.desk.opens_of_other fun media same => sets ⟨media, same⟩]
      apply mediaSet_calls
      intro clone broker isSet
      have takes := op.act_takes platform world
      rw [isSet] at takes
      obtain ⟨media, opEq, _⟩ := takes.of_setMedia
      exact sets ⟨media, opEq⟩

theorem desk_run (ops : List Op) :
    (run platform world ops).client.desk = Transition.run Desk.after world.client.desk ops := by
  induction ops generalizing world with
  | nil => rfl
  | cons op ops ih => rw [run, run_cons, ih, (step_answers platform world op).desk, run_cons]

/-- The media that a run opens sessions for. -/
def Desk.opened (desk : Desk) (ops : List Op) : List Media :=
  outputs Desk.after Desk.opens desk ops

theorem nextObjectID_run (ops : List Op) :
    (run platform world ops).nextObjectID =
      world.nextObjectID + (world.client.desk.opened ops).length := by
  induction ops using List.reverseRecOn with
  | nil => rfl
  | append_singleton ops op ih =>
      rw [Client.run_concat, step_nextObjectID, ih, desk_run, Desk.opened, Desk.opened,
        outputs_concat, List.length_append, Nat.add_assoc]

theorem mediaHanded_run (ops : List Op) (index : Nat) :
    mediaHanded index (run platform world ops).log =
      mediaHanded index world.log ++ (world.client.desk.opened ops).mapIdx fun opened media =>
        { platform.getClone media with objectID := world.nextObjectID + opened } := by
  induction ops using List.reverseRecOn with
  | nil => exact (List.append_nil _).symm
  | append_singleton ops op ih =>
      have cloned : ((run platform world ops).client.desk.opens op).map
          (cloneFor platform · (run platform world ops)) =
          ((run platform world ops).client.desk.opens op).mapIdx fun opened media =>
            { platform.getClone media with
              objectID := world.nextObjectID +
                (opened + (world.client.desk.opened ops).length) } := by
        simp only [cloneFor, nextObjectID_run]
        unfold Desk.opens
        split
        · split
          · simp
          · rfl
        · rfl
      rw [Client.run_concat, step_mediaHanded, ih, cloned, desk_run, Desk.opened, Desk.opened,
        outputs_concat, List.mapIdx_append, List.append_assoc]

end Handed

theorem Launched.nothingHanded {platform : Platform H} {arguments : InitArguments}
    {world : World H} (launched : Launched platform arguments world) (index : Nat) :
    mediaHanded index world.log = [] ∧ world.nextObjectID = 0 := by
  constructor
  · have told := congrArg State.heard (launched.observe_eq index)
    rw [mediaHanded_eq_heard, show heard index world.log = _ from told]
    dsimp only
    split <;> rfl
  · obtain ⟨store, now, rfl⟩ := launched.exists_complete
    have prepared : (prepare platform arguments store now).nextObjectID = 0 := by
      unfold prepare
      dsimp only
      split <;> rfl
    rw [complete_eq, World.register_nextObjectID]
    split
    · have started := @step_nextObjectID_of_other H platform
        (prepare platform arguments store now) (.lifecycle .start) (by simp)
      exact started.trans prepared
    · exact prepared

/-- Every delegate is handed one clone for each media that the app sets while the client is
enabled, in that order, and every clone is an object of its own. -/
theorem clones_run {platform : Platform H} {arguments : InitArguments} {world : World H}
    (launched : Launched platform arguments world) (ops : List Op) (index : Nat) :
    mediaHanded index (run platform world ops).log =
        (Desk.opened ⟨configFlag (collateConfig platform arguments.config) .echoEnabled, false⟩
          ops).mapIdx (fun opened media => { platform.getClone media with objectID := opened }) ∧
      ((mediaHanded index (run platform world ops).log).map Media.objectID).Nodup := by
  obtain ⟨nothing, fresh⟩ := launched.nothingHanded index
  have handed := mediaHanded_run platform world ops index
  rw [nothing, fresh, launched.desk_eq.1, List.nil_append] at handed
  simp only [Nat.zero_add] at handed
  have identities : ∃ count, (mediaHanded index (run platform world ops).log).map
      Media.objectID = List.range' 0 count := by
    rw [handed, List.mapIdx_eq_zipIdx_map, List.map_map]
    exact ⟨_, List.zipIdx_map_snd 0 _⟩
  obtain ⟨count, identitiesEq⟩ := identities
  refine ⟨handed, ?_⟩
  rw [identitiesEq]
  exact List.nodup_range'

/-- Of three media the second is set while the client is disabled. -/
theorem clones_disabled :
    mediaHanded 0 (run reference launchedWorld
      [.media (.setMedia (liveMedia true)), .lifecycle .disable,
        .media (.setMedia (liveMedia true)), .lifecycle .enable,
        .media (.setMedia (liveMedia false))]).log =
      [{ liveMedia true with objectID := 0 }, { liveMedia false with objectID := 1 }] :=
  (clones_run launchedWorld_launched _ 0).1

end Echo.Client
