import Echo.Isolation.Showing
import Echo.Labels.Cleaning
import Echo.Protocol.Closed
import Echo.Protocol.Ownership
import Echo.Protocol.Refusal

/-!
# Labels that reach a vendor

Every operation sanitises the labels it is given before it hands them on, and a play
that is held back stores them sanitised.  So the dictionaries that a step delivers are
clean versions of the ones supplied to it, or, for a released play, to the call that
was held back.
-/

namespace Echo.Client

open Echo.Isolation Echo.Protocol Echo.Transition

variable {H : Type}

/-! ## Dictionaries delivered -/

/-- The label dictionary that a call carries. -/
def DelegateCall.labels : DelegateCall → Option (Option Labels)
  | .addLabels labels => some (some labels)
  | .viewEvent _ eventLabels | .userActionEvent _ _ eventLabels | .errorEvent _ eventLabels
  | .avPlayEvent _ eventLabels | .avPauseEvent _ eventLabels | .avBufferEvent _ eventLabels
  | .avEndEvent _ eventLabels | .avRewindEvent _ _ eventLabels
  | .avFastForwardEvent _ _ eventLabels | .avSeekEvent _ eventLabels
  | .avUserActionEvent _ _ _ eventLabels => some eventLabels
  | _ => none

/-- The dictionaries that the delegate at an index has received. -/
def dictionaries (index : Nat) (log : List Effect) : List (Option Labels) :=
  (received index log).filterMap DelegateCall.labels

@[simp]
theorem dictionaries_append (index : Nat) (first second : List Effect) :
    dictionaries index (first ++ second) =
      dictionaries index first ++ dictionaries index second := by
  rw [dictionaries, received_append, List.filterMap_append]
  rfl

/-- Going from one world to another delivers a list of dictionaries to every delegate. -/
def Delivers (before after : World H) (delivered : List (Option Labels)) : Prop :=
  ∀ index, dictionaries index after.log = dictionaries index before.log ++ delivered

namespace Delivers

variable {before middle after : World H} {first second : List (Option Labels)}

theorem trans (delivers₁ : Delivers before middle first)
    (delivers₂ : Delivers middle after second) : Delivers before after (first ++ second) := by
  intro index
  rw [delivers₂ index, delivers₁ index, List.append_assoc]

theorem broadcast {call : DelegateCall} {labels : Option Labels}
    (carries : call.labels = some labels) (world : World H) :
    Delivers world (world.broadcast call) [labels] := by
  intro index
  simp [dictionaries, received, Effect.receivedBy, carries]

theorem of_avoids (avoids : Avoids (fun call => call.labels.isSome) before after) :
    Delivers before after [] := by
  intro index
  have selected (calls : List DelegateCall) :
      (calls.filter fun call => call.labels.isSome).filterMap DelegateCall.labels =
        calls.filterMap DelegateCall.labels := by
    rw [List.filterMap_filter]
    congr 1
    funext call
    cases call.labels <;> rfl
  rw [List.append_nil, dictionaries, ← selected, avoids.received_eq index, selected]
  rfl

/-- What a view puts out is what is delivered. -/
theorem of_shows {platform : Platform H} {reaction : Reaction}
    (shown : Shows platform before after reaction) :
    Delivers before after (reaction.2.filterMap DelegateCall.labels) := by
  have upToMedia (index : Nat) (log : List Effect) :
      dictionaries index log = (seen index log).filterMap DelegateCall.labels := by
    rw [seen, List.filterMap_map, dictionaries]
    congr 1
    funext call
    cases call <;> rfl
  intro index
  rw [upToMedia, upToMedia, shown.calls index, List.filterMap_append]

end Delivers

theorem dictionaries_emitted {platform : Platform H} {world : World H} {op : Op}
    {delivered : List (Option Labels)}
    (delivers : Delivers world (step platform world op) delivered) (index : Nat) :
    dictionaries index (emitted platform world op) = delivered := by
  have grown := delivers index
  rw [step_log, dictionaries_append] at grown
  exact List.append_cancel_left grown

/-! ## Dictionaries supplied -/

/-- The dictionaries that an operation is given, or makes up of its arguments, for its
delegates; a release is given the labels that were held back. -/
def supplied (platform : Platform H) (held : Option Labels) (settings : Settings) :
    Op → List (Option Labels)
  | .report (.addLabels labels) => [some labels]
  | .report (.addLabel key value) => [some (Labels.single key value)]
  | .report (.viewEvent _ eventLabels) | .report (.userActionEvent _ _ eventLabels)
  | .report (.errorEvent _ eventLabels) => [eventLabels]
  | .media (.setMedia _) =>
      [some (Labels.single (platform.labelKey .essEnabled)
        (if settings.essEnabled then "true" else "false"))]
  | .media (.avPlayEvent _ eventLabels) | .media (.navigation _ _ eventLabels)
  | .media (.avUserActionEvent _ _ _ eventLabels) => [eventLabels]
  | .live _ (.liveTimestampUpdate timestamp) =>
      [some (Labels.single (platform.labelKey .mediaTimestamp) (toString timestamp))]
  | .live _ (.setEssError error code) =>
      some (Labels.single (platform.labelKey .essError) (platform.essErrorValue error)) ::
        if error = .statusCode then
          [some (Labels.single (platform.labelKey .essStatusCode) code)]
        else []
  | .live _ (.setEssSuccess isSuccess) =>
      [some (Labels.single (platform.labelKey .essSuccess) (if isSuccess then "true" else "false"))]
  | .live _ .releaseSuppressedPlay => [held]
  | .live _ (.sendHeartbeat _ _) | .onDemand _ (.sendHeartbeat _ _) => [none]
  | .onDemand _ (.avPauseEvent _ eventLabels) => [eventLabels]
  | _ => []

/-- A step delivers nothing, or a sanitised version of everything it was supplied with. -/
def DeliversSanitised (platform : Platform H) (world : World H) (op : Op) : Prop :=
  Delivers world (step platform world op) [] ∨
    Delivers world (step platform world op)
      ((supplied platform world.client.session.suppressedPlayEventLabels
        world.client.settings op).map (Option.map (sanitiseLabels platform)))

theorem deliversSanitised_of_disabled (platform : Platform H) {world : World H}
    (disabled : world.client.echoEnabled = false) {op : Op} (needs : op.NeedsEnabled) :
    DeliversSanitised platform world op := by
  left
  rw [step_of_disabled platform disabled needs]
  exact .of_avoids (.refl _ world)

theorem ReportCall.deliversSanitised (platform : Platform H) (world : World H)
    (call : ReportCall) : DeliversSanitised platform world (.report call) := by
  have settings (call : DelegateCall) (setting : call.isSetting = true) :
      call.labels.isSome = false := by
    cases call <;> first | rfl | cases setting
  have unlabelled (isSetting : call.isSetting = true) :
      DeliversSanitised platform world (.report call) :=
    .inl (.of_avoids (call.perform_avoids platform settings world isSetting))
  cases call with
  | addLabels labels => exact .inr (.broadcast rfl world)
  | addLabel key value => exact .inr (.broadcast rfl world)
  | removeLabels labels =>
      exact .inl (.of_avoids (removeLabels_avoids platform (fun _ => rfl) labels world))
  | removeLabel key =>
      exact .inl (.of_avoids (removeLabels_avoids platform (fun _ => rfl) [key] world))
  | viewEvent counterName labels =>
      simp only [DeliversSanitised, step, perform, Client.viewEvent]
      split
      · exact .inl (.of_avoids (.refl _ world))
      · right
        change Delivers { world with client := { world.client with counterNameSet := true } } _ _
        exact .broadcast rfl _
  | userActionEvent actionType actionName labels =>
      simp only [DeliversSanitised, step, perform, Client.userActionEvent]
      split
      · exact .inl (.of_avoids (.refl _ world))
      · split
        · exact .inl (.of_avoids (.debug _ .error _ world))
        · exact .inr (.broadcast rfl world)
  | errorEvent error labels =>
      simp only [DeliversSanitised, step, perform, Client.errorEvent]
      split
      · exact .inl (.of_avoids (.refl _ world))
      · exact .inr (.broadcast rfl world)
  | _ => exact unlabelled rfl

theorem setMedia_deliversSanitised (platform : Platform H) (media : Media) (world : World H) :
    DeliversSanitised platform world (.media (.setMedia media)) := by
  cases enabled : world.client.echoEnabled with
  | false => exact deliversSanitised_of_disabled platform enabled trivial
  | true =>
      right
      have settings : (adoptClone platform media (clearMedia platform world)).client.settings =
          world.client.settings := (clearMedia_frame platform world).settings
      have cleared : Delivers world (adoptClone platform media (clearMedia platform world)) [] :=
        .of_avoids (clearMedia_avoids platform (fun _ => rfl) rfl world)
      have labelled (value : String) : Delivers world
          (addLabel platform (platform.labelKey .essEnabled) value
            (adoptClone platform media (clearMedia platform world)))
          [some (sanitiseLabels platform (Labels.single (platform.labelKey .essEnabled) value))] :=
        cleared.trans (.broadcast rfl _)
      have opened := (labelled (if world.client.settings.essEnabled then "true" else "false")).trans
        (.of_avoids (initBroker_avoids platform (fun _ => rfl) _))
      have announced (world : World H) (stored : Media) :
          Delivers world (world.broadcast (.setMedia stored)) [] :=
        .of_avoids (.broadcast rfl world)
      rw [List.append_nil, ← settings] at opened
      simp only [step, MediaCall.perform, setMedia, enabled, supplied, ← settings]
      split
      · contradiction
      · split
        · exact opened
        · rename_i stored _
          have handed := opened.trans (announced _ stored)
          rw [List.append_nil] at handed
          exact handed

/-- Whatever is known of its broker, a client that plays delivers nothing, or its labels
sanitised. -/
theorem avPlayEvent_delivers (platform : Platform H) (position : UInt64)
    (labels : Option Labels) (world : World H) :
    Delivers world (avPlayEvent platform position labels world) [] ∨
      Delivers world (avPlayEvent platform position labels world)
        [labels.map (sanitiseLabels platform)] := by
  have announced : Delivers world (announce "avPlayEvent(at:eventLabels:)" position world) [] :=
    .of_avoids (.debug _ .info _ world)
  unfold avPlayEvent
  dsimp only
  split
  · exact .inl (.of_avoids (.refl _ world))
  · split
    · exact .inl (announced.trans (.of_avoids (.debug _ .error _ _)))
    · split
      · exact .inl announced
      · rename_i media stored reported played accepted
        have started : Delivers world played [] :=
          announced.trans (.of_avoids (playBroker_avoids platform accepted))
        unfold deliverPlay
        split
        · exact .inl (started.trans (.of_avoids (.of_log_eq rfl)))
        · exact .inr (started.trans (.broadcast rfl played))

/-- The same of a release, which plays with the labels that are kept. -/
theorem releaseSuppressedPlay_delivers (platform : Platform H) (world : World H) :
    Delivers world (releaseSuppressedPlay platform world) [] ∨
      Delivers world (releaseSuppressedPlay platform world)
        [world.client.session.suppressedPlayEventLabels.map (sanitiseLabels platform)] := by
  unfold releaseSuppressedPlay
  split
  · exact .inl (.of_avoids (.refl _ world))
  · split
    · exact .inl (.of_avoids (.refl _ world))
    · split
      · exact avPlayEvent_delivers platform _ _ (world.withSession .unsuppressed)
      · exact .inl (.of_avoids (.refl _ world))

/-! ## Sessions -/

section Session

variable (platform : Platform H) (view : View)

theorem play_labels (position : UInt64) (labels : Option Labels) :
    (view.play platform position labels).2.filterMap DelegateCall.labels = [] ∨
      (view.play platform position labels).2.filterMap DelegateCall.labels = [labels] := by
  have delivered (media : Media) (position : UInt64) (view : View) :
      (view.deliver platform media position labels).2.filterMap DelegateCall.labels = [] ∨
        (view.deliver platform media position labels).2.filterMap DelegateCall.labels =
          [labels] := by
    unfold View.deliver
    split
    · exact .inl rfl
    · exact .inr rfl
  unfold View.play
  split
  · exact .inl rfl
  · exact delivered _ _ _
  · split
    · exact delivered _ _ _
    · split
      · exact .inl rfl
      · exact delivered _ _ _

theorem navigate_labels (navigation : Navigation) (position : UInt64) (labels : Option Labels) :
    (view.navigate navigation position labels).2.filterMap DelegateCall.labels = [] ∨
      (view.navigate navigation position labels).2.filterMap DelegateCall.labels = [labels] := by
  unfold View.navigate
  split
  · exact .inl rfl
  · right
    cases navigation <;> rfl

theorem userAction_labels (actionType actionName : String) (position : UInt64)
    (labels : Option Labels) :
    (view.userAction actionType actionName position labels).2.filterMap DelegateCall.labels = [] ∨
      (view.userAction actionType actionName position labels).2.filterMap DelegateCall.labels =
        [labels] := by
  unfold View.userAction
  split
  · exact .inl rfl
  · exact .inr rfl

theorem release_labels :
    (view.release platform).2.filterMap DelegateCall.labels = [] ∨
      (view.release platform).2.filterMap DelegateCall.labels = [view.labels] := by
  unfold View.release
  split
  · exact .inl rfl
  · split
    · exact play_labels platform _ _ _
    · exact .inl rfl

end Session

/-- The reaction of a view carries nothing, or a sanitised version of everything supplied. -/
theorem react_labels (platform : Platform H) (world : World H) {op : Op}
    (inSession : op.InSession) :
    ((viewOf platform world).react platform op).2.filterMap DelegateCall.labels = [] ∨
      ((viewOf platform world).react platform op).2.filterMap DelegateCall.labels =
        (supplied platform world.client.session.suppressedPlayEventLabels world.client.settings
          op).map (Option.map (sanitiseLabels platform)) := by
  cases op with
  | media call =>
      cases call with
      | setMedia media => exact inSession.elim
      | setMediaLength length =>
          left
          simp only [View.react, View.setLength]
          split
          · rfl
          · split
            · rfl
            · split <;> rfl
      | avPlayEvent position labels => exact play_labels platform _ position _
      | navigation navigation position labels => exact navigate_labels _ navigation position _
      | avUserActionEvent actionType actionName position labels =>
          exact userAction_labels _ actionType actionName position _
  | live broker callback =>
      cases callback with
      | liveMediaUpdate media newPosition oldPosition => exact .inl rfl
      | liveTimestampUpdate timestamp => exact .inr rfl
      | setEssError error code =>
          right
          by_cases status : error = .statusCode
          · simp [View.react, View.essErrorCalls, View.labelCalls, supplied, status,
              DelegateCall.labels]
          · simp [View.react, View.essErrorCalls, View.labelCalls, supplied, status,
              DelegateCall.labels]
      | setEssSuccess isSuccess => exact .inr rfl
      | releaseSuppressedPlay => exact release_labels platform _
      | sendHeartbeat name position => exact userAction_labels _ "echo_hb" name position none
  | onDemand broker callback =>
      cases callback with
      | sendHeartbeat name position => exact userAction_labels _ "echo_hb" name position none
      | avPauseEvent position labels => exact navigate_labels _ .avPause position _
  | playhead position => exact .inl rfl
  | report call => exact inSession.elim
  | getComScoreDeviceID => exact inSession.elim
  | lifecycle call => exact inSession.elim
  | fireTimer timer => exact inSession.elim
  | clock now => exact inSession.elim

/-- An operation of a session that is not refused is a reaction of the view. -/
theorem step_shows_of_accepted (platform : Platform H) {world : World H}
    (made : BrokerMade world) {op : Op} (inSession : op.InSession)
    (accepted : world.client.echoEnabled = true ∨ ¬op.NeedsEnabled) :
    Shows platform world (step platform world op) ((viewOf platform world).react platform op) := by
  rcases accepted with enabled | unguarded
  · exact step_shows platform enabled made inSession
  · cases op with
    | media call =>
        cases call with
        | setMediaLength length => exact setMediaLength_shows platform length world
        | _ => exact absurd trivial unguarded
    | live broker callback =>
        cases callback with
        | liveMediaUpdate media newPosition oldPosition =>
            exact liveMediaUpdate_shows platform media newPosition oldPosition world
        | liveTimestampUpdate timestamp => exact addLabel_shows platform .mediaTimestamp _ world
        | setEssError error code => exact setEssError_shows platform error code world
        | setEssSuccess isSuccess => exact addLabel_shows platform .essSuccess _ world
        | releaseSuppressedPlay => exact absurd trivial unguarded
        | sendHeartbeat name position => exact absurd trivial unguarded
    | onDemand broker callback => exact absurd trivial unguarded
    | playhead position => exact movePlayhead_shows platform position made
    | report call => exact inSession.elim
    | getComScoreDeviceID => exact inSession.elim
    | lifecycle call => exact inSession.elim
    | fireTimer timer => exact inSession.elim
    | clock now => exact inSession.elim

/-- Every step but those of the user's own bookkeeping delivers sanitised labels only. -/
theorem step_deliversSanitised (platform : Platform H) {world : World H}
    (made : BrokerMade world) {op : Op} (other : ∀ call, op ≠ .lifecycle call) :
    DeliversSanitised platform world op := by
  have session (inSession : op.InSession) : DeliversSanitised platform world op := by
    by_cases accepted : world.client.echoEnabled = true ∨ ¬op.NeedsEnabled
    · have delivers :=
        Delivers.of_shows (step_shows_of_accepted platform made inSession accepted)
      rcases react_labels platform world inSession with nothing | everything
      · rw [nothing] at delivers
        exact .inl delivers
      · rw [everything] at delivers
        exact .inr delivers
    · rw [not_or, not_not, Bool.not_eq_true] at accepted
      exact deliversSanitised_of_disabled platform accepted.1 accepted.2
  cases op with
  | report call => exact call.deliversSanitised platform world
  | getComScoreDeviceID =>
      exact .inl (.of_avoids (getComScoreDeviceID_avoids platform rfl rfl world))
  | media call =>
      cases call with
      | setMedia media => exact setMedia_deliversSanitised platform media world
      | _ => exact session trivial
  | lifecycle call => exact absurd rfl (other call)
  | live broker callback => exact session trivial
  | onDemand broker callback => exact session trivial
  | fireTimer timer =>
      exact .inl (.of_avoids (fireTimer_avoids platform (fun _ => rfl) timer world))
  | playhead position => exact session trivial
  | clock now => exact .inl (.of_avoids (.of_log_eq rfl))

/-! ## Labels that are held back -/

/-- The labels of a play that is called for but held back. -/
def heldBack (world : World H) : Op → List (Option Labels)
  | .media (.avPlayEvent _ eventLabels) =>
      if world.client.echoEnabled && world.client.session.isEnrichedLive &&
          world.client.session.suppressingPlayEvent then [eventLabels] else []
  | _ => []

/-- The labels of the last play of a run that was held back. -/
def heldLabels (platform : Platform H) (world : World H) (ops : List Op) : Option Labels :=
  ((outputs (step platform) heldBack world ops).getLast?).join

end Echo.Client

namespace Echo.Protocol

open Echo.Client

/-- Only holding a play back stores labels. -/
theorem Act.session_labels (state : State) {act : Act} (other : ∀ labels, act ≠ .suppress labels) :
    (act.session state).suppressedPlayEventLabels = state.session.suppressedPlayEventLabels := by
  cases act with
  | suppress labels => exact absurd rfl (other labels)
  | navigate navigation position labels =>
      rw [session]
      cases stored : state.session.media with
      | none => rw [Session.navigated, stored]
      | some media =>
          by_cases ends : navigation = .avEnd
          · rw [ends, Session.navigated_avEnd (by simp [stored])]
          · obtain ⟨update, _, navigatedEq⟩ := state.session.navigated_of_ne_avEnd ends
            rw [navigatedEq]
  | _ => rfl

end Echo.Protocol

namespace Echo.Client

open Echo.Isolation Echo.Protocol Echo.Transition

variable {H : Type}

/-- A play that is called for is held back exactly if its move says so. -/
theorem act_of_heldBack (platform : Platform H) {world : World H} {op : Op}
    {labels : Option Labels} (held : labels ∈ heldBack world op) :
    op.act platform world = .suppress (labels.map (sanitiseLabels platform)) := by
  unfold heldBack at held
  split at held
  · rename_i position eventLabels
    split at held
    · rename_i holds
      rw [List.mem_singleton] at held
      subst held
      rw [Bool.and_eq_true, Bool.and_eq_true] at holds
      obtain ⟨⟨enabled, enriched⟩, suppressing⟩ := holds
      obtain ⟨media, stored⟩ :=
        Option.isSome_iff_exists.mp (Session.isSome_of_isEnrichedLive enriched)
      have holdsPlays : media.isLive = true ∧ media.isEnrichedWithESSData = true := by
        simpa [Session.isEnrichedLive, stored] using enriched
      have started : ∃ reported after,
          playBroker media position world = some (reported, after) := by
        unfold playBroker
        split
        · exact ⟨_, _, rfl⟩
        · exact ⟨_, _, if_pos holdsPlays.1⟩
      obtain ⟨reported, after, startedEq⟩ := started
      simp [Op.act, MediaCall.act, playAct, enabled, stored, startedEq, holdsPlays, suppressing]
    · exact absurd held List.not_mem_nil
  · exact absurd held List.not_mem_nil

theorem step_heldBack (platform : Platform H) (world : World H) (op : Op) :
    (step platform world op).client.session.suppressedPlayEventLabels =
      ((heldBack world op).getLast?.map (Option.map (sanitiseLabels platform))).getD
        world.client.session.suppressedPlayEventLabels := by
  by_cases asks : op = .getComScoreDeviceID
  · subst asks
    rw [step, getComScoreDeviceID_eq]
    rfl
  · rw [step_session rfl asks]
    cases held : heldBack world op with
    | cons labels others =>
        have single : others = [] := by
          unfold heldBack at held
          split at held
          · split at held
            · exact (List.cons.inj held).2.symm
            · cases held
          · cases held
        have suppresses := act_of_heldBack platform (held ▸ List.mem_cons_self)
        rw [suppresses, single]
        rfl
    | nil =>
        apply Act.session_labels
        intro labels suppresses
        have takes := op.act_takes platform world
        have guard := (step_performs_of_ne platform asks world 0).guard
        rw [suppresses] at takes guard
        obtain ⟨enabled, enriched, suppressing⟩ := guard
        cases takes with
        | suppress position eventLabels =>
            have enabled : world.client.echoEnabled = true := enabled
            rw [observe_session] at enriched suppressing
            simp [heldBack, enabled, enriched, suppressing] at held

/-- The client keeps the labels of the last play it held back, sanitised, and those it had if
it held none back. -/
theorem suppressedPlayEventLabels_run (platform : Platform H) (world : World H)
    (ops : List Op) :
    (run platform world ops).client.session.suppressedPlayEventLabels =
      ((outputs (step platform) heldBack world ops).getLast?.map
        (Option.map (sanitiseLabels platform))).getD
          world.client.session.suppressedPlayEventLabels := by
  induction ops using List.reverseRecOn with
  | nil => rfl
  | append_singleton ops op ih =>
      rw [Client.run_concat, step_heldBack, ih, outputs_concat, List.getLast?_append]
      cases (heldBack (Transition.run (step platform) world ops) op).getLast? with
      | none => rfl
      | some labels => rfl

/-- A client that starts without such labels keeps those of the plays it holds back only. -/
theorem suppressedPlayEventLabels_run_of_none (platform : Platform H) {world : World H}
    (initially : world.client.session.suppressedPlayEventLabels = none) (ops : List Op) :
    (run platform world ops).client.session.suppressedPlayEventLabels =
      (heldLabels platform world ops).map (sanitiseLabels platform) := by
  rw [suppressedPlayEventLabels_run, initially, heldLabels]
  cases (outputs (step platform) heldBack world ops).getLast? with
  | none => rfl
  | some labels => rfl

/-! ## Runs -/

theorem Launched.brokerMade_run {platform : Platform H} {arguments : InitArguments}
    {world : World H} (launched : Launched platform arguments world) (ops : List Op) :
    BrokerMade (run platform world ops) := by
  intro broker current
  have made := (launched.owned_run ops 0).made broker current
  simpa [observe] using made

/-- The lifecycle of the client carries labels in user action events only. -/
theorem LifecycleCall.perform_avoids (platform : Platform H) (world : World H)
    (call : LifecycleCall) :
    Avoids (fun call => call.labels.isSome && !call.isUserAction) world
      (call.perform platform world) := by
  have skips : UserTells fun call => (call.labels.isSome && !call.isUserAction) = false :=
    ⟨fun _ => rfl, fun _ => rfl, rfl, fun _ _ _ => rfl, rfl⟩
  cases call with
  | setBBCUser user => exact setBBCUser_avoids platform skips user world
  | start => exact start_avoids platform skips rfl world
  | enable => exact enable_avoids platform skips rfl rfl world
  | disable =>
      simp only [perform, Client.disable]
      split
      · exact .refl _ world
      · exact (clearMedia_avoids platform (fun _ => rfl) rfl world).trans
          (.append (.broadcast .disable _) rfl rfl)

theorem related_sanitised {platform : Platform H} (cleanser : IdempotentCleanser platform)
    (labels : Option Labels) :
    Option.Rel (Sanitised platform) labels (labels.map (sanitiseLabels platform)) := by
  cases labels with
  | none => exact .none
  | some labels => exact .some (sanitised_sanitiseLabels cleanser labels)

/-- Sanitising the labels of a held play once more does no harm. -/
theorem related_supplied {platform : Platform H} (cleanser : IdempotentCleanser platform)
    (held : Option Labels) (settings : Settings) (op : Op) :
    List.Forall₂ (Option.Rel (Sanitised platform)) (supplied platform held settings op)
      ((supplied platform (held.map (sanitiseLabels platform)) settings op).map
        (Option.map (sanitiseLabels platform))) := by
  by_cases releases : ∃ broker, op = .live broker .releaseSuppressedPlay
  · obtain ⟨broker, rfl⟩ := releases
    have twice : (held.map (sanitiseLabels platform)).map (sanitiseLabels platform) =
        held.map (sanitiseLabels platform) := by
      rw [Option.map_map]
      congr 1
      funext labels
      exact sanitiseLabels_idem cleanser labels
    rw [supplied, supplied, List.map_singleton, twice]
    exact .cons (related_sanitised cleanser held) .nil
  · have same : supplied platform (held.map (sanitiseLabels platform)) settings op =
        supplied platform held settings op := by
      unfold supplied
      split <;> first | rfl | exact absurd ⟨_, rfl⟩ releases
    rw [same, List.forall₂_map_right_iff, List.forall₂_same]
    intro labels _
    exact related_sanitised cleanser labels

/-- No raw label reaches a vendor.  Along every run, a step delivers no dictionary or,
one by one, clean versions of all the dictionaries supplied to it, those of a released
play to the call that was held back; the lifecycle of the client reports user actions
only. -/
theorem dictionaries_sanitised {platform : Platform H} (cleanser : IdempotentCleanser platform)
    {arguments : InitArguments} {world : World H}
    (launched : Launched platform arguments world) (ops : List Op) (op : Op) (index : Nat) :
    ((∀ call, op ≠ .lifecycle call) →
      dictionaries index (emitted platform (run platform world ops) op) = [] ∨
        List.Forall₂ (Option.Rel (Sanitised platform))
          (supplied platform (heldLabels platform world ops) world.client.settings op)
          (dictionaries index (emitted platform (run platform world ops) op))) ∧
      ∀ call, op = .lifecycle call →
        ∀ delivered ∈ received index (emitted platform (run platform world ops) op),
          delivered.labels.isSome = true → delivered.isUserAction = true := by
  constructor
  · intro other
    have unplayed : world.client.session = {} :=
      congrArg State.session (launched.observe_eq 0)
    have held := suppressedPlayEventLabels_run_of_none platform
      (congrArg Session.suppressedPlayEventLabels unplayed) ops
    have related := related_supplied cleanser (heldLabels platform world ops)
      world.client.settings op
    rw [← held, ← run_settings platform world ops] at related
    rcases step_deliversSanitised platform (launched.brokerMade_run ops) other with
      nothing | everything
    · exact .inl (dictionaries_emitted nothing index)
    · right
      rw [dictionaries_emitted everything index, ← run_settings platform world ops]
      exact related
  · rintro call rfl delivered member carries
    have skipped := Avoids.skipped
      (call.perform_avoids platform (run platform world ops)) index delivered member
    simpa [carries] using skipped

/-- A play with a dirty label is held back after a pause. -/
def labelledPlay : List Op :=
  [.report (.setPlayerDelegate 0), .media (.setMedia (liveMedia true)),
    .media (.avPlayEvent 0 none), .media (.navigation .avPause 0 none),
    .media (.avPlayEvent 0 (some (Labels.single "some.label_or-other" "news")))]

/-- Its release delivers a clean version of the label that the call was given. -/
theorem dictionaries_sanitised_labelledPlay :
    List.Forall₂ (Option.Rel (Sanitised cleansingPlatform))
      [some (Labels.single "some.label_or-other" "news")]
      (dictionaries 0 (emitted cleansingPlatform
        (run cleansingPlatform cleansingWorld labelledPlay) (.live 0 .releaseSuppressedPlay))) := by
  rcases (dictionaries_sanitised cleansingPlatform_cleanser cleansingWorld_launched labelledPlay
    (.live 0 .releaseSuppressedPlay) 0).1 (by simp) with nothing | related
  · exact absurd nothing (by decide)
  · exact related

end Echo.Client
