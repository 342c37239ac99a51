import Echo.Client.Delivery

/-!
# Calls of a chosen sort

An observer that only looks at some of the calls to a delegate sees nothing of an
operation that makes none of them, and which calls an operation can make is part of its
footprint.
-/

namespace Echo.Client

open Echo.Transition

variable {H : Type} {chosen : DelegateCall → Bool}

/-- The effect makes no chosen call. -/
def Effect.Avoids (chosen : DelegateCall → Bool) : Effect → Prop
  | .broadcast call _ | .delegate _ call => chosen call = false
  | _ => True

/-- The log grows by effects that make no chosen call. -/
def Avoids (chosen : DelegateCall → Bool) (before after : World H) : Prop :=
  Extends (Effect.Avoids chosen) before.log after.log

namespace Avoids

variable {before middle after : World H}

theorem refl (chosen : DelegateCall → Bool) (world : World H) : Avoids chosen world world :=
  Extends.refl _ _

theorem trans (first : Avoids chosen before middle) (second : Avoids chosen middle after) :
    Avoids chosen before after :=
  Extends.trans first second

/-- Whatever else changes, one effect is added to the log. -/
theorem append (effect : Effect) (avoids : effect.Avoids chosen)
    (logEq : after.log = before.log ++ [effect]) : Avoids chosen before after := by
  rw [Avoids, logEq]
  exact .single _ avoids _

theorem broadcast {call : DelegateCall} (skipped : chosen call = false) (world : World H) :
    Avoids chosen world (world.broadcast call) :=
  append (.broadcast call world.client) skipped rfl

theorem debug (chosen : DelegateCall → Bool) (level : EchoDebugLevel) (message : String)
    (world : World H) : Avoids chosen world (world.debug level message) :=
  append (.debug level message) trivial rfl

/-- Whatever else changes, the log does not. -/
theorem of_log_eq (logEq : after.log = before.log) : Avoids chosen before after := by
  rw [Avoids, logEq]
  exact .refl _ _

/-- The chosen calls that a delegate has received are those of before. -/
theorem received_eq (avoids : Avoids chosen before after) (index : Nat) :
    (received index after.log).filter chosen = (received index before.log).filter chosen := by
  unfold received
  rw [List.filter_filterMap, List.filter_filterMap]
  apply filterMap_extends avoids
  intro effect skipped
  cases effect with
  | broadcast call client =>
      have skipped : chosen call = false := skipped
      simp [Effect.receivedBy, skipped]
  | delegate other call =>
      have skipped : chosen call = false := skipped
      by_cases same : other = index
      · simp [Effect.receivedBy, same, skipped]
      · simp [Effect.receivedBy, same]
  | _ => rfl

/-- No delegate receives a chosen call from a step that makes none. -/
theorem skipped {platform : Platform H} {world : World H} {op : Op}
    (avoids : Avoids chosen world (step platform world op)) (index : Nat) :
    ∀ call ∈ received index (emitted platform world op), chosen call = false := by
  have same := avoids.received_eq index
  rw [step_log, received_append, List.filter_append] at same
  have nothing := List.append_cancel_left (same.trans (List.append_nil _).symm)
  intro call member
  simpa using List.filter_eq_nil_iff.mp nothing call member

/-- An operation avoids what its footprint leaves out. -/
theorem of_conforms {platform : Platform H} {footprint : Action → Prop}
    {reads : World H → World H → Prop} {callable : World H → Prop}
    {operation : World H → World H} [Std.Refl reads]
    (conforms : Conforms platform footprint reads callable operation)
    (tells : ∀ {action}, footprint action → action.Tells fun call => chosen call = false)
    (world : World H) : Avoids chosen world (operation world) := by
  apply conforms.extends_log
  intro world action taken effect adds
  have told := tells taken
  cases action with
  | broadcast call =>
      cases adds
      exact told
  | callDelegate index call =>
      cases adds
      exact told
  | adoptBroker made state =>
      cases adds
      obtain ⟨made, makes⟩ := made
      cases made with
      | broadcast call client => exact makes.elim
      | delegate index call => exact makes.elim
      | _ => trivial
  | _ => cases adds <;> trivial

end Avoids

/-! ## Settings -/

/-- The calls that pass a setting on, or concern the cache or the app as a whole. -/
def DelegateCall.isSetting : DelegateCall → Bool
  | .addManagedLabel _ _ | .setDestination _ | .setProducer _ | .setPlayerName _
  | .setPlayerVersion _ | .setPlayerIsPopped _ | .setPlayerWindowState _ | .setPlayerVolume _
  | .setPlayerIsSubtitled _ | .setContentLanguage _ | .setTraceID _ | .setCounterName _
  | .setCacheMode _ | .flushCache | .clearCache | .appForegrounded | .appBackgrounded => true
  | _ => false

/-- The operations that make no other calls. -/
def ReportCall.isSetting : ReportCall → Bool
  | .addLabels _ | .addLabel _ _ | .removeLabels _ | .removeLabel _ | .viewEvent _ _
  | .userActionEvent _ _ _ | .errorEvent _ _ => false
  | _ => true

theorem ReportCall.perform_avoids (platform : Platform H)
    (skips : ∀ call : DelegateCall, call.isSetting = true → chosen call = false)
    (world : World H) {call : ReportCall} (setting : call.isSetting = true) :
    Avoids chosen world (call.perform platform world) := by
  have tells : call.Tells fun call => chosen call = false := by
    cases call with
    | addLabels labels => cases setting
    | addLabel key value => cases setting
    | removeLabels labels => cases setting
    | removeLabel key => cases setting
    | viewEvent counterName labels => cases setting
    | userActionEvent actionType actionName labels => cases setting
    | errorEvent error labels => cases setting
    | setPlayerDelegate delegate => trivial
    | setMediaBitrate bitrate => trivial
    | setMediaCodec codec => trivial
    | setMediaCDN cdn => trivial
    | addManagedLabel label value => exact fun _ => skips _ rfl
    | setProducer producer => exact fun _ => skips _ rfl
    | setProducerByName name => exact fun _ => skips _ rfl
    | setProducerByMasterbrand name => exact fun _ => skips _ rfl
    | setPlayerName name => exact fun _ => skips _ rfl
    | setPlayerVersion version => exact fun _ => skips _ rfl
    | setCounterName counterName => exact fun _ => skips _ rfl
    | _ => exact skips _ rfl
  exact .of_conforms (call.perform_conforms platform tells)
    (fun taken => (ReportCall.reports_of_footprint taken).tells) world

section Operations

variable (platform : Platform H)

include platform

theorem removeLabels_avoids (skips : ∀ keys, chosen (.removeLabels keys) = false)
    (labels : List String) (world : World H) :
    Avoids chosen world (removeLabels platform labels world) :=
  .of_conforms (removeLabels_conforms platform skips labels) Action.Talks.tells world

/-! ## Sessions -/

theorem clearMedia_avoids (skips : ∀ keys, chosen (.removeLabels keys) = false)
    (clears : chosen .clearMedia = false) (world : World H) :
    Avoids chosen world (clearMedia platform world) :=
  .of_conforms (clearMedia_conforms platform skips clears) Action.Plays.tells world

theorem initBroker_avoids (skips : ∀ broker, chosen (.setBroker broker) = false)
    (world : World H) : Avoids chosen world (initBroker platform world) :=
  .of_conforms (initBroker_conforms platform skips) Action.Opens.tells world

theorem getComScoreDeviceID_avoids (clears : chosen .clearMedia = false)
    (asks : chosen .getDeviceID = false) (world : World H) :
    Avoids chosen world (getComScoreDeviceID world).2 :=
  .of_conforms (getComScoreDeviceID_conforms platform clears asks) Action.Plays.tells world

theorem movePlayhead_avoids (position : UInt64) (world : World H) :
    Avoids chosen world (movePlayhead position world) :=
  .of_conforms (movePlayhead_conforms platform position) Action.Plays.tells world

theorem playBroker_avoids {media : Media} {position reported : UInt64} {world played : World H}
    (accepted : playBroker media position world = some (reported, played)) :
    Avoids chosen world played := by
  have avoids : Avoids chosen world ((playBroker media position world).elim world Prod.snd) :=
    .of_conforms (playBroker_conforms platform media position) Action.Plays.tells world
  rw [accepted] at avoids
  exact avoids

end Operations

/-! ## Playback -/

/-- What a play may add to the log: reports, calls of the broker, and the play itself while
the client still shows this media. -/
def Effect.OfPlay (media : Option Media) : Effect → Prop
  | .debug _ _ | .broker _ _ => True
  | .broadcast (.avPlayEvent _ _) client => client.session.media = media
  | _ => False

theorem playBroker_ofPlay (shown : Option Media) {media : Media} {position reported : UInt64}
    {world played : World H}
    (accepted : playBroker media position world = some (reported, played)) :
    played.client = world.client ∧ Extends (Effect.OfPlay shown) world.log played.log := by
  unfold playBroker at accepted
  split at accepted
  · cases accepted
    exact ⟨rfl, .refl _ _⟩
  · split at accepted
    · cases accepted
      exact ⟨rfl, .single _ trivial _⟩
    · split at accepted
      · cases accepted
      · cases accepted
        exact ⟨rfl, (Extends.single _ trivial _).trans (.single _ trivial _)⟩

/-- A play is delivered before it is written to the media. -/
theorem avPlayEvent_ofPlay (platform : Platform H) (position : UInt64)
    (eventLabels : Option Labels) (world : World H) :
    Extends (Effect.OfPlay world.client.session.media) world.log
      (avPlayEvent platform position eventLabels world).log := by
  unfold avPlayEvent
  split
  · exact .refl _ _
  · have announced : Extends (Effect.OfPlay world.client.session.media) world.log
        (announce "avPlayEvent(at:eventLabels:)" position world).log := .single _ trivial _
    dsimp only
    split
    · exact announced.trans (.single _ trivial _)
    · split
      · exact announced
      · rename_i media stored reported played accepted
        obtain ⟨clientEq, extended⟩ := playBroker_ofPlay world.client.session.media accepted
        refine (announced.trans extended).trans ?_
        unfold deliverPlay
        split
        · exact .refl _ _
        · have shown (labels : Option Labels) : Effect.OfPlay world.client.session.media
              (.broadcast (.avPlayEvent reported labels) played.client) := by
            rw [clientEq]
            rfl
          exact .single _ (shown _) _

theorem releaseSuppressedPlay_ofPlay (platform : Platform H) (world : World H) :
    Extends (Effect.OfPlay world.client.session.media) world.log
      (releaseSuppressedPlay platform world).log := by
  unfold releaseSuppressedPlay
  split
  · exact .refl _ _
  · split
    · exact .refl _ _
    · split
      · exact avPlayEvent_ofPlay platform _ _ (world.withSession .unsuppressed)
      · exact .refl _ _

section Playback

variable (platform : Platform H)
  (skips : ∀ call : DelegateCall, call.isProtocol = true → chosen call = false)

include platform skips

theorem avPlayEvent_avoids (position : UInt64) (eventLabels : Option Labels) (world : World H) :
    Avoids chosen world (avPlayEvent platform position eventLabels world) :=
  .of_conforms (avPlayEvent_conforms platform (fun _ _ => skips _ rfl) position eventLabels)
    Action.Plays.tells world

theorem releaseSuppressedPlay_avoids (world : World H) :
    Avoids chosen world (releaseSuppressedPlay platform world) :=
  .of_conforms (releaseSuppressedPlay_conforms platform fun _ _ => skips _ rfl)
    Action.Plays.tells world

theorem navigate_avoids (navigation : Navigation) (position : UInt64)
    (eventLabels : Option Labels) (world : World H) :
    Avoids chosen world (navigate platform navigation position eventLabels world) := by
  have navigates (reported : UInt64) (labels : Option Labels) :
      chosen (navigation.call reported labels) = false := by
    apply skips
    cases navigation <;> rfl
  exact .of_conforms (navigate_conforms platform navigation navigates position eventLabels)
    Action.Plays.tells world

theorem avUserActionEvent_avoids (actionType actionName : String) (position : UInt64)
    (eventLabels : Option Labels) (world : World H) :
    Avoids chosen world
      (avUserActionEvent platform actionType actionName position eventLabels world) :=
  .of_conforms (avUserActionEvent_conforms platform (fun _ _ _ _ => skips _ rfl) actionType
    actionName position eventLabels) Action.Plays.tells world

theorem setMediaLength_avoids (length : UInt64) (world : World H) :
    Avoids chosen world (setMediaLength length world) :=
  .of_conforms (setMediaLength_conforms platform (fun _ => skips _ rfl) length)
    Action.Plays.tells world

end Playback

/-! ## Users -/

section User

variable (platform : Platform H)

include platform

theorem fireTimer_avoids (skips : ∀ user, chosen (.updateBBCUserLabels user) = false)
    (timer : TimerRef) (world : World H) : Avoids chosen world (fireTimer timer world) :=
  .of_conforms (fireTimer_conforms platform skips timer) Action.Attends.tells world

variable (skips : UserTells fun call => chosen call = false)

include skips

theorem setBBCUser_avoids (user : BBCUser) (world : World H) :
    Avoids chosen world (setBBCUser platform user world) :=
  .of_conforms (setBBCUser_conforms platform skips user) Action.Receives.tells world

theorem start_avoids (starts : chosen .start = false) (world : World H) :
    Avoids chosen world (start platform world) :=
  .of_conforms (start_conforms platform skips starts) Action.Starts.tells world

theorem enable_avoids (starts : chosen .start = false) (enables : chosen .enable = false)
    (world : World H) : Avoids chosen world (enable platform world) :=
  .of_conforms (enable_conforms platform skips starts enables) Action.Switches.tells world

end User

end Echo.Client
