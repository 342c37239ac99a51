import Echo.Conduct.Reports

/-!
# The conduct of media sessions

A session is opened with a clone of the media and a broker, and closed again; in between,
events are reported where the media is.  Most of what the delegates may rely on about a
session is checked here, where the calls are made.
-/

namespace Echo.Client

open Echo.Transition

variable {H : Type} {calls : DelegateCall → Prop} {checked : Prop}
  {related : World H → World H → Prop} {left right : World H}

/-! ## Closing a session -/

section Closing

variable (platform : Platform H) (removes : ∀ keys, calls (.removeLabels keys))

theorem releaseBroker_session (world : World H) :
    (releaseBroker world).client.session = { world.client.session with broker := none } := by
  unfold releaseBroker
  split
  · rename_i noBroker
    rw [← noBroker]
  · rfl

/-- A broker is stopped before it is let go. -/
theorem releaseBroker_conforms :
    Conforms platform (Action.Plays calls) ReadsSession Anywhere releaseBroker := by
  intro checked related respects left right called same
  unfold releaseBroker
  rw [(respects.reads same).session]
  split
  · exact same
  · rename_i broker _
    have stopped := respects.act (.callBroker broker .stop) ⟨trivial, fun _ => trivial⟩ same
    exact respects.act (.writeSession fun session => { session with broker := none })
      ⟨trivial, fun _ => trivial⟩ stopped

include removes

theorem removeMediaLabels_conforms :
    Conforms platform (Action.Talks calls) ReadsNothing Anywhere (removeMediaLabels platform) := by
  intro checked related respects left right called same
  unfold removeMediaLabels
  generalize mediaLabelKeys = keys
  clear called
  induction keys generalizing left right with
  | nil => exact same
  | cons key keys ih =>
      exact ih (removeLabels_conforms platform removes _ respects (fun _ => trivial) same)

omit removes in
/-- Nothing of the session that is closed is left to read. -/
theorem clearMedia_emptied (world : World H) :
    let emptied := releaseBroker ((removeMediaLabels platform world).withSession fun session =>
      { session with media := none })
    emptied.client.session.media = none ∧ emptied.client.session.broker = none := by
  constructor
  · exact congrArg Session.media (releaseBroker_session _)
  · exact congrArg Session.broker (releaseBroker_session _)

/-- The delegates are told when media and broker are gone. -/
theorem clearMedia_conforms (clears : calls .clearMedia) :
    Conforms platform (Action.Plays calls) ReadsSession Anywhere (clearMedia platform) := by
  intro checked related respects left right called same
  have removed := (removeMediaLabels_conforms platform removes).mono Action.Talks.plays
    (fun _ => trivial) respects called same
  have forgotten := respects.act (.writeSession fun session => { session with media := none })
    ⟨trivial, fun _ => trivial⟩ removed
  have released := releaseBroker_conforms platform respects (fun _ => trivial) forgotten
  exact respects.act (.broadcast .clearMedia)
    ⟨clears, fun _ => clearMedia_emptied platform left⟩ released

end Closing

/-! ## Opening a session -/

section Opening

variable (platform : Platform H)

theorem makeBroker_conforms (playerDelegate : PlayerDelegate) (media : Media) :
    Conforms platform (Action.Opens calls) ReadsSession Anywhere
      (makeBroker platform playerDelegate media) := by
  intro checked related respects left right called same
  unfold makeBroker
  rw [(respects.reads same).settings]
  dsimp only
  split
  · exact respects.act (.adoptBroker ⟨.makeLiveBroker _ _ _ _ _, trivial⟩ _)
      ⟨trivial, fun _ => trivial⟩ same
  · exact respects.act (.adoptBroker ⟨.makeOnDemandBroker _ _, trivial⟩ _)
      ⟨trivial, fun _ => trivial⟩ same

/-- Making a broker only stores it. -/
theorem makeBroker_client (playerDelegate : PlayerDelegate) (media : Media) (world : World H) :
    (makeBroker platform playerDelegate media world).client =
      { world.client with
        session := { world.client.session with broker := some world.brokers.length } } := by
  unfold makeBroker
  dsimp only
  split <;> rfl

/-- A broker is only asked for on a client that is enabled. -/
theorem initBroker_conforms (hands : ∀ broker, calls (.setBroker broker)) :
    Conforms platform (Action.Opens calls) ReadsSession
      (fun world => world.client.echoEnabled = true) (initBroker platform) := by
  intro checked related respects left right called same
  have reads := respects.reads same
  unfold initBroker
  rw [reads.playerDelegate, reads.session]
  split
  · rename_i playerDelegate media _ stored
    have made := makeBroker_conforms platform playerDelegate media respects (fun _ => trivial) same
    have clientEq := makeBroker_client platform playerDelegate media left
    dsimp only
    rw [(respects.reads made).session]
    split
    · exact made
    · rename_i broker current
      refine respects.act (.broadcast (.setBroker broker)) ⟨hands _, fun isChecked => ?_⟩ made
      refine ⟨?_, ?_, ?_⟩
      · rw [clientEq]
        exact called isChecked
      · rw [clientEq]
        exact Option.isSome_of_eq_some ((congrArg Session.media reads.session).trans stored)
      · rw [(respects.reads made).session]
        exact current
  · exact same

/-- Every call that opens a session is among `calls`. -/
structure OpensWith (calls : DelegateCall → Prop) : Prop where
  removeLabels : ∀ keys, calls (.removeLabels keys)
  clearMedia : calls .clearMedia
  addLabels : ∀ labels, calls (.addLabels labels)
  setBroker : ∀ broker, calls (.setBroker broker)

variable (opens : OpensWith calls)

include opens

theorem openSession_conforms (media : Media) :
    Conforms platform (Action.Opens calls) ReadsSession
      (fun world => world.client.echoEnabled = true) (openSession platform media) := by
  intro checked related respects left right called same
  have clears : Conforms platform (Action.Opens calls) ReadsSession Anywhere
      (clearMedia platform) :=
    (clearMedia_conforms platform opens.removeLabels opens.clearMedia).mono Action.Plays.opens id
  have cleared := clears respects (fun _ => trivial) same
  have adopted := respects.act (.adoptClone media) ⟨trivial, fun _ => trivial⟩ cleared
  have settings : (adoptClone platform media (clearMedia platform left)).client.settings =
      (adoptClone platform media (clearMedia platform right)).client.settings :=
    (respects.reads adopted).settings
  unfold openSession addLabel
  dsimp only
  rw [settings]
  have labelled := respects.act (.broadcast (.addLabels (sanitiseLabels platform
      (.single (platform.labelKey .essEnabled)
        (if (adoptClone platform media (clearMedia platform right)).client.settings.essEnabled
          then "true" else "false")))))
    ⟨opens.addLabels _, fun _ => trivial⟩ adopted
  refine initBroker_conforms platform opens.setBroker respects (fun isChecked => ?_) labelled
  exact (clears.sameSwitches_of_opens left).echoEnabled.trans (called isChecked)

/-- A new session closes the old one, and is announced once it has its broker. -/
theorem setMedia_conforms (sets : ∀ media, calls (.setMedia media)) (media : Media) :
    Conforms platform (Action.Opens calls) ReadsSession Anywhere (setMedia platform media) := by
  intro checked related respects left right called same
  have reads := respects.reads same
  unfold setMedia
  rw [reads.echoEnabled]
  dsimp only
  split
  · exact same
  · rename_i isOn
    have enabled : left.client.echoEnabled = true := reads.echoEnabled.trans (by simpa using isOn)
    have opened := openSession_conforms platform opens media respects (fun _ => enabled) same
    have session := (respects.reads opened).session
    rw [session]
    split
    · exact opened
    · rename_i stored
      refine respects.act (.broadcast (.setMedia _)) ⟨sets _, fun _ => ⟨?_, ?_⟩⟩ opened
      · have switches := (openSession_conforms platform opens media).sameSwitches_of_opens left
        exact switches.echoEnabled.trans enabled
      · exact (congrArg Session.media session).trans stored

end Opening

/-! ## Positions -/

theorem ReadsSession.positionOf_eq (reads : ReadsSession left right) (broker : BrokerRef) :
    left.positionOf broker = right.positionOf broker := by
  rw [World.positionOf, World.positionOf, reads.brokers]

theorem ReadsSession.exceeds_eq (reads : ReadsSession left right) (position : UInt64) :
    positionExceedsMediaLength position left = positionExceedsMediaLength position right := by
  simp only [positionExceedsMediaLength, reads.session]

theorem ReadsSession.reportedPosition_eq (reads : ReadsSession left right) (media : Media)
    (position : UInt64) :
    reportedPosition media position left = reportedPosition media position right := by
  simp only [reportedPosition, preventPositionExceedingMediaLength, reads.session,
    reads.positionOf_eq, reads.exceeds_eq]

/-! ## Events -/

section Events

variable (platform : Platform H)

theorem setMediaLength_conforms (sets : ∀ length, calls (.setMediaLength length))
    (length : UInt64) :
    Conforms platform (Action.Plays calls) ReadsSession Anywhere (setMediaLength length) := by
  intro checked related respects left right called same
  have session := (respects.reads same).session
  have write {left right : World H} (same : related left right) :=
    respects.act (.writeSession (.mapMedia fun media => { media with length }))
      ⟨trivial, fun _ => trivial⟩ same
  unfold setMediaLength
  rw [session]
  split
  · exact respects.act (.debug _ _) ⟨trivial, fun _ => trivial⟩ same
  · rename_i media stored
    split
    · exact respects.act (.debug _ _) ⟨trivial, fun _ => trivial⟩ same
    · rename_i notLive
      dsimp only
      split
      · rename_i positive
        have honours : left.client.Honours (.setMediaLength length) :=
          ⟨positive, media, (congrArg Session.media session).trans stored, notLive⟩
        exact write (respects.act (.broadcast (.setMediaLength length))
          ⟨sets _, fun _ => honours⟩ same)
      · exact write same

/-- Either both positions are refused, or both brokers are started alike. -/
theorem playBroker_related
    (respects : Respects (Action.apply platform) (Performing (Action.Plays calls) checked)
      ReadsSession related)
    (same : related left right) (media : Media) (position : UInt64) :
    (playBroker media position left = none ∧ playBroker media position right = none) ∨
      ∃ reported leftPlayed rightPlayed,
        playBroker media position left = some (reported, leftPlayed) ∧
          playBroker media position right = some (reported, rightPlayed) ∧
          related leftPlayed rightPlayed := by
  have reads := respects.reads same
  have called {left right : World H} (broker : BrokerRef) (call : BrokerCall)
      (same : related left right) :=
    respects.act (.callBroker broker call) ⟨trivial, fun _ => trivial⟩ same
  unfold playBroker
  rw [reads.session, reads.exceeds_eq]
  split
  · exact .inr ⟨_, _, _, rfl, rfl, same⟩
  · rename_i broker _
    split
    · rw [reads.positionOf_eq]
      exact .inr ⟨_, _, _, rfl, rfl, called broker .start same⟩
    · split
      · exact .inl ⟨rfl, rfl⟩
      · exact .inr ⟨_, _, _, rfl, rfl,
          called broker .start (called broker (.setPosition position) same)⟩

/-- The broker's part in a play as an operation of its own. -/
theorem playBroker_conforms (media : Media) (position : UInt64) :
    Conforms platform (Action.Plays calls) ReadsSession Anywhere
      fun world => (playBroker media position world).elim world Prod.snd := by
  intro checked related respects left right called same
  dsimp only
  rcases playBroker_related platform respects same media position with
    ⟨leftRefused, rightRefused⟩ | ⟨reported, _, _, leftPlayed, rightPlayed, played⟩
  · rw [leftRefused, rightRefused]
    exact same
  · rw [leftPlayed, rightPlayed]
    exact played

/-- The broker's part in a play leaves the client as it is. -/
theorem playBroker_client {media : Media} {position reported : UInt64} {world played : World H}
    (accepted : playBroker media position world = some (reported, played)) :
    played.client = world.client := by
  unfold playBroker at accepted
  split at accepted
  · cases accepted
    rfl
  · split at accepted
    · cases accepted
      rfl
    · split at accepted
      · cases accepted
      · cases accepted
        rfl

section Plays

variable (plays : ∀ position labels, calls (.avPlayEvent position labels))

include plays

/-- A play is held back, or it is delivered before the media is said to play. -/
theorem deliverPlay_conforms (media : Media) (position : UInt64) (labels : Option Labels) :
    Conforms platform (Action.Plays calls) ReadsSession
      (fun world => world.client.echoEnabled = true ∧ world.client.session.media = some media)
      (deliverPlay media position labels) := by
  intro checked related respects left right called same
  have session := (respects.reads same).session
  unfold deliverPlay
  rw [session]
  split
  · exact respects.act (.writeSession (.holding labels)) ⟨trivial, fun _ => trivial⟩ same
  · rename_i delivered
    have honours (isChecked : checked) : left.client.Honours (.avPlayEvent position labels) := by
      obtain ⟨enabled, stored⟩ := called isChecked
      refine ⟨enabled, by simp [stored], ?_⟩
      simpa [Session.isEnrichedLive, stored, ← session] using delivered
    have told := respects.act (.broadcast (.avPlayEvent position labels))
      ⟨plays _ _, honours⟩ same
    exact respects.act (.writeSession .playing) ⟨trivial, fun _ => trivial⟩ told

theorem avPlayEvent_conforms (position : UInt64) (eventLabels : Option Labels) :
    Conforms platform (Action.Plays calls) ReadsSession Anywhere
      (avPlayEvent platform position eventLabels) := by
  intro checked related respects left right called same
  have reads := respects.reads same
  have announced : related (announce "avPlayEvent(at:eventLabels:)" position left)
      (announce "avPlayEvent(at:eventLabels:)" position right) :=
    respects.act (.debug _ _) ⟨trivial, fun _ => trivial⟩ same
  have session : (announce "avPlayEvent(at:eventLabels:)" position left).client.session =
      (announce "avPlayEvent(at:eventLabels:)" position right).client.session := reads.session
  unfold avPlayEvent
  dsimp only
  rw [reads.echoEnabled, session]
  split
  · exact same
  · rename_i isOn
    split
    · exact respects.act (.debug _ _) ⟨trivial, fun _ => trivial⟩ announced
    · rename_i media stored
      rcases playBroker_related platform respects announced media position with
        ⟨leftRefused, rightRefused⟩ | ⟨reported, _, _, leftPlayed, rightPlayed, played⟩
      · rw [leftRefused, rightRefused]
        exact announced
      · rw [leftPlayed, rightPlayed]
        have clientEq := playBroker_client leftPlayed
        refine deliverPlay_conforms platform plays media reported _ respects (fun _ => ?_) played
        constructor
        · rw [clientEq]
          exact reads.echoEnabled.trans (by simpa using isOn)
        · rw [clientEq]
          exact (congrArg Session.media session).trans stored

/-- A play that was held back is played again where its broker stands. -/
theorem releaseSuppressedPlay_conforms :
    Conforms platform (Action.Plays calls) ReadsSession Anywhere
      (releaseSuppressedPlay platform) := by
  intro checked related respects left right called same
  have reads := respects.reads same
  have unsuppressed := respects.act (.writeSession .unsuppressed) ⟨trivial, fun _ => trivial⟩ same
  have after := respects.reads unsuppressed
  unfold releaseSuppressedPlay
  rw [reads.echoEnabled, reads.session]
  dsimp only
  split
  · exact same
  · split
    · exact same
    · rename_i broker _
      split
      · have position : (left.withSession .unsuppressed).positionOf broker =
            (right.withSession .unsuppressed).positionOf broker := after.positionOf_eq broker
        have session : (left.withSession .unsuppressed).client.session =
            (right.withSession .unsuppressed).client.session := after.session
        rw [position, session]
        exact avPlayEvent_conforms platform plays _ _ respects called unsuppressed
      · exact same

end Plays

theorem stopBroker_conforms :
    Conforms platform (Action.Plays calls) ReadsSession Anywhere stopBroker := by
  intro checked related respects left right called same
  unfold stopBroker
  rw [(respects.reads same).session]
  split
  · exact same
  · exact respects.act (.callBroker _ .stop) ⟨trivial, fun _ => trivial⟩ same

/-- Both events report the same position. -/
theorem avNavigationEvent_related
    (respects : Respects (Action.apply platform) (Performing (Action.Plays calls) checked)
      ReadsSession related)
    (same : related left right) (position : UInt64) :
    (avNavigationEvent position left).1 = (avNavigationEvent position right).1 ∧
      related (avNavigationEvent position left).2 (avNavigationEvent position right).2 := by
  have stopped := stopBroker_conforms platform respects (fun _ => trivial) same
  unfold avNavigationEvent
  rw [(respects.reads same).session]
  split
  · exact ⟨rfl, same⟩
  · rename_i media _
    exact ⟨(respects.reads stopped).reportedPosition_eq media position,
      respects.act (.writeSession (.suppressPlay media)) ⟨trivial, fun _ => trivial⟩ stopped⟩

theorem avNavigationEvent_client {world : World H} {media : Media}
    (stored : world.client.session.media = some media) (position : UInt64) :
    (avNavigationEvent position world).2.client =
      { world.client with session := world.client.session.suppressPlay media } := by
  have stopped : (stopBroker world).client = world.client := by
    unfold stopBroker
    split <;> rfl
  simp only [avNavigationEvent, stored, World.withSession, stopped]

/-- What a navigation event promises about the media that it leaves to the delegates. -/
theorem Navigation.honours (navigation : Navigation) (position : UInt64)
    (eventLabels : Option Labels) {client : EchoClient} (session : Session)
    (enabled : client.echoEnabled = true) (stored : session.media.isSome = true)
    (sessionEq : client.session = navigation.before session) :
    client.Honours (navigation.call position eventLabels) := by
  obtain ⟨media, mediaEq⟩ := Option.isSome_iff_exists.mp stored
  have stopped : navigation.before session = session.stopPlaying →
      ∃ media, client.session.media = some media ∧ media.isPlaying = false := by
    intro stops
    refine ⟨{ media with isPlaying := false }, ?_, rfl⟩
    simp [sessionEq, stops, Session.stopPlaying, Session.mapMedia, mediaEq]
  have kept : navigation.before session = session → client.session.media.isSome = true := by
    intro keeps
    rw [sessionEq, keeps, stored]
  cases navigation with
  | avPause => exact ⟨enabled, stopped rfl⟩
  | avBuffer => exact ⟨enabled, stopped rfl⟩
  | avEnd => exact ⟨enabled, stopped rfl⟩
  | avRewind rate => exact ⟨enabled, kept rfl⟩
  | avFastForward rate => exact ⟨enabled, kept rfl⟩
  | avSeek => exact ⟨enabled, kept rfl⟩

theorem navigate_conforms (navigation : Navigation)
    (navigates : ∀ position labels, calls (navigation.call position labels)) (position : UInt64)
    (eventLabels : Option Labels) :
    Conforms platform (Action.Plays calls) ReadsSession Anywhere
      (navigate platform navigation position eventLabels) := by
  intro checked related respects left right called same
  have reads := respects.reads same
  have announced : related (announce navigation.function position left)
      (announce navigation.function position right) :=
    respects.act (.debug _ _) ⟨trivial, fun _ => trivial⟩ same
  have session : (announce navigation.function position left).client.session =
      (announce navigation.function position right).client.session := reads.session
  obtain ⟨reported, moved⟩ := avNavigationEvent_related platform respects announced position
  unfold navigate
  dsimp only
  rw [reads.echoEnabled, session]
  split
  · exact same
  · rename_i isOn
    split
    · exact respects.act (.debug _ _) ⟨trivial, fun _ => trivial⟩ announced
    · rename_i media stored
      have current : (announce navigation.function position left).client.session.media =
          some media := (congrArg Session.media session).trans stored
      have clientEq := avNavigationEvent_client current position
      have honours : ((avNavigationEvent position
          (announce navigation.function position left)).2.withSession navigation.before
          ).client.Honours (navigation.call (avNavigationEvent position
            (announce navigation.function position left)).1
            (eventLabels.map (sanitiseLabels platform))) := by
        refine navigation.honours _ _ (left.client.session.suppressPlay media) ?_ ?_ ?_
        · exact (congrArg EchoClient.echoEnabled clientEq).trans
            (reads.echoEnabled.trans (by simpa using isOn))
        · rw [Session.suppressPlay_eq (by exact current)]
          exact Option.isSome_of_eq_some current
        · exact congrArg (fun client : EchoClient => navigation.before client.session) clientEq
      rw [← reported]
      have before := respects.act (.writeSession navigation.before) ⟨trivial, fun _ => trivial⟩
        moved
      have told := respects.act (.broadcast _) ⟨navigates _ _, fun _ => honours⟩ before
      exact respects.act (.writeSession navigation.after) ⟨trivial, fun _ => trivial⟩ told

theorem avUserActionEvent_conforms
    (acts : ∀ actionType actionName position labels,
      calls (.avUserActionEvent actionType actionName position labels))
    (actionType actionName : String) (position : UInt64) (eventLabels : Option Labels) :
    Conforms platform (Action.Plays calls) ReadsSession Anywhere
      (avUserActionEvent platform actionType actionName position eventLabels) := by
  intro checked related respects left right called same
  have reads := respects.reads same
  have announced (message : String) :
      related (left.debug .info message) (right.debug .info message) :=
    respects.act (.debug .info message) ⟨trivial, fun _ => trivial⟩ same
  unfold avUserActionEvent
  dsimp only
  rw [reads.echoEnabled, World.debug_client, World.debug_client, reads.session]
  split
  · exact same
  · rename_i isOn
    split
    · exact respects.act (.debug _ _) ⟨trivial, fun _ => trivial⟩ (announced _)
    · rename_i media stored
      rw [(respects.reads (announced _)).reportedPosition_eq]
      refine respects.act (.broadcast (.avUserActionEvent actionType actionName _ _))
        ⟨acts _ _ _ _, fun _ => ⟨?_, ?_⟩⟩ (announced _)
      · exact reads.echoEnabled.trans (by simpa using isOn)
      · exact Option.isSome_of_eq_some ((congrArg Session.media reads.session).trans stored)

end Events

/-! ## Callbacks and calls -/

section Callbacks

variable (platform : Platform H)

theorem liveMediaUpdate_conforms
    (updates : ∀ media new old, calls (.liveMediaUpdate media new old)) (media : Media)
    (newPosition oldPosition : UInt64) :
    Conforms platform (Action.Plays calls) ReadsSession Anywhere
      (liveMediaUpdate media newPosition oldPosition) := by
  intro checked related respects left right called same
  have updated := respects.act (.writeSession (.updated media)) ⟨trivial, fun _ => trivial⟩ same
  exact respects.act (.broadcast (.liveMediaUpdate media newPosition oldPosition))
    ⟨updates _ _ _, fun _ => ⟨rfl, rfl⟩⟩ updated

theorem setEssError_conforms (adds : ∀ labels, calls (.addLabels labels))
    (fails : calls .liveEnrichmentFailed) (error : EssError) (code : String) :
    Conforms platform (Action.Talks calls) ReadsNothing Anywhere
      (setEssError platform error code) := by
  intro checked related respects left right called same
  have labelled (labels : Labels) {left right : World H} (same : related left right) :=
    addLabels_conforms platform adds labels respects (fun _ => trivial) same
  have failed {left right : World H} (same : related left right) :=
    respects.act (.broadcast .liveEnrichmentFailed) ⟨fails, fun _ => trivial⟩ same
  unfold setEssError
  dsimp only
  split
  · exact failed (labelled _ (labelled _ same))
  · exact failed (labelled _ same)

/-- Only the broker of the session moves. -/
theorem movePlayhead_conforms (position : UInt64) :
    Conforms platform (Action.Plays calls) ReadsSession Anywhere (movePlayhead position) := by
  intro checked related respects left right called same
  unfold movePlayhead
  rw [(respects.reads same).session]
  split
  · exact same
  · exact respects.act (.movePlayhead _ position) ⟨trivial, fun _ => trivial⟩ same

end Callbacks

/-- Every call that a session may make is among `calls`. -/
structure SessionTells (calls : DelegateCall → Prop) : Prop extends OpensWith calls where
  setMedia : ∀ media, calls (.setMedia media)
  setMediaLength : ∀ length, calls (.setMediaLength length)
  avPlayEvent : ∀ position labels, calls (.avPlayEvent position labels)
  navigate : ∀ (navigation : Navigation) position labels, calls (navigation.call position labels)
  avUserActionEvent : ∀ actionType actionName position labels,
    calls (.avUserActionEvent actionType actionName position labels)
  liveMediaUpdate : ∀ media new old, calls (.liveMediaUpdate media new old)
  liveEnrichmentFailed : calls .liveEnrichmentFailed

section Calls

variable (platform : Platform H) (tells : SessionTells calls)

include tells

/-- Only a new session asks for a broker and a clone. -/
theorem MediaCall.perform_plays {call : MediaCall} (opensNone : ∀ media, call ≠ .setMedia media) :
    Conforms platform (Action.Plays calls) ReadsSession Anywhere (call.perform platform) := by
  cases call with
  | setMedia media => exact absurd rfl (opensNone media)
  | setMediaLength length => exact setMediaLength_conforms platform tells.setMediaLength length
  | avPlayEvent position labels =>
      exact avPlayEvent_conforms platform tells.avPlayEvent position labels
  | navigation event position labels =>
      simp only [perform, Navigation.event_eq_navigate]
      exact navigate_conforms platform event (tells.navigate event) position labels
  | avUserActionEvent actionType actionName position labels =>
      exact avUserActionEvent_conforms platform tells.avUserActionEvent actionType actionName
        position labels

theorem MediaCall.perform_conforms (call : MediaCall) :
    Conforms platform (Action.Opens calls) ReadsSession Anywhere (call.perform platform) := by
  by_cases opens : ∃ media, call = .setMedia media
  · obtain ⟨media, rfl⟩ := opens
    exact setMedia_conforms platform tells.toOpensWith tells.setMedia media
  · have opensNone : ∀ media, call ≠ .setMedia media := fun media same => opens ⟨media, same⟩
    exact (perform_plays platform tells opensNone).mono Action.Plays.opens id

theorem LiveCallback.perform_conforms (callback : LiveCallback) :
    Conforms platform (Action.Plays calls) ReadsSession Anywhere (callback.perform platform) := by
  have talks {operation : World H → World H} (conforms : Conforms platform (Action.Talks calls)
      ReadsNothing Anywhere operation) :
      Conforms platform (Action.Plays calls) ReadsSession Anywhere operation :=
    conforms.mono Action.Talks.plays fun _ => trivial
  cases callback with
  | liveMediaUpdate media newPosition oldPosition =>
      exact liveMediaUpdate_conforms platform tells.liveMediaUpdate media newPosition oldPosition
  | liveTimestampUpdate timestamp =>
      exact talks (addLabels_conforms platform tells.addLabels
        (.single (platform.labelKey .mediaTimestamp) (toString timestamp)))
  | setEssError error code =>
      exact talks (setEssError_conforms platform tells.addLabels tells.liveEnrichmentFailed error
        code)
  | setEssSuccess isSuccess =>
      exact talks (addLabels_conforms platform tells.addLabels
        (.single (platform.labelKey .essSuccess) (if isSuccess then "true" else "false")))
  | releaseSuppressedPlay => exact releaseSuppressedPlay_conforms platform tells.avPlayEvent
  | sendHeartbeat name position =>
      exact avUserActionEvent_conforms platform tells.avUserActionEvent "echo_hb" name position
        none

theorem OnDemandCallback.perform_conforms (callback : OnDemandCallback) :
    Conforms platform (Action.Plays calls) ReadsSession Anywhere (callback.perform platform) := by
  cases callback with
  | sendHeartbeat name position =>
      exact avUserActionEvent_conforms platform tells.avUserActionEvent "echo_hb" name position
        none
  | avPauseEvent position labels =>
      exact navigate_conforms platform .avPause (tells.navigate .avPause) position labels

end Calls

end Echo.Client
