import Echo.Conduct.Conforms

/-!
# The conduct of reports

Labels, settings and page events are passed on, and a few of them are noted.
-/

namespace Echo.Client

open Echo.Transition

variable {H : Type} {calls : DelegateCall → Prop}

/-! ## Labels and settings -/

theorem addLabels_conforms (platform : Platform H)
    (adds : ∀ labels, calls (.addLabels labels)) (labels : Labels) :
    Conforms platform (Action.Talks calls) ReadsNothing Anywhere (addLabels platform labels) := by
  intro checked related respects left right called same
  exact respects.act (.broadcast _) ⟨adds _, fun _ => trivial⟩ same

theorem removeLabels_conforms (platform : Platform H)
    (removes : ∀ keys, calls (.removeLabels keys)) (labels : List String) :
    Conforms platform (Action.Talks calls) ReadsNothing Anywhere
      (removeLabels platform labels) := by
  intro checked related respects left right called same
  unfold removeLabels
  dsimp only
  split
  · rename_i named
    have honours : left.client.Honours (.removeLabels (sanitiseKeys platform labels)) :=
      ⟨by simpa using named, by simp [sanitiseKeys]⟩
    exact respects.act (.broadcast _) ⟨removes _, fun _ => honours⟩ same
  · exact same

theorem setProducerFound_conforms (platform : Platform H)
    (sets : ∀ producer, calls (.setProducer producer)) (found : Option Producer) :
    Conforms platform (Action.Talks calls) ReadsNothing Anywhere (setProducerFound found) := by
  intro checked related respects left right called same
  cases found with
  | none => exact respects.act (.debug _ _) ⟨trivial, fun _ => trivial⟩ same
  | some producer =>
      exact respects.act (.broadcast (.setProducer producer)) ⟨sets _, fun _ => trivial⟩ same

theorem setPlayerAttribute_conforms (platform : Platform H) (key : EchoLabelKeys)
    {call : String → DelegateCall} (sets : ∀ value, calls (call value))
    (honours : ∀ value (client : EchoClient), client.Honours (call value)) (value : String) :
    Conforms platform (Action.Talks calls) ReadsNothing Anywhere
      (setPlayerAttribute platform key call value) := by
  intro checked related respects left right called same
  unfold setPlayerAttribute
  split
  · exact respects.act (.broadcast _) ⟨sets _, fun _ => honours _ _⟩ same
  · exact same

/-! ## Reports -/

namespace ReportCall

/-- Every call that the report may make is among `calls`. -/
def Tells (calls : DelegateCall → Prop) : ReportCall → Prop
  | .addLabels _ | .addLabel _ _ => ∀ labels, calls (.addLabels labels)
  | .removeLabels _ | .removeLabel _ => ∀ keys, calls (.removeLabels keys)
  | .addManagedLabel label _ => ∀ value, calls (.addManagedLabel label value)
  | .setDestination site => calls (.setDestination site)
  | .setProducer _ | .setProducerByName _ | .setProducerByMasterbrand _ =>
      ∀ producer, calls (.setProducer producer)
  | .setPlayerName _ => ∀ name, calls (.setPlayerName name)
  | .setPlayerVersion _ => ∀ version, calls (.setPlayerVersion version)
  | .setPlayerDelegate _ | .setMediaBitrate _ | .setMediaCodec _ | .setMediaCDN _ => True
  | .setPlayerIsPopped popped => calls (.setPlayerIsPopped popped)
  | .setPlayerWindowState state => calls (.setPlayerWindowState state)
  | .setPlayerVolume volume => calls (.setPlayerVolume volume)
  | .setPlayerIsSubtitled subtitled => calls (.setPlayerIsSubtitled subtitled)
  | .setContentLanguage language => calls (.setContentLanguage language)
  | .setTraceID trace => calls (.setTraceID trace)
  | .setCounterName _ => ∀ counterName, calls (.setCounterName counterName)
  | .setCacheMode cacheMode => calls (.setCacheMode cacheMode)
  | .flushCache => calls .flushCache
  | .clearCache => calls .clearCache
  | .appForegrounded => calls .appForegrounded
  | .appBackgrounded => calls .appBackgrounded
  | .viewEvent _ _ => ∀ counterName labels, calls (.viewEvent counterName labels)
  | .userActionEvent actionType actionName _ =>
      ∀ labels, calls (.userActionEvent actionType actionName labels)
  | .errorEvent error _ => ∀ labels, calls (.errorEvent error labels)

/-- A report only talks, unless it notes something. -/
def Footprint (calls : DelegateCall → Prop) : ReportCall → Action → Prop
  | .setCounterName _ | .viewEvent _ _ => Action.Names calls
  | .setCacheMode _ | .setPlayerDelegate _ => Action.Adjusts calls
  | _ => Action.Talks calls

theorem footprint_of_talks (call : ReportCall) {action : Action} (talks : action.Talks calls) :
    call.Footprint calls action := by
  cases call with
  | setCounterName counterName => exact talks.names
  | viewEvent counterName labels => exact talks.names
  | setCacheMode cacheMode => exact talks.adjusts
  | setPlayerDelegate delegate => exact talks.adjusts
  | _ => exact talks

theorem reports_of_footprint {call : ReportCall} {action : Action}
    (taken : call.Footprint calls action) : action.Reports calls := by
  cases call with
  | setCounterName counterName => exact Action.Names.reports taken
  | viewEvent counterName labels => exact Action.Names.reports taken
  | setCacheMode cacheMode => exact Action.Adjusts.reports taken
  | setPlayerDelegate delegate => exact Action.Adjusts.reports taken
  | _ => exact Action.Names.reports (Action.Talks.names taken)

/-- What the report looks at. -/
def Reads (left right : World H) : ReportCall → Prop
  | .setCacheMode _ => left.client.session = right.client.session
  | .flushCache | .viewEvent _ _ | .errorEvent _ _ =>
      left.client.echoEnabled = right.client.echoEnabled
  | .userActionEvent _ _ _ =>
      left.client.echoEnabled = right.client.echoEnabled ∧
        left.client.counterNameSet = right.client.counterNameSet
  | _ => True

theorem reads_refl (call : ReportCall) (world : World H) : call.Reads world world := by
  cases call with
  | userActionEvent actionType actionName labels => exact ⟨rfl, rfl⟩
  | setCacheMode cacheMode => rfl
  | flushCache => rfl
  | viewEvent counterName labels => rfl
  | errorEvent error labels => rfl
  | _ => trivial

instance (call : ReportCall) : Std.Refl fun left right : World H => call.Reads left right :=
  ⟨call.reads_refl⟩

/-- Page events wait until the client is enabled, and user actions for a counter name. -/
theorem perform_conforms (platform : Platform H) (call : ReportCall) (tells : call.Tells calls) :
    Conforms platform (call.Footprint calls) (fun left right => call.Reads left right) Anywhere
      (call.perform platform) := by
  intro checked related respects left right called same
  have talks {operation : World H → World H} (conforms : Conforms platform (Action.Talks calls)
      ReadsNothing Anywhere operation) : related (operation left) (operation right) :=
    conforms.mono call.footprint_of_talks (fun _ => trivial) respects called same
  have broadcast {told : DelegateCall} (makes : calls told)
      (honours : left.client.Honours told) :
      related (left.broadcast told) (right.broadcast told) :=
    respects.act (.broadcast told) ⟨call.footprint_of_talks makes, fun _ => honours⟩ same
  have debug (level : EchoDebugLevel) (message : String) :
      related (left.debug level message) (right.debug level message) :=
    respects.act (.debug level message) ⟨call.footprint_of_talks trivial, fun _ => trivial⟩ same
  have reads := respects.reads same
  cases call with
  | addLabels labels => exact talks (addLabels_conforms platform tells labels)
  | addLabel key value => exact talks (addLabels_conforms platform tells (.single key value))
  | removeLabels labels => exact talks (removeLabels_conforms platform tells labels)
  | removeLabel key => exact talks (removeLabels_conforms platform tells [key])
  | addManagedLabel label value =>
      simp only [perform, Client.addManagedLabel]
      split
      · exact broadcast (tells _) trivial
      · exact same
  | setProducer producer => exact broadcast (tells producer) trivial
  | setProducerByName name =>
      exact talks (setProducerFound_conforms platform tells (platform.producerFromName name))
  | setProducerByMasterbrand name =>
      exact talks (setProducerFound_conforms platform tells (platform.masterbrandProducer name))
  | setPlayerName name =>
      exact talks (setPlayerAttribute_conforms platform .playerName tells
        (fun _ _ => trivial) name)
  | setPlayerVersion version =>
      exact talks (setPlayerAttribute_conforms platform .playerVersion tells
        (fun _ _ => trivial) version)
  | setPlayerDelegate delegate =>
      exact respects.act (.setPlayerDelegate delegate) ⟨trivial, fun _ => trivial⟩ same
  | setPlayerVolume volume =>
      simp only [perform, Client.setPlayerVolume]
      split
      · rename_i inRange
        exact broadcast tells inRange
      · exact debug _ _
  | setMediaBitrate bitrate => exact same
  | setMediaCodec codec => exact same
  | setMediaCDN cdn => exact same
  | setCounterName counterName =>
      have named := respects.act .setCounterNameSet ⟨trivial, fun _ => trivial⟩ same
      exact respects.act (.broadcast (.setCounterName _)) ⟨tells _, fun _ => rfl⟩ named
  | setCacheMode cacheMode =>
      have session : left.client.session = right.client.session := reads
      simp only [perform, Client.setCacheMode, session]
      split
      · rename_i inactive
        have noPlay : left.client.session.mediaActive = false := by simpa [session] using inactive
        exact respects.act (.setCacheMode cacheMode) ⟨trivial, fun _ => trivial⟩
          (broadcast tells noPlay)
      · exact debug _ _
  | flushCache =>
      have enabled : left.client.echoEnabled = right.client.echoEnabled := reads
      simp only [perform, Client.flushCache, enabled]
      split
      · exact same
      · rename_i isOn
        exact broadcast tells (enabled.trans (by simpa using isOn))
  | viewEvent counterName labels =>
      have enabled : left.client.echoEnabled = right.client.echoEnabled := reads
      simp only [perform, Client.viewEvent]
      split
      · rename_i isOff
        rw [enabled] at isOff
        rw [if_pos isOff]
        exact same
      · rename_i isOn
        have viewed : left.client.echoEnabled = true := by simpa using isOn
        have named := respects.act .setCounterNameSet ⟨trivial, fun _ => trivial⟩ same
        rw [enabled] at isOn
        rw [if_neg isOn]
        exact respects.act (.broadcast (.viewEvent _ _)) ⟨tells _ _, fun _ => ⟨viewed, rfl⟩⟩ named
  | userActionEvent actionType actionName labels =>
      have enabled : left.client.echoEnabled = right.client.echoEnabled := reads.1
      have counter : left.client.counterNameSet = right.client.counterNameSet := reads.2
      simp only [perform, Client.userActionEvent, enabled, counter]
      split
      · exact same
      · split
        · exact debug _ _
        · rename_i isOn isNamed
          exact broadcast (tells _)
            ⟨enabled.trans (by simpa using isOn), .inl (counter.trans (by simpa using isNamed))⟩
  | errorEvent error labels =>
      have enabled : left.client.echoEnabled = right.client.echoEnabled := reads
      simp only [perform, Client.errorEvent, enabled]
      split
      · exact same
      · rename_i isOn
        exact broadcast (tells _) (enabled.trans (by simpa using isOn))
  | _ => exact broadcast tells trivial

end ReportCall

/-! ## The device id -/

/-- The loop over the delegates keeps to no contract: it calls each of them alone. -/
theorem getComScoreDeviceID_conforms (platform : Platform H) (clears : calls .clearMedia)
    (asks : calls .getDeviceID) :
    Conforms platform (Action.Plays calls) ReadsSession Nowhere
      fun world => (getComScoreDeviceID world).2 := by
  intro checked related respects left right called same
  have unchecked : ¬checked := fun isChecked => called isChecked
  have visited (index : Nat) (delegate : Delegate) {left right : World H}
      (same : related left right) :
      related (visitForDeviceID index delegate left) (visitForDeviceID index delegate right) := by
    have cleared := respects.act (.callDelegate index .clearMedia)
      ⟨clears, fun isChecked => absurd isChecked unchecked⟩ same
    unfold visitForDeviceID
    dsimp only
    split
    · exact respects.act (.callDelegate index .getDeviceID)
        ⟨asks, fun isChecked => absurd isChecked unchecked⟩ cleared
    · exact cleared
  have settings := (respects.reads same).settings
  unfold getComScoreDeviceID
  dsimp only
  rw [settings]
  generalize right.client.settings.delegates.zipIdx = entries
  generalize (none : Option String) = deviceID
  clear settings called
  induction entries generalizing deviceID left right with
  | nil => exact same
  | cons entry entries ih => exact ih (visited entry.2 entry.1 same) _

end Echo.Client
