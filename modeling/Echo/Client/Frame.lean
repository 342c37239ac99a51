import Echo.Conduct.Steps
import Echo.Transition.Log

/-!
# What each group of operations leaves alone

Effects fall into kinds.  A reporting operation adds report effects to the log
and changes nothing that the session or the user logic reads; a session
operation leaves the user side of the world alone.  The two frames below say
so.  Every operation keeps to the frame of its group, since each action of its
footprint does.
-/

namespace Echo.Client

open Echo.Transition

variable {H : Type}

/-- What an effect is about. -/
inductive EffectKind
  | report
  | media
  | event
  | broker
  | user
  | lifecycle
  | setup
  deriving DecidableEq

/-- Calls about media and events on them, about users, or about the life of the client; all
others report. -/
def DelegateCall.kind : DelegateCall → EffectKind
  | .start | .enable | .disable => .lifecycle
  | .setMedia _ | .liveMediaUpdate _ _ _ | .clearMedia | .setMediaLength _ => .media
  | .avPlayEvent _ _ | .avPauseEvent _ _ | .avBufferEvent _ _ | .avEndEvent _ _
  | .avRewindEvent _ _ _ | .avFastForwardEvent _ _ _ | .avSeekEvent _ _
  | .avUserActionEvent _ _ _ _ => .event
  | .setBroker _ => .broker
  | .updateDeviceID _ | .updateBBCUserLabels _ | .userStateChange => .user
  | _ => .report

namespace DelegateCall

@[simp]
theorem kind_lifecycle :
    start.kind = .lifecycle ∧ enable.kind = .lifecycle ∧ disable.kind = .lifecycle :=
  ⟨rfl, rfl, rfl⟩

@[simp]
theorem kind_media :
    (∀ media, (setMedia media).kind = .media) ∧
      (∀ media new old, (liveMediaUpdate media new old).kind = .media) ∧
      clearMedia.kind = .media ∧ ∀ length, (setMediaLength length).kind = .media :=
  ⟨fun _ => rfl, fun _ _ _ => rfl, rfl, fun _ => rfl⟩

@[simp]
theorem kind_event :
    (∀ position labels, (avPlayEvent position labels).kind = .event) ∧
      (∀ position labels, (avPauseEvent position labels).kind = .event) ∧
      (∀ position labels, (avBufferEvent position labels).kind = .event) ∧
      (∀ position labels, (avEndEvent position labels).kind = .event) ∧
      (∀ position rate labels, (avRewindEvent position rate labels).kind = .event) ∧
      (∀ position rate labels, (avFastForwardEvent position rate labels).kind = .event) ∧
      (∀ position labels, (avSeekEvent position labels).kind = .event) ∧
      ∀ type name position labels, (avUserActionEvent type name position labels).kind = .event :=
  ⟨fun _ _ => rfl, fun _ _ => rfl, fun _ _ => rfl, fun _ _ => rfl, fun _ _ _ => rfl,
    fun _ _ _ => rfl, fun _ _ => rfl, fun _ _ _ _ => rfl⟩

@[simp]
theorem kind_setBroker (broker : BrokerRef) : (setBroker broker).kind = .broker :=
  rfl

@[simp]
theorem kind_user :
    (∀ deviceID, (updateDeviceID deviceID).kind = .user) ∧
      (∀ user, (updateBBCUserLabels user).kind = .user) ∧ userStateChange.kind = .user :=
  ⟨fun _ => rfl, fun _ => rfl, rfl⟩

@[simp]
theorem kind_report :
    liveEnrichmentFailed.kind = .report ∧ getDeviceID.kind = .report ∧
      (∀ labels, (addLabels labels).kind = .report) ∧
      (∀ keys, (removeLabels keys).kind = .report) ∧
      (∀ cacheMode, (setCacheMode cacheMode).kind = .report) ∧
      ∀ type name labels, (userActionEvent type name labels).kind = .report :=
  ⟨rfl, rfl, fun _ => rfl, fun _ => rfl, fun _ => rfl, fun _ _ _ => rfl⟩

end DelegateCall

/-- An effect on a collaborator is about what it was asked for. -/
def Effect.kind : Effect → EffectKind
  | .broadcast call _ | .delegate _ call => call.kind
  | .broker _ _ | .makeLiveBroker _ _ _ _ _ | .makeOnDemandBroker _ _ => .broker
  | .userPromise _ | .scheduleTimer _ _ _ | .invalidateTimer _ => .user
  | .getDelegates _ _ _ _ _ | .addObserver _ | .setDebug _ _ => .setup
  | .debug _ _ => .report

/-- Labels, settings, page events, and the library's own logging. -/
def Effect.IsReport (effect : Effect) : Prop :=
  effect.kind = .report

/-- Effects an operation of the media session may have. -/
def Effect.OfSession (effect : Effect) : Prop :=
  effect.kind ∈ [.report, .media, .event, .broker]

/-- Effects an operation on the user may have. -/
def Effect.OfUser (effect : Effect) : Prop :=
  effect.kind ∈ [.report, .user]

/-! ## Reporting frame -/

/-- Nothing but report effects, and no change to what sessions and users rest
on. -/
structure ReportFrame (before after : World H) : Prop where
  settings : after.client.settings = before.client.settings
  echoEnabled : after.client.echoEnabled = before.client.echoEnabled
  hasStarted : after.client.hasStarted = before.client.hasStarted
  session : after.client.session = before.client.session
  user : after.client.user = before.client.user
  brokers : after.brokers = before.brokers
  timers : after.timers = before.timers
  now : after.now = before.now
  userPromise : after.userPromise = before.userPromise
  log : Extends Effect.IsReport before.log after.log

namespace ReportFrame

theorem refl (world : World H) : ReportFrame world world :=
  ⟨rfl, rfl, rfl, rfl, rfl, rfl, rfl, rfl, rfl, Extends.refl _ _⟩

theorem trans {before middle after : World H} (first : ReportFrame before middle)
    (second : ReportFrame middle after) : ReportFrame before after where
  settings := second.settings.trans first.settings
  echoEnabled := second.echoEnabled.trans first.echoEnabled
  hasStarted := second.hasStarted.trans first.hasStarted
  session := second.session.trans first.session
  user := second.user.trans first.user
  brokers := second.brokers.trans first.brokers
  timers := second.timers.trans first.timers
  now := second.now.trans first.now
  userPromise := second.userPromise.trans first.userPromise
  log := first.log.trans second.log

theorem emit (effect : Effect) (isReport : effect.IsReport) (world : World H) :
    ReportFrame world (world.emit effect) :=
  ⟨rfl, rfl, rfl, rfl, rfl, rfl, rfl, rfl, rfl, Extends.single _ isReport _⟩

/-- Reporting stays within the frame, action by action. -/
theorem act (platform : Platform H) {action : Action}
    (reports : action.Reports fun call => call.kind = .report) (world : World H) :
    ReportFrame world (action.apply platform world) := by
  have noted {client : EchoClient} (settings : client.settings = world.client.settings)
      (echoEnabled : client.echoEnabled = world.client.echoEnabled)
      (hasStarted : client.hasStarted = world.client.hasStarted)
      (session : client.session = world.client.session)
      (user : client.user = world.client.user) : ReportFrame world { world with client } :=
    ⟨settings, echoEnabled, hasStarted, session, user, rfl, rfl, rfl, rfl, Extends.refl _ _⟩
  cases action with
  | debug level message => exact emit (.debug level message) rfl world
  | broadcast call => exact emit (.broadcast call world.client) reports world
  | setCounterNameSet => exact noted rfl rfl rfl rfl rfl
  | setCacheMode cacheMode => exact noted rfl rfl rfl rfl rfl
  | setPlayerDelegate playerDelegate => exact noted rfl rfl rfl rfl rfl
  | _ => exact reports.elim

/-- So does an operation that only reports. -/
theorem of_reports {platform : Platform H} {reads : World H → World H → Prop}
    {callable : World H → Prop} {operation : World H → World H} [Std.Refl reads]
    (conforms : Conforms platform (Action.Reports fun call => call.kind = .report) reads
      callable operation) (world : World H) : ReportFrame world (operation world) :=
  conforms.frame .refl .trans (fun world _ reports => act platform reports world) world

theorem of_talks {platform : Platform H} {reads : World H → World H → Prop}
    {callable : World H → Prop} {operation : World H → World H} [Std.Refl reads]
    (conforms : Conforms platform (Action.Talks fun call => call.kind = .report) reads
      callable operation) (world : World H) : ReportFrame world (operation world) :=
  of_reports (conforms.mono (fun talks => talks.names.reports) id) world

end ReportFrame

section Reports

variable (platform : Platform H)

theorem addLabels_frame (labels : Labels) (world : World H) :
    ReportFrame world (addLabels platform labels world) :=
  .of_talks (addLabels_conforms platform (fun _ => rfl) labels) world

theorem removeMediaLabels_frame (world : World H) :
    ReportFrame world (removeMediaLabels platform world) :=
  .of_talks (removeMediaLabels_conforms platform fun _ => rfl) world

theorem setEssError_frame (error : EssError) (code : String) (world : World H) :
    ReportFrame world (setEssError platform error code world) :=
  .of_talks (setEssError_conforms platform (fun _ => rfl) (by rfl) error code) world

/-- Every label, setting and page event is a report. -/
theorem ReportCall.tells_report (call : ReportCall) :
    call.Tells fun call => call.kind = .report := by
  -- A report tells nothing, one call, or a call whose labels or values are not known yet.
  cases call <;> first | exact trivial | exact rfl | exact fun _ => rfl | exact fun _ _ => rfl

theorem ReportCall.perform_frame (world : World H) (call : ReportCall) :
    ReportFrame world (call.perform platform world) :=
  .of_reports ((call.perform_conforms platform call.tells_report).mono
    ReportCall.reports_of_footprint id) world

end Reports

/-! ## Session frame -/

/-- No effects on users or the life of the client, and no change to what these
rest on. -/
structure SessionFrame (before after : World H) : Prop where
  settings : after.client.settings = before.client.settings
  echoEnabled : after.client.echoEnabled = before.client.echoEnabled
  hasStarted : after.client.hasStarted = before.client.hasStarted
  user : after.client.user = before.client.user
  timers : after.timers = before.timers
  now : after.now = before.now
  userPromise : after.userPromise = before.userPromise
  log : Extends Effect.OfSession before.log after.log

theorem Navigation.call_kind (navigation : Navigation) (position : UInt64)
    (eventLabels : Option Labels) :
    (navigation.call position eventLabels).kind = .event := by
  cases navigation <;> rfl

theorem Effect.MakesBroker.kind_eq {effect : Effect} (makes : effect.MakesBroker) :
    effect.kind = .broker := by
  cases effect with
  | makeLiveBroker playerDelegate media essUrl useHttps essEnabled => rfl
  | makeOnDemandBroker playerDelegate media => rfl
  | _ => exact makes.elim

theorem Effect.IsReport.ofSession {effect : Effect} (isReport : effect.IsReport) :
    effect.OfSession := by
  simp [OfSession, show effect.kind = .report from isReport]

namespace SessionFrame

theorem refl (world : World H) : SessionFrame world world :=
  ⟨rfl, rfl, rfl, rfl, rfl, rfl, rfl, Extends.refl _ _⟩

theorem trans {before middle after : World H} (first : SessionFrame before middle)
    (second : SessionFrame middle after) : SessionFrame before after where
  settings := second.settings.trans first.settings
  echoEnabled := second.echoEnabled.trans first.echoEnabled
  hasStarted := second.hasStarted.trans first.hasStarted
  user := second.user.trans first.user
  timers := second.timers.trans first.timers
  now := second.now.trans first.now
  userPromise := second.userPromise.trans first.userPromise
  log := first.log.trans second.log

/-- What reports leave alone is more than what sessions do. -/
theorem ofReport {before after : World H} (frame : ReportFrame before after) :
    SessionFrame before after :=
  ⟨frame.settings, frame.echoEnabled, frame.hasStarted, frame.user, frame.timers, frame.now,
    frame.userPromise, frame.log.mono fun _ => Effect.IsReport.ofSession⟩

/-- Running and opening a session stay within the frame, action by action. -/
theorem act (platform : Platform H) {action : Action}
    (opens : action.Opens fun call => call.kind ∈ [EffectKind.report, .media, .event, .broker])
    (world : World H) : SessionFrame world (action.apply platform world) := by
  have logged (effect : Effect)
      (ofSession : effect.kind ∈ [EffectKind.report, .media, .event, .broker]) :
      Extends Effect.OfSession world.log (world.log ++ [effect]) :=
    Extends.single Effect.OfSession (by exact ofSession) _
  cases action with
  | debug level message =>
      exact ⟨rfl, rfl, rfl, rfl, rfl, rfl, rfl, logged _ (by simp [Effect.kind])⟩
  | broadcast call => exact ⟨rfl, rfl, rfl, rfl, rfl, rfl, rfl, logged _ opens⟩
  | callDelegate index call => exact ⟨rfl, rfl, rfl, rfl, rfl, rfl, rfl, logged _ opens⟩
  | writeSession update => exact ⟨rfl, rfl, rfl, rfl, rfl, rfl, rfl, Extends.refl _ _⟩
  | callBroker broker call =>
      exact ⟨rfl, rfl, rfl, rfl, rfl, rfl, rfl, logged _ (by simp [Effect.kind])⟩
  | movePlayhead broker position => exact ⟨rfl, rfl, rfl, rfl, rfl, rfl, rfl, Extends.refl _ _⟩
  | adoptBroker made state =>
      exact ⟨rfl, rfl, rfl, rfl, rfl, rfl, rfl, logged _ (by simp [made.property.kind_eq])⟩
  | adoptClone media => exact ⟨rfl, rfl, rfl, rfl, rfl, rfl, rfl, Extends.refl _ _⟩
  | _ => exact opens.elim

/-- So does an operation that does no more than that. -/
theorem of_opens {platform : Platform H} {reads : World H → World H → Prop}
    {callable : World H → Prop} {operation : World H → World H} [Std.Refl reads]
    (conforms : Conforms platform (Action.Opens fun call =>
      call.kind ∈ [EffectKind.report, .media, .event, .broker]) reads callable operation)
    (world : World H) : SessionFrame world (operation world) :=
  conforms.frame .refl .trans (fun world _ opens => act platform opens world) world

theorem of_plays {platform : Platform H} {reads : World H → World H → Prop}
    {callable : World H → Prop} {operation : World H → World H} [Std.Refl reads]
    (conforms : Conforms platform (Action.Plays fun call =>
      call.kind ∈ [EffectKind.report, .media, .event, .broker]) reads callable operation)
    (world : World H) : SessionFrame world (operation world) :=
  of_opens (conforms.mono Action.Plays.opens id) world

end SessionFrame

section Sessions

variable (platform : Platform H)

/-- The calls of a session are of the kinds that the frame allows. -/
theorem sessionTells_kind :
    SessionTells fun call => call.kind ∈ [EffectKind.report, .media, .event, .broker] where
  removeLabels _ := by simp
  clearMedia := by simp
  addLabels _ := by simp
  setBroker _ := by simp
  setMedia _ := by simp
  setMediaLength _ := by simp
  avPlayEvent _ _ := by simp
  navigate navigation _ _ := by simp [Navigation.call_kind]
  avUserActionEvent _ _ _ _ := by simp
  liveMediaUpdate _ _ _ := by simp
  liveEnrichmentFailed := by simp

theorem clearMedia_frame (world : World H) : SessionFrame world (clearMedia platform world) :=
  .of_plays (clearMedia_conforms platform sessionTells_kind.removeLabels
    sessionTells_kind.clearMedia) world

theorem setMedia_frame (media : Media) (world : World H) :
    SessionFrame world (setMedia platform media world) :=
  .of_opens (setMedia_conforms platform sessionTells_kind.toOpensWith sessionTells_kind.setMedia
    media) world

theorem MediaCall.perform_frame (world : World H) (call : MediaCall) :
    SessionFrame world (call.perform platform world) :=
  .of_opens (call.perform_conforms platform sessionTells_kind) world

theorem LiveCallback.perform_frame (world : World H) (callback : LiveCallback) :
    SessionFrame world (callback.perform platform world) :=
  .of_plays (callback.perform_conforms platform sessionTells_kind) world

theorem OnDemandCallback.perform_frame (world : World H) (callback : OnDemandCallback) :
    SessionFrame world (callback.perform platform world) :=
  .of_plays (callback.perform_conforms platform sessionTells_kind) world

end Sessions

/-- The operations that report, or run a session. -/
def Op.isOfSession : Op → Bool
  | .lifecycle _ | .fireTimer _ | .clock _ => false
  | _ => true

/-- Each of them keeps to the wider of the two frames. -/
theorem step_frame (platform : Platform H) (world : World H) {op : Op}
    (ofSession : op.isOfSession = true) : SessionFrame world (step platform world op) := by
  cases op with
  | report call => exact .ofReport (call.perform_frame platform world)
  | getComScoreDeviceID =>
      exact .of_plays (getComScoreDeviceID_conforms platform (by simp) (by simp)) world
  | media call => exact call.perform_frame platform world
  | live broker callback => exact callback.perform_frame platform world
  | onDemand broker callback => exact callback.perform_frame platform world
  | playhead position => exact .of_plays (movePlayhead_conforms platform position) world
  | _ => cases ofSession

end Echo.Client
