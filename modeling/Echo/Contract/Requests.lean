import Echo.Client.Selection
import Echo.Contract.Delegates
import Echo.Separation.Pages
import Echo.Transition.Output
import Echo.User.Events

/-!
# What the app asks for

Page events, settings and the other requests of an app go to the delegates and nowhere
else.  A desk with two switches, whether the client is enabled and whether it has a counter
name, says which of them are passed on and in what form.  The client is such a desk: over
every run the requests that the delegates hear are those that the desk passes on, and no
other operation makes one.
-/

namespace Echo.Client

open Echo.Transition

variable {H : Type}

/-! ## Requests -/

/-- The calls that the client makes for the app and never by itself.  A client that follows
users also reports user actions and clears the cache by itself. -/
def DelegateCall.isRequest (followsUsers : Bool) : DelegateCall → Bool
  | .viewEvent _ _ | .errorEvent _ _ | .addManagedLabel _ _ | .flushCache
  | .setDestination _ | .setProducer _ | .setPlayerName _ | .setPlayerVersion _
  | .setPlayerIsPopped _ | .setPlayerWindowState _ | .setPlayerVolume _
  | .setPlayerIsSubtitled _ | .setContentLanguage _ | .setCounterName _ | .setTraceID _
  | .appForegrounded | .appBackgrounded => true
  | .userActionEvent _ _ _ | .clearCache => !followsUsers
  | _ => false

def Effect.request (followsUsers : Bool) : Effect → Option DelegateCall
  | .broadcast call _ => if call.isRequest followsUsers then some call else none
  | _ => none

/-- The requests that every delegate has been told. -/
def requests (followsUsers : Bool) (log : List Effect) : List DelegateCall :=
  log.filterMap (Effect.request followsUsers)

/-! ## The desk -/

/-- What the fate of a request depends on. -/
structure Desk where
  enabled : Bool
  named : Bool
  deriving DecidableEq

def EchoClient.desk (client : EchoClient) : Desk :=
  ⟨client.echoEnabled, client.counterNameSet⟩

namespace Desk

def after (desk : Desk) : Op → Desk
  | .lifecycle .enable => { desk with enabled := true }
  | .lifecycle .disable => { desk with enabled := false }
  | .report (.setCounterName _) => { desk with named := true }
  | .report (.viewEvent _ _) => { desk with named := desk.named || desk.enabled }
  | _ => desk

/-- What the desk makes of the requests of an app. -/
def report (platform : Platform H) (desk : Desk) : ReportCall → List DelegateCall
  | .addManagedLabel label value =>
      if !value.isEmpty then
        [.addManagedLabel label
          (platform.cleanLabelValue (platform.managedLabelName label) value)]
      else []
  | .setDestination site => [.setDestination site]
  | .setProducer site => [.setProducer site]
  | .setProducerByName name => (platform.producerFromName name).toList.map .setProducer
  | .setProducerByMasterbrand name => (platform.masterbrandProducer name).toList.map .setProducer
  | .setPlayerName name =>
      if !(platform.trim name).isEmpty then
        [.setPlayerName (platform.cleanLabelValue (platform.labelKey .playerName) name)]
      else []
  | .setPlayerVersion version =>
      if !(platform.trim version).isEmpty then
        [.setPlayerVersion (platform.cleanLabelValue (platform.labelKey .playerVersion) version)]
      else []
  | .setPlayerIsPopped popped => [.setPlayerIsPopped popped]
  | .setPlayerWindowState state => [.setPlayerWindowState state]
  | .setPlayerVolume volume => if 0 ≤ volume ∧ volume ≤ 100 then [.setPlayerVolume volume] else []
  | .setPlayerIsSubtitled subtitled => [.setPlayerIsSubtitled subtitled]
  | .setContentLanguage language => [.setContentLanguage language]
  | .setTraceID trace => [.setTraceID trace]
  | .setCounterName counterName => [.setCounterName (platform.cleanCountername counterName)]
  | .flushCache => if desk.enabled then [.flushCache] else []
  | .clearCache => [.clearCache]
  | .appForegrounded => [.appForegrounded]
  | .appBackgrounded => [.appBackgrounded]
  | .viewEvent counterName eventLabels =>
      if desk.enabled then
        [.viewEvent (platform.cleanCountername counterName)
          (eventLabels.map (sanitiseLabels platform))]
      else []
  | .userActionEvent actionType actionName eventLabels =>
      if desk.enabled && desk.named then
        [.userActionEvent actionType actionName (eventLabels.map (sanitiseLabels platform))]
      else []
  | .errorEvent error eventLabels =>
      if desk.enabled then [.errorEvent error (eventLabels.map (sanitiseLabels platform))] else []
  | .addLabels _ | .addLabel _ _ | .removeLabels _ | .removeLabel _ | .setCacheMode _
  | .setPlayerDelegate _ | .setMediaBitrate _ | .setMediaCodec _ | .setMediaCDN _ => []

/-- The requests among them. -/
def tells (platform : Platform H) (followsUsers : Bool) (desk : Desk) : Op → List DelegateCall
  | .report call => (desk.report platform call).filter (DelegateCall.isRequest followsUsers)
  | _ => []

end Desk

/-! ## The client as a desk -/

/-- The desk answers an operation as the client does. -/
structure Answers (platform : Platform H) (world : World H) (op : Op) : Prop where
  desk : (step platform world op).client.desk = world.client.desk.after op
  told : ∀ followsUsers, followsUsers = world.client.settings.idv5Enabled →
    requests followsUsers (step platform world op).log =
      requests followsUsers world.log ++ world.client.desk.tells platform followsUsers op

theorem SamePages.requests_eq {left right : World H} (same : SamePages left right)
    (followsUsers : Bool) : requests followsUsers left.log = requests followsUsers right.log := by
  have seen (effect : Effect) :
      effect.pageSide.bind (Effect.request followsUsers) = effect.request followsUsers := by
    cases effect with
    | broadcast call client => cases call <;> rfl
    | userPromise call => cases call <;> rfl
    | _ => rfl
  have projected (log : List Effect) : requests followsUsers log =
      requests followsUsers (log.filterMap Effect.pageSide) := by
    rw [requests, requests, List.filterMap_filterMap]
    exact List.filterMap_congr fun effect _ => (seen effect).symm
  rw [projected, same.log, ← projected]

theorem Avoids.requests_eq {followsUsers : Bool} {before after : World H}
    (avoids : Avoids (DelegateCall.isRequest followsUsers) before after) :
    requests followsUsers after.log = requests followsUsers before.log := by
  apply filterMap_extends avoids
  intro effect skipped
  cases effect with
  | broadcast call client =>
      have skipped : call.isRequest followsUsers = false := skipped
      simp [Effect.request, skipped]
  | _ => rfl

theorem requests_broadcast (followsUsers : Bool) (call : DelegateCall) (world : World H) :
    requests followsUsers (world.broadcast call).log =
      requests followsUsers world.log ++ [call].filter (DelegateCall.isRequest followsUsers) := by
  rw [requests, World.broadcast_log, List.filterMap_append]
  cases asked : call.isRequest followsUsers <;> simp [requests, Effect.request, asked]

/-! ### Users -/

section Users

variable (platform : Platform H) (world : World H)

/-- Only naming a counter and the two switches concern the desk. -/
theorem step_desk {op : Op} (unnamed : ¬op.Footprint (fun _ => True) .setCounterNameSet)
    (unswitched : ∀ enabled, ¬op.Footprint (fun _ => True) (.setEnabled enabled)) :
    (step platform world op).client.desk = world.client.desk := by
  refine (step_conforms_all platform op).unchanged (fun world => world.client.desk)
    (fun world action taken => ?_) world
  cases action with
  | setCounterNameSet => exact absurd taken unnamed
  | setEnabled enabled => exact absurd taken (unswitched enabled)
  | _ => rfl

theorem setBBCUser_desk (user : BBCUser) :
    (setBBCUser platform user world).client.desk = world.client.desk :=
  @step_desk H platform world (.lifecycle (.setBBCUser user)) id fun _ => id

theorem start_desk : (start platform world).client.desk = world.client.desk :=
  @step_desk H platform world (.lifecycle .start) id fun _ => id

include platform in
theorem fireTimer_desk (timer : TimerRef) :
    (fireTimer timer world).client.desk = world.client.desk :=
  @step_desk H platform world (.fireTimer timer) id fun _ => id

theorem applyPendingUser_desk :
    (applyPendingUser platform world).client.desk = world.client.desk := by
  unfold applyPendingUser
  split
  · exact setBBCUser_desk platform world _
  · rfl

theorem enable_desk :
    (enable platform world).client.desk = { world.client.desk with enabled := true } := by
  cases disabled : world.client.echoEnabled with
  | true =>
      rw [enable, disabled, if_pos rfl]
      rw [EchoClient.desk, disabled]
  | false =>
      have applied := applyPendingUser_desk platform (reenabled world)
      rw [enable_of_disabled platform disabled]
      split
      · exact (start_desk platform _).trans applied
      · exact applied

theorem disable_unasked (followsUsers : Bool) :
    Avoids (DelegateCall.isRequest followsUsers) world (disable platform world) ∧
      (disable platform world).client.desk = { world.client.desk with enabled := false } := by
  cases enabled : world.client.echoEnabled with
  | false =>
      simp only [disable, enabled, Bool.not_false, if_true]
      exact ⟨.refl _ world, by rw [EchoClient.desk, enabled]⟩
  | true =>
      have cleared : Avoids (DelegateCall.isRequest followsUsers) world
          (clearMedia platform world) := clearMedia_avoids platform (fun _ => rfl) rfl world
      simp only [disable, enabled, Bool.not_true, Bool.false_eq_true, if_false]
      refine ⟨cleared.trans (.append (.broadcast .disable _) rfl rfl), ?_⟩
      exact congrArg (Desk.mk false) (clearMedia_unseen platform world).counterNameSet.symm

end Users

/-! ### The life of the client -/

section Lifecycle

variable (platform : Platform H) {followsUsers : Bool} {world : World H}
  (follows : followsUsers = world.client.settings.idv5Enabled)

include follows

/-- A user makes no request, because user actions count only where users are not followed. -/
theorem setBBCUser_unasked (user : BBCUser) :
    Avoids (DelegateCall.isRequest followsUsers) world (setBBCUser platform user world) := by
  cases idv5 : world.client.settings.idv5Enabled with
  | true =>
      rw [idv5] at follows
      subst follows
      exact setBBCUser_avoids platform ⟨fun _ => rfl, fun _ => rfl, rfl, fun _ _ _ => rfl, rfl⟩
        user world
  | false =>
      have ignored : (userShouldUpdate user world).1 = false := by
        simp only [userShouldUpdate, idv5]
        split <;> rfl
      have unlogged : (userShouldUpdate user world).2.log = world.log := by
        simp only [userShouldUpdate, idv5]
        split <;> rfl
      apply Avoids.of_log_eq
      rw [setBBCUser, ignored]
      exact unlogged

theorem start_unasked :
    Avoids (DelegateCall.isRequest followsUsers) world (start platform world) := by
  have started : Avoids (DelegateCall.isRequest followsUsers) world
      (world.broadcast .start).setStarted :=
    .append (.broadcast .start world.client) rfl rfl
  cases idle : !world.client.echoEnabled || world.client.hasStarted with
  | true =>
      rw [start_of_idle platform idle]
      exact .refl _ world
  | false =>
      simp only [Bool.or_eq_false_iff, Bool.not_eq_false'] at idle
      rw [start_of_due platform idle.1 idle.2]
      split
      · rename_i user _
        have set : Avoids (DelegateCall.isRequest followsUsers)
            (world.broadcast .start).setStarted
            (setBBCUser platform user (world.broadcast .start).setStarted) :=
          setBBCUser_unasked platform (show followsUsers =
            (world.broadcast .start).setStarted.client.settings.idv5Enabled from follows) user
        exact started.trans set
      · exact started

theorem applyPendingUser_unasked :
    Avoids (DelegateCall.isRequest followsUsers) world (applyPendingUser platform world) := by
  unfold applyPendingUser
  split
  · exact setBBCUser_unasked platform follows _
  · exact .refl _ world

theorem enable_unasked :
    Avoids (DelegateCall.isRequest followsUsers) world (enable platform world) := by
  cases disabled : world.client.echoEnabled with
  | true =>
      rw [enable, disabled, if_pos rfl]
      exact .refl _ world
  | false =>
      have told : Avoids (DelegateCall.isRequest followsUsers) world (reenabled world) :=
        .append (.broadcast .enable (world.setEnabled true).client) rfl rfl
      have applied := applyPendingUser_unasked platform
        (show followsUsers = (reenabled world).client.settings.idv5Enabled from follows)
      have settings := (applyPendingUser_frame platform (reenabled world)).settings
      have started := start_unasked platform
        (show followsUsers =
            (applyPendingUser platform (reenabled world)).client.settings.idv5Enabled by
          rw [settings]
          exact follows)
      rw [enable_of_disabled platform disabled]
      split
      · exact (told.trans applied).trans started
      · exact told.trans applied

end Lifecycle

/-! ### Reports -/

section Reports

variable (platform : Platform H) (world : World H)

theorem Answers.of_broadcast {op : Op} {call : DelegateCall} {before : World H}
    (stepEq : step platform world op = before.broadcast call) (logEq : before.log = world.log)
    (desk : before.client.desk = world.client.desk.after op)
    (tells : ∀ followsUsers, world.client.desk.tells platform followsUsers op =
      [call].filter (DelegateCall.isRequest followsUsers)) : Answers platform world op where
  desk := by rw [stepEq]; exact desk
  told := by
    intro followsUsers _
    rw [stepEq, requests_broadcast, tells, logEq]

theorem Answers.of_avoids {op : Op}
    (avoids : ∀ followsUsers, followsUsers = world.client.settings.idv5Enabled →
      Avoids (DelegateCall.isRequest followsUsers) world (step platform world op))
    (desk : (step platform world op).client.desk = world.client.desk.after op)
    (tells : ∀ followsUsers, world.client.desk.tells platform followsUsers op = []) :
    Answers platform world op where
  desk := desk
  told := by
    intro followsUsers follows
    rw [(avoids followsUsers follows).requests_eq, tells, List.append_nil]

/-- An operation that checks before it tells the delegates. -/
theorem Answers.of_check {op : Op} {condition : Prop} [Decidable condition] {call : DelegateCall}
    {refused : World H}
    (stepEq : step platform world op = if condition then world.broadcast call else refused)
    (unasked : ∀ followsUsers, Avoids (DelegateCall.isRequest followsUsers) world refused)
    (refusedDesk : refused.client.desk = world.client.desk)
    (desk : world.client.desk.after op = world.client.desk)
    (tells : ∀ followsUsers, world.client.desk.tells platform followsUsers op =
      (if condition then [call] else []).filter (DelegateCall.isRequest followsUsers)) :
    Answers platform world op := by
  by_cases accepted : condition
  · simp only [if_pos accepted] at stepEq tells
    exact .of_broadcast platform world stepEq rfl desk.symm tells
  · simp only [if_neg accepted] at stepEq tells
    apply Answers.of_avoids platform world
    · intro followsUsers _
      rw [stepEq]
      exact unasked followsUsers
    · rw [stepEq, refusedDesk, desk]
    · exact tells

theorem producer_answers {op : Op} {found : Option Producer}
    (stepEq : step platform world op = setProducerFound found world)
    (desk : world.client.desk.after op = world.client.desk)
    (tells : ∀ followsUsers, world.client.desk.tells platform followsUsers op =
      (found.toList.map .setProducer).filter (DelegateCall.isRequest followsUsers)) :
    Answers platform world op := by
  cases found with
  | some producer => exact .of_broadcast platform world stepEq rfl desk.symm tells
  | none =>
      apply Answers.of_avoids platform world
      · intro followsUsers _
        rw [stepEq]
        exact .debug _ _ _ world
      · rw [stepEq, desk]
        rfl
      · exact tells

/-- An operation that is refused leaves the client as it is. -/
theorem Answers.of_refused {op : Op} (stepEq : step platform world op = world)
    (desk : world.client.desk.after op = world.client.desk)
    (tells : ∀ followsUsers, world.client.desk.tells platform followsUsers op = []) :
    Answers platform world op := by
  apply Answers.of_avoids platform world
  · intro followsUsers _
    rw [stepEq]
    exact .refl _ world
  · rw [stepEq, desk]
  · exact tells

/-- An operation that needs an enabled client. -/
theorem Answers.of_enabled {op : Op} {call : DelegateCall} {before : World H}
    (stepEq : step platform world op =
      if !world.client.echoEnabled then world else before.broadcast call)
    (logEq : before.log = world.log)
    (desk : world.client.echoEnabled = true → before.client.desk = world.client.desk.after op)
    (refused : world.client.echoEnabled = false → world.client.desk.after op = world.client.desk)
    (tells : ∀ followsUsers, world.client.desk.tells platform followsUsers op =
      (if world.client.echoEnabled then [call] else []).filter
        (DelegateCall.isRequest followsUsers)) : Answers platform world op := by
  cases enabled : world.client.echoEnabled with
  | true =>
      simp only [enabled] at stepEq tells
      exact .of_broadcast platform world stepEq logEq (desk enabled) tells
  | false =>
      simp only [enabled] at stepEq tells
      exact .of_refused platform world stepEq (refused enabled) tells

theorem report_answers (call : ReportCall) : Answers platform world (.report call) := by
  cases call with
  | addLabels labels => exact .of_broadcast platform world rfl rfl rfl fun _ => rfl
  | addLabel key value => exact .of_broadcast platform world rfl rfl rfl fun _ => rfl
  | removeLabels labels =>
      exact .of_check platform world rfl (fun _ => .refl _ world) rfl rfl fun _ => by
        split <;> rfl
  | removeLabel key =>
      exact .of_check platform world rfl (fun _ => .refl _ world) rfl rfl fun _ => by
        split <;> rfl
  | addManagedLabel label value =>
      exact .of_check platform world rfl (fun _ => .refl _ world) rfl rfl fun _ => rfl
  | setProducerByName name => exact producer_answers platform world rfl rfl fun _ => rfl
  | setProducerByMasterbrand name => exact producer_answers platform world rfl rfl fun _ => rfl
  | setPlayerName name =>
      exact .of_check platform world rfl (fun _ => .refl _ world) rfl rfl fun _ => rfl
  | setPlayerVersion version =>
      exact .of_check platform world rfl (fun _ => .refl _ world) rfl rfl fun _ => rfl
  | setPlayerVolume volume =>
      exact .of_check platform world rfl (fun _ => .debug _ _ _ world) rfl rfl fun _ => rfl
  | setPlayerDelegate delegate =>
      exact .of_avoids platform world (fun _ _ => .of_log_eq rfl) rfl fun _ => rfl
  | setMediaBitrate bitrate => exact .of_refused platform world rfl rfl fun _ => rfl
  | setMediaCodec codec => exact .of_refused platform world rfl rfl fun _ => rfl
  | setMediaCDN cdn => exact .of_refused platform world rfl rfl fun _ => rfl
  | setCounterName counterName =>
      exact .of_broadcast platform world rfl rfl rfl fun _ => rfl
  | setCacheMode cacheMode =>
      have unasked (followsUsers : Bool) :
          Avoids (DelegateCall.isRequest followsUsers) world (setCacheMode cacheMode world) := by
        unfold setCacheMode
        split
        · exact .append (.broadcast (.setCacheMode cacheMode) world.client) rfl rfl
        · exact .debug _ _ _ world
      have desk : (setCacheMode cacheMode world).client.desk = world.client.desk := by
        unfold setCacheMode
        split <;> rfl
      exact .of_avoids platform world (fun followsUsers _ => unasked followsUsers) desk fun _ => rfl
  | flushCache =>
      exact .of_enabled platform world rfl rfl (fun _ => rfl) (fun _ => rfl) fun _ => rfl
  | viewEvent counterName eventLabels =>
      exact .of_enabled platform world rfl rfl
        (fun enabled => by simp [Desk.after, EchoClient.desk, enabled])
        (fun disabled => by simp [Desk.after, EchoClient.desk, disabled]) fun _ => rfl
  | errorEvent error eventLabels =>
      exact .of_enabled platform world rfl rfl (fun _ => rfl) (fun _ => rfl) fun _ => rfl
  | userActionEvent actionType actionName eventLabels =>
      cases enabled : world.client.echoEnabled with
      | true =>
          cases named : world.client.counterNameSet with
          | true =>
              exact .of_broadcast platform world
                (by simp only [step, ReportCall.perform, userActionEvent, enabled, named]; rfl)
                rfl rfl
                fun _ => by simp [Desk.tells, Desk.report, EchoClient.desk, enabled, named]
          | false =>
              obtain ⟨message, stepEq⟩ : ∃ message, step platform world
                  (.report (.userActionEvent actionType actionName eventLabels)) =
                  world.debug .error message := by
                simp only [step, ReportCall.perform, userActionEvent, enabled, named]
                exact ⟨_, rfl⟩
              exact .of_avoids platform world
                (fun _ _ => by rw [stepEq]; exact .debug _ _ _ world) (by rw [stepEq]; rfl)
                fun _ => by simp [Desk.tells, Desk.report, EchoClient.desk, enabled, named]
      | false =>
          exact .of_refused platform world
            (by simp only [step, ReportCall.perform, userActionEvent, enabled]; rfl) rfl
            fun _ => by simp [Desk.tells, Desk.report, EchoClient.desk, enabled]
  | _ => exact .of_broadcast platform world rfl rfl rfl fun _ => rfl

end Reports

/-! ## Runs -/

section Runs

variable (platform : Platform H) (world : World H)

theorem SamePages.answers {op : Op} (same : SamePages world (step platform world op))
    (desk : world.client.desk.after op = world.client.desk)
    (tells : ∀ followsUsers, world.client.desk.tells platform followsUsers op = []) :
    Answers platform world op where
  desk := by rw [EchoClient.desk, ← same.echoEnabled, ← same.counterNameSet, desk, EchoClient.desk]
  told := by
    intro followsUsers _
    rw [← same.requests_eq, tells, List.append_nil]

theorem step_answers (op : Op) : Answers platform world op := by
  cases op with
  | report call => exact report_answers platform world call
  | lifecycle call =>
      cases call with
      | setBBCUser user =>
          exact .of_avoids platform world
            (fun _ follows => setBBCUser_unasked platform follows user)
            (setBBCUser_desk platform world user) fun _ => rfl
      | start =>
          exact .of_avoids platform world (fun _ follows => start_unasked platform follows)
            (start_desk platform world) fun _ => rfl
      | enable =>
          exact .of_avoids platform world (fun _ follows => enable_unasked platform follows)
            (enable_desk platform world) fun _ => rfl
      | disable =>
          exact .of_avoids platform world
            (fun followsUsers _ => (disable_unasked platform world followsUsers).1)
            (disable_unasked platform world true).2 fun _ => rfl
  | fireTimer timer =>
      exact .of_avoids platform world
        (fun _ _ => fireTimer_avoids platform (fun _ => rfl) timer world)
        (fireTimer_desk platform world timer) fun _ => rfl
  | clock now => exact .of_avoids platform world (fun _ _ => .of_log_eq rfl) rfl fun _ => rfl
  | _ => exact (step_unseen platform rfl world).answers platform world rfl fun _ => rfl

/-- The requests that the desk passes on over a run. -/
def Desk.passesOn (platform : Platform H) (followsUsers : Bool) (desk : Desk) (ops : List Op) :
    List DelegateCall :=
  outputs Desk.after (Desk.tells platform followsUsers) desk ops

theorem requests_run_eq (ops : List Op) :
    requests world.client.settings.idv5Enabled (run platform world ops).log =
      requests world.client.settings.idv5Enabled world.log ++
        world.client.desk.passesOn platform world.client.settings.idv5Enabled ops := by
  have settled (later : World H) (op : Op)
      (same : later.client.settings = world.client.settings) :
      (step platform later op).client.settings = world.client.settings := by
    rw [step_settings, same]
  exact append_outputs_of_simulation (fun later => later.client.desk)
    (fun later => requests world.client.settings.idv5Enabled later.log) settled
    (fun later op _ => (step_answers platform later op).desk)
    (fun later op same => (step_answers platform later op).told _ (by rw [same])) rfl ops

end Runs

section Launch

variable {platform : Platform H} {arguments : InitArguments} {world : World H}
  (launched : Launched platform arguments world)

include launched

/-- No request is ever made of a single delegate. -/
theorem Launched.received_requests (ops : List Op) (followsUsers : Bool) (index : Nat) :
    (received index (run platform world ops).log).filter
        (DelegateCall.isRequest followsUsers) =
      requests followsUsers (run platform world ops).log := by
  rw [received, List.filter_filterMap, requests]
  apply List.filterMap_congr
  intro effect member
  cases effect with
  | broadcast call client => simp [Effect.receivedBy, Effect.request, Option.filter]
  | delegate other call =>
      obtain ⟨delegate, _, asked⟩ := launched.delegate_asked member
      rcases asked with rfl | ⟨rfl, _⟩
      · by_cases same : other = index <;> simp [Effect.receivedBy, Effect.request, same]; rfl
      · by_cases same : other = index <;> simp [Effect.receivedBy, Effect.request, same]; rfl
  | _ => rfl

omit launched in
theorem prepare_requests (store : H) (now : Date) (followsUsers : Bool) :
    requests followsUsers (prepare platform arguments store now).log = [] := by
  rw [prepare_log_eq, requests, List.filterMap_eq_nil_iff]
  intro effect member
  rcases receivedBy_setup member with rfl | ⟨notBroadcast, _, _⟩
  · rfl
  · cases effect with
    | broadcast call client => exact absurd rfl (notBroadcast call client)
    | _ => rfl

/-- A client that has just been launched has no counter name, and has told no requests. -/
theorem Launched.desk_eq :
    world.client.desk =
        ⟨configFlag (collateConfig platform arguments.config) .echoEnabled, false⟩ ∧
      requests world.client.settings.idv5Enabled world.log = [] := by
  obtain ⟨store, now, rfl⟩ := launched.exists_complete
  obtain ⟨delegates, prepared⟩ := prepare_client platform arguments store now
  have desk : (prepare platform arguments store now).client.desk =
      ⟨configFlag (collateConfig platform arguments.config) .echoEnabled, false⟩ := by
    rw [prepared]
    rfl
  have registered (world : World H) (followsUsers : Bool) :
      requests followsUsers world.register.log = requests followsUsers world.log := by
    simp [requests, registrations, Effect.request]
  rw [complete_settings, complete_eq, registered]
  split
  · have unasked := start_unasked platform
      (rfl : _ = (prepare platform arguments store now).client.settings.idv5Enabled)
    exact ⟨(start_desk platform _).trans desk, unasked.requests_eq.trans (prepare_requests store now _)⟩
  · exact ⟨desk, prepare_requests store now _⟩

/-- Whatever else happens, the requests that a delegate has received are exactly those that
the desk passes on, in the order the app made them. -/
theorem requests_run (ops : List Op) (index : Nat) :
    (received index (run platform world ops).log).filter
        (DelegateCall.isRequest world.client.settings.idv5Enabled) =
      Desk.passesOn platform world.client.settings.idv5Enabled
        ⟨configFlag (collateConfig platform arguments.config) .echoEnabled, false⟩ ops := by
  rw [launched.received_requests, requests_run_eq, launched.desk_eq.1, launched.desk_eq.2,
    List.nil_append]

end Launch

/-- A user action is passed on only once a page has been viewed. -/
theorem requests_viewed :
    (received 0 (run reference launchedWorld
      [.report (.userActionEvent "click" "early" none), .report (.viewEvent "page" none),
        .lifecycle .disable, .report (.errorEvent "lost" none), .lifecycle .enable,
        .report (.userActionEvent "click" "late" none)]).log).filter
          (DelegateCall.isRequest launchedWorld.client.settings.idv5Enabled) =
      [.viewEvent "page" none, .userActionEvent "click" "late" none] :=
  requests_run launchedWorld_launched _ 0

end Echo.Client
