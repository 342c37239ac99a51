import Echo.Client.UserFrame

/-!
# What the delegates receive

The log is read back from the side of one delegate.  Of the calls it receives,
the protocol calls concern the life of the client and the media session; every
other call reports labels, settings, page events or users.
-/

namespace Echo.Client

open Echo.Transition

variable {H : Type}

/-- The call that an effect makes on the delegate at an index. -/
def Effect.receivedBy (index : Nat) : Effect → Option DelegateCall
  | .broadcast call _ => some call
  | .delegate other call => if other = index then some call else none
  | _ => none

/-- The calls that the delegate at an index has received. -/
def received (index : Nat) (log : List Effect) : List DelegateCall :=
  log.filterMap (Effect.receivedBy index)

def DelegateCall.isProtocol (call : DelegateCall) : Bool :=
  call.kind ∈ [EffectKind.media, .event, .broker, .lifecycle]

def DelegateCall.isUserAction : DelegateCall → Bool
  | .userActionEvent _ _ _ => true
  | _ => false

/-- The protocol calls among them. -/
def heard (index : Nat) (log : List Effect) : List DelegateCall :=
  (received index log).filter DelegateCall.isProtocol

@[simp]
theorem received_append (index : Nat) (first second : List Effect) :
    received index (first ++ second) = received index first ++ received index second :=
  List.filterMap_append

@[simp]
theorem heard_append (index : Nat) (first second : List Effect) :
    heard index (first ++ second) = heard index first ++ heard index second := by
  rw [heard, received_append, List.filter_append]
  rfl

/-- An effect of a kind outside the protocol is not heard. -/
theorem heard_singleton_of_kind {effect : Effect}
    (silent : effect.kind ∉ [EffectKind.media, .event, .broker, .lifecycle])
    (index : Nat) : heard index [effect] = [] := by
  cases effect with
  | broadcast call client =>
      simpa [heard, received, Effect.receivedBy, DelegateCall.isProtocol, Effect.kind]
        using silent
  | delegate other call =>
      by_cases same : other = index
      · simpa [heard, received, Effect.receivedBy, DelegateCall.isProtocol, Effect.kind, same]
          using silent
      · simp [heard, received, Effect.receivedBy, same]
  | _ => rfl

/-- Entries outside the protocol do not change what has been heard. -/
theorem heard_of_extends {allowed : Effect → Prop} {before after : List Effect}
    (extended : Extends allowed before after)
    (silent : ∀ effect, allowed effect →
      effect.kind ∉ [EffectKind.media, .event, .broker, .lifecycle]) (index : Nat) :
    heard index after = heard index before := by
  obtain ⟨entries, rfl, allAllowed⟩ := extended
  rw [heard_append]
  suffices unheard : heard index entries = [] by rw [unheard, List.append_nil]
  induction entries with
  | nil => rfl
  | cons entry entries ih =>
      rw [show entry :: entries = [entry] ++ entries from rfl, heard_append,
        heard_singleton_of_kind (silent entry (allAllowed entry List.mem_cons_self)),
        List.nil_append]
      exact ih fun other member => allAllowed other (List.mem_cons_of_mem entry member)

theorem ReportFrame.heard_eq {before after : World H} (frame : ReportFrame before after)
    (index : Nat) : heard index after.log = heard index before.log := by
  apply heard_of_extends frame.log
  intro effect isReport
  simp [show effect.kind = .report from isReport]

theorem UserFrame.heard_eq {before after : World H} (frame : UserFrame before after)
    (index : Nat) : heard index after.log = heard index before.log := by
  apply heard_of_extends frame.log
  intro effect ofUser
  rcases List.mem_cons.mp ofUser with isReport | isUser
  · simp [isReport]
  · simp [List.mem_singleton.mp isUser]

/-! ## The pass over the delegates -/

/-- The calls that one pass of the loop in `getComScoreDeviceID` makes. -/
def deviceIDCalls (delegate : Delegate) (index : Nat) : List Effect :=
  .delegate index .clearMedia ::
    if delegate.isComScoreDelegate then [.delegate index .getDeviceID] else []

theorem visitForDeviceID_eq (index : Nat) (delegate : Delegate) (world : World H) :
    visitForDeviceID index delegate world =
      { world with log := world.log ++ deviceIDCalls delegate index } := by
  unfold visitForDeviceID deviceIDCalls
  dsimp only
  split
  · simp [World.emit]
  · simp [World.emit]

/-- The loop only writes to the log. -/
theorem getComScoreDeviceID_eq (world : World H) :
    (getComScoreDeviceID world).2 =
      { world with
        log := world.log ++ world.client.settings.delegates.zipIdx.flatMap
          fun entry => deviceIDCalls entry.1 entry.2 } := by
  unfold getComScoreDeviceID
  generalize world.client.settings.delegates.zipIdx = entries
  generalize (none : Option String) = deviceID
  induction entries generalizing deviceID world with
  | nil => simp
  | cons entry entries ih =>
      rw [List.foldl_cons, ih, visitForDeviceID_eq, List.flatMap_cons, List.append_assoc]

/-- Each delegate is visited once. -/
theorem heard_deviceIDCalls (index first : Nat) (delegates : List Delegate) :
    heard index ((delegates.zipIdx first).flatMap fun entry => deviceIDCalls entry.1 entry.2) =
      if first ≤ index ∧ index < first + delegates.length then [.clearMedia] else [] := by
  induction delegates generalizing first with
  | nil =>
      have outside : ¬(first ≤ index ∧ index < first + 0) := by omega
      rw [List.length_nil, if_neg outside]
      rfl
  | cons delegate delegates ih =>
      have visited : heard index (deviceIDCalls delegate first) =
          if first = index then [.clearMedia] else [] := by
        by_cases same : first = index
        · cases comScore : delegate.isComScoreDelegate with
          | true => simp [deviceIDCalls, comScore, heard, received, Effect.receivedBy, same,
              DelegateCall.isProtocol]
          | false => simp [deviceIDCalls, comScore, heard, received, Effect.receivedBy, same,
              DelegateCall.isProtocol]
        · cases comScore : delegate.isComScoreDelegate with
          | true => simp [deviceIDCalls, comScore, heard, received, Effect.receivedBy, same]
          | false => simp [deviceIDCalls, comScore, heard, received, Effect.receivedBy, same]
      rw [List.zipIdx_cons, List.flatMap_cons, heard_append, ih, visited, List.length_cons]
      by_cases same : first = index
      · rw [if_pos same, if_neg (by omega), if_pos (by omega), List.append_nil]
      · rw [if_neg same, List.nil_append]
        by_cases inside : first + 1 ≤ index ∧ index < first + 1 + delegates.length
        · rw [if_pos inside, if_pos (by omega)]
        · rw [if_neg inside, if_neg (by omega)]

/-! ## The effects of one step -/

/-- A delegate is told to start through a broadcast of an enabled client. -/
def Effect.StartsEnabled : Effect → Prop
  | .broadcast .start client => client.echoEnabled = true
  | .delegate _ .start => False
  | _ => True

theorem Effect.startsEnabled_of_kind {effect : Effect} (other : effect.kind ≠ .lifecycle) :
    effect.StartsEnabled := by
  cases effect with
  | broadcast call client => cases call <;> trivial
  | delegate index call => cases call <;> trivial
  | _ => trivial

theorem SessionFrame.extends_startsEnabled {before after : World H}
    (frame : SessionFrame before after) : Extends Effect.StartsEnabled before.log after.log := by
  apply frame.log.mono
  intro effect ofSession
  apply Effect.startsEnabled_of_kind
  intro isLifecycle
  simp [Effect.OfSession, isLifecycle] at ofSession

theorem UserFrame.extends_startsEnabled {before after : World H}
    (frame : UserFrame before after) : Extends Effect.StartsEnabled before.log after.log := by
  apply frame.log.mono
  intro effect ofUser
  apply Effect.startsEnabled_of_kind
  intro isLifecycle
  simp [Effect.OfUser, isLifecycle] at ofUser

/-- Whoever tells the delegates to start has checked that the client is enabled. -/
theorem Action.startsEnabled {world : World H} {action : Action}
    (checked : action.Checked world) : ∀ effect ∈ action.effect world, effect.StartsEnabled := by
  intro effect adds
  cases action with
  | broadcast call =>
      cases adds
      cases call with
      | start => exact checked.1
      | _ => trivial
  | callDelegate index call => exact checked.elim
  | adoptBroker made state =>
      cases adds
      have kind := Effect.MakesBroker.kind_eq made.property
      exact Effect.startsEnabled_of_kind (by simp [kind])
  | _ => cases adds <;> trivial

/-- The log only grows, and every start that is added to it is an enabled one. -/
theorem step_extends (platform : Platform H) (world : World H) (op : Op) :
    Extends Effect.StartsEnabled world.log (step platform world op).log := by
  cases op with
  | lifecycle call =>
      exact (step_conforms_all platform (.lifecycle call)).extends_log_of_callable
        (fun _ _ _ checked => Action.startsEnabled checked) trivial
  | fireTimer timer => exact (fireTimer_frame platform timer world).extends_startsEnabled
  | clock now => exact .refl _ _
  | _ => exact (step_frame platform world rfl).extends_startsEnabled

/-- The effects that one step adds to the log. -/
def emitted (platform : Platform H) (world : World H) (op : Op) : List Effect :=
  (step platform world op).log.drop world.log.length

theorem step_log (platform : Platform H) (world : World H) (op : Op) :
    (step platform world op).log = world.log ++ emitted platform world op := by
  obtain ⟨entries, extended, _⟩ := step_extends platform world op
  rw [emitted, extended, List.drop_left]

theorem run_log (platform : Platform H) (world : World H) (ops : List Op) :
    ∃ entries, (run platform world ops).log = world.log ++ entries := by
  induction ops using List.reverseRecOn with
  | nil => exact ⟨[], (List.append_nil _).symm⟩
  | append_singleton ops op ih =>
      obtain ⟨entries, logEq⟩ := ih
      rw [Client.run_concat, step_log, logEq, List.append_assoc]
      exact ⟨_, rfl⟩

/-! ## The effects of the initialiser -/

/-- The request for delegates that the initialiser makes. -/
def delegateRequest (platform : Platform H) (arguments : InitArguments) : Effect :=
  .getDelegates
    (platform.cleanLabelValue (platform.labelKey .bbcApplicationName) arguments.appName)
    arguments.appType (platform.cleanCountername arguments.startCounterName)
    (collateConfig platform arguments.config) arguments.bbcUser

/-- The calls that it makes on the helper before validation. -/
def cookieCalls (platform : Platform H) (arguments : InitArguments) : List Effect :=
  if configFlag (collateConfig platform arguments.config) .idv5Enabled then []
  else [.userPromise .clearWebviewCookies]

/-- The effects before validation, in their order. -/
theorem prepare_log_eq (platform : Platform H) (arguments : InitArguments) (store : H)
    (now : Date) :
    (prepare platform arguments store now).log =
      [debugSettings (collateConfig platform arguments.config)] ++
        cookieCalls platform arguments ++ [delegateRequest platform arguments] := by
  unfold prepare cookieCalls delegateRequest
  dsimp only [configuredClient]
  cases configFlag (collateConfig platform arguments.config) .idv5Enabled with
  | true => rfl
  | false => rfl

/-- Before validation the client only sets itself up, and without idv5 clears the
helper's cookies. -/
theorem prepare_log (platform : Platform H) (arguments : InitArguments) (store : H)
    (now : Date) :
    ∀ effect ∈ (prepare platform arguments store now).log,
      effect.kind = .setup ∨ effect = .userPromise .clearWebviewCookies := by
  have setup : (debugSettings (collateConfig platform arguments.config)).kind = .setup := by
    obtain ⟨isDebugEnabled, level, settings⟩ := debugSettings_eq
      (collateConfig platform arguments.config)
    rw [settings]
    rfl
  intro effect member
  rw [prepare_log_eq, List.mem_append, List.mem_append] at member
  rcases member with (debugged | cleared) | requested
  · rw [List.mem_singleton.mp debugged]
    exact .inl setup
  · unfold cookieCalls at cleared
    split at cleared
    · cases cleared
    · exact .inr (List.mem_singleton.mp cleared)
  · rw [List.mem_singleton.mp requested]
    exact .inl rfl

theorem complete_extends (platform : Platform H) (world : World H) :
    Extends Effect.StartsEnabled world.log (complete platform world).log := by
  have registered (started : World H) :
      Extends Effect.StartsEnabled started.log started.register.log :=
    ⟨registrations, rfl, by simp [registrations, Effect.StartsEnabled]⟩
  have starts : Extends Effect.StartsEnabled world.log (start platform world).log :=
    (step_conforms_all platform (.lifecycle .start)).extends_log_of_callable
      (fun _ _ _ checked => Action.startsEnabled checked) trivial
  rw [complete_eq]
  split
  · exact starts.trans (registered _)
  · exact registered world

end Echo.Client
