import Echo.Protocol.Observe

/-!
# Turns of the current broker

Every move of the machine has the current broker do something, if there is one: it is
started, for media that is not live right after it was given a position, or stopped.
The lemmas below say what the primitives, and the opening and closing of a session, have
it do.
-/

namespace Echo.Client

open Echo.Protocol Echo.Transition

variable {H : Type}

/-! ## The broker calls of a log -/

/-- The broker that an effect calls, and with what. -/
def Effect.brokerCall : Effect → Option (BrokerRef × BrokerCall)
  | .broker ref call => some (ref, call)
  | _ => none

/-- The calls on brokers, in order. -/
def brokerLog (log : List Effect) : List (BrokerRef × BrokerCall) :=
  log.filterMap Effect.brokerCall

@[simp]
theorem brokerLog_append (first second : List Effect) :
    brokerLog (first ++ second) = brokerLog first ++ brokerLog second :=
  List.filterMap_append

/-- The same calls made on a broker, if there is one. -/
def addressed (broker : Option BrokerRef) (calls : List BrokerCall) :
    List (BrokerRef × BrokerCall) :=
  broker.elim [] fun ref => calls.map (Prod.mk ref)

@[simp]
theorem addressed_nil (broker : Option BrokerRef) : addressed broker [] = [] := by
  cases broker <;> rfl

/-! ## Turns -/

/-- The current media is live. -/
def Session.isLive (session : Session) : Bool :=
  session.media.any Media.isLive

end Echo.Client

namespace Echo.Protocol

open Echo.Client

/-- What a move has the current broker do. -/
def Act.turn (session : Session) : Act → List BrokerCall
  | .play position _ | .release position _ =>
      if session.isLive then [.start] else [.setPosition position, .start]
  | .suppress _ => [.start]
  | .disable | .setMedia _ _ | .navigate _ _ _ => [.stop]
  | _ => []

end Echo.Protocol

namespace Echo.Client

open Echo.Protocol Echo.Transition

variable {H : Type}

/-- The calls on brokers that lead from one world to the next. -/
def Tells (calls : List BrokerCall) (before after : World H) : Prop :=
  brokerLog after.log =
    brokerLog before.log ++ addressed before.client.session.broker calls

namespace Tells

variable {before middle after : World H}

/-- Entries that call no broker are no turn. -/
theorem silent (extended : ∃ entries, after.log = before.log ++ entries ∧
    ∀ effect ∈ entries, effect.brokerCall = none) : Tells [] before after := by
  obtain ⟨entries, logEq, none⟩ := extended
  rw [Tells, logEq, brokerLog_append, addressed_nil]
  exact congrArg _ (List.filterMap_eq_nil_iff.mpr none)

theorem ofReport (frame : ReportFrame before after) : Tells [] before after := by
  obtain ⟨entries, logEq, reports⟩ := frame.log
  refine silent ⟨entries, logEq, fun effect member => ?_⟩
  have isReport : effect.kind = .report := reports effect member
  cases effect with
  | broker ref call => cases isReport
  | _ => rfl

theorem ofUser (frame : UserFrame before after) : Tells [] before after := by
  obtain ⟨entries, logEq, users⟩ := frame.log
  refine silent ⟨entries, logEq, fun effect member => ?_⟩
  have ofUser : effect.kind ∈ [EffectKind.report, .user] := users effect member
  cases effect with
  | broker ref call => simp [Effect.kind] at ofUser
  | _ => rfl

end Tells

@[simp]
theorem brokerLog_broadcast (call : DelegateCall) (client : EchoClient) :
    brokerLog [.broadcast call client] = [] :=
  rfl

@[simp]
theorem brokerLog_debug (level : EchoDebugLevel) (message : String) :
    brokerLog [.debug level message] = [] :=
  rfl

@[simp]
theorem brokerLog_broker (broker : BrokerRef) (call : BrokerCall) (log : List Effect) :
    brokerLog (.broker broker call :: log) = (broker, call) :: brokerLog log :=
  rfl

@[simp]
theorem brokerLog_nil : brokerLog [] = [] :=
  rfl

/-- The library's own logging does not matter. -/
theorem Tells.of_debug {calls : List BrokerCall} {level : EchoDebugLevel} {message : String}
    {before after : World H} (told : Tells calls (before.debug level message) after) :
    Tells calls before after := by
  rw [Tells, World.debug_log, brokerLog_append, brokerLog_debug, List.append_nil] at told
  exact told

theorem Tells.debug (level : EchoDebugLevel) (message : String) (world : World H) :
    Tells [] world (world.debug level message) := by
  simp [Tells]

theorem Tells.broadcast {calls : List BrokerCall} {before after : World H}
    (told : Tells calls before after) (call : DelegateCall) :
    Tells calls before (after.broadcast call) := by
  rw [Tells, World.broadcast_log, brokerLog_append, brokerLog_broadcast, List.append_nil]
  exact told

theorem stopBroker_tells (world : World H) : Tells [.stop] world (stopBroker world) := by
  unfold stopBroker Tells
  split
  · rename_i noBroker
    simp [addressed, noBroker]
  · rename_i broker current
    simp [addressed, current]

theorem releaseBroker_tells (world : World H) : Tells [.stop] world (releaseBroker world) := by
  unfold releaseBroker Tells
  split
  · rename_i noBroker
    simp [addressed, noBroker]
  · rename_i broker current
    simp [addressed, current]

/-- Closing a session stops its broker. -/
theorem clearMedia_tells (platform : Platform H) (world : World H) :
    Tells [.stop] world (clearMedia platform world) := by
  have removed := removeMediaLabels_frame platform world
  have labels := Tells.ofReport removed
  rw [Tells, addressed_nil, List.append_nil] at labels
  have released := releaseBroker_tells ((removeMediaLabels platform world).withSession
    fun session => { session with media := none })
  rw [Tells, World.withSession_log, labels] at released
  apply Tells.broadcast
  rw [Tells, released]
  simp only [World.withSession, removed.session]

/-- A broker that is made is not called yet. -/
theorem brokerLog_initBroker (platform : Platform H) (world : World H) :
    brokerLog (initBroker platform world).log = brokerLog world.log := by
  unfold initBroker
  split
  · rename_i playerDelegate media _ _
    have made : brokerLog (makeBroker platform playerDelegate media world).log =
        brokerLog world.log := by
      unfold makeBroker
      dsimp only
      split
      · simp [World.adoptBroker, brokerLog, Effect.brokerCall]
      · simp [World.adoptBroker, brokerLog, Effect.brokerCall]
    dsimp only
    split
    · exact made
    · simp [made]
  · rfl

/-- A new session stops the broker of the one it replaces. -/
theorem setMedia_tells (platform : Platform H) (media : Media) {world : World H}
    (enabled : world.client.echoEnabled = true) :
    Tells [.stop] world (setMedia platform media world) := by
  have opened : Tells [.stop] world (openSession platform media world) := by
    have adopted : Tells [.stop] world (adoptClone platform media (clearMedia platform world)) :=
      clearMedia_tells platform world
    rw [Tells, openSession, brokerLog_initBroker]
    exact adopted.broadcast _
  unfold setMedia
  simp only [enabled, Bool.not_true, Bool.false_eq_true, if_false]
  split
  · exact opened
  · exact opened.broadcast _

/-- The broker's part in a play that is not refused. -/
theorem playBroker_tells {media : Media} {position reported : UInt64} {world played : World H}
    (accepted : playBroker media position world = some (reported, played)) :
    Tells (if media.isLive then [.start] else [.setPosition reported, .start]) world played := by
  unfold playBroker at accepted
  rw [Tells]
  split at accepted
  · rename_i noBroker
    cases accepted
    simp [addressed, noBroker]
  · rename_i broker current
    split at accepted
    · rename_i live
      cases accepted
      simp [addressed, current, live]
    · rename_i notLive
      split at accepted
      · contradiction
      · cases accepted
        simp [addressed, current, notLive]

theorem avNavigationEvent_tells {world : World H} {media : Media}
    (stored : world.client.session.media = some media) (position : UInt64) :
    Tells [.stop] world (avNavigationEvent position world).2 := by
  have stopped := stopBroker_tells world
  unfold avNavigationEvent
  simp only [stored]
  exact stopped

theorem disable_tells (platform : Platform H) {world : World H}
    (enabled : world.client.echoEnabled = true) :
    Tells [.stop] world (disable platform world) := by
  have cleared := clearMedia_tells platform world
  simpa [disable, enabled, Tells] using cleared

/-! ## Operations without a turn -/

theorem start_tells (platform : Platform H) {world : World H}
    (enabled : world.client.echoEnabled = true) (unstarted : world.client.hasStarted = false) :
    Tells [] world (start platform world) := by
  have told := Tells.ofUser (start_frame platform enabled unstarted)
  simpa [Tells] using told

/-- Enabling calls no broker, whatever user is set. -/
theorem enable_tells (platform : Platform H) {world : World H}
    (disabled : world.client.echoEnabled = false) : Tells [] world (enable platform world) := by
  have applied := applyPendingUser_frame platform ((world.setEnabled true).broadcast .enable)
  have told : brokerLog (applyPendingUser platform
      ((world.setEnabled true).broadcast .enable)).log = brokerLog world.log := by
    simpa [Tells] using Tells.ofUser applied
  simp only [enable, disabled, Bool.false_eq_true, if_false]
  rw [Tells, addressed_nil, List.append_nil]
  split
  · rename_i due
    simp only [Bool.and_eq_true, Bool.not_eq_true'] at due
    have later := start_tells platform applied.echoEnabled due.2
    rw [Tells, addressed_nil, List.append_nil] at later
    exact later.trans told
  · exact told

/-- The search for a device id calls no broker. -/
theorem getComScoreDeviceID_tells (world : World H) :
    Tells [] world (getComScoreDeviceID world).2 := by
  rw [getComScoreDeviceID_eq]
  refine .silent ⟨_, rfl, ?_⟩
  intro effect member
  obtain ⟨entry, _, called⟩ := List.mem_flatMap.mp member
  unfold deviceIDCalls at called
  rcases List.mem_cons.mp called with rfl | later
  · rfl
  · split at later
    · rw [List.mem_singleton.mp later]
      rfl
    · cases later

theorem movePlayhead_tells (position : UInt64) (world : World H) :
    Tells [] world (movePlayhead position world) := by
  unfold movePlayhead
  split
  · simp [Tells]
  · simp [Tells]

end Echo.Client
