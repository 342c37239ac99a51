import Echo.Client.Reference
import Echo.Contract.Calls

/-!
# What delegates and the user promise helper can rely on

Everything a client ever does to its collaborators honours the contract, and only the search
for a device id makes a difference between its delegates.  One consequence is drawn: without
idv5 the user side of the client is dead.
-/

namespace Echo.Client

open Echo.Transition

variable {H : Type}

/-! ## Single delegates -/

/-- The calls that go to a single delegate. -/
def Effect.AsksDelegate (settings : Settings) : Effect → Prop
  | .delegate index call =>
      ∃ delegate, settings.delegates[index]? = some delegate ∧
        (call = .clearMedia ∨ call = .getDeviceID ∧ delegate.isComScoreDelegate = true)
  | _ => False

/-- What may stand in the log of a client with these settings once it is set up. -/
def Effect.Kept (settings : Settings) (effect : Effect) : Prop :=
  effect.Honoured settings ∨ effect.AsksDelegate settings

theorem asksDelegate_of_mem {settings : Settings} {effect : Effect}
    (member : effect ∈ settings.delegates.zipIdx.flatMap
      fun entry => deviceIDCalls entry.1 entry.2) : effect.AsksDelegate settings := by
  obtain ⟨⟨delegate, index⟩, listed, called⟩ := List.mem_flatMap.mp member
  have found : settings.delegates[index]? = some delegate := List.mem_zipIdx_iff_getElem?.mp listed
  unfold deviceIDCalls at called
  rcases List.mem_cons.mp called with rfl | asked
  · exact ⟨delegate, found, .inl rfl⟩
  · split at asked
    · rename_i comScore
      rw [List.mem_singleton.mp asked]
      exact ⟨delegate, found, .inr ⟨rfl, comScore⟩⟩
    · cases asked

/-! ## Steps -/

theorem step_kept (platform : Platform H) {world : World H} (watched : TimersWatched world)
    (op : Op) :
    Extends (Effect.Kept world.client.settings) world.log (step platform world op).log := by
  by_cases asks : op = .getComScoreDeviceID
  · subst asks
    rw [step, getComScoreDeviceID_eq]
    refine ⟨_, rfl, ?_⟩
    intro effect member
    exact .inr (asksDelegate_of_mem member)
  · exact (step_honest platform watched asks).log.mono fun _ honoured => .inl honoured

/-! ## Runs -/

theorem run_kept (platform : Platform H) {world : World H} (watched : TimersWatched world)
    (ops : List Op) :
    TimersWatched (run platform world ops) ∧
      Extends (Effect.Kept world.client.settings) world.log (run platform world ops).log := by
  have stepwise (reached : World H) (op : Op)
      (holds : reached.client.settings = world.client.settings ∧ TimersWatched reached ∧
        Extends (Effect.Kept world.client.settings) world.log reached.log) :
      (step platform reached op).client.settings = world.client.settings ∧
        TimersWatched (step platform reached op) ∧
        Extends (Effect.Kept world.client.settings) world.log (step platform reached op).log := by
    obtain ⟨settings, reachedWatched, kept⟩ := holds
    refine ⟨(step_settings platform reached op).trans settings,
      step_timersWatched platform reachedWatched op, kept.trans ?_⟩
    rw [← settings]
    exact step_kept platform reachedWatched op
  exact (invariant_run_of_step stepwise ⟨rfl, watched, .refl _ _⟩ ops).2

theorem prepare_timers (platform : Platform H) (arguments : InitArguments) (store : H)
    (now : Date) : (prepare platform arguments store now).timers = [] := by
  unfold prepare
  dsimp only
  split <;> rfl

theorem prepare_watched (platform : Platform H) (arguments : InitArguments) (store : H)
    (now : Date) : TimersWatched (prepare platform arguments store now) := by
  intro exist
  exact absurd (prepare_timers platform arguments store now) exist

/-- The end of the initialiser honours the contract. -/
theorem prepare_complete_honest (platform : Platform H) (arguments : InitArguments) (store : H)
    (now : Date) :
    Honest (prepare platform arguments store now)
      (complete platform (prepare platform arguments store now)) := by
  have started := @step_honest H platform _ (prepare_watched platform arguments store now)
    (.lifecycle .start) (by simp)
  have registered (started : World H) : Honest started started.register :=
    ⟨rfl, registrations, rfl, by simp [registrations, Effect.Honoured]⟩
  rw [complete_eq]
  split
  · exact started.trans (registered _)
  · exact registered _

/-- The whole log of a run: the initialiser's own entries up to validation, and entries that
honour the contract. -/
theorem Launched.run_log_eq {platform : Platform H} {arguments : InitArguments}
    {world : World H} (launched : Launched platform arguments world) (ops : List Op) :
    TimersWatched (run platform world ops) ∧ ∃ entries, (run platform world ops).log =
      [debugSettings (collateConfig platform arguments.config)] ++
        cookieCalls platform arguments ++ [delegateRequest platform arguments] ++ entries ∧
      ∀ effect ∈ entries, effect.Kept world.client.settings := by
  obtain ⟨store, now, rfl⟩ := launched.exists_complete
  have prepared := prepare_watched platform arguments store now
  have completed := prepare_complete_honest platform arguments store now
  have watched : TimersWatched (complete platform (prepare platform arguments store now)) := by
    rw [complete_eq]
    split
    · exact step_timersWatched platform prepared (.lifecycle .start)
    · exact prepared
  obtain ⟨runWatched, entries, runLog, kept⟩ := run_kept platform watched ops
  obtain ⟨first, completeLog, honoured⟩ := completed.log
  refine ⟨runWatched, first ++ entries, ?_, ?_⟩
  · rw [runLog, completeLog, prepare_log_eq, List.append_assoc]
  · intro effect member
    rcases List.mem_append.mp member with added | later
    · rw [completed.settings]
      exact .inl (honoured effect added)
    · exact kept effect later

/-- The entries up to validation concern no delegate. -/
theorem receivedBy_setup {platform : Platform H} {arguments : InitArguments} {effect : Effect}
    (member : effect ∈ [debugSettings (collateConfig platform arguments.config)] ++
      cookieCalls platform arguments ++ [delegateRequest platform arguments]) :
    effect = .userPromise .clearWebviewCookies ∨
      (∀ call client, effect ≠ .broadcast call client) ∧
        (∀ index call, effect ≠ .delegate index call) ∧
          ∀ call, effect ≠ .userPromise call := by
  obtain ⟨isDebugEnabled, level, settings⟩ := debugSettings_eq
    (collateConfig platform arguments.config)
  rw [settings, List.mem_append, List.mem_append] at member
  rcases member with (debugged | cleared) | requested
  · rw [List.mem_singleton.mp debugged]
    exact .inr ⟨by simp, by simp, by simp⟩
  · unfold cookieCalls at cleared
    split at cleared
    · cases cleared
    · exact .inl (List.mem_singleton.mp cleared)
  · rw [List.mem_singleton.mp requested]
    exact .inr ⟨by simp [delegateRequest], by simp [delegateRequest], by simp [delegateRequest]⟩

/-! ## The contract with the delegates -/

/-- Every call that a delegate has received honoured the contract, and the only calls that not
all of them received are those that look for the device id of ComScore. -/
structure DelegateContract (world : World H) : Prop where
  broadcasts : ∀ call client, .broadcast call client ∈ world.log →
    client.settings = world.client.settings ∧ client.Honours call
  single : ∀ index call, .delegate index call ∈ world.log →
    ∃ delegate, world.client.settings.delegates[index]? = some delegate ∧
      (call = .clearMedia ∨ call = .getDeviceID ∧ delegate.isComScoreDelegate = true)

theorem Launched.broadcast_honoured {platform : Platform H} {arguments : InitArguments}
    {world : World H} (launched : Launched platform arguments world) {ops : List Op}
    {call : DelegateCall} {client : EchoClient}
    (member : .broadcast call client ∈ (run platform world ops).log) :
    client.settings = (run platform world ops).client.settings ∧ client.Honours call := by
  obtain ⟨_, entries, logEq, kept⟩ := launched.run_log_eq ops
  rw [run_settings]
  rw [logEq] at member
  rcases List.mem_append.mp member with setup | later
  · rcases receivedBy_setup setup with cleared | ⟨notBroadcast, _, _⟩
    · cases cleared
    · exact absurd rfl (notBroadcast call client)
  · rcases kept _ later with honoured | asks
    · exact honoured
    · exact asks.elim

theorem Launched.delegate_asked {platform : Platform H} {arguments : InitArguments}
    {world : World H} (launched : Launched platform arguments world) {ops : List Op}
    {index : Nat} {call : DelegateCall}
    (member : .delegate index call ∈ (run platform world ops).log) :
    ∃ delegate, (run platform world ops).client.settings.delegates[index]? = some delegate ∧
      (call = .clearMedia ∨ call = .getDeviceID ∧ delegate.isComScoreDelegate = true) := by
  obtain ⟨_, entries, logEq, kept⟩ := launched.run_log_eq ops
  rw [run_settings]
  rw [logEq] at member
  rcases List.mem_append.mp member with setup | later
  · rcases receivedBy_setup setup with cleared | ⟨_, notSingle, _⟩
    · cases cleared
    · exact absurd rfl (notSingle index call)
  · rcases kept _ later with honoured | asks
    · exact honoured.elim
    · exact asks

theorem Launched.delegate_not_mem {platform : Platform H} {arguments : InitArguments}
    {world : World H} (launched : Launched platform arguments world) (index : Nat)
    (call : DelegateCall) : .delegate index call ∉ world.log := by
  obtain ⟨store, now, rfl⟩ := launched.exists_complete
  obtain ⟨entries, logEq, honoured⟩ := (prepare_complete_honest platform arguments store now).log
  rw [logEq, prepare_log_eq, List.mem_append]
  rintro (setup | later)
  · rcases receivedBy_setup setup with cleared | ⟨_, notSingle, _⟩
    · cases cleared
    · exact notSingle index call rfl
  · exact honoured _ later

def Effect.helperCall : Effect → Option UserPromiseCall
  | .userPromise call => some call
  | _ => none

/-- The calls that the user promise helper has received. -/
def helperCalls (log : List Effect) : List UserPromiseCall :=
  log.filterMap Effect.helperCall

theorem mem_helperCalls_iff {call : UserPromiseCall} {log : List Effect} :
    call ∈ helperCalls log ↔ .userPromise call ∈ log := by
  rw [helperCalls, List.mem_filterMap]
  constructor
  · rintro ⟨effect, member, selected⟩
    cases effect with
    | userPromise other =>
        cases selected
        exact member
    | _ => cases selected
  · intro member
    exact ⟨_, member, rfl⟩

theorem helperCalls_setup (platform : Platform H) (arguments : InitArguments) :
    helperCalls ([debugSettings (collateConfig platform arguments.config)] ++
      cookieCalls platform arguments ++ [delegateRequest platform arguments]) =
      if configFlag (collateConfig platform arguments.config) .idv5Enabled then []
      else [.clearWebviewCookies] := by
  obtain ⟨isDebugEnabled, level, settings⟩ := debugSettings_eq
    (collateConfig platform arguments.config)
  rw [settings, cookieCalls]
  cases configFlag (collateConfig platform arguments.config) .idv5Enabled with
  | true => rfl
  | false => rfl

/-- What the two switches of the user side turn off. -/
structure UserSwitches (world : World H) : Prop where
  /-- Without idv5 the helper clears its cookies and is never called again. -/
  helper : world.client.settings.idv5Enabled = false →
    helperCalls world.log = [.clearWebviewCookies]
  users : world.client.settings.idv5Enabled = false →
    ∀ index, ∀ call ∈ received index world.log, call.kind ≠ .user
  /-- With idv5 the cookies are left alone. -/
  cookies : world.client.settings.idv5Enabled = true →
    .clearWebviewCookies ∉ helperCalls world.log
  /-- Unless tokens are watched nothing is scheduled and no change of the user is put off. -/
  timers : ¬world.client.settings.WatchesTokens → world.timers = []
  postponed : ¬world.client.settings.WatchesTokens →
    ∀ transition, .setPostponedUserStateTransition transition ∉ helperCalls world.log
  stateChanges : ¬world.client.settings.WatchesTokens →
    ∀ index, .userStateChange ∉ received index world.log

section Switches

variable {platform : Platform H} {arguments : InitArguments} {world : World H}
  (launched : Launched platform arguments world) (ops : List Op)

include launched

/-- After the calls of the initialiser, the helper is called as the contract says. -/
theorem Launched.helperCalls_run :
    ∃ later, helperCalls (run platform world ops).log =
        (if (run platform world ops).client.settings.idv5Enabled then []
          else [.clearWebviewCookies]) ++ later ∧
      ∀ call ∈ later,
        Effect.Honoured (run platform world ops).client.settings (.userPromise call) := by
  obtain ⟨_, entries, logEq, kept⟩ := launched.run_log_eq ops
  have idv5Eq : world.client.settings.idv5Enabled =
      configFlag (collateConfig platform arguments.config) .idv5Enabled :=
    congrArg Settings.idv5Enabled launched.settings_eq
  rw [run_settings, idv5Eq, ← helperCalls_setup platform arguments, logEq]
  refine ⟨helperCalls entries, List.filterMap_append, ?_⟩
  intro call member
  rcases kept _ (mem_helperCalls_iff.mp member) with honoured | asks
  · exact honoured
  · exact asks.elim

variable {ops}

/-- A call about users was promised by the client that made it. -/
theorem Launched.user_promised {index : Nat} {call : DelegateCall}
    (member : call ∈ received index (run platform world ops).log) (isUser : call.kind = .user) :
    ∃ client : EchoClient, client.settings = (run platform world ops).client.settings ∧
      client.Honours call := by
  obtain ⟨effect, logged, selected⟩ := List.mem_filterMap.mp member
  cases effect with
  | broadcast other client =>
      cases selected
      exact ⟨client, launched.broadcast_honoured logged⟩
  | delegate other single =>
      have delivered : (if other = index then some single else none) = some call := selected
      rw [Option.ite_none_right_eq_some] at delivered
      obtain ⟨_, callEq⟩ := delivered
      cases callEq
      obtain ⟨_, _, rfl | ⟨rfl, _⟩⟩ := launched.delegate_asked logged
      · cases isUser
      · cases isUser
  | _ => cases selected

theorem Launched.helperCalls_of_off
    (off : (run platform world ops).client.settings.idv5Enabled = false) :
    helperCalls (run platform world ops).log = [.clearWebviewCookies] := by
  obtain ⟨later, calls, honoured⟩ := launched.helperCalls_run ops
  have silent : later = [] := by
    rw [List.eq_nil_iff_forall_not_mem]
    intro call member
    have allowed := honoured call member
    cases call with
    | clearWebviewCookies => exact allowed
    | setPostponedUserStateTransition transition =>
        exact absurd (allowed.1.symm.trans off) (by decide)
    | _ => exact absurd (allowed.symm.trans off) (by decide)
  rw [calls, silent, off]
  rfl

theorem Launched.received_kind_of_off
    (off : (run platform world ops).client.settings.idv5Enabled = false) {index : Nat}
    {call : DelegateCall} (member : call ∈ received index (run platform world ops).log) :
    call.kind ≠ .user := by
  intro isUser
  obtain ⟨client, same, honours⟩ := launched.user_promised member isUser
  have idv5 : client.settings.idv5Enabled = false := same ▸ off
  cases call with
  | updateDeviceID deviceID => exact absurd (honours.2.2.symm.trans idv5) (by decide)
  | updateBBCUserLabels user => exact absurd (honours.2.1.symm.trans idv5) (by decide)
  | userStateChange => exact absurd (honours.1.2.2.symm.trans idv5) (by decide)
  | _ => cases isUser

theorem Launched.cookies_of_on
    (on : (run platform world ops).client.settings.idv5Enabled = true) :
    .clearWebviewCookies ∉ helperCalls (run platform world ops).log := by
  obtain ⟨later, calls, honoured⟩ := launched.helperCalls_run ops
  intro member
  rw [calls, on, if_pos rfl, List.nil_append] at member
  exact honoured _ member

theorem Launched.timers_of_unwatched
    (unwatched : ¬(run platform world ops).client.settings.WatchesTokens) :
    (run platform world ops).timers = [] := by
  by_contra exist
  exact unwatched ((launched.run_log_eq ops).1 exist).2

theorem Launched.not_postponed_of_unwatched
    (unwatched : ¬(run platform world ops).client.settings.WatchesTokens)
    (transition : UserStateTransition) :
    .setPostponedUserStateTransition transition ∉ helperCalls (run platform world ops).log := by
  obtain ⟨later, calls, honoured⟩ := launched.helperCalls_run ops
  intro member
  rw [calls] at member
  rcases List.mem_append.mp member with setup | postponed
  · split at setup
    · cases setup
    · cases List.mem_singleton.mp setup
  · exact unwatched (honoured _ postponed)

theorem Launched.not_stateChange_of_unwatched
    (unwatched : ¬(run platform world ops).client.settings.WatchesTokens) (index : Nat) :
    .userStateChange ∉ received index (run platform world ops).log := by
  intro member
  obtain ⟨client, same, follows, reset⟩ := launched.user_promised member rfl
  rw [← same] at unwatched
  exact unwatched ⟨follows.2.2, reset⟩

end Switches

theorem userSwitches_run {platform : Platform H} {arguments : InitArguments}
    {world : World H} (launched : Launched platform arguments world) (ops : List Op) :
    UserSwitches (run platform world ops) where
  helper := launched.helperCalls_of_off
  users off _ _ member := launched.received_kind_of_off off member
  cookies := launched.cookies_of_on
  timers := launched.timers_of_unwatched
  postponed := launched.not_postponed_of_unwatched
  stateChanges := launched.not_stateChange_of_unwatched

theorem userSwitches_off :
    helperCalls (run reference launchedWorld
      [.lifecycle (.setBBCUser signedInUser), .lifecycle .disable, .lifecycle .enable,
        .fireTimer 0]).log = [.clearWebviewCookies] :=
  (userSwitches_run launchedWorld_launched _).helper rfl

end Echo.Client
