import Echo.Client.Step
import Echo.Contract.Terms
import Echo.Transition.Log

/-!
# What the client is made of

Every operation of the client is a sequence of a few kinds of action: it logs, calls a
collaborator, or assigns to one of its properties.  A footprint is a set of actions; the
footprints below are those of the groups of operations, each relative to the calls that are
made on all delegates.
-/

namespace Echo.Client

open Echo.Transition

variable {H : Type}

/-! ## Actions -/

/-- A broker was made. -/
def Effect.MakesBroker : Effect → Prop
  | .makeLiveBroker _ _ _ _ _ | .makeOnDemandBroker _ _ => True
  | _ => False

inductive Action
  | debug (level : EchoDebugLevel) (message : String)
  /-- The same call on every delegate, and a call on one of them. -/
  | broadcast (call : DelegateCall)
  | callDelegate (index : Nat) (call : DelegateCall)
  | setCounterNameSet
  | setCacheMode (cacheMode : EchoCacheMode)
  | setPlayerDelegate (playerDelegate : PlayerDelegate)
  | writeSession (update : Session → Session)
  | callBroker (broker : BrokerRef) (call : BrokerCall)
  | movePlayhead (broker : BrokerRef) (position : UInt64)
  | adoptBroker (made : { made : Effect // made.MakesBroker }) (state : BrokerState)
  | adoptClone (media : Media)
  /-- Assignments to the user, the user set while disabled, and the user of the timer. -/
  | setPreviousUser (user : BBCUser)
  | keepUser (user : BBCUser)
  | forgetUser
  | setUserForTimer (user : Option BBCUser)
  | settleTimer (timer : TimerRef)
  | invalidateTimer (timer : TimerRef)
  | scheduleTimer (timeInterval : Int) (user : BBCUser)
  | callHelper (call : UserPromiseCall)
  | setStarted
  | setEnabled (enabled : Bool)
  | setClock (now : Date)

/-- What a call on the user promise helper does to its store. -/
def UserPromise.receive (helper : UserPromise H) (store : H) : UserPromiseCall → H
  | .setBBCUser user => (helper.setBBCUser user store).2
  | .getBBCUser => (helper.getBBCUser store).2
  | .getDeviceID => (helper.getDeviceID store).2
  | .clearWebviewCookies => helper.clearWebviewCookies store
  | .setPostponedUserStateTransition transition =>
      helper.setPostponedUserStateTransition transition store
  | .clearPostponedUserStateTransition => helper.clearPostponedUserStateTransition store

namespace Action

/-- The world after an action. -/
def apply (platform : Platform H) (world : World H) : Action → World H
  | debug level message => world.debug level message
  | broadcast call => world.broadcast call
  | callDelegate index call => world.emit (.delegate index call)
  | setCounterNameSet => { world with client := { world.client with counterNameSet := true } }
  | setCacheMode cacheMode => { world with client := { world.client with cacheMode } }
  | setPlayerDelegate playerDelegate => Client.setPlayerDelegate playerDelegate world
  | writeSession update => world.withSession update
  | callBroker broker call => world.callBroker broker call
  | movePlayhead broker position =>
      { world with
        brokers := world.brokers.modify broker fun state => { state with position } }
  | adoptBroker made state => world.adoptBroker made.val state
  | adoptClone media => Client.adoptClone platform media world
  | setPreviousUser user =>
      world.withUser fun state => { state with previousUser := some user }
  | keepUser user =>
      world.withUser fun state => { state with bbcUserSetWhileDisabled := some user }
  | forgetUser => world.withUser fun state => { state with bbcUserSetWhileDisabled := none }
  | setUserForTimer user => world.withUser fun state => { state with userForTimer := user }
  | settleTimer timer => world.settleTimer timer
  | invalidateTimer timer => world.emit (.invalidateTimer timer)
  | scheduleTimer timeInterval user => world.scheduleTimer timeInterval user
  | callHelper call =>
      { world with
        userPromise := platform.userPromise.receive world.userPromise call
        log := world.log ++ [.userPromise call] }
  | setStarted => world.setStarted
  | setEnabled enabled => world.setEnabled enabled
  | setClock now => { world with now }

/-- What an action adds to the log. -/
def effect (world : World H) : Action → Option Effect
  | debug level message => some (.debug level message)
  | broadcast call => some (.broadcast call world.client)
  | callDelegate index call => some (.delegate index call)
  | callBroker broker call => some (.broker broker call)
  | adoptBroker made _ => some made.val
  | invalidateTimer timer => some (.invalidateTimer timer)
  | scheduleTimer timeInterval user =>
      some (.scheduleTimer world.timers.length timeInterval user)
  | callHelper call => some (.userPromise call)
  | _ => none

theorem extends_apply (platform : Platform H) {allowed : Effect → Prop} {world : World H}
    {action : Action} (each : ∀ effect ∈ action.effect world, allowed effect) :
    Extends allowed world.log (action.apply platform world).log := by
  have appended : (action.apply platform world).log =
      world.log ++ (action.effect world).toList := by
    cases action with
    | debug level message => rfl
    | broadcast call => rfl
    | callDelegate index call => rfl
    | callBroker broker call => rfl
    | adoptBroker made state => rfl
    | invalidateTimer timer => rfl
    | scheduleTimer timeInterval user => rfl
    | callHelper call => rfl
    | _ => exact (List.append_nil _).symm
  refine ⟨_, appended, ?_⟩
  intro effect member
  exact each effect (Option.mem_toList.mp member)

/-- What is known of the client when it takes an action.  Nothing is promised to a delegate
that is called alone. -/
def Checked (world : World H) : Action → Prop
  | broadcast call => world.client.Honours call
  | callDelegate _ _ | callHelper .clearWebviewCookies => False
  | keepUser _ => eventsEnabled world = false
  | invalidateTimer _ | callHelper (.setPostponedUserStateTransition _) =>
      world.client.FollowsTokens
  | scheduleTimer timeInterval _ => world.client.FollowsTokens ∧ 0 < timeInterval
  | callHelper _ => world.client.FollowsUsers
  | _ => True

/-! ## Footprints -/

section Footprints

variable (calls : DelegateCall → Prop)

/-- The client only talks. -/
def Talks : Action → Prop
  | debug _ _ => True
  | broadcast call => calls call
  | _ => False

/-- It notes that it has a counter name. -/
def Names : Action → Prop
  | setCounterNameSet => True
  | action => action.Talks calls

/-- It notes a setting of the player. -/
def Adjusts : Action → Prop
  | setCacheMode _ | setPlayerDelegate _ => True
  | action => action.Talks calls

/-- It reports: it may note either. -/
def Reports : Action → Prop
  | setCounterNameSet | setCacheMode _ | setPlayerDelegate _ => True
  | action => action.Talks calls

/-- It runs a session. -/
def Plays : Action → Prop
  | writeSession _ | callBroker _ _ | movePlayhead _ _ => True
  | callDelegate _ call => calls call
  | action => action.Talks calls

/-- It runs a session, or opens one. -/
def Opens : Action → Prop
  | adoptClone _ | adoptBroker _ _ => True
  | action => action.Plays calls

/-- It closes a session, and turns itself off. -/
def Closes : Action → Prop
  | setEnabled enabled => enabled = false
  | action => action.Plays calls

/-- It attends to a user. -/
def Attends : Action → Prop
  | setPreviousUser _ | forgetUser | setUserForTimer _ | settleTimer _ | invalidateTimer _
  | scheduleTimer _ _ | callHelper _ => True
  | action => action.Talks calls

/-- It attends to a user, or keeps one for later. -/
def Receives : Action → Prop
  | keepUser _ => True
  | action => action.Attends calls

/-- It starts, and receives a user. -/
def Starts : Action → Prop
  | setStarted => True
  | action => action.Receives calls

/-- It turns itself on as well. -/
def Switches : Action → Prop
  | setEnabled enabled => enabled = true
  | action => action.Starts calls

/-- The calls that the action makes on delegates are among these. -/
def Tells : Action → Prop
  | broadcast call | callDelegate _ call => calls call
  | _ => True

end Footprints

variable {calls : DelegateCall → Prop} {action : Action}

theorem Names.reports (names : action.Names calls) : action.Reports calls := by
  cases action with
  | setCacheMode cacheMode => trivial
  | setPlayerDelegate playerDelegate => trivial
  | _ => exact names

theorem Adjusts.reports (adjusts : action.Adjusts calls) : action.Reports calls := by
  cases action with
  | setCounterNameSet => trivial
  | _ => exact adjusts

theorem Talks.names (talks : action.Talks calls) : action.Names calls := by
  cases action with
  | debug level message => trivial
  | broadcast call => exact talks
  | _ => exact talks.elim

theorem Talks.adjusts (talks : action.Talks calls) : action.Adjusts calls := by
  cases action with
  | debug level message => trivial
  | broadcast call => exact talks
  | _ => exact talks.elim

theorem Talks.plays (talks : action.Talks calls) : action.Plays calls := by
  cases action with
  | debug level message => trivial
  | broadcast call => exact talks
  | _ => exact talks.elim

theorem Plays.opens (plays : action.Plays calls) : action.Opens calls := by
  cases action with
  | adoptClone media => trivial
  | adoptBroker made state => trivial
  | _ => exact plays

theorem Plays.closes (plays : action.Plays calls) : action.Closes calls := by
  cases action with
  | setEnabled enabled => exact plays.elim
  | _ => exact plays

theorem Attends.receives (attends : action.Attends calls) : action.Receives calls := by
  cases action with
  | keepUser user => trivial
  | _ => exact attends

theorem Receives.starts (receives : action.Receives calls) : action.Starts calls := by
  cases action with
  | setStarted => trivial
  | _ => exact receives

theorem Starts.switches (starts : action.Starts calls) : action.Switches calls := by
  cases action with
  | setEnabled enabled => exact starts.elim
  | _ => exact starts

/-! A footprint makes no other calls than those it is relative to. -/

theorem Reports.tells (reports : action.Reports calls) : action.Tells calls := by
  cases action with
  | broadcast call => exact reports
  | callDelegate index call => exact reports.elim
  | _ => trivial

theorem Opens.tells (opens : action.Opens calls) : action.Tells calls := by
  cases action with
  | broadcast call => exact opens
  | callDelegate index call => exact opens
  | _ => trivial

theorem Switches.tells (switches : action.Switches calls) : action.Tells calls := by
  cases action with
  | broadcast call => exact switches
  | callDelegate index call => exact switches.elim
  | _ => trivial

theorem Starts.tells (starts : action.Starts calls) : action.Tells calls :=
  starts.switches.tells

theorem Plays.tells (plays : action.Plays calls) : action.Tells calls :=
  plays.opens.tells

theorem Talks.tells (talks : action.Talks calls) : action.Tells calls :=
  talks.plays.tells

theorem Receives.tells (receives : action.Receives calls) : action.Tells calls :=
  receives.starts.tells

theorem Attends.tells (attends : action.Attends calls) : action.Tells calls :=
  attends.receives.tells

end Action

end Echo.Client
