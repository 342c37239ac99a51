import Mathlib.Data.Finmap

/-!
# Data of the Echo client

The values that the client stores, receives from the app and its brokers, and
hands to its delegates.  Enumerations whose cases are defined outside the
client keep the cases the client names; every further case is `other`.
Attributes of `Media` and `BBCUser` that the client never reads are left out.
-/

namespace Echo.Client

/-- A label dictionary `[String: String]`. -/
abbrev Labels := Finmap fun _ : String => String

/-- The dictionary literal `[key: value]`. -/
def Labels.single (key value : String) : Labels :=
  Finmap.singleton key value

/-! ## Media, brokers and delegates -/

inductive MediaConsumptionMode
  | live
  | onDemand
  | download
  deriving DecidableEq

/-- A media object.  `objectID` is its identity: a clone carries the attributes
of its original under another identity. -/
structure Media where
  objectID : Nat
  consumptionMode : MediaConsumptionMode
  isLive : Bool
  isEnrichedWithESSData : Bool
  length : UInt64
  isPlaying : Bool
  isBuffering : Bool
  deriving DecidableEq

namespace Media

/-- The object up to the attributes the client writes in place. -/
def identity (media : Media) : Media :=
  { media with length := 0, isPlaying := false, isBuffering := false }

/-- The attributes of the object, whichever object carries them. -/
def attributes (media : Media) : Media :=
  { media with objectID := 0 }

end Media

/-- Brokers, timers and player delegates are referred to by their creation
index. -/
abbrev BrokerRef := Nat

abbrev TimerRef := Nat

abbrev PlayerDelegate := Nat

inductive BrokerKind
  | live
  | onDemand
  deriving DecidableEq

/-- A broker is made idle; after that its phase is its last `start()` or `stop()`. -/
inductive BrokerPhase
  | made
  | started
  | stopped
  deriving DecidableEq

/-- What is known of a broker object: how it was made, its phase, and what
`getPosition()` answers. -/
structure BrokerState where
  kind : BrokerKind
  phase : BrokerPhase
  position : UInt64
  deriving DecidableEq

/-- A timer is pending until it fires or is invalidated. -/
structure TimerState where
  timeInterval : Int
  isPending : Bool
  deriving DecidableEq

/-- A delegate as the client sees it: whether it is a `ComScoreDelegate`, and
the answer of its `getDeviceID()`. -/
structure Delegate where
  isComScoreDelegate : Bool
  deviceID : Option String
  deriving DecidableEq

/-! ## Users -/

/-- A point in time, in whole seconds. -/
abbrev Date := Int

structure BBCUser where
  signedIn : Bool
  hashedID : Option String
  tokenRefreshTimestamp : Option Date
  deriving DecidableEq

inductive TokenState
  | valid
  | expired
  | validNoTimestamp
  | none
  deriving DecidableEq

inductive UserStateTransition
  | none
  | signIn
  | signOut
  | enablePersonalisation
  | disablePersonalisation
  deriving DecidableEq

inductive DeviceIDResetReason
  | firstInstall
  | echoUpgrade
  | userStateChange
  | other (code : Nat)
  deriving DecidableEq

structure UserPromiseHelperResult where
  deviceIDResetReason : Option DeviceIDResetReason
  userStateTransition : UserStateTransition
  isPostponedUserStateChange : Bool
  deriving DecidableEq

/-! ## Reporting -/

inductive EchoCacheMode
  | offline
  | all
  deriving DecidableEq

inductive EssError
  | statusCode
  | other (code : Nat)
  deriving DecidableEq

/-- The label keys the client itself writes or removes. -/
inductive EchoLabelKeys
  | bbcApplicationName
  | playerName
  | playerVersion
  | mediaTimestamp
  | essEnabled
  | essSuccess
  | essError
  | essStatusCode
  | essEnriched
  | isBackground
  deriving DecidableEq

inductive EchoDebugLevel
  | info
  | warn
  | error
  deriving DecidableEq

/-! Values the client passes on without inspecting them. -/

structure Destination where
  code : Nat
  deriving DecidableEq

structure Producer where
  code : Nat
  deriving DecidableEq

structure WindowState where
  code : Nat
  deriving DecidableEq

structure ManagedLabel where
  code : Nat
  deriving DecidableEq

structure ApplicationType where
  code : Nat
  deriving DecidableEq

/-! ## Configuration -/

/-- Configuration keys.  The client reads the named ones. -/
inductive EchoConfigKey
  | echoEnabled
  | echoAutoStart
  | echoDebug
  | echoCacheMode
  | echoDeviceID
  | essURL
  | useESS
  | essHTTPSEnabled
  | idv5Enabled
  | webviewCookiesEnabled
  | comscoreResetDataOnUserStateChange
  | comScoreEnabled
  | comScoreDebugMode
  | testServiceEnabled
  | barbEnabled
  | reportingProfile
  | applicationName
  | measurementLibName
  | measurementLibVersion
  | other (name : String)
  deriving DecidableEq

/-- A configuration dictionary `[EchoConfigKey: String]`. -/
abbrev Config := Finmap fun _ : EchoConfigKey => String

structure EchoProfile where
  code : Nat
  deriving DecidableEq

inductive EchoConfigValidationOptions
  | nonZeroLength
  | noWhiteSpace
  | optional
  deriving DecidableEq

inductive EchoInitialisationError
  | invalidConfig (reason : String)
  deriving DecidableEq

end Echo.Client
