import Echo.Client.Configuration
import Echo.Client.Lifecycle

/-!
# Initialising the client

The initialiser performs its effects in the order of the source: it reads the
collated configuration, creates the delegates, validates, and only then starts
the client and registers for notifications.
-/

namespace Echo.Client

variable {H : Type}

structure InitArguments where
  appName : String
  appType : ApplicationType
  startCounterName : String
  config : Option Config
  bbcUser : BBCUser

/-- The debug settings that a configuration asks for. -/
def debugSettings (collatedConfig : Config) : Effect :=
  match collatedConfig.lookup .echoDebug with
  | some "true" => .setDebug true (some .warn)
  | some "info" => .setDebug true (some .info)
  | some "warn" => .setDebug true (some .warn)
  | some "error" => .setDebug true (some .error)
  | _ => .setDebug false none

theorem debugSettings_eq (collatedConfig : Config) :
    ∃ isDebugEnabled level, debugSettings collatedConfig = .setDebug isDebugEnabled level := by
  unfold debugSettings
  split
  · exact ⟨_, _, rfl⟩
  · exact ⟨_, _, rfl⟩
  · exact ⟨_, _, rfl⟩
  · exact ⟨_, _, rfl⟩
  · exact ⟨_, _, rfl⟩

def configFlag (collatedConfig : Config) (key : EchoConfigKey) : Bool :=
  collatedConfig.lookup key == some "true"

/-- The properties assigned from the configuration, before there are delegates. -/
def configuredClient (platform : Platform H) (collatedConfig : Config)
    (bbcUser : BBCUser) : EchoClient where
  settings :=
    { autoStart := configFlag collatedConfig .echoAutoStart
      essUrl := collatedConfig.lookup .essURL
      essEnabled := configFlag collatedConfig .useESS
      useHttps := true
      idv5Enabled := configFlag collatedConfig .idv5Enabled
      resetDataOnUserStateChangeEnabled :=
        configFlag collatedConfig .idv5Enabled &&
          configFlag collatedConfig .comscoreResetDataOnUserStateChange
      delegates := [] }
  echoEnabled := configFlag collatedConfig .echoEnabled
  cacheMode := platform.cacheModeGetEnum
    ((collatedConfig.lookup .echoCacheMode).getD "offline")
  user := { bbcUserSetWhileDisabled := some bbcUser }

/-- Ask the factory for the delegates and keep them. -/
def createDelegates (platform : Platform H) (arguments : InitArguments)
    (collatedConfig : Config) (world : World H) : World H :=
  let cleanAppName := platform.cleanLabelValue
    (platform.labelKey .bbcApplicationName) arguments.appName
  let cleanStartCounterName := platform.cleanCountername arguments.startCounterName
  let delegates := platform.getDelegates cleanAppName arguments.appType
    cleanStartCounterName collatedConfig arguments.bbcUser
  let world := world.emit (.getDelegates cleanAppName arguments.appType
    cleanStartCounterName collatedConfig arguments.bbcUser)
  { world with client := { world.client with
    settings := { world.client.settings with delegates } } }

/-- The client before validation, in a world with the given helper store and
time. -/
def prepare (platform : Platform H) (arguments : InitArguments) (store : H) (now : Date) :
    World H :=
  -- The source also works out a `deviceId` here, which nothing reads.
  let collatedConfig := collateConfig platform arguments.config
  let world : World H :=
    { client := configuredClient platform collatedConfig arguments.bbcUser
      now
      userPromise := platform.userPromise.create
        (configFlag collatedConfig .webviewCookiesEnabled) store
      log := [debugSettings collatedConfig] }
  let world := if !world.client.settings.idv5Enabled then
      (world.callUserPromise .clearWebviewCookies fun store =>
        ((), platform.userPromise.clearWebviewCookies store)).2
    else world
  createDelegates platform arguments collatedConfig world

/-- The end of the initialiser, which is reached with a valid configuration. -/
def complete (platform : Platform H) (world : World H) : World H :=
  let world := if world.client.echoEnabled && world.client.settings.autoStart then
      start platform world
    else world
  let world := world.debug .info "Library initialised"
  let world := world.emit (.addObserver "UIApplication.willEnterForegroundNotification")
  world.emit (.addObserver "UIApplication.didEnterBackgroundNotification")

/-- The entries that the end of the initialiser adds to the log. -/
def registrations : List Effect :=
  [.debug .info "Library initialised",
    .addObserver "UIApplication.willEnterForegroundNotification",
    .addObserver "UIApplication.didEnterBackgroundNotification"]

@[simps]
def World.register (world : World H) : World H :=
  { world with log := world.log ++ registrations }

/-- After a start that is due, the end of the initialiser only writes to the log. -/
theorem complete_eq (platform : Platform H) (world : World H) :
    complete platform world =
      (if world.client.echoEnabled && world.client.settings.autoStart then start platform world
        else world).register := by
  simp only [complete, World.register, registrations, World.debug, World.emit, List.append_assoc,
    List.cons_append, List.nil_append]

/-- The initialiser: the world it leaves, and the error if it throws. -/
def initialise (platform : Platform H) (arguments : InitArguments) (store : H) (now : Date) :
    World H × Except EchoInitialisationError Unit :=
  let world := prepare platform arguments store now
  match isValidConfig platform arguments.appName (collateConfig platform arguments.config) with
  | .error message =>
      (world.debug .error message,
        .error (.invalidConfig "The provided configuration was invalid."))
  | .ok () => (complete platform world, .ok ())

/-- A world in which the initialiser has just returned normally. -/
def Launched (platform : Platform H) (arguments : InitArguments) (world : World H) : Prop :=
  ∃ store now, initialise platform arguments store now = (world, .ok ())

/-- A launched client has gone through validation. -/
theorem Launched.exists_complete {platform : Platform H} {arguments : InitArguments}
    {world : World H} (launched : Launched platform arguments world) :
    ∃ store now, world = complete platform (prepare platform arguments store now) := by
  obtain ⟨store, now, initialised⟩ := launched
  unfold initialise at initialised
  dsimp only at initialised
  split at initialised
  · cases initialised
  · exact ⟨store, now, (congrArg Prod.fst initialised).symm⟩

/-- The client that validation finds: its properties come from the
configuration, and its delegates from the factory. -/
theorem prepare_client (platform : Platform H) (arguments : InitArguments) (store : H)
    (now : Date) :
    ∃ delegates,
      (prepare platform arguments store now).client =
        { configuredClient platform (collateConfig platform arguments.config)
            arguments.bbcUser with
          settings :=
            { (configuredClient platform (collateConfig platform arguments.config)
                arguments.bbcUser).settings with delegates } } := by
  unfold prepare
  dsimp only
  split
  · exact ⟨_, rfl⟩
  · exact ⟨_, rfl⟩

end Echo.Client
