import Echo.Client.Step

/-!
# A reference environment

One environment in which everything assumed of the collaborators holds.  Labels
pass through the cleanser unchanged, media are cloned attribute by attribute, a
token lives for a day, and the user promise helper keeps its last user, one slot
for a postponed transition, and whether the library was upgraded.
-/

namespace Echo.Client

/-- The configuration entries that have the client track its users. -/
def trackingEntries : List (Σ _ : EchoConfigKey, String) :=
  [⟨.idv5Enabled, "true"⟩, ⟨.comscoreResetDataOnUserStateChange, "true"⟩]

/-- The persistent store of the reference helper. -/
structure Store where
  user : BBCUser
  slot : Option UserStateTransition := none
  upgraded : Bool := false
  deriving DecidableEq

namespace Store

/-- The change of state from the stored user to the next. -/
def transition (store : Store) (user : BBCUser) : UserStateTransition :=
  match store.user.signedIn, user.signedIn with
  | false, true => .signIn
  | true, false => .signOut
  | _, _ => .none

def resetReason (store : Store) (user : BBCUser) : Option DeviceIDResetReason :=
  if store.upgraded then some .echoUpgrade
  else if store.transition user = .none then none
  else some .userStateChange

end Store

def referenceHelper : UserPromise Store where
  create _ store := store
  setBBCUser user store :=
    ({ deviceIDResetReason := store.resetReason user
       userStateTransition := store.slot.getD (store.transition user)
       isPostponedUserStateChange := store.slot.isSome },
      { store with user, upgraded := false })
  getBBCUser store := (store.user, store)
  getDeviceID store := (some "device", store)
  clearWebviewCookies store := store
  setPostponedUserStateTransition transition store := { store with slot := some transition }
  clearPostponedUserStateTransition store := { store with slot := none }

/-- The life of a token, in seconds. -/
def tokenLife : Int := 86400

noncomputable def reference : Platform Store where
  cleanLabelKey key := key
  cleanLabelValue _ value := value
  cleanCountername name := name
  labelOrder := .listing []
  configOrder := .listing trackingEntries
  labelKey
    | .bbcApplicationName => "app_name"
    | .playerName => "media_player_name"
    | .playerVersion => "media_player_version"
    | .mediaTimestamp => "media_timestamp"
    | .essEnabled => "ess_enabled"
    | .essSuccess => "ess_success"
    | .essError => "ess_error"
    | .essStatusCode => "ess_status_code"
    | .essEnriched => "ess_enriched"
    | .isBackground => "is_background"
  essErrorValue
    | .statusCode => "status_code"
    | .other code => toString code
  transitionValue
    | .none => "none"
    | .signIn => "sign_in"
    | .signOut => "sign_out"
    | .enablePersonalisation => "enable_personalisation"
    | .disablePersonalisation => "disable_personalisation"
  resetReasonValue
    | .firstInstall => "first_install"
    | .echoUpgrade => "echo_upgrade"
    | .userStateChange => "user_state_change"
    | .other code => toString code
  managedLabelName label := toString label.code
  configKeyName _ := "key"
  cacheModeName
    | .offline => "offline"
    | .all => "all"
  cacheModeGetEnum name := if name = "all" then .all else .offline
  producerFromName _ := none
  masterbrandProducer _ := none
  trim value := value
  lowercased value := value
  getClone media := media
  tokenState user now :=
    if !user.signedIn then .none
    else match user.tokenRefreshTimestamp with
      | none => .validNoTimestamp
      | some timestamp =>
          if now < timestamp then .validNoTimestamp
          else if now - timestamp < tokenLife then .valid
          else .expired
  getTimeUntilTokenExpiry user now :=
    match user.tokenRefreshTimestamp with
    | none => 0
    | some timestamp => timestamp + tokenLife - now
  userPromise := referenceHelper
  getDelegates _ _ _ _ _ := [{ isComScoreDelegate := true, deviceID := some "device" }]
  brokerPosition _ _ _ := 0
  comScoreDefaultConfig := ∅
  springDefaultConfig := ∅
  atInternetDefaultConfig := ∅
  echoProfile _ := none
  getConfigForProfile _ := ∅

/-- Live media, before and after its enrichment with schedule data. -/
def liveMedia (isEnrichedWithESSData : Bool) : Media :=
  { objectID := 0
    consumptionMode := .live
    isLive := true
    isEnrichedWithESSData
    length := 0
    isPlaying := false
    isBuffering := false }

def signedOut : BBCUser := ⟨false, none, none⟩

/-- A user whose token was refreshed at time zero. -/
def signedInUser : BBCUser := ⟨true, some "user", some 0⟩

/-- Arguments that ask for nothing but the defaults. -/
def defaultArguments : InitArguments where
  appName := "app"
  appType := ⟨0⟩
  startCounterName := "app.page"
  config := none
  bbcUser := signedOut

/-- The reference client as it comes out of its initialiser. -/
noncomputable def launchedWorld : World Store :=
  (initialise reference defaultArguments { user := signedOut } 0).1

theorem launchedWorld_launched : Launched reference defaultArguments launchedWorld :=
  ⟨{ user := signedOut }, 0, by
    unfold launchedWorld initialise
    have valid : isValidConfig reference defaultArguments.appName
        (collateConfig reference defaultArguments.config) = .ok () := by
      rfl
    simp only [valid]⟩

/-! ## A client that tracks its users -/

/-- Arguments with idv5 on, and with a reset of the data when the user changes. -/
def trackingArguments (bbcUser : BBCUser) : InitArguments :=
  { defaultArguments with config := some trackingEntries.toFinmap, bbcUser }

/-- The reference client that tracks its users as it comes out of its initialiser. -/
noncomputable def trackingWorld (bbcUser : BBCUser) (store : Store) : World Store :=
  (initialise reference (trackingArguments bbcUser) store 0).1

theorem trackingWorld_launched (bbcUser : BBCUser) (store : Store) :
    Launched reference (trackingArguments bbcUser) (trackingWorld bbcUser store) :=
  ⟨store, 0, by
    have valid : isValidConfig reference defaultArguments.appName
        (collateConfig reference (some trackingEntries.toFinmap)) = .ok () := by
      decide
    simp only [trackingWorld, initialise, trackingArguments, valid]⟩

end Echo.Client
