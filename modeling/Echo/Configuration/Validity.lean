import Echo.Configuration.Precedence
import Echo.Protocol.Launch

/-!
# When the initialiser throws

Validation looks at the collated configuration, in which empty values of the user do not
count and the keys that have to be there are filled in.  With defaults that are valid
themselves, only the name of the app and eleven values of the user are left that can make
the initialiser throw.
-/

namespace Echo.Client

open Dictionary

variable {H : Type}

/-! ## What is allowed -/

/-- The values that are allowed for a key; the other keys are not checked. -/
def allowedValues : EchoConfigKey → Option (List String)
  | .echoEnabled | .echoAutoStart | .comScoreEnabled | .testServiceEnabled | .useESS
  | .essHTTPSEnabled | .idv5Enabled | .webviewCookiesEnabled | .barbEnabled =>
      some ["true", "false"]
  | .echoCacheMode => some ["offline", "all"]
  | .comScoreDebugMode => some ["0", "1"]
  | _ => none

def Allowed (key : EchoConfigKey) (value : String) : Prop :=
  ∀ valid ∈ allowedValues key, value ∈ valid

instance (key : EchoConfigKey) (value : String) : Decidable (Allowed key value) :=
  inferInstanceAs (Decidable (∀ _ ∈ _, _))

/-- The keys that have to be there. -/
def mandatoryKeys : List EchoConfigKey :=
  [.echoEnabled, .echoAutoStart, .echoCacheMode, .useESS, .essHTTPSEnabled]

/-- The name of an app that is empty or nothing but white space. -/
def IsBlank (appName : String) : Prop :=
  appName = "" ∨ appName.toList.all isRegexSpace = true

/-- Every default that the library finds outside itself is allowed. -/
structure ValidDefaults (platform : Platform H) : Prop where
  cacheMode : Allowed .echoCacheMode (platform.cacheModeName .offline)
  comScore : ∀ key value, platform.comScoreDefaultConfig.lookup key = some value →
    Allowed key value
  spring : ∀ key value, platform.springDefaultConfig.lookup key = some value →
    Allowed key value
  atInternet : ∀ key value, platform.atInternetDefaultConfig.lookup key = some value →
    Allowed key value
  profiles : ∀ profile key value,
    (platform.getConfigForProfile profile).lookup key = some value → Allowed key value

/-! ## Validation -/

theorem Validation.seq_eq_ok_iff (first second : Validation) :
    (first >>= fun _ => second) = .ok () ↔ first = .ok () ∧ second = .ok () := by
  cases first with
  | error message => simp [bind, Except.bind]
  | ok value => simp [bind, Except.bind]

/-- A field that has to be there needs an allowed value. -/
theorem validateConfigField_mandatory_iff (platform : Platform H) (key : EchoConfigKey)
    (value : Option String) {valid : List String} (checked : valid ≠ []) :
    validateConfigField platform key value valid [] = .ok () ↔
      value.isSome = true ∧ ∀ given ∈ value, given ∈ valid := by
  cases value with
  | none => simp [validateConfigField]
  | some given => simp [validateConfigField, checked]

/-- An optional field needs an allowed value only if it is there. -/
theorem validateConfigField_optional_iff (platform : Platform H) (key : EchoConfigKey)
    (value : Option String) {valid : List String} (checked : valid ≠ []) :
    validateConfigField platform key value valid [.optional] = .ok () ↔
      ∀ given ∈ value, given ∈ valid := by
  cases value with
  | none => simp [validateConfigField]
  | some given => simp [validateConfigField, checked]

theorem validateConfigField_appName_iff (platform : Platform H) (appName : String) :
    validateConfigField platform .applicationName (some appName) []
        [.nonZeroLength, .noWhiteSpace] = .ok () ↔ ¬IsBlank appName := by
  by_cases empty : appName = ""
  · simp [validateConfigField, IsBlank, empty]
  · by_cases blank : appName.toList.all isRegexSpace = true
    · simp [validateConfigField, IsBlank, empty, blank]
    · simp [validateConfigField, IsBlank, empty, blank]

/-- Validation accepts a configuration exactly if the app has a name, the mandatory keys are
there, and every value is allowed. -/
theorem isValidConfig_iff (platform : Platform H) (appName : String) (config : Config) :
    isValidConfig platform appName config = .ok () ↔
      ¬IsBlank appName ∧ (∀ key ∈ mandatoryKeys, key ∈ config) ∧
        ∀ key value, config.lookup key = some value → Allowed key value := by
  have bools : boolValid ≠ [] := List.cons_ne_nil _ _
  have modes : ["offline", "all"] ≠ [] := List.cons_ne_nil _ _
  have digits : ["0", "1"] ≠ [] := List.cons_ne_nil _ _
  simp only [isValidConfig, Validation.seq_eq_ok_iff, validateConfigField_appName_iff,
    validateConfigField_mandatory_iff _ _ _ bools, validateConfigField_mandatory_iff _ _ _ modes,
    validateConfigField_optional_iff _ _ _ bools, validateConfigField_optional_iff _ _ _ digits,
    Finmap.lookup_isSome]
  constructor
  · rintro ⟨⟨hasEnabled, enabled⟩, ⟨hasAutoStart, autoStart⟩, named, ⟨hasCacheMode, cacheMode⟩,
      comScoreEnabled, comScoreDebugMode, testServiceEnabled, ⟨hasUseESS, useESS⟩,
      ⟨hasEssHTTPSEnabled, essHTTPSEnabled⟩, idv5Enabled, webviewCookiesEnabled, barbEnabled⟩
    refine ⟨named, ?_, ?_⟩
    · simp [mandatoryKeys, hasEnabled, hasAutoStart, hasCacheMode, hasUseESS, hasEssHTTPSEnabled]
    · intro key value found valid isValid
      cases key <;> cases isValid
      · exact enabled value found
      · exact autoStart value found
      · exact cacheMode value found
      · exact useESS value found
      · exact essHTTPSEnabled value found
      · exact idv5Enabled value found
      · exact webviewCookiesEnabled value found
      · exact comScoreEnabled value found
      · exact comScoreDebugMode value found
      · exact testServiceEnabled value found
      · exact barbEnabled value found
  · rintro ⟨named, present, allowed⟩
    have checked (key : EchoConfigKey) {valid : List String}
        (isValid : allowedValues key = some valid) :
        ∀ given ∈ config.lookup key, given ∈ valid := by
      intro given found
      exact allowed key given found valid isValid
    have mandatory (key : EchoConfigKey) (member : key ∈ mandatoryKeys) {valid : List String}
        (isValid : allowedValues key = some valid) :
        key ∈ config ∧ ∀ given ∈ config.lookup key, given ∈ valid :=
      ⟨present key member, checked key isValid⟩
    exact ⟨mandatory .echoEnabled (by decide) rfl, mandatory .echoAutoStart (by decide) rfl, named,
      mandatory .echoCacheMode (by decide) rfl, checked .comScoreEnabled rfl,
      checked .comScoreDebugMode rfl, checked .testServiceEnabled rfl,
      mandatory .useESS (by decide) rfl, mandatory .essHTTPSEnabled (by decide) rfl,
      checked .idv5Enabled rfl, checked .webviewCookiesEnabled rfl, checked .barbEnabled rfl⟩

/-! ## The collated configuration -/

theorem allowed_getDefaultConfig {platform : Platform H}
    (cacheMode : Allowed .echoCacheMode (platform.cacheModeName .offline)) {key : EchoConfigKey}
    {value : String} (found : (getDefaultConfig platform).lookup key = some value) :
    Allowed key value := by
  have written : getDefaultConfig platform = writeAll
      [⟨.echoEnabled, "true"⟩, ⟨.echoAutoStart, "true"⟩, ⟨.echoDebug, "false"⟩,
        ⟨.essURL, "ess.api.bbci.co.uk"⟩, ⟨.useESS, "false"⟩, ⟨.essHTTPSEnabled, "true"⟩,
        ⟨.echoCacheMode, platform.cacheModeName .offline⟩] ∅ := rfl
  rw [written] at found
  rcases lookup_writeAll found with entry | there
  · simp only [List.mem_cons, List.not_mem_nil, or_false, Sigma.mk.injEq, heq_eq_eq] at entry
    rcases entry with ⟨rfl, rfl⟩ | ⟨rfl, rfl⟩ | ⟨rfl, rfl⟩ | ⟨rfl, rfl⟩ | ⟨rfl, rfl⟩ | ⟨rfl, rfl⟩ |
      ⟨rfl, rfl⟩
    · decide
    · decide
    · decide
    · decide
    · decide
    · decide
    · exact cacheMode
  · rw [Finmap.lookup_empty] at there
    cases there

/-- With valid defaults every merged default is allowed. -/
theorem allowed_mergedDefault {platform : Platform H} (defaults : ValidDefaults platform)
    {userConfig : Option Config} {key : EchoConfigKey} {value : String}
    (merged : mergedDefault platform userConfig key = some value) : Allowed key value := by
  obtain ⟨layer, member, found⟩ := exists_of_layered merged
  simp only [defaultLayers, List.mem_cons, List.not_mem_nil, or_false] at member
  rcases member with rfl | rfl | rfl | rfl | rfl
  · unfold profileConfig at found
    split at found
    · exact defaults.profiles _ key value found
    · rw [Finmap.lookup_empty] at found
      cases found
  · exact defaults.atInternet key value found
  · exact defaults.spring key value found
  · exact defaults.comScore key value found
  · exact allowed_getDefaultConfig defaults.cacheMode found

theorem allowed_of_library {key : EchoConfigKey}
    (library : key = .measurementLibName ∨ key = .measurementLibVersion) (value : String) :
    Allowed key value := by
  rcases library with rfl | rfl
  · intro valid isValid
    cases isValid
  · intro valid isValid
    cases isValid

/-- With valid defaults only the user's own values can be invalid. -/
theorem isValidConfig_collateConfig_iff {platform : Platform H} (defaults : ValidDefaults platform)
    (appName : String) (userConfig : Option Config) :
    isValidConfig platform appName (collateConfig platform userConfig) = .ok () ↔
      ¬IsBlank appName ∧
        ∀ key value, userValue userConfig key = some value → Allowed key value := by
  have present : ∀ key ∈ mandatoryKeys, key ∈ collateConfig platform userConfig := by
    intro key member
    have default : key ∈ defaultKeys := by
      simp only [mandatoryKeys, List.mem_cons, List.not_mem_nil, or_false] at member
      rcases member with rfl | rfl | rfl | rfl | rfl <;> decide
    exact mem_collateConfig platform userConfig default
  have values : (∀ key value, (collateConfig platform userConfig).lookup key = some value →
      Allowed key value) ↔
        ∀ key value, userValue userConfig key = some value → Allowed key value := by
    apply forall_congr'
    intro key
    by_cases library : key = .measurementLibName ∨ key = .measurementLibVersion
    · exact iff_of_true (fun value _ => allowed_of_library library value)
        fun value _ => allowed_of_library library value
    · rw [not_or] at library
      rw [lookup_collateConfig platform userConfig library.1 library.2, configuredValue]
      constructor
      · intro allowed value supplied
        exact allowed value (Option.or_eq_some_iff.mpr (.inl supplied))
      · intro allowed value configured
        rcases Option.or_eq_some_iff.mp configured with supplied | ⟨_, merged⟩
        · exact allowed value supplied
        · exact allowed_mergedDefault defaults merged
  rw [isValidConfig_iff, values]
  constructor
  · rintro ⟨named, _, allowed⟩
    exact ⟨named, allowed⟩
  · rintro ⟨named, allowed⟩
    exact ⟨named, present, allowed⟩

/-! ## The initialiser -/

/-- The initialiser throws. -/
def Throws (platform : Platform H) (arguments : InitArguments) (store : H) (now : Date) : Prop :=
  ∃ error, (initialise platform arguments store now).2 = .error error

theorem throws_iff (platform : Platform H) (arguments : InitArguments) (store : H) (now : Date) :
    Throws platform arguments store now ↔
      isValidConfig platform arguments.appName
        (collateConfig platform arguments.config) ≠ .ok () := by
  unfold Throws initialise
  dsimp only
  split
  · rename_i message invalid
    simp [invalid]
  · rename_i valid
    simp [valid]

/-- The user gives a checked key a value that is not allowed. -/
def SuppliesInvalid (userConfig : Option Config) : Prop :=
  ∃ key value valid, userValue userConfig key = some value ∧ allowedValues key = some valid ∧
    value ∉ valid

theorem suppliesInvalid_iff (userConfig : Option Config) :
    SuppliesInvalid userConfig ↔
      ¬∀ key value, userValue userConfig key = some value → Allowed key value := by
  simp only [SuppliesInvalid, Allowed, Option.mem_def, not_forall, exists_prop]
  constructor
  · rintro ⟨key, value, valid, supplied, isValid, invalid⟩
    exact ⟨key, value, supplied, valid, isValid, invalid⟩
  · rintro ⟨key, value, supplied, valid, isValid, invalid⟩
    exact ⟨key, value, valid, supplied, isValid, invalid⟩

theorem throws_iff_invalid {platform : Platform H} (defaults : ValidDefaults platform)
    (arguments : InitArguments) (store : H) (now : Date) :
    Throws platform arguments store now ↔
      IsBlank arguments.appName ∨ SuppliesInvalid arguments.config := by
  rw [throws_iff, Ne, isValidConfig_collateConfig_iff defaults, not_and_or, not_not,
    suppliesInvalid_iff]

/-- A launched client does what the two switches of its configuration say. -/
structure StartsAsConfigured (platform : Platform H) (arguments : InitArguments)
    (world : World H) : Prop where
  enabled : configuredValue platform arguments.config .echoEnabled =
    some (if isEnabled world then "true" else "false")
  autoStart : configuredValue platform arguments.config .echoAutoStart =
    some (if world.client.settings.autoStart then "true" else "false")
  /-- It has started if both are on. -/
  started : world.client.hasStarted = (isEnabled world && world.client.settings.autoStart)
  told : ∀ index, heard index world.log = if world.client.hasStarted then [.start] else []

/-- A switch that passed validation is read as it is written. -/
theorem lookup_collateConfig_switch {platform : Platform H} {arguments : InitArguments}
    (accepted : isValidConfig platform arguments.appName
      (collateConfig platform arguments.config) = .ok ()) {key : EchoConfigKey}
    (mandatory : key ∈ mandatoryKeys) (switch : allowedValues key = some ["true", "false"]) :
    (collateConfig platform arguments.config).lookup key =
      some (if configFlag (collateConfig platform arguments.config) key then "true"
        else "false") := by
  obtain ⟨_, present, allowed⟩ := (isValidConfig_iff _ _ _).mp accepted
  obtain ⟨value, found⟩ := Finmap.mem_iff.mp (present key mandatory)
  have permitted := allowed key value found _ switch
  simp only [List.mem_cons, List.not_mem_nil, or_false] at permitted
  rcases permitted with rfl | rfl
  · simp [configFlag, found]
  · simp [configFlag, found]

theorem Launched.startsAsConfigured {platform : Platform H} {arguments : InitArguments}
    {world : World H} (launched : Launched platform arguments world) :
    StartsAsConfigured platform arguments world := by
  have accepted : isValidConfig platform arguments.appName
      (collateConfig platform arguments.config) = .ok () := by
    obtain ⟨store, now, initialised⟩ := launched
    by_contra rejected
    obtain ⟨error, thrown⟩ := (throws_iff platform arguments store now).mpr rejected
    rw [initialised] at thrown
    cases thrown
  have observed := launched.observe_eq
  have enabledEq : isEnabled world =
      configFlag (collateConfig platform arguments.config) .echoEnabled :=
    congrArg Protocol.State.enabled (observed 0)
  have autoStartEq : world.client.settings.autoStart =
      configFlag (collateConfig platform arguments.config) .echoAutoStart :=
    congrArg Settings.autoStart launched.settings_eq
  have startedEq : world.client.hasStarted =
      (configFlag (collateConfig platform arguments.config) .echoEnabled &&
        world.client.settings.autoStart) :=
    congrArg Protocol.State.started (observed 0)
  constructor
  · rw [enabledEq, ← lookup_collateConfig platform _ (by decide) (by decide)]
    exact lookup_collateConfig_switch accepted (by decide) rfl
  · rw [autoStartEq, ← lookup_collateConfig platform _ (by decide) (by decide)]
    exact lookup_collateConfig_switch accepted (by decide) rfl
  · rw [startedEq, enabledEq]
  · intro index
    rw [startedEq]
    exact congrArg Protocol.State.heard (observed index)

/-- The initialiser throws exactly on a blank name or an invalid value of the user for one of
the checked keys, which leaves out empty values and all other keys; if it returns, the client
does what its configuration says. -/
theorem initialise_throws_iff {platform : Platform H} (defaults : ValidDefaults platform)
    (arguments : InitArguments) :
    (∀ store now, Throws platform arguments store now ↔
      IsBlank arguments.appName ∨ SuppliesInvalid arguments.config) ∧
      (∀ config store now,
        (∀ key, (allowedValues key).isSome = true →
          userValue config key = userValue arguments.config key) →
        (Throws platform { arguments with config } store now ↔
          Throws platform arguments store now)) ∧
      ∀ world, Launched platform arguments world →
        StartsAsConfigured platform arguments world := by
  refine ⟨?_, ?_, ?_⟩
  · intro store now
    exact throws_iff_invalid defaults arguments store now
  · intro config store now same
    have sameInvalid : SuppliesInvalid config ↔ SuppliesInvalid arguments.config := by
      unfold SuppliesInvalid
      refine exists_congr fun key => exists_congr fun value => exists_congr fun valid => ?_
      constructor
      · rintro ⟨supplied, isValid, invalid⟩
        rw [same key (by rw [isValid]; rfl)] at supplied
        exact ⟨supplied, isValid, invalid⟩
      · rintro ⟨supplied, isValid, invalid⟩
        rw [← same key (by rw [isValid]; rfl)] at supplied
        exact ⟨supplied, isValid, invalid⟩
    rw [throws_iff_invalid defaults, throws_iff_invalid defaults, sameInvalid]
  · intro world launched
    exact launched.startsAsConfigured

/-- A user who names a reporting profile, and sets a switch. -/
def switchedEntries (echoEnabled : String) : List (Σ _ : EchoConfigKey, String) :=
  [⟨.reportingProfile, "World_Service"⟩, ⟨.echoEnabled, echoEnabled⟩]

/-- An environment whose delegates bring defaults of their own, with a reporting profile. -/
noncomputable def equippedPlatform : Platform Store :=
  { profiledPlatform with
    configOrder := .listing (switchedEntries "")
    comScoreDefaultConfig := Finmap.singleton .comScoreDebugMode "0"
    springDefaultConfig := Finmap.singleton .barbEnabled "true"
    atInternetDefaultConfig := Finmap.singleton .testServiceEnabled "false" }

theorem equippedPlatform_validDefaults : ValidDefaults equippedPlatform := by
  have single {name : EchoConfigKey} {text : String} (allowed : Allowed name text)
      (key : EchoConfigKey) (value : String)
      (found : (Finmap.singleton name text : Config).lookup key = some value) :
      Allowed key value := by
    cases Multiset.mem_singleton.mp (Finmap.lookup_eq_some_iff.mp found)
    exact allowed
  constructor
  · decide
  · exact single (by decide)
  · exact single (by decide)
  · exact single (by decide)
  · intro profile
    exact single (by decide)

def switchedArguments (echoEnabled : String) : InitArguments :=
  { defaultArguments with config := some (switchedEntries echoEnabled).toFinmap }

/-- The client whose user leaves the switch alone, as it comes out of its initialiser. -/
noncomputable def switchedWorld : World Store :=
  (initialise equippedPlatform (switchedArguments "") { user := signedOut } 0).1

theorem switchedWorld_launched :
    Launched equippedPlatform (switchedArguments "") switchedWorld :=
  ⟨{ user := signedOut }, 0, by
    unfold switchedWorld initialise
    have valid : isValidConfig equippedPlatform (switchedArguments "").appName
        (collateConfig equippedPlatform (switchedArguments "").config) = .ok () := by
      decide
    simp only [valid]⟩

/-- A switch with neither of its two values is rejected, an empty one is not. -/
theorem initialise_throws_iff_switched :
    Throws equippedPlatform (switchedArguments "invalid") { user := signedOut } 0 ∧
      ¬Throws equippedPlatform (switchedArguments "") { user := signedOut } 0 ∧
      StartsAsConfigured equippedPlatform (switchedArguments "") switchedWorld := by
  have invalid := initialise_throws_iff equippedPlatform_validDefaults
    (switchedArguments "invalid")
  have empty := initialise_throws_iff equippedPlatform_validDefaults (switchedArguments "")
  refine ⟨?_, ?_, empty.2.2 switchedWorld switchedWorld_launched⟩
  · exact (invalid.1 _ _).mpr
      (.inr ⟨.echoEnabled, "invalid", ["true", "false"], by decide, rfl, by decide⟩)
  · rw [empty.1]
    rintro (blank | ⟨key, value, valid, supplied, checked, _⟩)
    · exact absurd blank (by unfold IsBlank; decide)
    · have ignored : (allowedValues key).isSome = true →
          userValue (switchedArguments "").config key = none := by
        cases key with
        | other name => exact fun isChecked => absurd isChecked Bool.false_ne_true
        | _ => decide
      rw [ignored (by rw [checked]; rfl)] at supplied
      cases supplied

end Echo.Client
