import Echo.Client.Reference
import Echo.Dictionary.Layers

/-!
# Which configuration value counts

`collateConfig` merges six dictionaries one after the other and sets two entries last.
Seen from its result, a key has the value of the first dictionary that defines it: the
user's own, as far as it is not empty, then the reporting profile, then the defaults of
the delegates and of the library.
-/

namespace Echo.Client

open Dictionary

variable {H : Type}

/-! ## The layers -/

/-- The user's value of a key, if there is one and it is not empty. -/
def userValue (userConfig : Option Config) (key : EchoConfigKey) : Option String :=
  (userConfig.bind fun config => config.lookup key).filter fun value => !value.isEmpty

/-- The dictionary of the reporting profile that the user names, if it is known. -/
def profileConfig (platform : Platform H) (userConfig : Option Config) : Config :=
  match userConfig.bind (reportingProfile platform) with
  | some profile => platform.getConfigForProfile profile
  | none => ∅

/-- What lies under the user's values, the dictionary that decides first in front. -/
def defaultLayers (platform : Platform H) (userConfig : Option Config) : List Config :=
  [profileConfig platform userConfig, platform.atInternetDefaultConfig,
    platform.springDefaultConfig, platform.comScoreDefaultConfig, getDefaultConfig platform]

def mergedDefault (platform : Platform H) (userConfig : Option Config) (key : EchoConfigKey) :
    Option String :=
  layered (defaultLayers platform userConfig) key

/-- The user's value if there is one, and else the merged default. -/
def configuredValue (platform : Platform H) (userConfig : Option Config) (key : EchoConfigKey) :
    Option String :=
  (userValue userConfig key).or (mergedDefault platform userConfig key)

/-- The keys that the library defines itself. -/
def defaultKeys : List EchoConfigKey :=
  [.echoEnabled, .echoAutoStart, .echoDebug, .essURL, .useESS, .essHTTPSEnabled, .echoCacheMode]

/-! ## Collation -/

theorem Config.lookup_merge (config other : Config) (key : EchoConfigKey) :
    (config.merge other).lookup key = (other.lookup key).or (config.lookup key) :=
  lookup_union other config key

theorem lookup_applyUserConfig (platform : Platform H) (userConfig config : Config)
    (key : EchoConfigKey) :
    (applyUserConfig platform userConfig config).lookup key =
      (userValue (some userConfig) key).or
        (((profileConfig platform (some userConfig)).lookup key).or (config.lookup key)) := by
  have profiled : (match reportingProfile platform userConfig with
      | some profile => Config.merge config (platform.getConfigForProfile profile)
      | none => config).lookup key =
        ((profileConfig platform (some userConfig)).lookup key).or (config.lookup key) := by
    rw [profileConfig, Option.bind_some]
    cases reportingProfile platform userConfig with
    | none => rfl
    | some profile => exact Config.lookup_merge config _ key
  rw [← profiled]
  exact lookup_writeAll_filter platform.configOrder (fun value => !value.isEmpty) userConfig _ key

/-- Apart from the name and version of the library, the user decides before the layers of
defaults. -/
theorem lookup_collateConfig (platform : Platform H) (userConfig : Option Config)
    {key : EchoConfigKey} (notName : key ≠ .measurementLibName)
    (notVersion : key ≠ .measurementLibVersion) :
    (collateConfig platform userConfig).lookup key = configuredValue platform userConfig key := by
  have defaults (user : Option Config) : mergedDefault platform user key =
      ((profileConfig platform user).lookup key).or
        ((Config.merge (Config.merge (Config.merge (Config.merge ∅ (getDefaultConfig platform))
          platform.comScoreDefaultConfig) platform.springDefaultConfig)
          platform.atInternetDefaultConfig).lookup key) := by
    simp only [mergedDefault, defaultLayers, layered_cons, layered_nil, Config.lookup_merge,
      Finmap.lookup_empty, Option.or_none]
  unfold collateConfig
  dsimp only
  rw [Finmap.lookup_insert_of_ne _ notVersion, Finmap.lookup_insert_of_ne _ notName,
    configuredValue, defaults]
  cases userConfig with
  | none => rfl
  | some userConfig => exact lookup_applyUserConfig platform userConfig _ key

theorem lookup_collateConfig_library (platform : Platform H) (userConfig : Option Config) :
    (collateConfig platform userConfig).lookup .measurementLibName = some libraryName ∧
      (collateConfig platform userConfig).lookup .measurementLibVersion = some libraryVersion := by
  constructor
  · exact (Finmap.lookup_insert_of_ne _ (by decide)).trans (Finmap.lookup_insert _)
  · exact Finmap.lookup_insert _

/-- User configurations that configure the same value collate to the same one. -/
theorem lookup_collateConfig_congr {platform : Platform H} {first second : Option Config}
    {key : EchoConfigKey}
    (same : configuredValue platform first key = configuredValue platform second key) :
    (collateConfig platform first).lookup key = (collateConfig platform second).lookup key := by
  by_cases isName : key = .measurementLibName
  · rw [isName, (lookup_collateConfig_library platform first).1,
      (lookup_collateConfig_library platform second).1]
  · by_cases isVersion : key = .measurementLibVersion
    · rw [isVersion, (lookup_collateConfig_library platform first).2,
        (lookup_collateConfig_library platform second).2]
    · rw [lookup_collateConfig platform first isName isVersion,
        lookup_collateConfig platform second isName isVersion, same]

/-- The keys that the library defines are always there. -/
theorem mem_collateConfig (platform : Platform H) (userConfig : Option Config)
    {key : EchoConfigKey} (member : key ∈ defaultKeys) :
    key ∈ collateConfig platform userConfig := by
  have notName : key ≠ .measurementLibName := by
    rintro rfl
    exact absurd member (by decide)
  have notVersion : key ≠ .measurementLibVersion := by
    rintro rfl
    exact absurd member (by decide)
  have defined : key ∈ getDefaultConfig platform := by
    simp only [getDefaultConfig, Finmap.mem_insert]
    simp only [defaultKeys, List.mem_cons, List.not_mem_nil, or_false] at member
    tauto
  have merged : (mergedDefault platform userConfig key).isSome = true :=
    layered_isSome (List.mem_of_getLast? rfl) defined
  rw [← Finmap.lookup_isSome, lookup_collateConfig platform userConfig notName notVersion,
    configuredValue, Option.isSome_or, merged, Bool.or_true]

/-! ## Precedence -/

/-- A configuration in which every key has the value of the first source that defines it. -/
structure FollowsPrecedence (platform : Platform H) (userConfig : Option Config)
    (config : Config) : Prop where
  /-- The user cannot change what the library calls itself. -/
  library : config.lookup .measurementLibName = some libraryName ∧
    config.lookup .measurementLibVersion = some libraryVersion
  layers : ∀ key, key ≠ .measurementLibName → key ≠ .measurementLibVersion →
    config.lookup key = configuredValue platform userConfig key
  present : ∀ key ∈ defaultKeys, key ∈ config

/-- The case of the profile's name does not matter to the values under the user's own. -/
theorem mergedDefault_insert_reportingProfile {platform : Platform H} (userConfig : Config)
    {name other : String} (sameName : platform.lowercased name = platform.lowercased other)
    (key : EchoConfigKey) :
    mergedDefault platform (some (userConfig.insert .reportingProfile name)) key =
      mergedDefault platform (some (userConfig.insert .reportingProfile other)) key := by
  have sameProfile : profileConfig platform (some (userConfig.insert .reportingProfile name)) =
      profileConfig platform (some (userConfig.insert .reportingProfile other)) := by
    simp only [profileConfig, reportingProfile, Option.bind_some, Finmap.lookup_insert,
      Option.bind_eq_bind, sameName]
  rw [mergedDefault, mergedDefault, defaultLayers, defaultLayers, sameProfile]

/-- The collated configuration follows the order of precedence, for every user configuration
and whatever order its entries are visited in, and the case of the profile's name does not
matter. -/
theorem collateConfig_precedence (platform : Platform H) :
    (∀ userConfig, FollowsPrecedence platform userConfig (collateConfig platform userConfig)) ∧
      ∀ (userConfig : Config) (name other : String),
        platform.lowercased name = platform.lowercased other →
        ∀ key, key ≠ .reportingProfile →
          (collateConfig platform (some (userConfig.insert .reportingProfile name))).lookup key =
            (collateConfig platform
              (some (userConfig.insert .reportingProfile other))).lookup key := by
  constructor
  · intro userConfig
    constructor
    · exact lookup_collateConfig_library platform userConfig
    · intro key notName notVersion
      exact lookup_collateConfig platform userConfig notName notVersion
    · intro key member
      exact mem_collateConfig platform userConfig member
  · intro userConfig name other sameName key notProfile
    have sameUser : userValue (some (userConfig.insert .reportingProfile name)) key =
        userValue (some (userConfig.insert .reportingProfile other)) key := by
      simp only [userValue, Option.bind_some, Finmap.lookup_insert_of_ne _ notProfile]
    apply lookup_collateConfig_congr
    rw [configuredValue, configuredValue, sameUser,
      mergedDefault_insert_reportingProfile userConfig sameName]

/-- A user who names a profile, leaves a value empty, and claims the name of the library. -/
def profiledEntries : List (Σ _ : EchoConfigKey, String) :=
  [⟨.reportingProfile, "World_Service"⟩, ⟨.echoDebug, ""⟩, ⟨.measurementLibName, "own"⟩]

/-- An environment with one reporting profile. -/
noncomputable def profiledPlatform : Platform Store :=
  { reference with
    configOrder := .listing profiledEntries
    lowercased := fun name => if name = "World_Service" then "world_service" else name
    echoProfile := fun name => if name = "world_service" then some ⟨0⟩ else none
    getConfigForProfile := fun _ => Finmap.singleton .useESS "true" }

theorem collateConfig_precedence_profiled :
    let config := collateConfig profiledPlatform (some profiledEntries.toFinmap)
    config.lookup .measurementLibName = some libraryName ∧
      config.lookup .useESS = some "true" ∧ config.lookup .echoDebug = some "false" := by
  intro config
  have follows := (collateConfig_precedence profiledPlatform).1 (some profiledEntries.toFinmap)
  have profiled : configuredValue profiledPlatform (some profiledEntries.toFinmap) .useESS =
      some "true" := by decide
  have defaulted : configuredValue profiledPlatform (some profiledEntries.toFinmap) .echoDebug =
      some "false" := by decide
  exact ⟨follows.library.1, (follows.layers .useESS (by decide) (by decide)).trans profiled,
    (follows.layers .echoDebug (by decide) (by decide)).trans defaulted⟩

end Echo.Client
