import Echo.Configuration.Precedence

/-!
# Collating twice

What the factory of the delegates is given is the collated configuration.  It is a user
configuration in its own right; collated again it stays as it is, and it launches the very
client that it was collated for.  This rests on the reporting profile: where only the user
names one, the collated configuration names the same.
-/

namespace Echo.Client

variable {H : Type}

/-- A reporting profile is only ever named by the user, and never by an empty value. -/
structure NamedByUser (platform : Platform H) : Prop where
  comScore : platform.comScoreDefaultConfig.lookup .reportingProfile = none
  spring : platform.springDefaultConfig.lookup .reportingProfile = none
  atInternet : platform.atInternetDefaultConfig.lookup .reportingProfile = none
  profiles : ∀ profile, (platform.getConfigForProfile profile).lookup .reportingProfile = none
  unnamed : platform.echoProfile (platform.lowercased "") = none

section Profile

variable {platform : Platform H} (named : NamedByUser platform) (userConfig : Option Config)

include named

theorem NamedByUser.lookup_collateConfig :
    (collateConfig platform userConfig).lookup .reportingProfile =
      userValue userConfig .reportingProfile := by
  have profile : (profileConfig platform userConfig).lookup .reportingProfile = none := by
    unfold profileConfig
    split
    · exact named.profiles _
    · rfl
  have library : (getDefaultConfig platform).lookup .reportingProfile = none := by
    simp [getDefaultConfig]
  rw [Client.lookup_collateConfig platform userConfig (by decide) (by decide), configuredValue,
    mergedDefault]
  simp [defaultLayers, Dictionary.layered_cons, profile, named.comScore, named.spring,
    named.atInternet, library]

/-- The collated configuration names the profile that the user named. -/
theorem NamedByUser.reportingProfile_eq :
    reportingProfile platform (collateConfig platform userConfig) =
      userConfig.bind (reportingProfile platform) := by
  unfold reportingProfile
  rw [named.lookup_collateConfig]
  cases userConfig with
  | none => rfl
  | some config =>
      rw [userValue, Option.bind_some, Option.bind_some]
      cases config.lookup .reportingProfile with
      | none => rfl
      | some name =>
          by_cases blank : name = ""
          · subst blank
            exact named.unnamed.symm
          · rw [Option.filter_some_pos (by simp [blank])]

theorem NamedByUser.mergedDefault_eq (key : EchoConfigKey) :
    mergedDefault platform (some (collateConfig platform userConfig)) key =
      mergedDefault platform userConfig key := by
  have profile : profileConfig platform (some (collateConfig platform userConfig)) =
      profileConfig platform userConfig := by
    rw [profileConfig, Option.bind_some, named.reportingProfile_eq, profileConfig]
  rw [mergedDefault, mergedDefault, defaultLayers, defaultLayers, profile]

theorem NamedByUser.collateConfig_collateConfig :
    collateConfig platform (some (collateConfig platform userConfig)) =
      collateConfig platform userConfig := by
  apply Finmap.ext_lookup
  intro key
  by_cases isName : key = .measurementLibName
  · rw [isName, (lookup_collateConfig_library platform _).1,
      (lookup_collateConfig_library platform _).1]
  by_cases isVersion : key = .measurementLibVersion
  · rw [isVersion, (lookup_collateConfig_library platform _).2,
      (lookup_collateConfig_library platform _).2]
  have collated := Client.lookup_collateConfig platform userConfig isName isVersion
  rw [Client.lookup_collateConfig platform _ isName isVersion, collated, configuredValue,
    named.mergedDefault_eq, userValue, Option.bind_some, collated, configuredValue, userValue]
  exact Dictionary.filter_or_filter_or _ _ _

end Profile

/-- A client that is launched with the collated configuration of another one is in every
respect the same client. -/
theorem initialise_collated {platform : Platform H} (named : NamedByUser platform)
    (arguments : InitArguments) :
    let collated := collateConfig platform arguments.config
    collateConfig platform (some collated) = collated ∧
      ∀ store now, initialise platform { arguments with config := some collated } store now =
        initialise platform arguments store now := by
  intro collated
  have stable : collateConfig platform (some collated) = collated :=
    named.collateConfig_collateConfig arguments.config
  refine ⟨stable, ?_⟩
  intro store now
  simp only [initialise, prepare, createDelegates, stable]
  rfl

theorem profiledPlatform_namedByUser : NamedByUser profiledPlatform where
  comScore := rfl
  spring := rfl
  atInternet := rfl
  profiles := fun _ => Finmap.lookup_eq_none.mpr (by simp [profiledPlatform])
  unnamed := by decide

/-- A configuration with a profile, an empty value and a name of its own. -/
theorem initialise_collated_profiled :
    let arguments := { defaultArguments with config := some profiledEntries.toFinmap }
    let collated := collateConfig profiledPlatform arguments.config
    collateConfig profiledPlatform (some collated) = collated ∧
      ∀ store now,
        initialise profiledPlatform { arguments with config := some collated } store now =
          initialise profiledPlatform arguments store now :=
  initialise_collated profiledPlatform_namedByUser _

end Echo.Client
