import Echo.Client.Platform

/-!
# Collating and validating the configuration

The user's dictionary is layered over the defaults of the library, its
delegates and a reporting profile.  Validation reports the first field that
is missing or not permitted.
-/

namespace Echo.Client

variable {H : Type}

def libraryName : String := "echo_ios_swift"

def libraryVersion : String := "5.2.1"

/-! ## Collation -/

/-- `config.merge(other)`: the entries of `other` override those of `config`. -/
def Config.merge (config other : Config) : Config :=
  other ∪ config

def getDefaultConfig (platform : Platform H) : Config :=
  let config : Config := ∅
  let config := config.insert .echoEnabled "true"
  let config := config.insert .echoAutoStart "true"
  let config := config.insert .echoDebug "false"
  let config := config.insert .essURL "ess.api.bbci.co.uk"
  let config := config.insert .useESS "false"
  let config := config.insert .essHTTPSEnabled "true"
  config.insert .echoCacheMode (platform.cacheModeName .offline)

/-- The reporting profile that the user configuration names, if it is known. -/
def reportingProfile (platform : Platform H) (userConfig : Config) : Option EchoProfile := do
  let profile ← userConfig.lookup .reportingProfile
  platform.echoProfile (platform.lowercased profile)

/-- Merge the reporting profile, then override with every non-empty user value. -/
def applyUserConfig (platform : Platform H) (userConfig config : Config) : Config :=
  let config := match reportingProfile platform userConfig with
    | some profile => Config.merge config (platform.getConfigForProfile profile)
    | none => config
  ((platform.configOrder.entries userConfig).filter fun entry => !entry.2.isEmpty).foldl
    (fun config entry => config.insert entry.1 entry.2) config

def collateConfig (platform : Platform H) (userConfig : Option Config) : Config :=
  let config : Config := ∅
  let config := Config.merge config (getDefaultConfig platform)
  let config := Config.merge config platform.comScoreDefaultConfig
  let config := Config.merge config platform.springDefaultConfig
  let config := Config.merge config platform.atInternetDefaultConfig
  let config := match userConfig with
    | some userConfig => applyUserConfig platform userConfig config
    | none => config
  let config := config.insert .measurementLibName libraryName
  config.insert .measurementLibVersion libraryVersion

/-! ## Validation -/

/-- White space in the sense of `\s` in a regular expression. -/
def isRegexSpace (c : Char) : Bool :=
  c.val = 0x09 || c.val = 0x0A || c.val = 0x0C || c.val = 0x0D || c.val = 0x20 ||
    c.val = 0xA0 || c.val = 0x1680 || (0x2000 ≤ c.val && c.val ≤ 0x200A) ||
    c.val = 0x2028 || c.val = 0x2029 || c.val = 0x202F || c.val = 0x205F || c.val = 0x3000

/-- A list of strings as string interpolation prints it. -/
def describe (values : List String) : String :=
  "[" ++ ", ".intercalate (values.map fun value => "\"" ++ value ++ "\"") ++ "]"

/-- A failed check is reported with the message that is logged for it. -/
abbrev Validation := Except String Unit

def validateConfigField (platform : Platform H) (key : EchoConfigKey)
    (value : Option String) (valid : List String)
    (options : List EchoConfigValidationOptions) : Validation :=
  match value with
  | none =>
      if .optional ∈ options then .ok ()
      else .error s!"Missing Config Argument: {platform.configKeyName key}"
  | some value =>
      if .nonZeroLength ∈ options ∧ value.isEmpty then
        .error s!"{platform.configKeyName key} cannot be empty. Not Valid: {value}"
      else if .noWhiteSpace ∈ options ∧ value.toList.all isRegexSpace then
        .error s!"{platform.configKeyName key} cannot be empty. Not Valid: {value}"
      else if valid.isEmpty ∨ value ∈ valid then
        .ok ()
      else
        .error
          s!"{platform.configKeyName key} must equal one of {describe valid}. Not valid: {value}"

def boolValid : List String := ["true", "false"]

/-- The checks of `isValidConfig` in the order they are made; the first failure
ends the chain. -/
def isValidConfig (platform : Platform H) (appName : String) (config : Config) :
    Validation := do
  let field := fun key valid options =>
    validateConfigField platform key (config.lookup key) valid options
  field .echoEnabled boolValid []
  field .echoAutoStart boolValid []
  validateConfigField platform .applicationName (some appName) [] [.nonZeroLength, .noWhiteSpace]
  field .echoCacheMode ["offline", "all"] []
  field .comScoreEnabled boolValid [.optional]
  field .comScoreDebugMode ["0", "1"] [.optional]
  field .testServiceEnabled boolValid [.optional]
  field .useESS boolValid []
  field .essHTTPSEnabled boolValid []
  field .idv5Enabled boolValid [.optional]
  field .webviewCookiesEnabled boolValid [.optional]
  field .barbEnabled boolValid [.optional]

end Echo.Client
