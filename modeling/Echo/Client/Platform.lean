import Echo.Client.Types
import Echo.Dictionary.Order

/-!
# Collaborators of the Echo client

Everything the client calls that is not part of it.  A `Platform` fixes the
answers of these collaborators; results are stated for every platform, under
named laws where the client relies on one.
-/

namespace Echo.Client

/-- The user promise helper over a persistent store of type `H`.  Creating the
helper and every call on it may read and change the store. -/
structure UserPromise (H : Type) where
  create : Bool → H → H
  setBBCUser : BBCUser → H → UserPromiseHelperResult × H
  getBBCUser : H → BBCUser × H
  getDeviceID : H → Option String × H
  clearWebviewCookies : H → H
  setPostponedUserStateTransition : UserStateTransition → H → H
  clearPostponedUserStateTransition : H → H

structure Platform (H : Type) where
  /-- The label cleanser. -/
  cleanLabelKey : String → String
  cleanLabelValue : String → String → String
  cleanCountername : String → String
  /-- Iteration orders of the dictionaries the client loops over. -/
  labelOrder : Dictionary.Order String String
  configOrder : Dictionary.Order EchoConfigKey String
  /-- Raw values and names of enumerations. -/
  labelKey : EchoLabelKeys → String
  essErrorValue : EssError → String
  transitionValue : UserStateTransition → String
  resetReasonValue : DeviceIDResetReason → String
  managedLabelName : ManagedLabel → String
  configKeyName : EchoConfigKey → String
  cacheModeName : EchoCacheMode → String
  cacheModeGetEnum : String → EchoCacheMode
  producerFromName : String → Option Producer
  masterbrandProducer : String → Option Producer
  /-- String extensions. -/
  trim : String → String
  lowercased : String → String
  /-- Cloning of media, up to the identity of the clone. -/
  getClone : Media → Media
  /-- State and remaining life of a user's token, at a given time. -/
  tokenState : BBCUser → Date → TokenState
  getTimeUntilTokenExpiry : BBCUser → Date → Int
  userPromise : UserPromise H
  /-- Delegate factory, and the position a fresh broker answers with. -/
  getDelegates : String → ApplicationType → String → Config → BBCUser → List Delegate
  brokerPosition : BrokerKind → PlayerDelegate → Media → UInt64
  /-- Configuration defaults of the delegates, and reporting profiles. -/
  comScoreDefaultConfig : Config
  springDefaultConfig : Config
  atInternetDefaultConfig : Config
  echoProfile : String → Option EchoProfile
  getConfigForProfile : EchoProfile → Config

end Echo.Client
