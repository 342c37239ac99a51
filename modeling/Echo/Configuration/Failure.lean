import Echo.Client.Delivery
import Echo.Configuration.Validity

/-!
# What a failed initialiser leaves behind

Validation comes late in the initialiser.  Starting the client and registering for
notifications wait for it; creating the delegates and clearing the helper's cookies do not.
An initialiser that throws has therefore always asked the factory, and has cleared the
cookies unless idv5 was on.
-/

namespace Echo.Client

variable {H : Type}

/-- The delegates that an effect creates. -/
def Effect.creates (platform : Platform H) : Effect → List Delegate
  | .getDelegates appName appType startCounterName config bbcUser =>
      platform.getDelegates appName appType startCounterName config bbcUser
  | _ => []

/-- The delegates that have been created. -/
def created (platform : Platform H) (log : List Effect) : List Delegate :=
  log.flatMap (Effect.creates platform)

def Effect.asksFactory : Effect → Bool
  | .getDelegates _ _ _ _ _ => true
  | _ => false

def Effect.registers : Effect → Bool
  | .addObserver _ => true
  | _ => false

/-- Nothing outside the client has been touched, the debug settings excepted. -/
structure LeavesOutsideAlone (platform : Platform H) (log : List Effect) : Prop where
  factory : created platform log = []
  delegates : ∀ index, received index log = []
  cookies : .userPromise .clearWebviewCookies ∉ log
  observers : log.filter Effect.registers = []

/-- What an initialiser that throws has done. -/
structure FailureEffects (platform : Platform H) (arguments : InitArguments)
    (log : List Effect) : Prop where
  /-- The factory has been asked once, with the rejected configuration. -/
  factory : log.filter Effect.asksFactory = [delegateRequest platform arguments]
  delegates : ∀ index, received index log = []
  cookies : .userPromise .clearWebviewCookies ∈ log ↔
    configuredValue platform arguments.config .idv5Enabled ≠ some "true"
  observers : log.filter Effect.registers = []

/-! ## The effects of a failure -/

/-- The whole log of an initialiser that throws. -/
theorem Throws.log_eq {platform : Platform H} {arguments : InitArguments} {store : H}
    {now : Date} (thrown : Throws platform arguments store now) :
    ∃ message, (initialise platform arguments store now).1.log =
      [debugSettings (collateConfig platform arguments.config)] ++
        cookieCalls platform arguments ++ [delegateRequest platform arguments] ++
        [.debug .error message] := by
  have rejected := (throws_iff platform arguments store now).mp thrown
  unfold initialise
  dsimp only
  split
  · rename_i message invalid
    refine ⟨message, ?_⟩
    rw [World.debug, World.emit_log, prepare_log_eq]
  · rename_i valid
    exact absurd valid rejected

/-- The cookies are cleared exactly if idv5 is not on. -/
theorem cookieCalls_eq (platform : Platform H) (arguments : InitArguments) :
    cookieCalls platform arguments =
      if configuredValue platform arguments.config .idv5Enabled = some "true" then []
      else [.userPromise .clearWebviewCookies] := by
  unfold cookieCalls configFlag
  rw [lookup_collateConfig platform arguments.config (by decide) (by decide)]
  simp only [beq_iff_eq]

theorem Throws.failureEffects {platform : Platform H} {arguments : InitArguments} {store : H}
    {now : Date} (thrown : Throws platform arguments store now) :
    FailureEffects platform arguments (initialise platform arguments store now).1.log := by
  obtain ⟨message, logEq⟩ := thrown.log_eq
  obtain ⟨isDebugEnabled, level, settings⟩ :=
    debugSettings_eq (collateConfig platform arguments.config)
  rw [logEq, settings, cookieCalls_eq]
  by_cases idv5 : configuredValue platform arguments.config .idv5Enabled = some "true"
  · rw [if_pos idv5]
    constructor
    · rfl
    · intro index
      rfl
    · simp [idv5, delegateRequest]
    · rfl
  · rw [if_neg idv5]
    constructor
    · rfl
    · intro index
      rfl
    · simp [idv5]
    · rfl

/-- The delegates that were created are those of the one request. -/
theorem FailureEffects.created_eq {platform : Platform H} {arguments : InitArguments}
    {log : List Effect} (left : FailureEffects platform arguments log) :
    created platform log = (delegateRequest platform arguments).creates platform := by
  have ofRequests (entries : List Effect) :
      created platform (entries.filter Effect.asksFactory) = created platform entries := by
    induction entries with
    | nil => rfl
    | cons entry entries ih =>
        unfold created at ih ⊢
        cases entry with
        | getDelegates appName appType startCounterName config bbcUser =>
            rw [List.filter_cons_of_pos rfl, List.flatMap_cons, List.flatMap_cons, ih]
        | _ => exact ih
  rw [← ofRequests log, left.factory, created, List.flatMap_singleton]

/-- An initialiser that throws leaves the outside world alone only if the factory had no
delegates to create and idv5 was on; it has asked the factory even then. -/
theorem leavesOutsideAlone_iff_of_throws {platform : Platform H} {arguments : InitArguments}
    {store : H} {now : Date} (thrown : Throws platform arguments store now) :
    (LeavesOutsideAlone platform (initialise platform arguments store now).1.log ↔
      (delegateRequest platform arguments).creates platform = [] ∧
        configuredValue platform arguments.config .idv5Enabled = some "true") ∧
      FailureEffects platform arguments (initialise platform arguments store now).1.log := by
  have left := thrown.failureEffects
  refine ⟨?_, left⟩
  constructor
  · intro alone
    constructor
    · rw [← left.created_eq]
      exact alone.factory
    · by_contra cleared
      exact alone.cookies (left.cookies.mpr cleared)
  · rintro ⟨noDelegates, idv5⟩
    constructor
    · rw [left.created_eq]
      exact noDelegates
    · exact left.delegates
    · intro cleared
      exact left.cookies.mp cleared idv5
    · exact left.observers

/-- Arguments that give the app no name. -/
def namelessArguments : InitArguments :=
  { defaultArguments with appName := "" }

theorem namelessArguments_throws :
    Throws reference namelessArguments { user := signedOut } 0 :=
  ⟨_, rfl⟩

/-- Without a name for the app the delegate is still created and the cookies are cleared. -/
theorem nameless_leavesOutsideAlone_iff :
    ¬LeavesOutsideAlone reference
        (initialise reference namelessArguments { user := signedOut } 0).1.log ∧
      .userPromise .clearWebviewCookies ∈
        (initialise reference namelessArguments { user := signedOut } 0).1.log := by
  have left := leavesOutsideAlone_iff_of_throws namelessArguments_throws
  have idv5Off : configuredValue reference namelessArguments.config .idv5Enabled ≠ some "true" := by
    decide
  constructor
  · rw [left.1]
    rintro ⟨_, idv5⟩
    exact idv5Off idv5
  · exact left.2.cookies.mpr idv5Off

/-- A failed initialiser does not leave the outside world alone. -/
theorem not_leavesOutsideAlone_nameless :
    Throws reference namelessArguments { user := signedOut } 0 ∧
      ¬LeavesOutsideAlone reference
        (initialise reference namelessArguments { user := signedOut } 0).1.log := by
  refine ⟨namelessArguments_throws, ?_⟩
  intro alone
  have none := alone.factory
  rw [namelessArguments_throws.failureEffects.created_eq] at none
  cases none

end Echo.Client
