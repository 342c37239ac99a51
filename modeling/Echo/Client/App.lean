import Echo.Client.Delivery
import Echo.Transition.Output

/-!
# Runs of the app

The user promise helper keeps its store when the app ends.  A run of the app is a
sequence of launches, each of which creates a client over the store that the last
one left, and of operations on the latest client.
-/

namespace Echo.Client

open Echo.Transition

variable {H : Type}

inductive AppOp
  | launch (arguments : InitArguments) (now : Date)
  | op (op : Op)

/-- A launch that throws leaves the client that was there. -/
def relaunch (platform : Platform H) (arguments : InitArguments) (now : Date)
    (world : World H) : World H :=
  match initialise platform arguments world.userPromise now with
  | (launched, .ok ()) => launched
  | (failed, .error _) => { world with userPromise := failed.userPromise }

def appStep (platform : Platform H) (world : World H) : AppOp → World H
  | .launch arguments now => relaunch platform arguments now world
  | .op op => step platform world op

/-- The calls made by one step of the app; a new client begins a log of its own. -/
def appEffects (platform : Platform H) (world : World H) : AppOp → List Effect
  | .launch arguments now => (initialise platform arguments world.userPromise now).1.log
  | .op op => emitted platform world op

/-- The delegates of the client that makes them. -/
def delegatesOf (platform : Platform H) (world : World H) : AppOp → List Delegate
  | .launch arguments now =>
      (prepare platform arguments world.userPromise now).client.settings.delegates
  | .op _ => world.client.settings.delegates

/-- The world after a sequence of launches and operations. -/
abbrev appRun (platform : Platform H) (world : World H) (ops : List AppOp) : World H :=
  Transition.run (appStep platform) world ops

theorem appRun_concat (platform : Platform H) (world : World H) (ops : List AppOp)
    (op : AppOp) :
    appRun platform world (ops ++ [op]) = appStep platform (appRun platform world ops) op :=
  Transition.run_concat (appStep platform) world ops op

/-- Every call made along a run of the app. -/
abbrev appLog (platform : Platform H) (world : World H) (ops : List AppOp) : List Effect :=
  outputs (appStep platform) (appEffects platform) world ops

theorem appLog_concat (platform : Platform H) (world : World H) (ops : List AppOp)
    (op : AppOp) :
    appLog platform world (ops ++ [op]) =
      appLog platform world ops ++ appEffects platform (appRun platform world ops) op :=
  outputs_concat (appStep platform) (appEffects platform) world ops op

end Echo.Client
