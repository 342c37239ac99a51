import Echo.Client.Session
import Echo.Client.User

/-!
# Starting, enabling and disabling

The three operations share the flags `echoEnabled`, `autoStart` and
`hasStarted`, and apply the user that was supplied while events were off.
-/

namespace Echo.Client

variable {H : Type}

def start (platform : Platform H) (world : World H) : World H :=
  if !world.client.echoEnabled || world.client.hasStarted then world else
  let world := (world.broadcast .start).setStarted
  match world.client.user.bbcUserSetWhileDisabled with
  | some user => setBBCUser platform user world
  | none => world

/-- Apply the user supplied while the client was disabled, and forget it. -/
def applyPendingUser (platform : Platform H) (world : World H) : World H :=
  match world.client.user.bbcUserSetWhileDisabled, world.client.hasStarted with
  | some user, true =>
      (setBBCUser platform user world).withUser fun state =>
        { state with bbcUserSetWhileDisabled := none }
  | _, _ => world

def enable (platform : Platform H) (world : World H) : World H :=
  if world.client.echoEnabled then world else
  let world := (world.setEnabled true).broadcast .enable
  let world := applyPendingUser platform world
  if world.client.settings.autoStart && !world.client.hasStarted then start platform world
  else world

def disable (platform : Platform H) (world : World H) : World H :=
  if !world.client.echoEnabled then world else
  let world := (clearMedia platform world).setEnabled false
  world.broadcast .disable

def isEnabled (world : World H) : Bool :=
  world.client.echoEnabled

end Echo.Client
