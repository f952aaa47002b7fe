import PlanarArm.Simulator.Snapshot

/-!
# What a sender can do

The calls through which a sender works with a session. Each is an effect of some monad, so that what
is written in terms of them (a script, say) does not depend on how the session is run. A call fails
with a channel error when there is no session any more.
-/

namespace PlanarArm

/-- Calls of a sender to a session. -/
class Agent (α : outParam Type) (m : Type → Type) where
  /-- Sends a command under a new identifier; gives the identifier and a ticket. -/
  submit : CommandKind α → m (Except (ArmError α) (CommandId × Nat))
  /-- Sends a command under its own identifier; gives a ticket. -/
  submitCommand : Command α → m (Except (ArmError α) Nat)
  /-- Waits for the result of a command. -/
  await : Nat → m (CommandResult α)
  /-- Sets the speed scale; does not wait until it is set. -/
  setSpeed : α → m (Except (ArmError α) Unit)
  /-- Forgets the path of the hand; does not wait until it is forgotten. -/
  resetPath : m (Except (ArmError α) Unit)
  /-- Aborts all commands and waits for their number. -/
  stop : m (Except (ArmError α) Nat)
  /-- Aborts all commands, starts afresh, and waits for the number of aborted commands. -/
  hardReset : m (Except (ArmError α) Nat)
  /-- The snapshot that was published last. -/
  snapshot : m (Snapshot α)

/-- The error of a call to a session that is not there any more. -/
def sessionGone {α : Type} : ArmError α :=
  .channel "simulation driver is not running"

end PlanarArm
