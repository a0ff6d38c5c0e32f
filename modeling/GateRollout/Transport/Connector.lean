import GateRollout.Device.Target
import GateRollout.Journal

/-!
# Connectors

What a push needs from the transport: opening a session to a target, editing its configuration, and
closing it.  How that is done, and in which state, is the connector's own affair.
-/

namespace GateRollout

/-- An open session. -/
structure Session (σ : Type) where
  edit : String → Action σ Unit
  close : Action σ Unit

/-- A way to open sessions. -/
structure Connector (σ : Type) where
  connect : Target → Action σ (Session σ)

variable {σ α : Type}

/-- Do something with a session and close it.  The session is closed whether or not that succeeds, and
a failure to close it takes the place of what went before. -/
def closingAfter (close : Action σ Unit) (x : Action σ α) : Action σ α := do
  let result ← Action.attempt x
  close
  Action.ofExcept result

/-- Edit a target's configuration in a session of its own. -/
def Connector.editOnce (c : Connector σ) (target : Target) (payload : String) : Action σ Unit := do
  let session ← c.connect target
  closingAfter session.close (session.edit payload)

end GateRollout
