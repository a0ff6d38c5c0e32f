import GateRollout.Value.Basic

/-!
# Gate-control schedules

A schedule opens and closes the gates of a bridge port in a cycle.  It says nothing about how a
device spells it.
-/

namespace GateRollout

/-- Whether a schedule is in force. -/
inductive AdminState where
  | enabled
  | disabled
  deriving Repr, DecidableEq

/-- The name of an administrative state. -/
def AdminState.name : AdminState → String
  | enabled => "enabled"
  | disabled => "disabled"

/-- The administrative state with a name. -/
def AdminState.ofName? (s : String) : Option AdminState :=
  [enabled, disabled].find? (·.name == s)

/-- What an entry does besides setting the gates. -/
inductive Operation where
  | setGateStates
  | setAndHoldMac
  | setAndReleaseMac
  deriving Repr, DecidableEq

namespace Operation

/-- The name of an operation. -/
def name : Operation → String
  | setGateStates => "set-gate-states"
  | setAndHoldMac => "set-and-hold-mac"
  | setAndReleaseMac => "set-and-release-mac"

/-- All operations. -/
def all : List Operation := [setGateStates, setAndHoldMac, setAndReleaseMac]

/-- The operation with a name. -/
def ofName? (s : String) : Option Operation := all.find? (·.name == s)

end Operation

/-- One time slot of a gate control list. -/
structure GateEntry where
  index : Int
  /-- The length of the slot in nanoseconds. -/
  interval : Int
  /-- One bit a gate; only the first byte can be expressed on a device. -/
  gateStates : List UInt8
  operation : Option Operation
  /-- A remark of any kind, which no device is told. -/
  description : Value

/-- The operation of an entry; one without an operation of its own sets the gates. -/
def GateEntry.effectiveOperation (e : GateEntry) : Operation :=
  e.operation.getD .setGateStates

/-- The first byte of the gate states. -/
def GateEntry.firstGateState? (e : GateEntry) : Option Nat :=
  e.gateStates.head?.map UInt8.toNat

/-- A schedule for the gates of a port. -/
structure Schedule where
  id : String
  /-- When the first cycle starts, in nanoseconds. -/
  baseTime : Int
  /-- The length of a cycle in nanoseconds. -/
  cycleTime : Int
  adminState : AdminState
  entries : List GateEntry
  /-- The offset of the interface's clock in nanoseconds. -/
  offset : Option Int

/-- The feature that schedules belong to. -/
def Schedule.feature : String := "qbv"

end GateRollout
