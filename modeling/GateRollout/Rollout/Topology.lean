import GateRollout.Device.Target

/-!
# Topologies

The devices of a network and the ports of each.  A device is named by data of any kind that can be a
key, most often a text.
-/

namespace GateRollout

/-- A port of a device. -/
structure Port where
  name : String
  deriving Repr, DecidableEq

/-- A device that is managed. -/
structure Node where
  id : Value
  management : Management
  ports : List Port

/-- Devices in the order in which they are configured. -/
structure Topology where
  nodes : List Node

/-- The first device with a name. -/
def Topology.node? (t : Topology) (id : Value) : Option Node :=
  t.nodes.find? fun n => n.id.sameKey id

end GateRollout
