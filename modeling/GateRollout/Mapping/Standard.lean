import GateRollout.Mapping.Table
import GateRollout.Device.Target
import GateRollout.Markup.Encoder

/-!
# The standard spelling of a table

The scheduler modules of 2021: a tree of module-qualified keys below the interface, written by the
generic encoder.
-/

namespace GateRollout.Standard

/-- The module of the scheduler. -/
def schedModule : String := "ieee802-dot1q-sched"

/-- The module that augments a bridge port with the scheduler. -/
def schedBridgeModule : String := "ieee802-dot1q-sched-bridge"

/-- A map with text keys. -/
def tree (entries : List (String × Value)) : Value := .map (entries.map fun (k, v) => (.str k, v))

/-- An entry that is present only where there is a value. -/
def leaf? (key : String) (v : Option Int) : List (String × Value) :=
  match v with
  | some n => [(key, .int n)]
  | none => []

/-- The tree of an entry. -/
def entryTree (e : TableEntry) : Value :=
  tree
    ([("index", .int e.index), ("operation-name", .str (schedModule ++ ":" ++ e.operation)),
      ("time-interval-value", .int e.interval)] ++ leaf? "gate-states-value" e.gateStates)

/-- The tree of a table. -/
def tableTree (t : GateTable) : Value :=
  tree
    ([("gate-enabled", .bool t.gateEnabled)] ++ leaf? "admin-gate-states" t.adminGateStates ++
      [("admin-control-list", tree [("gate-control-entry", .list (t.entries.map entryTree))]),
        ("admin-cycle-time",
          tree [("numerator", t.cycleNumerator.toValue),
            ("denominator", t.cycleDenominator.toValue)]),
        ("admin-cycle-time-extension", t.extension.toValue),
        ("admin-base-time",
          tree [("seconds", .int t.baseSeconds), ("nanoseconds", .int t.baseNanoseconds)]),
        ("config-change", .bool t.configChange)])

/-- The tree of a table on a port. -/
def portTree (t : GateTable) (interface : String) : Value :=
  tree
    [("ietf-interfaces:interfaces",
      tree
        [("interface",
          .list
            [tree
              [("name", .str interface),
                ("ieee802-dot1q-bridge:bridge-port",
                  tree [(schedBridgeModule ++ ":gate-parameter-table", tableTree t)])]])])]

end GateRollout.Standard
