import GateRollout.Mapping.Standard

/-!
# The legacy spelling of a table

The scheduler modules of 2018: a container directly below the interface, without line breaks, its
entries in the order of their indices and the leaves of an entry inside an element that is named by
its operation.
-/

namespace GateRollout.Legacy

open Markup

/-- The element that holds the parameters of an operation. -/
def parametersTag (operation : String) : String :=
  match Operation.ofName? operation with
  | some .setGateStates => "sgs-params"
  | some .setAndHoldMac => "shm-params"
  | some .setAndReleaseMac => "srm-params"
  | none => "sgs-params"

/-- An element with text. -/
def leaf (tag text : String) : String := "<" ++ tag ++ ">" ++ text ++ "</" ++ tag ++ ">"

/-- An element around markup. -/
def around (tag : String) (inner : List String) : String :=
  "<" ++ tag ++ ">" ++ String.join inner ++ "</" ++ tag ++ ">"

/-- An element in a namespace around markup. -/
def aroundIn (tag module : String) (inner : List String) : String :=
  openTag ⟨tag, namespaceOf? module⟩ ++ String.join inner ++ closeTag ⟨tag, none⟩

/-- An element for a number, where there is one. -/
def leaf? (tag : String) (n : Option Int) : List String :=
  match n with
  | some n => [leaf tag (scalarText (.int n))]
  | none => []

/-- The markup of an entry. -/
def entryMarkup (e : TableEntry) : String :=
  around "admin-control-list"
    [leaf "index" (scalarText (.int e.index)), leaf "operation-name" (escape e.operation),
      around (parametersTag e.operation)
        (leaf? "gate-states-value" e.gateStates ++
          [leaf "time-interval-value" (scalarText (.int e.interval))])]

/-- The entries in the order of their indices. -/
def byIndex (entries : List TableEntry) : List TableEntry :=
  entries.mergeSort fun a b => a.index ≤ b.index

/-- The markup of a table. -/
def tableMarkup (t : GateTable) : List String :=
  [leaf "gate-enabled" (scalarText (.bool t.gateEnabled))] ++
    leaf? "admin-gate-states" t.adminGateStates ++
    [leaf "admin-control-list-length" (Text.natText t.entries.length)] ++
    (byIndex t.entries).map entryMarkup ++
    [around "admin-cycle-time"
        [leaf "numerator" (scalarText t.cycleNumerator.toValue),
          leaf "denominator" (scalarText t.cycleDenominator.toValue)],
      leaf "admin-cycle-time-extension" (scalarText t.extension.toValue),
      around "admin-base-time"
        [leaf "seconds" (scalarText (.int t.baseSeconds)),
          leaf "fractional-seconds" (scalarText (.int t.baseNanoseconds))],
      leaf "config-change" (scalarText (.bool t.configChange))]

/-- The markup of a table on a port. -/
def portMarkup (t : GateTable) (interface : String) : String :=
  aroundIn "interfaces" "ietf-interfaces"
    [around "interface"
      [leaf "name" (escape interface),
        aroundIn "gate-parameters" Standard.schedModule (tableMarkup t)]]

end GateRollout.Legacy
