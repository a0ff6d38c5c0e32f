import GateRollout.Host

/-!
# Finding the inventory

The file that describes the network: the one that is named, else the one in the environment, else the
first that exists in the usual places.
-/

namespace GateRollout.Inventory

variable {σ : Type}

/-- The usual places of an inventory, in the order in which they are tried. -/
def places (h : Host σ) : List String :=
  [Path.join h.workingDirectory "configs/inventory.yaml",
    Path.join h.workingDirectory "inventory.yaml",
    Path.join h.homeDirectory ".config/tsn-config/inventory.yaml"]

/-- That there is no inventory anywhere. -/
def nowhere : Failure :=
  .ofKind .store
    "Could not find inventory.yaml. Create one in ./configs/inventory.yaml or set TSNCONF_INVENTORY"

/-- The first of some paths that leads to a file. -/
def firstExisting (h : Host σ) : List String → Action σ Value
  | [] => throw nowhere
  | p :: rest => do
    if ← h.hasFile p then return .str p else firstExisting h rest

/-- The inventory to use. -/
def locate (h : Host σ) (named : Value) : Action σ Value :=
  if named.isGiven then return named
  else
    match h.environment.given? "TSNCONF_INVENTORY" with
    | some p => return .str p
    | none => firstExisting h (places h)

end GateRollout.Inventory
