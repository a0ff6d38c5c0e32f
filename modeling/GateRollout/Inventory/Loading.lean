import GateRollout.Inventory.Basic
import GateRollout.Inventory.Source
import GateRollout.Text.Utf8

/-!
# Loading the inventory

From the file that holds an inventory document to the inventory.
-/

namespace GateRollout.Inventory

variable {σ : Type}

/-- The content of the file at a path, which has to be there. -/
def contentOf (h : Host σ) (path : String) : Action σ (List UInt8) := do
  match ← Action.attempt (h.readFile path) with
  | .ok bytes => return bytes
  | .error (.fault f) =>
    if f.kind.isSystem then
      throw (.ofKind .store s!"Cannot read inventory {path}: {f.text}")
    else throw (.fault f)
  | .error f => throw f

/-- Why there is no inventory in a file whose text gives no data.  A document that holds itself is not looked
at further. -/
def documentFailure (path : String) : DocumentFault → Failure
  | .malformed message => .ofKind .store s!"Invalid YAML in {path}: {message}"
  | .value f => .fault f
  | .recursive => .fault ⟨.notImplemented, s!"{path} holds itself"⟩

/-- The inventory that the bytes of a file at a path describe. -/
def ofBytes (read : DocumentReader) (path : String) (bytes : List UInt8) : Except Failure Inventory := do
  let text ← (Text.decodeUtf8 bytes).mapError fun e => .fault ⟨.undecodable, e.message⟩
  ofValue path (← (read path text).mapError (documentFailure path))

/-- The record of an inventory that was loaded. -/
def loadedRecord (path : String) (inv : Inventory) : LogRecord :=
  let count (n : Nat) : String := Text.natText n
  ⟨.debug,
    s!"Loaded inventory {path}: {count inv.nodes.length} nodes, {count inv.configurations.length} configurations"⟩

/-- Load the inventory that is named, or the one that is found. -/
def load (h : Host σ) (named : Value) : Action σ Inventory := do
  match ← Inventory.locate h named with
  | .str path =>
    let inv ← Action.ofExcept (ofBytes h.readDocument path (← contentOf h path))
    Action.logAll [loadedRecord path inv]
    return inv
  | v => throw (.fault ⟨.wrongType, s!"a path is a text, not '{v.typeName}'"⟩)

end GateRollout.Inventory
