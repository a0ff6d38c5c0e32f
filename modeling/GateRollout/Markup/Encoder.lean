import GateRollout.Markup.Node
import GateRollout.Failure

/-!
# Values as markup

Every entry of a map becomes an element named by its key, and a list under a key becomes one element
an item.  An item of a gate control list is written with its known leaves first and in their order,
whatever the order of its entries.
-/

namespace GateRollout.Markup

/-- The canonical text of a scalar: booleans in lower case, integral numbers without a point, other
numbers without an exponent, and everything else escaped.  Integers may be of any length. -/
def scalarText : Value → String
  | .bool b => if b then "true" else "false"
  | .int n => Text.intText n
  | .float x => Decimal.positionalText x
  | v => escape v.text

/-- A value that is written as the text of one element. -/
def isScalar : Value → Bool
  | .str _ => true
  | .bool _ => true
  | .int _ => true
  | .float _ => true
  | _ => false

/-- A key that is no text names no element. -/
def keyFault (key : Value) : Fault :=
  match key with
  | .bytes _ => ⟨.wrongType, "a bytes-like object is required, not 'str'"⟩
  | _ => .noAttribute key.qualifiedTypeName "partition"

/-- The element that a key names. -/
def nameOf (key : Value) : Except Fault Name :=
  match key with
  | .str s => .ok (Name.ofKey s)
  | _ => .error (keyFault key)

/-- The tag whose items in a list are entries of a gate control list. -/
def gateEntryTag : String := "gate-control-entry"

/-- The leaves of a gate control entry, in the order in which they are written. -/
def gateEntryFields : List String :=
  ["index", "operation-name", "time-interval-value", "gate-states-value"]

/-- The name of an operation without its module. -/
def withoutModule (s : String) : String :=
  match splitColon? s.toList with
  | some (_, c :: rest) => String.ofList (c :: rest)
  | _ => s

/-- Parts of an entry of a gate control list in the order in which they are written: the known leaves
by their place among the known, then the rest in its own order. -/
def inFieldOrder (parts : List (Option Nat × Except Fault (List Node))) :
    Except Fault (List Node) := do
  let known := (List.range gateEntryFields.length).flatMap fun i =>
    parts.filter fun p => p.1 == some i
  let extra := parts.filter fun p => p.1.isNone
  return (← (known ++ extra).mapM (·.2)).flatten

/-- The text of a scalar, which has to be short enough to be written. -/
def writtenScalar (v : Value) : Except Fault String :=
  if v.hasText then .ok (scalarText v) else .error .unwritten

/-- The element for a value without entries. -/
def leafOf (name : Name) (v : Value) : Except Fault Node :=
  if v.isNull then .ok (.leaf name .nil)
  else if isScalar v then return .leaf name (.text (← writtenScalar v))
  else .ok (.leaf name (.unsupported v.typeName))

mutual

/-- The markup of a value. -/
def nodes : Value → Except Fault (List Node)
  | .map entries => nodesOfEntries entries
  | .list items => nodesOfItems items
  | .tuple items => nodesOfItems items
  | .null => .ok [.mark .nil]
  | v =>
    if isScalar v then return [.leaf ⟨"value", none⟩ (.text (← writtenScalar v))]
    else .ok [.mark (.unsupported v.typeName)]

/-- The markup of the items of a list, one after the other. -/
def nodesOfItems : List Value → Except Fault (List Node)
  | [] => .ok []
  | v :: rest => return (← nodes v) ++ (← nodesOfItems rest)

/-- One element for a value of any kind. -/
def element (name : Name) : Value → Except Fault Node
  | .map entries => return .branch name (← nodesOfEntries entries)
  | v => leafOf name v

/-- The elements for a value under a key: one for each item of a list, else one. -/
def elements (name : Name) : Value → Except Fault (List Node)
  | .list items => elementsOfItems name items
  | .tuple items => elementsOfItems name items
  | .map entries => return [.branch name (← nodesOfEntries entries)]
  | v => return [← leafOf name v]

/-- One element for each item of a list. -/
def elementsOfItems (name : Name) : List Value → Except Fault (List Node)
  | [] => .ok []
  | v :: rest => return (← itemElement name v) :: (← elementsOfItems name rest)

/-- The element of one item of a list. -/
def itemElement (name : Name) : Value → Except Fault Node
  | .map entries =>
    if name.tag == gateEntryTag then
      return .branch ⟨gateEntryTag, none⟩ (← inFieldOrder (gateEntryParts entries))
    else return .branch name (← nodesOfEntries entries)
  | .list items => return .branch name (← nodesOfItems items)
  | .tuple items => return .branch name (← nodesOfItems items)
  | v => leafOf name v

/-- The markup of the entries of a map. -/
def nodesOfEntries : List (Value × Value) → Except Fault (List Node)
  | [] => .ok []
  | (key, v) :: rest => do
    let name ← nameOf key
    return (← elements name v) ++ (← nodesOfEntries rest)

/-- The parts of an entry of a gate control list: the place of a known leaf among the known, and its
markup. -/
def gateEntryParts : List (Value × Value) → List (Option Nat × Except Fault (List Node))
  | [] => []
  | (key, v) :: rest =>
    let part : Option Nat × Except Fault (List Node) :=
      match key.asText?.bind fun s => gateEntryFields.idxOf? s with
      | some i =>
        let name : Name := ⟨gateEntryFields.getD i "", none⟩
        (some i, (element name v).map fun node =>
          match i, v with
          | 1, .str s => [.leaf name (.text (escape (withoutModule s)))]
          | _, _ => [node])
      | none => (none, do elements (← nameOf key) v)
    part :: gateEntryParts rest

end

/-- The text of a value as markup. -/
def encode (v : Value) (indent : Int) : Except Fault String :=
  (nodes v).map (render indent)

end GateRollout.Markup
