import GateRollout.Yaml.Document
import GateRollout.Yaml.Scalar

/-!
# Contents

The data that a document stands for.  Collections are filled level by level, so that of several faults
the one that lies least deep is reported, and of those the first.
-/

namespace GateRollout.Yaml

/-- A fault and how deep it lies. -/
structure Misfit where
  level : Nat
  fault : Fault

namespace Misfit

variable {α β : Type}

/-- Two parts; of two faults the one that lies less deep is kept, else the first. -/
def both (a : Except Misfit α) (b : Except Misfit β) : Except Misfit (α × β) :=
  match a, b with
  | .ok x, .ok y => .ok (x, y)
  | .error e, .error f => .error (if f.level < e.level then f else e)
  | .error e, .ok _ => .error e
  | .ok _, .error f => .error f

/-- All parts; of all faults the one that lies least deep is kept, and of those the first. -/
def all (parts : List (Except Misfit α)) : Except Misfit (List α) :=
  parts.foldr (fun a rest => (both a rest).map fun (x, xs) => x :: xs) (.ok [])

/-- A result at a level. -/
def atLevel (level : Nat) (r : Except Fault α) : Except Misfit α := r.mapError fun e => ⟨level, e⟩

end Misfit

namespace Node

/-- Whether a node has a core tag. -/
def hasTag (n : Node) (t : CoreTag) : Bool := n.tag == .core t

/-- That a node of another kind was expected, in something that started at a mark. -/
def unexpected (n : Node) (context : Option (Context × Mark)) (what : String) : Fault :=
  .at_ context (.expectedNode what n.kindName) n.mark

/-- That a node is not of the kind that its tag wants. -/
def notOfKind (n : Node) (what : String) : Fault := n.unexpected none what

mutual

/-- The text of a scalar, or of the scalar that a mapping stands for. -/
def textOf : Node → Except Fault String
  | scalar _ s _ => .ok s
  | mapping t entries m => textOfEntries (mapping t [] m) entries
  | n => .error (n.notOfKind "a scalar node")

/-- The text of the scalar that the entries of a mapping stand for. -/
def textOfEntries (whole : Node) : List (Node × Node) → Except Fault String
  | [] => .error (whole.notOfKind "a scalar node")
  | (k, v) :: rest => if k.hasTag .value then v.textOf else textOfEntries whole rest

end

mutual

/-- The entries that are merged into a mapping, and its own entries. -/
def mergedEntries (start : Mark) :
    List (Node × Node) → Except Fault (List (Node × Node) × List (Node × Node))
  | [] => .ok ([], [])
  | (k, v) :: rest => do
    if k.hasTag .merge then
      let these ← mergeable start v
      let (merged, own) ← mergedEntries start rest
      return (these ++ merged, own)
    else
      let k := if k.hasTag .value then k.withTag (.core .str) else k
      let (merged, own) ← mergedEntries start rest
      return (merged, (k, v) :: own)

/-- The entries that a node brings into a mapping: those of a mapping, or of a sequence of mappings of
which the later come first. -/
def mergeable (start : Mark) : Node → Except Fault (List (Node × Node))
  | mapping _ es m => do
    let (merged, own) ← mergedEntries m es
    return merged ++ own
  | sequence _ items _ => mergeableItems start items
  | n =>
    .error (n.unexpected (some (.constructing .mapping, start))
      "a mapping or list of mappings for merging")

/-- The entries that the items of a sequence bring into a mapping. -/
def mergeableItems (start : Mark) : List Node → Except Fault (List (Node × Node))
  | [] => .ok []
  | mapping _ es m :: rest => do
    let (merged, own) ← mergedEntries m es
    return (← mergeableItems start rest) ++ (merged ++ own)
  | n :: _ =>
    .error (n.unexpected (some (.constructing .mapping, start)) "a mapping for merging")

end

/-- The entries of a mapping, with those of merged mappings in front. -/
def entries (n : Node) : Except Fault (List (Node × Node)) :=
  match n with
  | mapping _ es m => do
    let (merged, own) ← mergedEntries m es
    return merged ++ own
  | n => .error (n.notOfKind "a mapping node")

/-- The items of a sequence. -/
def items (n : Node) : Except Fault (List Node) :=
  match n with
  | sequence _ ns _ => .ok ns
  | n => .error (n.notOfKind "a sequence node")

/-- The only entry of a mapping in a sequence that started at a mark. -/
def onlyEntry (item : Item) (start : Mark) (n : Node) : Except Fault (Node × Node) :=
  let context := some (Context.constructing item, start)
  match n with
  | mapping _ [e] _ => .ok e
  | mapping _ es m =>
    .error (.at_ context
      (.expectedNode "a single mapping item" s!"{Text.natText es.length} items") m)
  | n => .error (n.unexpected context "a mapping of length 1")

/-- The items of a sequence that stands for pairs. -/
def pairItems (item : Item) (n : Node) : Except Fault (List Node) :=
  match n with
  | sequence _ ns _ => .ok ns
  | n => .error (n.unexpected (some (.constructing item, n.mark)) "a sequence")

/-- Whether a tag stands for collections, which are no keys. -/
def isCollectionTag : Tag → Bool
  | .core .seq => true
  | .core .map => true
  | .core .set => true
  | .core .orderedMap => true
  | .core .pairs => true
  | _ => false

/-- That a key of a mapping is a collection. -/
def checkKey (start : Mark) (key : Node) : Except Fault Unit :=
  if isCollectionTag key.tag then
    .error (.at_ (some (.constructing .mapping, start)) .unhashableKey key.mark)
  else .ok ()

/-- A map of keys and values; a later value of a key takes the place of an earlier one. -/
def mapOf (pairs : List (Value × Value)) : Entries :=
  pairs.foldl (fun es (k, v) => es.insert k v) []

open Misfit

/-- The data of a node at a level, of a depth of at most `fuel`. -/
def valueAt (level : Nat) : Nat → Node → Except Misfit Value
  | 0, _ => .error ⟨level, .recursive⟩
  | fuel + 1, n =>
    let inner (m : Node) : Except Misfit Value := valueAt (level + 1) fuel m
    let filled {α : Type} (r : Except Fault α) : Except Misfit α := atLevel (level + 1) r
    let pair (e : Node × Node) : Except Misfit (Value × Value) :=
      (both (both (inner e.1) (filled (checkKey n.mark e.1))) (inner e.2)).map
        fun ((k, ()), v) => (k, v)
    let tupled (item : Item) : Except Misfit Value := do
      let ps ← all ((← filled (n.pairItems item)).map fun m => do
        let (k, v) ← filled (onlyEntry item n.mark m)
        both (inner k) (inner v))
      return .list (ps.map fun (k, v) => .tuple [k, v])
    match n, n.tag with
    | enclosing _, _ => .error ⟨level, .recursive⟩
    | _, .core .seq => do return .list (← all ((← filled n.items).map inner))
    | _, .core .map => do return .map (mapOf (← all ((← filled n.entries).map pair)))
    | _, .core .set => do
      return .set ((mapOf (← all ((← filled n.entries).map pair))).map (·.1))
    | _, .core .orderedMap => tupled .orderedMap
    | _, .core .pairs => tupled .pairs
    | _, .core t =>
      match Scalar.reader? t with
      | some read => atLevel level (n.textOf.bind (read n.mark))
      | none => .error ⟨level, .at_ none (.unknownTag t.name) n.mark⟩
    | _, .other name => .error ⟨level, .at_ none (.unknownTag name) n.mark⟩

/-- The data of a node. -/
def value (n : Node) : Except Fault Value := (valueAt 0 n.depth n).mapError (·.fault)

end Node

end GateRollout.Yaml
