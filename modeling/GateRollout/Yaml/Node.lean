import GateRollout.Yaml.Cursor

/-!
# Nodes

What a document is made of: scalars, sequences and mappings, each with a tag that tells what kind of
data it stands for.  Aliases have been replaced by what they stand for.
-/

namespace GateRollout.Yaml

/-- The tags that have a meaning of their own. -/
inductive CoreTag where
  | null
  | bool
  | int
  | float
  | binary
  | timestamp
  | orderedMap
  | pairs
  | set
  | str
  | seq
  | map
  /-- A key whose value is merged into the mapping around it. -/
  | merge
  /-- A key whose value the mapping around it stands for. -/
  | value
  deriving Repr, DecidableEq

namespace CoreTag

/-- All tags. -/
def all : List CoreTag :=
  [null, bool, int, float, binary, timestamp, orderedMap, pairs, set, str, seq, map, merge, value]

/-- The last part of a tag. -/
def shortName : CoreTag → String
  | null => "null"
  | bool => "bool"
  | int => "int"
  | float => "float"
  | binary => "binary"
  | timestamp => "timestamp"
  | orderedMap => "omap"
  | pairs => "pairs"
  | set => "set"
  | str => "str"
  | seq => "seq"
  | map => "map"
  | merge => "merge"
  | value => "value"

/-- What the core tags begin with. -/
def space : String := "tag:yaml.org,2002:"

/-- A tag in full. -/
def name (t : CoreTag) : String := space ++ t.shortName

end CoreTag

/-- A tag. -/
inductive Tag where
  | core (t : CoreTag)
  | other (name : String)
  deriving Repr, DecidableEq

namespace Tag

/-- The tag with a name. -/
def ofName (s : String) : Tag :=
  match CoreTag.all.find? (·.name == s) with
  | some t => core t
  | none => other s

/-- The name of a tag. -/
def name : Tag → String
  | core t => t.name
  | other s => s

end Tag

/-- A node, with where it starts. -/
inductive Node where
  | scalar (tag : Tag) (text : String) (mark : Mark)
  | sequence (tag : Tag) (items : List Node) (mark : Mark)
  | mapping (tag : Tag) (entries : List (Node × Node)) (mark : Mark)
  /-- An alias of a node that it lies in. -/
  | enclosing (mark : Mark)
  deriving Inhabited

namespace Node

/-- Where a node starts. -/
def mark : Node → Mark
  | scalar _ _ m => m
  | sequence _ _ m => m
  | mapping _ _ m => m
  | enclosing m => m

/-- The tag of a node. -/
def tag : Node → Tag
  | scalar t _ _ => t
  | sequence t _ _ => t
  | mapping t _ _ => t
  | enclosing _ => .core .seq

/-- The name of a node's kind. -/
def kindName : Node → String
  | scalar _ _ _ => "scalar"
  | sequence _ _ _ => "sequence"
  | mapping _ _ _ => "mapping"
  | enclosing _ => "sequence"

/-- A node that has no text. -/
def empty (mark : Mark) : Node := scalar (.core .null) "" mark

/-- The same node with another tag. -/
def withTag (t : Tag) : Node → Node
  | scalar _ text m => scalar t text m
  | sequence _ items m => sequence t items m
  | mapping _ entries m => mapping t entries m
  | n => n

mutual

/-- How deep a node goes: scalars have depth one. -/
def depth : Node → Nat
  | scalar _ _ _ => 1
  | sequence _ items _ => depthOfItems items + 1
  | mapping _ entries _ => depthOfEntries entries + 1
  | enclosing _ => 1

/-- The greatest depth of some nodes. -/
def depthOfItems : List Node → Nat
  | [] => 0
  | n :: rest => max n.depth (depthOfItems rest)

/-- The greatest depth of keys and values. -/
def depthOfEntries : List (Node × Node) → Nat
  | [] => 0
  | (k, v) :: rest => max (max k.depth v.depth) (depthOfEntries rest)

end

end Node

end GateRollout.Yaml
