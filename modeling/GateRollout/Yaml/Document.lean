import GateRollout.Yaml.TokenStream
import GateRollout.Yaml.Node
import GateRollout.Yaml.Implicit

/-!
# Documents

The node that a text holds.  Nodes are read from the tokens one inside the other; a name that was
given to a node by an anchor stands for it from there on.
-/

namespace GateRollout.Yaml

/-- What an anchor stands for: where its node starts, and the node as soon as it is complete. -/
structure Anchored where
  mark : Mark
  node : Option Node

/-- What is known while nodes are read. -/
structure Reader where
  tokens : TokenStream
  /-- What the handles in front of tags stand for. -/
  handles : List (String × String) := []
  anchors : List (String × Anchored) := []

/-- Reading nodes. -/
abbrev Read := StateT Reader (Except Fault)

namespace Read

/-- The handles that need no directive. -/
def defaultHandles : List (String × String) := [("!", "!"), ("!!", CoreTag.space)]

/-- The next token. -/
def peek : Read Token := do
  let r ← get
  let tokens ← r.tokens.prepare
  set { r with tokens }
  return tokens.queue.headD ⟨.streamEnd, tokens.mark, tokens.mark⟩

/-- Take the next token. -/
def take : Read Token := do
  let t ← peek
  modify fun r =>
    { r with tokens := { r.tokens with queue := r.tokens.queue.tail, taken := r.tokens.taken + 1 } }
  return t

/-- What the next token is. -/
def kind : Read TokenKind := return (← peek).kind

/-- Fail at a token. -/
def failAt {α : Type} (t : Token) (problem : Problem) : Read α := throw (.at_ none problem t.start)

/-- Fail at the next token, in something that started at a mark. -/
def failIn {α : Type} (item : Item) (start : Mark) (problem : String → Problem) : Read α := do
  let t ← peek
  throw (.at_ (some (.parsing item, start)) (problem t.kind.name) t.start)

/-! ## Anchors and tags -/

/-- Refuse an anchor that has a node already. -/
def checkAnchor (anchor : Option String) (start : Mark) : Read Unit := do
  match anchor with
  | none => return ()
  | some name =>
    match (← get).anchors.find? (·.1 == name) with
    | some (_, first) => throw (.at_ (some (.duplicateAnchor name, first.mark)) .secondOccurrence start)
    | none => return ()

/-- Let an anchor stand for a node. -/
def nameNode (anchor : Option String) (start : Mark) (node : Option Node) : Read Unit := do
  match anchor with
  | none => return ()
  | some name =>
    modify fun r =>
      { r with anchors := r.anchors.filter (·.1 != name) ++ [(name, ⟨start, node⟩)] }

/-- The node that an alias stands for. -/
def aliased (name : String) (t : Token) : Read Node := do
  match (← get).anchors.find? (·.1 == name) with
  | none => failAt t (.undefinedAlias name)
  | some (_, a) => return a.node.getD (.enclosing t.start)

/-- The name of a tag whose handle stands for something. -/
def tagName (start : Mark) (handle : Option String) (suffix : String) (t : Token) : Read String := do
  match handle with
  | none => return suffix
  | some h =>
    match (← get).handles.find? (·.1 == h) with
    | some (_, stands) => return stands ++ suffix
    | none => throw (.at_ (some (.parsing .node, start)) (.undefinedHandle h) t.start)

/-- What stands in front of a node's content. -/
structure Properties where
  anchor : Option String := none
  tag : Option String := none
  /-- Where the node starts, if anything stands in front of its content. -/
  start : Option Mark := none

/-- An anchor and a tag, in either order. -/
def properties : Read Properties := do
  let t ← peek
  match t.kind with
  | .anchor name =>
    let _ ← take
    let u ← peek
    match u.kind with
    | .tag handle suffix =>
      let _ ← take
      return ⟨some name, some (← tagName t.start handle suffix u), some t.start⟩
    | _ => return ⟨some name, none, some t.start⟩
  | .tag handle suffix =>
    let _ ← take
    let u ← peek
    match u.kind with
    | .anchor name =>
      let _ ← take
      return ⟨some name, some (← tagName t.start handle suffix t), some t.start⟩
    | _ => return ⟨none, some (← tagName t.start handle suffix t), some t.start⟩
  | _ => return {}

/-- The tag of a scalar: the one it is given, the one its form tells, or that of a text. -/
def scalarTag (tag : Option String) (isPlain : Bool) (text : String) : Tag :=
  match tag with
  | some "!" => .core (Implicit.tagOf text)
  | some name => .ofName name
  | none => .core (if isPlain then Implicit.tagOf text else .str)

/-- The tag of a collection: the one it is given, or the usual one. -/
def collectionTag (tag : Option String) (usual : CoreTag) : Tag :=
  match tag with
  | some "!" => .core usual
  | some name => .ofName name
  | none => .core usual

/-! ## Nodes -/

/-- A collection with some properties; while it is being made, its anchor stands for a node that is not
complete. -/
def collection (p : Properties) (start : Mark) (usual : CoreTag) (make : Tag → Read Node) :
    Read Node := do
  checkAnchor p.anchor start
  nameNode p.anchor start none
  let n ← make (collectionTag p.tag usual)
  nameNode p.anchor start (some n)
  return n

/-- The node behind a token, which is empty where one of some tokens follows. -/
def orEmpty (ends : List TokenKind) (before : Token) (x : Read Node) : Read Node := do
  if ends.contains (← kind) then return .empty before.stop else x

/-- The value of an entry whose key has been read, which is empty where there is no colon or where one
of some tokens follows the colon. -/
def valueOf (ends : List TokenKind) (x : Read Node) : Read Node := do
  let t ← peek
  match t.kind with
  | .value =>
    let t ← take
    orEmpty ends t x
  | _ => return .empty t.start

/-- What ends the key or the value of an entry in a block. -/
def blockEnds : List TokenKind := [.key, .value, .blockEnd]

/-- Go past the comma between entries in brackets; there is none in front of the first. -/
def comma (isFirst : Bool) (item : Item) (start : Mark) (what : String) : Read Unit := do
  if isFirst then return ()
  match ← kind with
  | .flowEntry => let _ ← take
  | _ => failIn item start (.expectedMark what)

mutual

/-- A node.  Blocks may start here only if `block` holds, and a sequence whose hyphens are not indented
only if `bare` holds. -/
def node (block bare : Bool) : Nat → Read Node
  | 0 => return .empty (← peek).start
  | fuel + 1 => do
    let t ← peek
    match t.kind with
    | .reference name =>
      let _ ← take
      aliased name t
    | _ =>
      let p ← properties
      let start ← match p.start with
        | some m => pure m
        | none => pure (← peek).start
      content block bare p start fuel

/-- The content of a node with some properties. -/
def content (block bare : Bool) (p : Properties) (start : Mark) : Nat → Read Node
  | 0 => return .empty start
  | fuel + 1 => do
    match ← kind with
    | .scalar text isPlain =>
      let _ ← take
      checkAnchor p.anchor start
      let n := .scalar (scalarTag p.tag isPlain text) text start
      nameNode p.anchor start (some n)
      return n
    | .flowSequenceStart =>
      collection p start .seq fun tag => do
        return .sequence tag (← flowItems (← take).start true fuel) start
    | .flowMappingStart =>
      collection p start .map fun tag => do
        return .mapping tag (← flowPairs (← take).start true fuel) start
    | kind =>
      if bare && kind == .blockEntry then
        collection p start .seq fun tag => return .sequence tag (← bareEntries fuel) start
      else if block && kind == .blockSequenceStart then
        collection p start .seq fun tag => do
          return .sequence tag (← blockEntries (← take).start fuel) start
      else if block && kind == .blockMappingStart then
        collection p start .map fun tag => do
          return .mapping tag (← blockPairs (← take).start fuel) start
      else if p.anchor.isSome || p.tag.isSome then
        checkAnchor p.anchor start
        let n := .scalar (scalarTag p.tag true "") "" start
        nameNode p.anchor start (some n)
        return n
      else
        failIn (if block then .blockNode else .flowNode) start (.expectedToken "the node content")

/-- The entries of a sequence in a block that started at a mark, to its end. -/
def blockEntries (start : Mark) : Nat → Read (List Node)
  | 0 => return []
  | fuel + 1 => do
    match ← kind with
    | .blockEntry =>
      let t ← take
      let n ← orEmpty [.blockEntry, .blockEnd] t (node true false fuel)
      return n :: (← blockEntries start fuel)
    | .blockEnd =>
      let _ ← take
      return []
    | _ => failIn .blockCollection start (.expectedToken "<block end>")

/-- The entries of a sequence whose hyphens are not indented. -/
def bareEntries : Nat → Read (List Node)
  | 0 => return []
  | fuel + 1 => do
    match ← kind with
    | .blockEntry =>
      let t ← take
      let n ← orEmpty (.blockEntry :: blockEnds) t (node true false fuel)
      return n :: (← bareEntries fuel)
    | _ => return []

/-- The entries of a mapping in a block that started at a mark, to its end. -/
def blockPairs (start : Mark) : Nat → Read (List (Node × Node))
  | 0 => return []
  | fuel + 1 => do
    match ← kind with
    | .key =>
      let t ← take
      let k ← orEmpty blockEnds t (node true true fuel)
      let v ← valueOf blockEnds (node true true fuel)
      return (k, v) :: (← blockPairs start fuel)
    | .blockEnd =>
      let _ ← take
      return []
    | _ => failIn .blockMapping start (.expectedToken "<block end>")

/-- The entries of a sequence in brackets that started at a mark, to its end. -/
def flowItems (start : Mark) (isFirst : Bool) : Nat → Read (List Node)
  | 0 => return []
  | fuel + 1 => do
    if (← kind) == .flowSequenceEnd then
      let _ ← take
      return []
    comma isFirst .flowSequence start "',' or ']'"
    match ← kind with
    | .flowSequenceEnd =>
      let _ ← take
      return []
    | .key =>
      let t ← take
      let ends := [.flowEntry, .flowSequenceEnd]
      let k ← orEmpty (.value :: ends) t (node false false fuel)
      let v ← valueOf ends (node false false fuel)
      return .mapping (.core .map) [(k, v)] t.start :: (← flowItems start false fuel)
    | _ =>
      let n ← node false false fuel
      return n :: (← flowItems start false fuel)

/-- The entries of a mapping in braces that started at a mark, to its end. -/
def flowPairs (start : Mark) (isFirst : Bool) : Nat → Read (List (Node × Node))
  | 0 => return []
  | fuel + 1 => do
    if (← kind) == .flowMappingEnd then
      let _ ← take
      return []
    comma isFirst .flowMapping start "',' or '\x7d'"
    match ← kind with
    | .flowMappingEnd =>
      let _ ← take
      return []
    | .key =>
      let t ← take
      let ends := [.flowEntry, .flowMappingEnd]
      let k ← orEmpty (.value :: ends) t (node false false fuel)
      let v ← valueOf ends (node false false fuel)
      return (k, v) :: (← flowPairs start false fuel)
    | _ =>
      let k ← node false false fuel
      let v := Node.empty (← peek).start
      return (k, v) :: (← flowPairs start false fuel)

end

/-! ## Documents -/

/-- Note what a directive says. -/
def applyDirective (version : Option (Nat × Nat)) (t : Token) :
    Directive → Read (Option (Nat × Nat))
  | .version major minor => do
    if version.isSome then failAt t .duplicateVersion
    if major != 1 then failAt t .badVersion
    return some (major, minor)
  | .handle name stands => do
    if (← get).handles.any (·.1 == name) then failAt t (.duplicateHandle name)
    modify fun r => { r with handles := r.handles ++ [(name, stands)] }
    return version
  | .reserved _ => return version

/-- The directives in front of a document, `fuel` of them at most. -/
def directives (version : Option (Nat × Nat)) : Nat → Read Unit
  | 0 => return ()
  | fuel + 1 => do
    let t ← peek
    match t.kind with
    | .directive d =>
      let _ ← take
      directives (← applyDirective version t d) fuel
    | _ => return ()

/-- Go past marks of the ends of documents, `fuel` of them at most. -/
def documentEnds : Nat → Read Unit
  | 0 => return ()
  | fuel + 1 => do
    if (← kind) == .documentEnd then
      let _ ← take
      documentEnds fuel

/-- The start of a document with its directives; `none` at the end of the text. -/
def documentStart (fuel : Nat) : Read (Option Mark) := do
  documentEnds fuel
  let t ← peek
  if t.kind == .streamEnd then return none
  modify fun r => { r with handles := [] }
  directives none fuel
  modify fun r =>
    { r with
      handles := r.handles ++ defaultHandles.filter fun h => !r.handles.any (·.1 == h.1) }
  let u ← peek
  if u.kind != .documentStart then
    failAt u (.expectedToken "'<document start>'" u.kind.name)
  let _ ← take
  return some t.start

/-- Whether a token ends a document without content. -/
def endsDocument : TokenKind → Bool
  | .directive _ => true
  | .documentStart => true
  | .documentEnd => true
  | .streamEnd => true
  | _ => false

/-- The first document of a text; `none` where there is none. -/
def firstDocument (fuel : Nat) : Read (Option Node) := do
  let t ← peek
  let isExplicit := match t.kind with
    | .directive _ => true
    | .documentStart => true
    | .streamEnd => true
    | _ => false
  if isExplicit then
    match ← documentStart fuel with
    | none => return none
    | some _ =>
      let t ← peek
      if endsDocument t.kind then return some (.empty t.start)
      else return some (← node true false fuel)
  else
    modify fun r => { r with handles := defaultHandles }
    return some (← node true false fuel)

/-- The only document of a text; `none` where there is none. -/
def document (fuel : Nat) : Read (Option Node) := do
  match ← firstDocument fuel with
  | none => return none
  | some n =>
    match ← documentStart fuel with
    | none => return some n
    | some start =>
      throw (.at_ (some (.singleDocument, n.mark)) .anotherDocument start)

end Read

/-- The document that a text holds; `none` where it holds none.  A node takes a few steps for each of
its tokens, and there are no more than a few tokens for each character. -/
def Node.ofText? (text : List Char) : Except Fault (Option Node) := do
  let (n, _) ← (Read.document (16 * text.length + 16)).run { tokens := .ofText text }
  return n

end GateRollout.Yaml
