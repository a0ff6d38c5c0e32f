import GateRollout.Yaml.Cursor
import GateRollout.Failure

/-!
# Faults of a document text

Why a text is no document: what was being read, where that started, what is amiss, and where.
-/

namespace GateRollout.Yaml

open Text

/-- What is being read. -/
inductive Item where
  | directive
  | reference
  | anchor
  | tag
  | blockScalar
  | quotedScalar
  | doubleQuotedScalar
  | simpleKey
  | nextToken
  | node
  | blockNode
  | flowNode
  | blockCollection
  | blockMapping
  | flowSequence
  | flowMapping
  | mapping
  | orderedMap
  | pairs
  deriving Repr, DecidableEq

/-- An item in words. -/
def Item.text : Item → String
  | directive => "a directive"
  | reference => "an alias"
  | anchor => "an anchor"
  | tag => "a tag"
  | blockScalar => "a block scalar"
  | quotedScalar => "a quoted scalar"
  | doubleQuotedScalar => "a double-quoted scalar"
  | simpleKey => "a simple key"
  | nextToken => "for the next token"
  | node => "a node"
  | blockNode => "a block node"
  | flowNode => "a flow node"
  | blockCollection => "a block collection"
  | blockMapping => "a block mapping"
  | flowSequence => "a flow sequence"
  | flowMapping => "a flow mapping"
  | mapping => "a mapping"
  | orderedMap => "an ordered map"
  | pairs => "pairs"

/-- In what a fault was met. -/
inductive Context where
  | scanning (item : Item)
  | parsing (item : Item)
  | constructing (item : Item)
  | duplicateAnchor (name : String)
  | singleDocument
  deriving Repr, DecidableEq

/-- A context in words. -/
def Context.text : Context → String
  | scanning item => s!"while scanning {item.text}"
  | parsing item => s!"while parsing {item.text}"
  | constructing item => s!"while constructing {item.text}"
  | duplicateAnchor name => s!"found duplicate anchor {quoted name}; first occurrence"
  | singleDocument => "expected a single document in the stream"

/-- What is amiss. -/
inductive Problem where
  /-- Something else was expected than a character. -/
  | expected (what : String) (found : Char)
  /-- Something else was expected than a token of this name. -/
  | expectedToken (what found : String)
  /-- A separator or an end was expected instead of a token of this name. -/
  | expectedMark (what found : String)
  | cannotStart (found : Char)
  | noColon
  | notAllowed (what : String)
  | zeroIndentation
  | unknownEscape (found : Char)
  | endInQuotes
  | separatorInQuotes
  | undecodable (message : String)
  | duplicateVersion
  | badVersion
  | duplicateHandle (handle : String)
  | undefinedHandle (handle : String)
  | undefinedAlias (name : String)
  | secondOccurrence
  | anotherDocument
  | unhashableKey
  /-- A node of another kind was expected. -/
  | expectedNode (what found : String)
  | unknownTag (tag : String)
  | notAscii (message : String)
  | notBase64 (message : String)
  deriving Repr, DecidableEq

/-- A problem in words. -/
def Problem.text : Problem → String
  | expected what found => s!"expected {what}, but found {quoted found.toString}"
  | expectedToken what found => s!"expected {what}, but found {quoted found}"
  | expectedMark what found => s!"expected {what}, but got {quoted found}"
  | cannotStart found => s!"found character {quoted found.toString} that cannot start any token"
  | noColon => "could not find expected ':'"
  | notAllowed what => s!"{what} are not allowed here"
  | zeroIndentation => "expected indentation indicator in the range 1-9, but found 0"
  | unknownEscape found => s!"found unknown escape character {quoted found.toString}"
  | endInQuotes => "found unexpected end of stream"
  | separatorInQuotes => "found unexpected document separator"
  | undecodable message => message
  | duplicateVersion => "found duplicate YAML directive"
  | badVersion => "found incompatible YAML document (version 1.* is required)"
  | duplicateHandle handle => s!"duplicate tag handle {quoted handle}"
  | undefinedHandle handle => s!"found undefined tag handle {quoted handle}"
  | undefinedAlias name => s!"found undefined alias {quoted name}"
  | secondOccurrence => "second occurrence"
  | anotherDocument => "but found another document"
  | unhashableKey => "found unhashable key"
  | expectedNode what found => s!"expected {what}, but found {found}"
  | unknownTag tag => s!"could not determine a constructor for the tag {quoted tag}"
  | notAscii message => s!"failed to convert base64 data into ascii: {message}"
  | notBase64 message => s!"failed to decode base64 data: {message}"

/-- Why a text is no document. -/
inductive Fault where
  /-- A character that no document may hold, by its code and its position. -/
  | character (code position : Nat)
  /-- A problem at a place, perhaps met in something that started at another place. -/
  | at_ (context : Option (Context × Mark)) (problem : Problem) (mark : Mark)
  /-- A value that cannot be made, for a reason that has nothing to do with the text's form. -/
  | value (f : GateRollout.Fault)
  /-- A collection that lies in itself. -/
  | recursive
  deriving Repr, DecidableEq

/-- A place in words. -/
def Mark.text (file : String) (m : Mark) : String :=
  s!"  in \"{file}\", line {natText (m.line + 1)}, column {natText (m.column + 1)}"

/-- The message of a fault of a file.  A context that starts where the problem is gets no place of its
own. -/
def Fault.message (file : String) : Fault → String
  | character code position =>
    s!"unacceptable character #x{String.ofList (hexPadded 4 code)}: special characters are not allowed\n" ++
      s!"  in \"{file}\", position {natText position}"
  | at_ none problem mark => problem.text ++ "\n" ++ mark.text file
  | at_ (some (context, start)) problem mark =>
    let first := if start == mark then [context.text] else [context.text, start.text file]
    "\n".intercalate (first ++ [problem.text, mark.text file])
  | value f => f.text
  | recursive => "found recursive node"

end GateRollout.Yaml
