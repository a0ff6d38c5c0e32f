import GateRollout.Markup.Namespace
import GateRollout.Markup.Escape

/-!
# Markup

A fragment of markup as a list of nodes, and its text: one line a leaf, and an element with children
between its two tags, two spaces further in.
-/

namespace GateRollout.Markup

/-- What stands where an element has no children. -/
inductive Body where
  /-- Character data, already escaped. -/
  | text (data : String)
  /-- The mark of an absent value. -/
  | nil
  /-- The mark of a value that markup cannot express. -/
  | unsupported (typeName : String)
  deriving Repr, DecidableEq

/-- The text of a body. -/
def Body.render : Body → String
  | text data => data
  | nil => "<nil/>"
  | unsupported typeName => "<unsupported type=\"" ++ typeName ++ "\"/>"

/-- A piece of markup. -/
inductive Node where
  /-- An element on one line. -/
  | leaf (name : Name) (body : Body)
  /-- An element whose children stand on lines of their own. -/
  | branch (name : Name) (children : List Node)
  /-- A mark outside any element. -/
  | mark (body : Body)

/-- The opening tag of an element. -/
def openTag (n : Name) : String := "<" ++ n.opening ++ ">"

/-- The closing tag of an element. -/
def closeTag (n : Name) : String := "</" ++ n.tag ++ ">"

/-- A line, indented by two spaces a level; a level below zero indents by nothing. -/
def line (indent : Int) (text : String) : String :=
  String.ofList (List.replicate (2 * indent.toNat) ' ') ++ text ++ "\n"

mutual

/-- The lines of a node. -/
def Node.lines (indent : Int) : Node → List String
  | .leaf name body => [line indent (openTag name ++ body.render ++ closeTag name)]
  | .branch name children =>
    line indent (openTag name) :: (linesOf (indent + 1) children ++ [line indent (closeTag name)])
  | .mark body => [line indent body.render]

/-- The lines of a list of nodes. -/
def linesOf (indent : Int) : List Node → List String
  | [] => []
  | n :: rest => n.lines indent ++ linesOf indent rest

end

/-- The text of a fragment. -/
def render (indent : Int) (nodes : List Node) : String := String.join (linesOf indent nodes)

end GateRollout.Markup
