import GateRollout.Yaml.Content
import GateRollout.Host

/-!
# Reading documents

From a text to data.  A text in which a character is not allowed is refused before anything else is
looked at.
-/

namespace GateRollout.Yaml

/-- Whether a character may stand in a text. -/
def isAllowed (c : Char) : Bool :=
  let n := c.toNat
  n == 9 || n == 10 || n == 13 || (0x20 ≤ n && n ≤ 0x7E) || n == 0x85 ||
    (0xA0 ≤ n && n ≤ 0xD7FF) || (0xE000 ≤ n && n ≤ 0xFFFD) || 0x10000 ≤ n

/-- Turn carriage returns into line feeds, a pair of the two into one. -/
def withLineFeeds : List Char → List Char
  | [] => []
  | '\r' :: '\n' :: rest => '\n' :: withLineFeeds rest
  | c :: rest => (if c == '\r' then '\n' else c) :: withLineFeeds rest

/-- The data of the document that a text holds; nothing where it holds none. -/
def read (text : String) : Except Fault Value := do
  let cs := withLineFeeds text.toList
  match cs.zipIdx.find? fun (c, _) => !isAllowed c with
  | some (c, i) => throw (.character c.toNat i)
  | none =>
    match ← Node.ofText? cs with
    | none => return .null
    | some n => n.value

/-- A fault of a file as the fault of a reader. -/
def Fault.toDocumentFault (file : String) : Fault → DocumentFault
  | value f => .value f
  | recursive => .recursive
  | f => .malformed (f.message file)

/-- The reader of this library. -/
def reader : DocumentReader := fun file text => (read text).mapError (Fault.toDocumentFault file)

end GateRollout.Yaml
