import GateRollout.Yaml.Fault

/-!
# Tokens

The pieces that a document text is made of.  The starts and ends of block collections, and the marks
in front of simple keys, have no characters of their own.
-/

namespace GateRollout.Yaml

/-- A line that speaks about the document as a whole. -/
inductive Directive where
  | version (major minor : Nat)
  /-- What a handle in front of a tag stands for. -/
  | handle (name stands : String)
  | reserved (name : String)
  deriving Repr, DecidableEq

/-- What a token is. -/
inductive TokenKind where
  | directive (d : Directive)
  | documentStart
  | documentEnd
  | streamEnd
  | blockSequenceStart
  | blockMappingStart
  | blockEnd
  | flowSequenceStart
  | flowMappingStart
  | flowSequenceEnd
  | flowMappingEnd
  | key
  | value
  | blockEntry
  | flowEntry
  | reference (name : String)
  | anchor (name : String)
  | tag (handle : Option String) (suffix : String)
  | scalar (text : String) (isPlain : Bool)
  deriving Repr, DecidableEq

/-- The name under which a token is reported. -/
def TokenKind.name : TokenKind → String
  | directive _ => "<directive>"
  | documentStart => "<document start>"
  | documentEnd => "<document end>"
  | streamEnd => "<stream end>"
  | blockSequenceStart => "<block sequence start>"
  | blockMappingStart => "<block mapping start>"
  | blockEnd => "<block end>"
  | flowSequenceStart => "["
  | flowMappingStart => "\x7b"
  | flowSequenceEnd => "]"
  | flowMappingEnd => "\x7d"
  | key => "?"
  | value => ":"
  | blockEntry => "-"
  | flowEntry => ","
  | reference _ => "<alias>"
  | anchor _ => "<anchor>"
  | tag _ _ => "<tag>"
  | scalar _ _ => "<scalar>"

/-- A token and where it starts and stops. -/
structure Token where
  kind : TokenKind
  start : Mark
  stop : Mark
  deriving Repr, DecidableEq

/-- Reading a piece of a text. -/
abbrev Scan := StateT Cursor (Except Fault)

namespace Scan

/-- Where the reading stands. -/
def mark : Scan Mark := return (← get).mark

/-- The next character. -/
def peek : Scan Char := return (← get).peek

/-- The character some places on. -/
def peekAt (n : Nat) : Scan Char := return (← get).peekAt n

/-- Go on by some characters. -/
def skip (n : Nat) : Scan Unit := modify (·.skip n)

/-- The characters of a class that come next. -/
def span (p : Char → Bool) : Scan (List Char) := modifyGet (·.span p)

/-- Go past spaces. -/
def skipSpaces : Scan Unit := modify (·.skipWhile (· == ' '))

/-- The end of a line, where there is one. -/
def lineBreak? : Scan (Option Char) := modifyGet fun c =>
  match c.lineBreak? with
  | some (ch, c) => (some ch, c)
  | none => (none, c)

/-- The pieces that a step finds until it finds none, `fuel` of them at most. -/
def upTo {α : Type} (step : Scan (Option (List α))) : Nat → Scan (List α)
  | 0 => return []
  | fuel + 1 => do
    match ← step with
    | none => return []
    | some piece => return piece ++ (← upTo step fuel)

/-- The pieces that a step finds until it finds none.  Every step that finds a piece goes on by a
character at least, so that there are no more pieces than characters. -/
def many {α : Type} (step : Scan (Option (List α))) : Scan (List α) := do
  upTo step ((← get).rest.length + 1)

/-- Fail here, in something that started at a mark. -/
def fail {α : Type} (context : Context) (start : Mark) (problem : Problem) : Scan α := do
  throw (.at_ (some (context, start)) problem (← mark))

end Scan

end GateRollout.Yaml
