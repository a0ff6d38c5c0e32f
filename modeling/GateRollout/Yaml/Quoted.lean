import GateRollout.Yaml.Token
import GateRollout.Text.Hex

/-!
# Quoted scalars

Texts between single or double quotes.  A line break inside is folded: it counts as a space unless
empty lines follow, which stand for themselves.  Only double quotes know escapes.
-/

namespace GateRollout.Yaml

open Text

/-- The characters that escapes of one letter stand for. -/
def letterEscapes : List (Char × Char) :=
  [('0', Char.ofNat 0), ('a', Char.ofNat 7), ('b', Char.ofNat 8), ('t', '\t'), ('\t', '\t'),
    ('n', '\n'), ('v', Char.ofNat 11), ('f', Char.ofNat 12), ('r', '\r'), ('e', Char.ofNat 27),
    (' ', ' '), ('"', '"'), ('\\', '\\'), ('/', '/'), ('N', Char.ofNat 0x85),
    ('_', Char.ofNat 0xA0), ('L', Char.ofNat 0x2028), ('P', Char.ofNat 0x2029)]

/-- The number of digits of an escape by code. -/
def codeEscape? (c : Char) : Option Nat :=
  if c == 'x' then some 2 else if c == 'u' then some 4 else if c == 'U' then some 8 else none

/-- The character with a code.  The halves of surrogate pairs stand for no character and are
replaced. -/
def charOfCode (code : Nat) : Except Fault Char :=
  if 0x80000000 ≤ code then
    .error (.value ⟨.overflow, "signed integer is greater than maximum"⟩)
  else if 0x110000 ≤ code then
    .error (.value ⟨.wrongValue, "chr() arg not in range(0x110000)"⟩)
  else if 0xD800 ≤ code && code < 0xE000 then .ok (Char.ofNat 0xFFFD)
  else .ok (Char.ofNat code)

/-- Whether a character of a quoted scalar stands for itself wherever it is. -/
def isQuotedChar (c : Char) : Bool :=
  !(isBlankOrEnd c || c == '\'' || c == '"' || c == '\\')

/-- The line breaks that stand for themselves, with the blanks around them left out. -/
def quotedBreaks (start : Mark) : Scan (List Char) :=
  Scan.many do
    if (← get).atSeparator then
      Scan.fail (.scanning .quotedScalar) start .separatorInQuotes
    modify (·.skipWhile isSpaceOrTab)
    return (← Scan.lineBreak?).map ([·])

/-- The character of an escape by code, of which the letter has been read. -/
def codeEscape (start : Mark) (count : Nat) : Scan Char := do
  let ds := (← get).rest.take count
  let refuse (c : Char) : Scan Char :=
    Scan.fail (.scanning .doubleQuotedScalar) start
      (.expected s!"escape sequence of {natText count} hexadecimal numbers" c)
  match ds.find? fun d => (hexValue? d).isNone with
  | some c => refuse c
  | none =>
    if ds.length < count then refuse endChar
    else
      Scan.skip count
      charOfCode (ds.foldl (fun n d => 16 * n + (hexValue? d).getD 0) 0)

/-- What an escape stands for; an escaped line break stands for nothing. -/
def quotedEscape (start : Mark) : Scan (List Char) := do
  Scan.skip 1
  let ch ← Scan.peek
  match letterEscapes.find? (·.1 == ch), codeEscape? ch with
  | some (_, c), _ =>
    Scan.skip 1
    return [c]
  | none, some count =>
    Scan.skip 1
    return [← codeEscape start count]
  | none, none =>
    if isBreak ch then
      let _ ← Scan.lineBreak?
      quotedBreaks start
    else Scan.fail (.scanning .doubleQuotedScalar) start (.unknownEscape ch)

/-- A piece of a quoted scalar without blanks. -/
def quotedPiece (double : Bool) (start : Mark) : Scan (Option (List Char)) := do
  let cs ← Scan.span isQuotedChar
  if !cs.isEmpty then return some cs
  let ch ← Scan.peek
  if !double && ch == '\'' && (← Scan.peekAt 1) == '\'' then
    Scan.skip 2
    return some ['\'']
  else if (double && ch == '\'') || (!double && (ch == '"' || ch == '\\')) then
    Scan.skip 1
    return some [ch]
  else if double && ch == '\\' then return some (← quotedEscape start)
  else return none

/-- The blanks of a quoted scalar, with line breaks folded. -/
def quotedSpaces (start : Mark) : Scan (List Char) := do
  let blanks ← Scan.span isSpaceOrTab
  if (← Scan.peek) == endChar then
    Scan.fail (.scanning .quotedScalar) start .endInQuotes
  match ← Scan.lineBreak? with
  | none => return blanks
  | some ch =>
    let breaks ← quotedBreaks start
    if ch != '\n' then return ch :: breaks
    else if breaks.isEmpty then return [' ']
    else return breaks

/-- A quoted scalar. -/
def quotedToken : Scan Token := do
  let start ← Scan.mark
  let quote ← Scan.peek
  let double := quote == '"'
  Scan.skip 1
  let first ← Scan.many (quotedPiece double start)
  let rest ← Scan.many do
    if (← Scan.peek) == quote then return none
    let blanks ← quotedSpaces start
    return some (blanks ++ (← Scan.many (quotedPiece double start)))
  Scan.skip 1
  return ⟨.scalar (String.ofList (first ++ rest)) false, start, ← Scan.mark⟩

end GateRollout.Yaml
