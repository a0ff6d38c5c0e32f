import GateRollout.Yaml.Token
import GateRollout.Text.Utf8

/-!
# Directives, anchors and tags

The tokens that say something about a document or a node.
-/

namespace GateRollout.Yaml

open Text

/-- Whether a character may stand in the address of a tag; percent signs start an escape. -/
def isUriChar (c : Char) : Bool :=
  c.isAlphanum || "-;/?:@&=+$,_.!~*'()[]".toList.contains c

/-- The bytes of percent escapes, `fuel` of them at most. -/
def uriEscapeBytes (item : Item) (start : Mark) : Nat → Scan (List UInt8)
  | 0 => return []
  | fuel + 1 => do
    if (← Scan.peek) == '%' then
      Scan.skip 1
      let x ← Scan.peek
      let y ← Scan.peekAt 1
      match hexValue? x, hexValue? y with
      | some hi, some lo =>
        Scan.skip 2
        return UInt8.ofNat (16 * hi + lo) :: (← uriEscapeBytes item start fuel)
      | none, _ =>
        Scan.fail (.scanning item) start
          (.expected "URI escape sequence of 2 hexadecimal numbers" x)
      | some _, none =>
        Scan.fail (.scanning item) start
          (.expected "URI escape sequence of 2 hexadecimal numbers" y)
    else return []

/-- The characters of percent escapes. -/
def uriEscapes (item : Item) (start : Mark) : Scan (List Char) := do
  let mark ← Scan.mark
  let bytes ← uriEscapeBytes item start (← get).rest.length
  match decodeUtf8 bytes with
  | .ok s => return s.toList
  | .error e => throw (.at_ (some (.scanning item, start)) (.undecodable e.message) mark)

/-- A piece of the address of a tag: characters as they are, or an escape. -/
def uriPiece (item : Item) (start : Mark) : Scan (Option (List Char)) := do
  let cs ← Scan.span isUriChar
  if !cs.isEmpty then return some cs
  if (← Scan.peek) == '%' then return some (← uriEscapes item start)
  return none

/-- The address of a tag. -/
def tagUri (item : Item) (start : Mark) : Scan String := do
  let first ← Scan.peek
  let cs ← Scan.many (uriPiece item start)
  if cs.isEmpty && first != '%' then
    Scan.fail (.parsing item) start (.expected "URI" (← Scan.peek))
  else return String.ofList cs

/-- The handle of a tag, from its first exclamation mark to its last. -/
def tagHandle (item : Item) (start : Mark) : Scan String := do
  let ch ← Scan.peek
  if ch != '!' then Scan.fail (.scanning item) start (.expected "'!'" ch)
  else
    let name := ((← get).rest.drop 1).takeWhile isNameChar
    let after ← Scan.peekAt (name.length + 1)
    if name.isEmpty && after == ' ' then
      Scan.skip 1
      return "!"
    else if after != '!' then
      Scan.skip (name.length + 1)
      Scan.fail (.scanning item) start (.expected "'!'" after)
    else
      Scan.skip (name.length + 2)
      return String.ofList ('!' :: name ++ ['!'])

/-- A tag: an address between angle brackets, a single mark, or a handle with the rest of an
address. -/
def tagToken : Scan Token := do
  let start ← Scan.mark
  let ch ← Scan.peekAt 1
  let (handle, suffix) ←
    if ch == '<' then
      Scan.skip 2
      let uri ← tagUri .tag start
      let close ← Scan.peek
      if close != '>' then Scan.fail (.parsing .tag) start (.expected "'>'" close)
      else
        Scan.skip 1
        pure (none, uri)
    else if isBlankOrEnd ch then
      Scan.skip 1
      pure (none, "!")
    else
      let word := ((← get).rest.drop 1).takeWhile fun c => !isSpaceOrEnd c
      if word.contains '!' then
        let handle ← tagHandle .tag start
        pure (some handle, ← tagUri .tag start)
      else
        Scan.skip 1
        pure (some "!", ← tagUri .tag start)
  let ch ← Scan.peek
  if isSpaceOrEnd ch then return ⟨.tag handle suffix, start, ← Scan.mark⟩
  else Scan.fail (.scanning .tag) start (.expected "' '" ch)

/-- The name after the mark of an anchor or alias. -/
def nameToken (item : Item) (kind : String → TokenKind) : Scan Token := do
  let start ← Scan.mark
  Scan.skip 1
  let name ← Scan.span isNameChar
  let ch ← Scan.peek
  let fine := isBlankOrEnd ch || "?:,]\x7d%@`".toList.contains ch
  if name.isEmpty || !fine then
    Scan.fail (.scanning item) start (.expected "alphabetic or numeric character" ch)
  else return ⟨kind (String.ofList name), start, ← Scan.mark⟩

/-- A number of a version. -/
def versionNumber (start : Mark) : Scan Nat := do
  let ch ← Scan.peek
  if !ch.isDigit then Scan.fail (.scanning .directive) start (.expected "a digit" ch)
  else
    let ds ← Scan.span Char.isDigit
    return ofDigitValues (ds.map fun c => c.toNat - 48)

/-- The version that a directive names. -/
def versionDirective (start : Mark) : Scan Directive := do
  Scan.skipSpaces
  let major ← versionNumber start
  let ch ← Scan.peek
  if ch != '.' then Scan.fail (.scanning .directive) start (.expected "a digit or '.'" ch)
  else
    Scan.skip 1
    let minor ← versionNumber start
    let ch ← Scan.peek
    if isSpaceOrEnd ch then return .version major minor
    else Scan.fail (.scanning .directive) start (.expected "a digit or ' '" ch)

/-- The handle that a directive names, and what it stands for. -/
def handleDirective (start : Mark) : Scan Directive := do
  Scan.skipSpaces
  let handle ← tagHandle .directive start
  let ch ← Scan.peek
  if ch != ' ' then Scan.fail (.scanning .directive) start (.expected "' '" ch)
  else
    Scan.skipSpaces
    let uri ← tagUri .directive start
    let ch ← Scan.peek
    if isSpaceOrEnd ch then return .handle handle uri
    else Scan.fail (.scanning .directive) start (.expected "' '" ch)

/-- Go past the rest of a line that may hold nothing but a comment. -/
def restOfLine (context : Context) (start : Mark) : Scan Unit := do
  modify (·.skipComment)
  let ch ← Scan.peek
  if isBreakOrEnd ch then let _ ← Scan.lineBreak?
  else Scan.fail context start (.expected "a comment or a line break" ch)

/-- A directive with its line. -/
def directiveToken : Scan Token := do
  let start ← Scan.mark
  Scan.skip 1
  let name ← Scan.span isNameChar
  let ch ← Scan.peek
  if name.isEmpty || !isSpaceOrEnd ch then
    Scan.fail (.scanning .directive) start (.expected "alphabetic or numeric character" ch)
  else
    let d ← match String.ofList name with
      | "YAML" => versionDirective start
      | "TAG" => handleDirective start
      | other => pure (.reserved other)
    let stop ← Scan.mark
    match d with
    | .reserved _ => modify (·.skipWhile fun c => !isBreak c)
    | _ => pure ()
    restOfLine (.scanning .directive) start
    return ⟨.directive d, start, stop⟩

end GateRollout.Yaml
