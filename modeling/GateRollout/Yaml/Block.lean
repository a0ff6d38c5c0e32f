import GateRollout.Yaml.Tag

/-!
# Block scalars

Texts on indented lines of their own, kept line by line or folded.  The header may fix the
indentation and what becomes of the line breaks at the end.
-/

namespace GateRollout.Yaml

/-- What becomes of the line breaks at the end of a block scalar. -/
inductive Chomping where
  | strip
  | clip
  | keep
  deriving Repr, DecidableEq

/-- The chomping that a sign asks for. -/
def chomping? (c : Char) : Option Chomping :=
  if c == '+' then some .keep else if c == '-' then some .strip else none

/-- The chomping that the header asks for, where it does. -/
def headerChomping? : Scan (Option Chomping) := do
  let sign := chomping? (← Scan.peek)
  if sign.isSome then Scan.skip 1
  return sign

/-- The indentation that the header fixes, where it does. -/
def headerIndent? (start : Mark) : Scan (Option Nat) := do
  let ch ← Scan.peek
  if !ch.isDigit then return none
  if ch == '0' then Scan.fail (.scanning .blockScalar) start .zeroIndentation
  Scan.skip 1
  return some (ch.toNat - 48)

/-- The header of a block scalar: chomping and indentation in either order. -/
def blockHeader (start : Mark) : Scan (Chomping × Option Nat) := do
  let before ← headerChomping?
  let indent ← headerIndent? start
  let after ← if before.isNone && indent.isSome then headerChomping? else pure none
  let ch ← Scan.peek
  if !isSpaceOrEnd ch then
    Scan.fail (.scanning .blockScalar) start (.expected "chomping or indentation indicators" ch)
  return ((before.or after).getD .clip, indent)

/-- The line breaks in front of the first line that holds something, and the widest indentation met
on the way. -/
def leadingBreaks : Nat → Nat → Scan (List Char × Nat)
  | 0, widest => return ([], widest)
  | fuel + 1, widest => do
    Scan.skipSpaces
    let widest := max widest (← get).column
    match ← Scan.lineBreak? with
    | none => return ([], widest)
    | some ch =>
      let (breaks, widest) ← leadingBreaks fuel widest
      return (ch :: breaks, widest)

/-- Go past the spaces of an indentation. -/
def skipIndent (indent : Int) : Scan Unit := do
  let c ← get
  let spaces := (c.rest.takeWhile (· == ' ')).length
  Scan.skip (min spaces (indent - c.column).toNat)

/-- The line breaks of empty lines, and the indentation of the line after them. -/
def blockBreaks (indent : Int) : Scan (List Char) := do
  skipIndent indent
  Scan.many do
    match ← Scan.lineBreak? with
    | none => return none
    | some ch =>
      skipIndent indent
      return some [ch]

/-- Whether a line of the scalar starts here. -/
def atBlockLine (indent : Int) : Scan Bool := do
  let c ← get
  return (c.column : Int) == indent && c.peek != endChar

/-- The lines of a block scalar after some line breaks, `fuel` of them at most, and the line breaks at
its end: that of the last line, and those of the empty lines after it. -/
def blockLines (folded : Bool) (indent : Int) (breaks : List Char) :
    Nat → Scan (List Char × List Char × List Char)
  | 0 => return ([], [], breaks)
  | fuel + 1 => do
    if !(← atBlockLine indent) then return ([], [], breaks)
    let startsWithText := !isSpaceOrTab (← Scan.peek)
    let line ← Scan.span fun c => !isBreakOrEnd c
    let ending := (← Scan.lineBreak?).toList
    let following ← blockBreaks indent
    let text := breaks ++ line
    if ← atBlockLine indent then
      let next ← Scan.peek
      let joint :=
        if folded && ending == ['\n'] && startsWithText && !isSpaceOrTab next then
          (if following.isEmpty then [' '] else [])
        else ending
      let (rest, ending, following) ← blockLines folded indent following fuel
      return (text ++ joint ++ rest, ending, following)
    else return (text, ending, following)

/-- A block scalar inside something that is indented by `outer`. -/
def blockToken (folded : Bool) (outer : Int) : Scan Token := do
  let start ← Scan.mark
  Scan.skip 1
  let (chomping, fixed) ← blockHeader start
  restOfLine (.scanning .blockScalar) start
  let least := max 1 (outer + 1)
  let (breaks, indent) ← match fixed with
    | some n =>
      let indent := least + n - 1
      pure (← blockBreaks indent, indent)
    | none => do
      let (breaks, widest) ← leadingBreaks ((← get).rest.length + 1) 0
      pure (breaks, max least widest)
  let (text, ending, following) ← blockLines folded indent breaks ((← get).rest.length + 1)
  let tail := match chomping with
    | .strip => []
    | .clip => ending
    | .keep => ending ++ following
  return ⟨.scalar (String.ofList (text ++ tail)) false, start, ← Scan.mark⟩

end GateRollout.Yaml
