import GateRollout.Yaml.Token

/-!
# Plain scalars

Texts without quotes.  They end in front of a comment, of a colon that is followed by a blank, and of
a line that is not indented far enough; between brackets also in front of what separates entries.
-/

namespace GateRollout.Yaml

/-- Whether a character has a meaning between brackets and braces. -/
def isFlowMark (c : Char) : Bool := ",[]\x7b\x7d".toList.contains c

/-- Whether a plain scalar stops in front of a character that is followed by another. -/
def stopsPlain (inFlow : Bool) (c following : Char) : Bool :=
  isBlankOrEnd c ||
    (c == ':' && (isBlankOrEnd following || (inFlow && isFlowMark following))) ||
    (inFlow && (c == '?' || isFlowMark c))

/-- The characters before a plain scalar stops. -/
def plainChars (inFlow : Bool) : List Char → List Char
  | [] => []
  | c :: rest =>
    if stopsPlain inFlow c (rest.headD endChar) then [] else c :: plainChars inFlow rest

/-- The line breaks that stand for themselves, with the spaces around them left out; `none` where a
separator of documents follows. -/
def plainBreaks : Nat → Scan (Option (List Char))
  | 0 => return some []
  | fuel + 1 => do
    if (← get).atSeparator then return none
    Scan.skipSpaces
    match ← Scan.lineBreak? with
    | none => return some []
    | some ch => return (← plainBreaks fuel).map (ch :: ·)

/-- The blanks of a plain scalar, with line breaks folded, and whether there was a line break.  They
are `none` where the scalar ends with them. -/
def plainSpaces : Scan (Option (List Char) × Bool) := do
  let blanks ← Scan.span (· == ' ')
  match ← Scan.lineBreak? with
  | none => return (if blanks.isEmpty then none else some blanks, false)
  | some ch =>
    let folded := (← plainBreaks ((← get).rest.length + 1)).map fun breaks =>
      if ch != '\n' then ch :: breaks else if breaks.isEmpty then [' '] else breaks
    return (folded, true)

/-- The pieces of a plain scalar and whether a line break stands behind the last, `fuel` of them at
most; `blanks` stand in front of the first, and `broken` tells whether there was a line break among
them. -/
def plainPieces (inFlow : Bool) (indent : Int) (blanks : List Char) (broken : Bool) (stop : Mark) :
    Nat → Scan (List Char × Bool × Mark)
  | 0 => return ([], broken, stop)
  | fuel + 1 => do
    let c ← get
    if c.peek == '#' then return ([], broken, stop)
    let cs := plainChars inFlow c.rest
    if cs.isEmpty then return ([], broken, stop)
    Scan.skip cs.length
    let stop ← Scan.mark
    let (spaces, crossed) ← plainSpaces
    let c ← get
    match spaces with
    | none => return (blanks ++ cs, crossed, stop)
    | some spaces =>
      if c.peek == '#' || (!inFlow && (c.column : Int) < indent) then
        return (blanks ++ cs, crossed, stop)
      else
        let (rest, crossed, stop) ← plainPieces inFlow indent spaces crossed stop fuel
        return (blanks ++ cs ++ rest, crossed, stop)

/-- A plain scalar that must be indented by at least `indent`, and whether a line break stands behind
it. -/
def plainToken (inFlow : Bool) (indent : Int) : Scan (Token × Bool) := do
  let start ← Scan.mark
  let (cs, crossed, stop) ←
    plainPieces inFlow indent [] false start ((← get).rest.length + 1)
  return (⟨.scalar (String.ofList cs) true, start, stop⟩, crossed)

end GateRollout.Yaml
