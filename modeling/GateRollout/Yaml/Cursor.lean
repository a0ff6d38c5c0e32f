/-!
# Positions in a text

What is left of a text together with where that starts.  The ends of lines are a line feed, the next
line character and the two Unicode separators; carriage returns have been turned into line feeds
before.  The end of the text reads as the character of code zero, which no text holds.
-/

namespace GateRollout.Yaml

/-- A place in a text; lines and columns count from zero. -/
structure Mark where
  line : Nat
  column : Nat
  deriving Repr, DecidableEq, Inhabited

/-- What is left of a text, and where it starts. -/
structure Cursor where
  rest : List Char
  index : Nat := 0
  line : Nat := 0
  column : Nat := 0
  deriving Repr, Inhabited

/-- What stands for the end of a text. -/
def endChar : Char := Char.ofNat 0

/-- The mark that may stand in front of a text and takes no column. -/
def byteOrderMark : Char := Char.ofNat 0xFEFF

/-- Whether a character ends a line. -/
def isBreak (c : Char) : Bool :=
  c == '\n' || c == Char.ofNat 0x85 || c == Char.ofNat 0x2028 || c == Char.ofNat 0x2029

/-- Whether a character ends a line or the text. -/
def isBreakOrEnd (c : Char) : Bool := isBreak c || c == endChar

/-- Whether a character is a space or a tab. -/
def isSpaceOrTab (c : Char) : Bool := c == ' ' || c == '\t'

/-- Whether a character is a space or ends a line or the text. -/
def isSpaceOrEnd (c : Char) : Bool := c == ' ' || isBreakOrEnd c

/-- Whether a character is a space or a tab or ends a line or the text. -/
def isBlankOrEnd (c : Char) : Bool := c == '\t' || isSpaceOrEnd c

/-- Whether a character may stand in a name: a letter or digit of ASCII, a hyphen or an underscore. -/
def isNameChar (c : Char) : Bool := c.isAlphanum || c == '-' || c == '_'

namespace Cursor

/-- Where a cursor stands. -/
def mark (c : Cursor) : Mark := ⟨c.line, c.column⟩

/-- The next character. -/
def peek (c : Cursor) : Char := c.rest.headD endChar

/-- The character some places on. -/
def peekAt (c : Cursor) (n : Nat) : Char := c.rest.getD n endChar

/-- The cursor after the next character. -/
def next (c : Cursor) : Cursor :=
  match c.rest with
  | [] => c
  | ch :: rest =>
    if isBreak ch then ⟨rest, c.index + 1, c.line + 1, 0⟩
    else ⟨rest, c.index + 1, c.line, if ch == byteOrderMark then c.column else c.column + 1⟩

/-- The cursor some characters on. -/
def skip : Nat → Cursor → Cursor
  | 0, c => c
  | n + 1, c => skip n c.next

/-- The characters of a class that come next, and the cursor after them. -/
def span (c : Cursor) (p : Char → Bool) : List Char × Cursor :=
  let cs := c.rest.takeWhile p
  (cs, c.skip cs.length)

/-- The cursor after the characters of a class that come next. -/
def skipWhile (c : Cursor) (p : Char → Bool) : Cursor := (c.span p).2

/-- The cursor after spaces and a comment. -/
def skipComment (c : Cursor) : Cursor :=
  let c := c.skipWhile (· == ' ')
  if c.peek == '#' then c.skipWhile fun ch => !isBreak ch else c

/-- The end of a line as a character, and the cursor after it.  Only the two Unicode separators stand
for themselves. -/
def lineBreak? (c : Cursor) : Option (Char × Cursor) :=
  match c.rest with
  | [] => none
  | ch :: _ =>
    if isBreak ch then
      some (if ch == '\n' || ch == Char.ofNat 0x85 then '\n' else ch, c.next)
    else none

/-- Whether a line that separates documents starts here: three hyphens or three points. -/
def atSeparator (c : Cursor) : Bool :=
  let three := c.rest.take 3
  (three == ['-', '-', '-'] || three == ['.', '.', '.']) && isBlankOrEnd (c.peekAt 3)

end Cursor

end GateRollout.Yaml
