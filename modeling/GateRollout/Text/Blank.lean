/-!
# Blank characters

Three classes of white space, and trimming at both ends.  The general class is the Unicode one with
the information separators; the class around a numeral leaves those separators out; the ASCII class
is the one allowed between the bytes of a hexadecimal text.
-/

namespace GateRollout.Text

/-- White space that trimming removes. -/
def isBlank (c : Char) : Bool :=
  let n := c.toNat
  (9 ≤ n && n ≤ 13) || (28 ≤ n && n ≤ 32) || n == 0x85 || n == 0xA0 || n == 0x1680 ||
    (0x2000 ≤ n && n ≤ 0x200A) || n == 0x2028 || n == 0x2029 || n == 0x202F || n == 0x205F ||
    n == 0x3000

/-- White space that may stand around a numeral: the separators `U+001C` to `U+001F` may not. -/
def isNumeralBlank (c : Char) : Bool :=
  isBlank c && !(28 ≤ c.toNat && c.toNat ≤ 31)

/-- White space within ASCII. -/
def isAsciiBlank (c : Char) : Bool :=
  c == ' ' || (9 ≤ c.toNat && c.toNat ≤ 13)

/-- Drop the characters of a class from both ends. -/
def trimBy (p : Char → Bool) (s : List Char) : List Char :=
  ((s.dropWhile p).reverse.dropWhile p).reverse

/-- Drop the blanks at both ends. -/
def trim (s : List Char) : List Char := trimBy isBlank s

end GateRollout.Text
