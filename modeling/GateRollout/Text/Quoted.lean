import GateRollout.Text.Printable
import GateRollout.Text.Hex

/-!
# Quoted texts

The quoted form of a text or byte string inside a message: single quotes unless only double quotes
avoid an escape, a backslash before the quote and the backslash, and a numeric escape for every
character that is not printable.
-/

namespace GateRollout.Text

/-- The quote that encloses a text: double only where the text has single quotes and no double. -/
def quoteFor (s : List Char) : Char :=
  if s.contains '\'' && !s.contains '"' then '"' else '\''

/-- The escape of a character that is not printable, by its size. -/
def numericEscape (n : Nat) : List Char :=
  if n < 0x100 then '\\' :: 'x' :: hexPadded 2 n
  else if n < 0x10000 then '\\' :: 'u' :: hexPadded 4 n
  else '\\' :: 'U' :: hexPadded 8 n

/-- One character between quotes `q`. -/
def quotedChar (q c : Char) : List Char :=
  if c == q || c == '\\' then ['\\', c]
  else if c == '\n' then ['\\', 'n']
  else if c == '\r' then ['\\', 'r']
  else if c == '\t' then ['\\', 't']
  else if isPrintable c then [c]
  else numericEscape c.toNat

/-- The quoted form of a text. -/
def quoted (s : String) : String :=
  let cs := s.toList
  let q := quoteFor cs
  String.ofList (q :: cs.flatMap (quotedChar q) ++ [q])

/-- The quoted form of a byte string: bytes outside printable ASCII are escaped. -/
def quotedBytes (bs : List UInt8) : String :=
  let cs := bs.map fun b => Char.ofNat b.toNat
  let q := quoteFor cs
  let byteText (c : Char) : List Char :=
    if c.toNat < 128 then quotedChar q c else numericEscape c.toNat
  String.ofList ('b' :: q :: cs.flatMap byteText ++ [q])

end GateRollout.Text
