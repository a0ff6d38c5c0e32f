import GateRollout.Text.Numeral
import GateRollout.Text.Lower

/-!
# Reading a double

A decimal numeral with an optional point and exponent, blanks around it, digits of any script and
single underscores between digits; and the names of infinity and of no number.
-/

namespace GateRollout.Decimal

open Text

/-- Replace the decimal digits of every script by those of ASCII. -/
def plainDigits (s : List Char) : List Char :=
  s.map fun c => match decimalDigit? c with
    | some d => Char.ofNat (48 + d)
    | none => c

/-- Remove underscores, each of which must stand between two digits. -/
def dropUnderscores? : List Char → Option (List Char)
  | [] => some []
  | '_' :: _ => none
  | [c] => some [c]
  | c :: '_' :: d :: rest =>
    if c.isDigit && d.isDigit then (dropUnderscores? (d :: rest)).map (c :: ·) else none
  | c :: rest => (dropUnderscores? rest).map (c :: ·)

/-- The value of an ASCII digit. -/
def asciiDigit (c : Char) : Nat := c.toNat - 48

/-- The double nearest to `digits · 10^exponent`.  Beyond the range of doubles the exponent is cut,
which changes neither the infinity above nor the zero below. -/
def nearest (digits : Nat) (exponent : Int) : Float :=
  if digits == 0 then 0
  else
    let magnitude : Int := (natDigits digits).length + exponent
    if magnitude < -400 then 0
    else if 400 < magnitude then 1.0 / 0.0
    else Float.ofScientific digits (exponent < 0) exponent.natAbs

/-- An exponent: a sign and at least one digit. -/
def readExponent? (s : List Char) : Option Int :=
  let (negative, ds) := splitSign s
  if ds.isEmpty || !ds.all Char.isDigit then none
  else
    let n : Int := ofDigitValues (ds.map asciiDigit)
    some (if negative then -n else n)

/-- An unsigned numeral: digits with a point among them, and an exponent. -/
def readUnsigned? (s : List Char) : Option Float :=
  let whole := s.takeWhile Char.isDigit
  let afterWhole := s.dropWhile Char.isDigit
  let (frac, afterFraction) := match afterWhole with
    | '.' :: rest => (rest.takeWhile Char.isDigit, rest.dropWhile Char.isDigit)
    | rest => ([], rest)
  if whole.isEmpty && frac.isEmpty then none
  else
    let digits := ofDigitValues ((whole ++ frac).map asciiDigit)
    let exponent? := match afterFraction with
      | [] => some 0
      | c :: rest => if c == 'e' || c == 'E' then readExponent? rest else none
    exponent?.map fun e => nearest digits (e - frac.length)

/-- Read a double. -/
def readFloat? (s : List Char) : Option Float := do
  let body ← dropUnderscores? (plainDigits (trimBy isNumeralBlank s))
  let (negative, magnitude) := splitSign body
  let name := magnitude.map Char.toLower
  let x ←
    if name == "inf".toList || name == "infinity".toList then some (1.0 / 0.0 : Float)
    else if name == "nan".toList then some (0.0 / 0.0 : Float)
    else readUnsigned? magnitude
  return if negative then -x else x

end GateRollout.Decimal
