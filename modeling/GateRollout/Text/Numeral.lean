import GateRollout.Text.Blank
import GateRollout.Text.Digit

/-!
# Integer numerals

Decimal text of integers and its reading: blanks around the numeral, one sign, digits of any
script, and single underscores between digits are accepted.  A numeral of too many digits is neither
read nor written.
-/

namespace GateRollout.Text

/-- The decimal digits of a natural number. -/
def natDigits (n : Nat) : List Char := Nat.toDigits 10 n

/-- The decimal text of an integer. -/
def intDigits : Int → List Char
  | .ofNat n => natDigits n
  | .negSucc n => '-' :: natDigits (n + 1)

/-- The decimal text of an integer, whether it is short enough to be written or not. -/
def intText (n : Int) : String := String.ofList (intDigits n)

/-- The decimal text of a natural number. -/
def natText (n : Nat) : String := String.ofList (natDigits n)

/-- The greatest number of digits that a numeral may have, read or written. -/
def maxNumeralDigits : Nat := 4300

/-- The number of digits in the decimal text of an integer. -/
def numeralLength (n : Int) : Nat := (natDigits n.natAbs).length

/-- Whether an integer is short enough to be written. -/
def isWritten (n : Int) : Bool := numeralLength n ≤ maxNumeralDigits

/-- Why an integer is not written. -/
def unwrittenMessage : String :=
  s!"Exceeds the limit ({natText maxNumeralDigits} digits) for integer string conversion; use sys.set_int_max_str_digits() to increase the limit"

/-- The least number of digits of `n`, padded with zeros on the left to `width`. -/
def padded (width n : Nat) : List Char :=
  let ds := natDigits n
  List.replicate (width - ds.length) '0' ++ ds

/-- Digits with single underscores between them, as values; `none` at anything else. -/
def digitValues? : List Char → Option (List Nat)
  | [] => none
  | [c] => (decimalDigit? c).map ([·])
  | c :: '_' :: rest => do
    let d ← decimalDigit? c
    let ds ← digitValues? rest
    return d :: ds
  | c :: rest => do
    let d ← decimalDigit? c
    let ds ← digitValues? rest
    return d :: ds

/-- The number that a list of decimal digits denotes. -/
def ofDigitValues (ds : List Nat) : Nat := ds.foldl (fun n d => 10 * n + d) 0

/-- A sign and the text after it. -/
def splitSign : List Char → Bool × List Char
  | '+' :: rest => (false, rest)
  | '-' :: rest => (true, rest)
  | s => (false, s)

/-- Why a text is no integer numeral. -/
inductive NumeralFault where
  /-- The text is no sequence of digits. -/
  | malformed
  /-- The numeral has more digits than are converted. -/
  | tooLong (digits : Nat)
  deriving Repr, DecidableEq

/-- The most of a text that a message shows. -/
def shownLength : Nat := 200

/-- The message of a numeral fault; `shown` is the text that was read, of which the beginning is
shown. -/
def NumeralFault.message (shown : String) : NumeralFault → String
  | malformed =>
    "invalid literal for int() with base 10: " ++ String.ofList (shown.toList.take shownLength)
  | tooLong n =>
    s!"Exceeds the limit ({natText maxNumeralDigits} digits) for integer string conversion: value has {natText n} digits; use sys.set_int_max_str_digits() to increase the limit"

/-- Read an integer numeral. -/
def readInt (s : List Char) : Except NumeralFault Int :=
  let (negative, body) := splitSign (trimBy isNumeralBlank s)
  match digitValues? body with
  | none => .error .malformed
  | some ds =>
    if ds.length > maxNumeralDigits then .error (.tooLong ds.length)
    else
      let n : Int := ofDigitValues ds
      .ok (if negative then -n else n)

end GateRollout.Text
