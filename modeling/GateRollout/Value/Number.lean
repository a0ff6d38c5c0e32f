import GateRollout.Value.Text
import GateRollout.Decimal.Places

/-!
# Numbers

A quantity given as an integer or as a double.  It keeps which of the two it is.
-/

namespace GateRollout

/-- An integer or a double. -/
inductive Number where
  | int (n : Int)
  | float (x : Float)

namespace Number

/-- A number as a value. -/
def toValue : Number → Value
  | int n => .int n
  | float x => .float x

/-- Whether a number is short enough to be written. -/
def isWritten : Number → Bool
  | int n => Text.isWritten n
  | float _ => true

/-- The number that a value is. -/
def ofValue? : Value → Option Number
  | .int n => some (int n)
  | .float x => some (float x)
  | .bool b => some (int (if b then 1 else 0))
  | _ => none

/-- A number as a double. -/
def toFloat : Number → Float
  | int n => Float.ofInt n
  | float x => x

/-- The difference of two numbers, exact between integers. -/
def sub : Number → Number → Number
  | int m, int n => int (m - n)
  | a, b => float (a.toFloat - b.toFloat)

/-- The product of two numbers, exact between integers. -/
def mul : Number → Number → Number
  | int m, int n => int (m * n)
  | a, b => float (a.toFloat * b.toFloat)

/-- A number rounded to a number of places; an integer is rounded already. -/
def roundPlaces (places : Nat) : Number → Number
  | int n => int n
  | float x => float (Decimal.roundPlaces places x)

/-- A number with a fixed number of places. -/
def fixedText (places : Nat) (x : Number) : String := Decimal.fixedText places x.toFloat

end Number

end GateRollout
