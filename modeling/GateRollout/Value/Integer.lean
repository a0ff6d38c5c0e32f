import GateRollout.Failure

/-!
# Integers from data

The integer that a value stands for: fractions are cut, and texts and byte strings are numerals.
-/

namespace GateRollout

/-- Why a value stands for no integer. -/
inductive IntegerFault where
  | numeral (shown : String) (cause : Text.NumeralFault)
  | kind (typeName : String)
  | nan
  | infinite
  deriving Repr, DecidableEq

namespace IntegerFault

/-- The message of a fault. -/
def message : IntegerFault → String
  | numeral shown cause => cause.message shown
  | kind t =>
    s!"int() argument must be a string, a bytes-like object or a real number, not '{t}'"
  | nan => "cannot convert float NaN to integer"
  | infinite => "cannot convert float infinity to integer"

/-- What kind of fault it is. -/
def faultKind : IntegerFault → FaultKind
  | kind _ => .wrongType
  | infinite => .overflow
  | _ => .wrongValue

/-- A fault as a failure. -/
def toFailure (f : IntegerFault) : Failure := .fault ⟨f.faultKind, f.message⟩

end IntegerFault

/-- The integer that a value stands for. -/
def Value.toInteger (v : Value) : Except IntegerFault Int :=
  match v with
  | .bool b => .ok (if b then 1 else 0)
  | .int n => .ok n
  | .float x =>
    match Decimal.Binary.ofFloat x with
    | .finite negative m q =>
      let n : Int := Decimal.truncated m q
      .ok (if negative then -n else n)
    | .infinite _ => .error .infinite
    | .nan => .error .nan
  | .decimal d =>
    match d, d.truncated? with
    | _, some n => .ok n
    | .infinite _, none => .error .infinite
    | _, none => .error .nan
  | .str s => (Text.readInt s.toList).mapError (.numeral (Text.quoted s))
  | .bytes bs =>
    if bs.all (· < 128) then
      (Text.readInt (bs.map fun b => Char.ofNat b.toNat)).mapError (.numeral (Text.quotedBytes bs))
    else .error (.numeral (Text.quotedBytes bs) .malformed)
  | v => .error (.kind v.qualifiedTypeName)

end GateRollout
