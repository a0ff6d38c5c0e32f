import GateRollout.Text.Numeral

/-!
# Decimals as written

A decimal that keeps the digits it was written with: `1.50` is not `1.5`.
-/

namespace GateRollout.Decimal

open Text

/-- A decimal as written: a finite one keeps all its digits, trailing zeros included. -/
inductive Written where
  | finite (negative : Bool) (digits : List Nat) (exponent : Int)
  | infinite (negative : Bool)
  | nan (negative : Bool)
  deriving Repr, DecidableEq

/-- Leading zeros say nothing, except the last digit of a zero. -/
def dropLeadingZeros : List Nat → List Nat
  | 0 :: d :: rest => dropLeadingZeros (d :: rest)
  | ds => ds

/-- Read a decimal. -/
def Written.read? (s : List Char) : Option Written :=
  let (negative, body) := splitSign (trim s)
  let name := body.map Char.toLower
  if name == "inf".toList || name == "infinity".toList then some (.infinite negative)
  else if name == "nan".toList then some (.nan negative)
  else
    let whole := body.takeWhile Char.isDigit
    let (frac, tail) := match body.dropWhile Char.isDigit with
      | '.' :: rest => (rest.takeWhile Char.isDigit, rest.dropWhile Char.isDigit)
      | rest => ([], rest)
    let values := (whole ++ frac).map fun c => c.toNat - 48
    let make (e : Int) : Written := .finite negative (dropLeadingZeros values) (e - frac.length)
    if values.isEmpty then none
    else
      match tail with
      | [] => some (make 0)
      | c :: rest =>
        if c == 'e' || c == 'E' then
          match readInt rest with
          | .ok e => some (make e)
          | .error _ => none
        else none

/-- Whether a decimal is zero. -/
def Written.isZero : Written → Bool
  | finite _ ds _ => ds.all (· == 0)
  | _ => false

/-- The integer before the point of a finite decimal. -/
def Written.truncated? : Written → Option Int
  | finite negative ds e =>
    let n := ofDigitValues ds
    let k : Int := if 0 ≤ e then (n * Nat.pow 10 e.toNat : Nat) else (n / Nat.pow 10 (-e).toNat : Nat)
    some (if negative then -k else k)
  | _ => none

/-- The text of a decimal: positional while that needs no zeros but a few after the point, otherwise
with an exponent. -/
def Written.text : Written → String
  | nan negative => if negative then "-NaN" else "NaN"
  | infinite negative => if negative then "-Infinity" else "Infinity"
  | finite negative ds e =>
    let cs := ds.map fun d => Char.ofNat (48 + d)
    let left : Int := e + ds.length
    let point : Int := if e ≤ 0 && -6 < left then left else 1
    let body :=
      if point ≤ 0 then '0' :: '.' :: (List.replicate (-point).toNat '0' ++ cs)
      else if cs.length ≤ point.toNat then cs ++ List.replicate (point.toNat - cs.length) '0'
      else cs.take point.toNat ++ '.' :: cs.drop point.toNat
    let shift := left - point
    let exponent :=
      if shift == 0 then [] else 'E' :: (if shift < 0 then '-' else '+') :: natDigits shift.natAbs
    String.ofList ((if negative then ['-'] else []) ++ body ++ exponent)

end GateRollout.Decimal
