import GateRollout.Text.Numeral
import GateRollout.Decimal.Binary

/-!
# The shortest decimal that reads back

A double stands for an interval of reals that round to it.  Its shortest text has the fewest digits
among the decimals in that interval, and of those the nearest to the double.  Two layouts are
written: the general one, which turns to an exponent outside `10^-4` to `10^16`, and the positional
one, which never does.
-/

namespace GateRollout.Decimal

/-- The decimal `digits · 10^exponent`. -/
structure Scaled where
  digits : Nat
  exponent : Int
  deriving Repr, DecidableEq

/-- Multiply a fraction by a power of ten. -/
def timesPowerOfTen (num den : Nat) (e : Int) : Nat × Nat :=
  if 0 ≤ e then (num * Nat.pow 10 e.toNat, den) else (num, den * Nat.pow 10 (-e).toNat)

/-- The exponent of the first significant digit of a positive fraction. -/
def leadExponent (num den : Nat) : Int :=
  if den ≤ num then ((Text.natDigits (num / den)).length : Int) - 1
  else -((Text.natDigits ((den + num - 1) / num - 1)).length : Int)

/-- Drop the zeros at the end of a decimal, `fuel` of them at most. -/
def Scaled.strip : Nat → Scaled → Scaled
  | 0, d => d
  | fuel + 1, d =>
    if d.digits != 0 && d.digits % 10 == 0 then strip fuel ⟨d.digits / 10, d.exponent + 1⟩ else d

/-- The ends of the interval of reals that round to `m · 2^q`, and whether they belong to it. -/
def roundingInterval (m : Nat) (q : Int) : (Nat × Nat) × (Nat × Nat) × Bool :=
  let below := if m == Nat.pow 2 52 && q != -1074 then 4 * m - 1 else 4 * m - 2
  (fraction below (q - 2), fraction (4 * m + 2) (q - 2), m % 2 == 0)

/-- The decimal on the grid of `10^e` that stands for `m · 2^q`, when the grid has one. -/
def onGrid? (m : Nat) (q e : Int) : Option Scaled :=
  let (num, den) := fraction m q
  let ((lowNum, lowDen), (highNum, highDen), closed) := roundingInterval m q
  let (gridNum, gridDen) := timesPowerOfTen num den (-e)
  let k := gridNum / gridDen
  let within (c : Nat) : Bool :=
    let (cNum, cDen) := timesPowerOfTen c 1 e
    let low := lowNum * cDen
    let high := highNum * cDen
    if closed then low ≤ cNum * lowDen && cNum * highDen ≤ high
    else low < cNum * lowDen && cNum * highDen < high
  let remainder := gridNum % gridDen
  match within k && k != 0, within (k + 1) with
  | true, true =>
    if 2 * remainder < gridDen || (2 * remainder == gridDen && k % 2 == 0) then some ⟨k, e⟩
    else some ⟨k + 1, e⟩
  | true, false => some ⟨k, e⟩
  | false, true => some ⟨k + 1, e⟩
  | false, false => none

/-- The shortest decimal of a positive magnitude: the coarsest of seventeen grids that has one. -/
def shortest (m : Nat) (q : Int) : Scaled :=
  let (num, den) := fraction m q
  let lead := leadExponent num den
  match (List.range 17).findSome? fun (n : Nat) => onGrid? m q (lead - (n : Int)) with
  | some d => d.strip 20
  | none => ⟨num / den, 0⟩

/-- The significant digits of a decimal and the number of them that stand before the point. -/
def Scaled.layout (d : Scaled) : List Char × Int :=
  let ds := Text.natDigits d.digits
  (ds, ds.length + d.exponent)

/-- Digits with a point after the first `point` of them, zeros filling what is missing; nothing is
written for an empty fraction. -/
def positional (ds : List Char) (point : Int) : List Char :=
  if point ≤ 0 then '0' :: '.' :: (List.replicate (-point).toNat '0' ++ ds)
  else
    let n := point.toNat
    if ds.length ≤ n then ds ++ List.replicate (n - ds.length) '0'
    else ds.take n ++ '.' :: ds.drop n

/-- Digits with a point after the first and an exponent of at least two digits. -/
def scientific (ds : List Char) (point : Int) : List Char :=
  let e := point - 1
  let mantissa := match ds with
    | d :: [] => [d]
    | d :: rest => d :: '.' :: rest
    | [] => []
  mantissa ++ 'e' :: (if e < 0 then '-' else '+') :: Text.padded 2 e.natAbs

/-- The general layout of a magnitude: an exponent outside `10^-4` to `10^16`, and `.0` on an
integer written without one. -/
def generalDigits (m : Nat) (q : Int) : List Char :=
  if m == 0 then ['0', '.', '0']
  else
    let (ds, point) := (shortest m q).layout
    if point < -3 || 16 < point then scientific ds point
    else
      let text := positional ds point
      if text.contains '.' then text else text ++ ['.', '0']

/-- The sign in front of a magnitude. -/
def signed (negative : Bool) (text : List Char) : List Char :=
  if negative then '-' :: text else text

/-- The general text of a double. -/
def generalText (x : Float) : String :=
  match Binary.ofFloat x with
  | .nan => "nan"
  | .infinite negative => String.ofList (signed negative "inf".toList)
  | .finite negative m q => String.ofList (signed negative (generalDigits m q))

/-- The positional text of a double, with no point on an integer and no exponent on any number. -/
def positionalText (x : Float) : String :=
  match Binary.ofFloat x with
  | .nan => "NaN"
  | .infinite negative => String.ofList (signed negative "Infinity".toList)
  | .finite negative m q =>
    if isIntegral m q then
      Text.intText (if negative then -(truncated m q : Int) else truncated m q)
    else
      let (ds, point) := (shortest m q).layout
      String.ofList (signed negative (positional ds point))

end GateRollout.Decimal
