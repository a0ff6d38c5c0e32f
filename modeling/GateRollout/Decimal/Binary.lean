/-!
# The exact value of a double

A finite double is `± m · 2^q` with natural `m`; every rule about its decimal text is stated on
that pair.
-/

namespace GateRollout.Decimal

/-- What a double is: a sign with an exact magnitude, an infinity, or no number. -/
inductive Binary where
  | finite (negative : Bool) (m : Nat) (q : Int)
  | infinite (negative : Bool)
  | nan
  deriving Repr, DecidableEq

/-- Decode a double. -/
def Binary.ofFloat (x : Float) : Binary :=
  let bits : Nat := x.toBits.toNat
  let negative := bits / Nat.pow 2 63 == 1
  let exponent : Nat := bits / Nat.pow 2 52 % Nat.pow 2 11
  let fraction : Nat := bits % Nat.pow 2 52
  if exponent == 2047 then
    if fraction == 0 then .infinite negative else .nan
  else if exponent == 0 then .finite negative fraction (-1074)
  else .finite negative (Nat.pow 2 52 + fraction) ((exponent : Int) - 1075)

/-- The magnitude `m · 2^q` as a fraction. -/
def fraction (m : Nat) (q : Int) : Nat × Nat :=
  if 0 ≤ q then (m * Nat.pow 2 q.toNat, 1) else (m, Nat.pow 2 (-q).toNat)

/-- The integer that a finite magnitude has before its point. -/
def truncated (m : Nat) (q : Int) : Nat :=
  let (num, den) := fraction m q
  num / den

/-- Whether a magnitude is an integer. -/
def isIntegral (m : Nat) (q : Int) : Bool :=
  let (num, den) := fraction m q
  num % den == 0

end GateRollout.Decimal
