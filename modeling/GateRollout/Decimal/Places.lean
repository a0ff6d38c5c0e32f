import GateRollout.Decimal.Shortest

/-!
# A fixed number of places

Rounding the exact value of a double to a number of decimal places, a half to the even neighbour.
-/

namespace GateRollout.Decimal

/-- The integer nearest to a fraction, a half going to the even one. -/
def roundHalfEven (num den : Nat) : Nat :=
  let k := num / den
  let rest := 2 * (num % den)
  if rest < den || (rest == den && k % 2 == 0) then k else k + 1

/-- The magnitude `m · 2^q` in units of `10^-places`, rounded. -/
def inPlaces (places m : Nat) (q : Int) : Nat :=
  let (num, den) := fraction m q
  roundHalfEven (num * Nat.pow 10 places) den

/-- A count of units of `10^-places`, written with a point. -/
def placesDigits (places units : Nat) : List Char :=
  let ds := Text.padded (places + 1) units
  ds.take (ds.length - places) ++ '.' :: ds.drop (ds.length - places)

/-- A double with a fixed number of places; the sign of zero is kept. -/
def fixedText (places : Nat) (x : Float) : String :=
  match Binary.ofFloat x with
  | .nan => "nan"
  | .infinite negative => String.ofList (signed negative "inf".toList)
  | .finite negative m q =>
    String.ofList (signed negative (placesDigits places (inPlaces places m q)))

/-- The double nearest to a double rounded to a number of places. -/
def roundPlaces (places : Nat) (x : Float) : Float :=
  match Binary.ofFloat x with
  | .nan => x
  | .infinite _ => x
  | .finite negative m q =>
    let y := Float.ofScientific (inPlaces places m q) true places
    if negative then -y else y

end GateRollout.Decimal
