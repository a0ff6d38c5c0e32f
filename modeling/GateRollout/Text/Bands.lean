/-!
# Sets of characters by bands

A large set of code points is written as the ascending list of the points at which membership
changes: the first number starts a band, the second is the first code point after it, and so on.
-/

namespace GateRollout.Text

/-- The code points at which membership changes, ascending. -/
abbrev Bands := List Nat

/-- A character is a member when an odd number of changes lie at or before it. -/
def Bands.has (bands : Bands) (c : Char) : Bool :=
  (bands.takeWhile (· ≤ c.toNat)).length % 2 == 1

end GateRollout.Text
