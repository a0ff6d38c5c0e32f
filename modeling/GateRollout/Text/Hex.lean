import GateRollout.Text.Blank

/-!
# Hexadecimal text of bytes

Writing bytes as pairs of digits, and reading them back with blanks allowed between bytes.  A
reading that fails names the position of the first character that does not fit.
-/

namespace GateRollout.Text

/-- The lower-case hexadecimal digit of a value below sixteen. -/
def hexDigit (n : Nat) : Char :=
  if n < 10 then Char.ofNat (48 + n) else Char.ofNat (87 + n)

/-- The value of a hexadecimal digit. -/
def hexValue? (c : Char) : Option Nat :=
  if '0' ≤ c ∧ c ≤ '9' then some (c.toNat - 48)
  else if 'a' ≤ c ∧ c ≤ 'f' then some (c.toNat - 87)
  else if 'A' ≤ c ∧ c ≤ 'F' then some (c.toNat - 55)
  else none

/-- The lower-case hexadecimal digits of `n`, padded with zeros on the left to `width`. -/
def hexPadded (width n : Nat) : List Char :=
  let ds := Nat.toDigits 16 n
  List.replicate (width - ds.length) '0' ++ ds

/-- The two digits of a byte. -/
def byteDigits (b : UInt8) : List Char := [hexDigit (b.toNat / 16), hexDigit (b.toNat % 16)]

/-- The text of a byte string, two digits a byte. -/
def hexDigits (bs : List UInt8) : List Char := bs.flatMap byteDigits

/-- Read pairs of digits, blanks allowed between the pairs; the failure is the position of the first
character that does not fit, counted from `pos`. -/
def readHexFrom (pos : Nat) : List Char → Except Nat (List UInt8)
  | [] => .ok []
  | [c] => if isAsciiBlank c then .ok [] else .error (if (hexValue? c).isSome then pos + 1 else pos)
  | c :: d :: rest =>
    if isAsciiBlank c then readHexFrom (pos + 1) (d :: rest)
    else
      match hexValue? c, hexValue? d with
      | none, _ => .error pos
      | some _, none => .error (pos + 1)
      | some hi, some lo => (readHexFrom (pos + 2) rest).map (UInt8.ofNat (16 * hi + lo) :: ·)

/-- Read a hexadecimal text.  A character outside ASCII is the first fault wherever it stands. -/
def readHex (s : List Char) : Except Nat (List UInt8) :=
  match s.findIdx? (·.toNat ≥ 128) with
  | some i => .error i
  | none => readHexFrom 0 s

end GateRollout.Text
