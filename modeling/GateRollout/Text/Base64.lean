/-!
# Base 64

Bytes written with 64 characters, three bytes as four of them.  Characters outside the alphabet are
passed over; the text ends at the padding that completes a group.
-/

namespace GateRollout.Text

/-- The alphabet in the order of its values. -/
def base64Alphabet : List Char :=
  "ABCDEFGHIJKLMNOPQRSTUVWXYZabcdefghijklmnopqrstuvwxyz0123456789+/".toList

/-- The value of a character of the alphabet. -/
def base64Value? (c : Char) : Option Nat := base64Alphabet.idxOf? c

/-- Why a text is no base 64. -/
inductive Base64Fault where
  /-- One character is left over, after this many of the alphabet. -/
  | loneCharacter (count : Nat)
  | padding
  deriving Repr, DecidableEq

/-- The message of a fault. -/
def Base64Fault.message : Base64Fault → String
  | loneCharacter n =>
    s!"Invalid base64-encoded string: number of data characters ({n}) cannot be 1 more than a multiple of 4"
  | padding => "Incorrect padding"

/-- The values of the characters that count, up to the padding that completes a group of four; the
flag tells whether there was such a padding. `pads` is the length of the padding that stands directly
before. -/
def base64Values (place pads : Nat) : List Char → List Nat × Bool
  | [] => ([], false)
  | c :: rest =>
    if c == '=' then
      if 2 ≤ place && 4 ≤ place + pads + 1 then ([], true)
      else base64Values place (if 2 ≤ place then pads + 1 else pads) rest
    else
      match base64Value? c with
      | none => base64Values place pads rest
      | some v =>
        let (vs, padded) := base64Values ((place + 1) % 4) 0 rest
        (v :: vs, padded)

/-- The bytes of groups of four values; a last group of two or three gives one or two bytes. -/
def base64Bytes : List Nat → List UInt8
  | a :: b :: c :: d :: rest =>
    UInt8.ofNat (4 * a + b / 16) :: UInt8.ofNat (16 * (b % 16) + c / 4) ::
      UInt8.ofNat (64 * (c % 4) + d) :: base64Bytes rest
  | [a, b, c] => [UInt8.ofNat (4 * a + b / 16), UInt8.ofNat (16 * (b % 16) + c / 4)]
  | [a, b] => [UInt8.ofNat (4 * a + b / 16)]
  | _ => []

/-- The bytes of a text. -/
def decodeBase64 (s : List Char) : Except Base64Fault (List UInt8) :=
  let (vs, padded) := base64Values 0 0 s
  if padded || vs.length % 4 == 0 then .ok (base64Bytes vs)
  else if vs.length % 4 == 1 then .error (.loneCharacter vs.length)
  else .error .padding

end GateRollout.Text
