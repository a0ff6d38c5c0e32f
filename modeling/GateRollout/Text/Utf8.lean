import GateRollout.Text.Hex

/-!
# UTF-8

Decoding of a byte string.  A fault names the bytes that cannot be decoded and why; its message
counts from the start of the bytes.
-/

namespace GateRollout.Text

/-- Why a byte sequence is no UTF-8. -/
inductive Utf8Reason where
  | invalidStart
  | invalidContinuation
  | unexpectedEnd
  deriving Repr, DecidableEq

/-- The bytes from `first` to before `last` are no UTF-8; `lead` is the first of them. -/
structure Utf8Fault where
  first : Nat
  last : Nat
  lead : UInt8
  reason : Utf8Reason
  deriving Repr, DecidableEq

/-- The message of a decoding fault. -/
def Utf8Fault.message (f : Utf8Fault) : String :=
  let why := match f.reason with
    | .invalidStart => "invalid start byte"
    | .invalidContinuation => "invalid continuation byte"
    | .unexpectedEnd => "unexpected end of data"
  if f.last == f.first + 1 then
    s!"'utf-8' codec can't decode byte 0x{String.ofList (hexPadded 2 f.lead.toNat)} in position {f.first}: {why}"
  else
    s!"'utf-8' codec can't decode bytes in position {f.first}-{f.last - 1}: {why}"

/-- The number of continuation bytes after a lead byte, and the range that the first of them must lie
in; `none` for a byte that starts no character. -/
def leadShape? (b : UInt8) : Option (Nat × Nat × Nat) :=
  let n := b.toNat
  if n < 0xC2 then none
  else if n < 0xE0 then some (1, 0x80, 0xBF)
  else if n == 0xE0 then some (2, 0xA0, 0xBF)
  else if n == 0xED then some (2, 0x80, 0x9F)
  else if n < 0xF0 then some (2, 0x80, 0xBF)
  else if n == 0xF0 then some (3, 0x90, 0xBF)
  else if n < 0xF4 then some (3, 0x80, 0xBF)
  else if n == 0xF4 then some (3, 0x80, 0x8F)
  else none

/-- Continuation bytes: at most `count` of them, the first within the given range.  The result is how
many were there and the value of their payload bits. -/
def continuation (low high : Nat) : Nat → Nat → List UInt8 → Nat × Nat
  | 0, acc, _ => (0, acc)
  | _ + 1, acc, [] => (0, acc)
  | count + 1, acc, b :: rest =>
    if low ≤ b.toNat && b.toNat ≤ high then
      let (n, v) := continuation 0x80 0xBF count (64 * acc + b.toNat % 64) rest
      (n + 1, v)
    else (0, acc)

/-- Decode from position `pos`, skipping first the bytes already taken by the character before. -/
def decodeFrom (pos : Nat) (skip : Nat) : List UInt8 → Except Utf8Fault (List Char)
  | [] => .ok []
  | b :: rest =>
    match skip with
    | k + 1 => decodeFrom (pos + 1) k rest
    | 0 =>
      if b.toNat < 0x80 then (decodeFrom (pos + 1) 0 rest).map (Char.ofNat b.toNat :: ·)
      else
        match leadShape? b with
        | none => .error ⟨pos, pos + 1, b, .invalidStart⟩
        | some (count, low, high) =>
          let lead := if count == 1 then b.toNat % 32 else if count == 2 then b.toNat % 16 else b.toNat % 8
          let (found, code) := continuation low high count lead rest
          if found == count then
            (decodeFrom (pos + 1) count rest).map (Char.ofNat code :: ·)
          else if rest.length == found then .error ⟨pos, pos + 1 + found, b, .unexpectedEnd⟩
          else .error ⟨pos, pos + 1 + found, b, .invalidContinuation⟩

/-- The text of a byte string. -/
def decodeUtf8 (bs : List UInt8) : Except Utf8Fault String :=
  (decodeFrom 0 0 bs).map String.ofList

end GateRollout.Text
