import GateRollout.Yaml.Fault
import GateRollout.Yaml.Node
import GateRollout.Yaml.Timestamp
import GateRollout.Text.Base64
import GateRollout.Text.Lower
import GateRollout.Decimal.Reading

/-!
# Data of scalars

What the text of a scalar stands for under each tag.  A text may have been given its tag on purpose, so
that every form can be amiss.
-/

namespace GateRollout.Yaml.Scalar

open Text

/-- A value that is not acceptable. -/
def wrongValue (message : String) : GateRollout.Fault := ⟨.wrongValue, message⟩

/-- Looking at the first character of an empty text. -/
def emptyText : GateRollout.Fault := ⟨.other { text := "IndexError" }, "string index out of range"⟩

/-- The words for truth values in lower case. -/
def boolWords : List (String × Bool) :=
  [("yes", true), ("no", false), ("true", true), ("false", false), ("on", true), ("off", false)]

/-- The truth value of a text. -/
def readBool (s : String) : Except GateRollout.Fault Bool :=
  let word := lower s
  match boolWords.find? (·.1 == word) with
  | some (_, b) => .ok b
  | none => .error (.noKey (.str word))

/-- A sign and the text after it; an empty text has none. -/
def signed (s : List Char) : Except GateRollout.Fault (Bool × List Char) :=
  if s.isEmpty then .error emptyText else .ok (splitSign s)

/-- The value of a digit with the letters as digits above nine. -/
def digitValue? (c : Char) : Option Nat :=
  (decimalDigit? c).or
    (let l := c.toLower
     if 'a' ≤ l && l ≤ 'z' then some (l.toNat - 87) else none)

/-- The mark that may stand in front of digits with a base. -/
def baseMark (base : Nat) : List Char :=
  ['0', if base == 2 then 'b' else if base == 8 then 'o' else 'x']

/-- An integer whose digits have a base other than ten. -/
def readInBase (base : Nat) (s : List Char) : Except GateRollout.Fault Int :=
  let refused : GateRollout.Fault :=
    wrongValue s!"invalid literal for int() with base {natText base}: {quoted (String.ofList s)}"
  let (negative, body) := splitSign (trimBy isNumeralBlank s)
  let ds := if body.take 2 |>.map Char.toLower |> (· == baseMark base) then body.drop 2 else body
  match ds.mapM fun c => (digitValue? c).filter (· < base) with
  | none => .error refused
  | some [] => .error refused
  | some vs =>
    let n : Int := (vs.foldl (fun n d => base * n + d) 0 : Nat)
    .ok (if negative then -n else n)

/-- An integer in decimal digits. -/
def readDecimal (s : List Char) : Except GateRollout.Fault Int :=
  (readInt s).mapError fun e => wrongValue (e.message (quoted (String.ofList s)))

/-- The parts between colons. -/
def sixtyParts (s : List Char) : List (List Char) :=
  ((String.ofList s).splitOn ":").map String.toList

/-- The integer of a text: underscores are left out, and the first characters tell the base. -/
def readInteger (s : String) : Except GateRollout.Fault Int := do
  let (negative, body) ← signed (s.toList.filter (· != '_'))
  let n ← match body with
    | ['0'] => pure 0
    | '0' :: 'b' :: ds => readInBase 2 ds
    | '0' :: 'x' :: ds => readInBase 16 ds
    | '0' :: _ => readInBase 8 body
    | [] => throw emptyText
    | _ =>
      if body.contains ':' then
        let parts ← (sixtyParts body).mapM readDecimal
        pure (parts.foldl (fun n d => 60 * n + d) 0)
      else readDecimal body
  return if negative then -n else n

/-- A double in decimal digits. -/
def readDouble (s : List Char) : Except GateRollout.Fault Float :=
  match Decimal.readFloat? s with
  | some x => .ok x
  | none =>
    .error (wrongValue s!"could not convert string to float: {quoted (String.ofList s)}")

/-- The sum of parts of sixty, the last of which is given first. -/
def sixtySum (sum base : Float) : List Float → Float
  | [] => sum
  | x :: rest => sixtySum (sum + x * base) (base * 60) rest

/-- The double of a text: underscores are left out. -/
def readFloat (s : String) : Except GateRollout.Fault Float := do
  let (negative, body) ← signed ((lower s).toList.filter (· != '_'))
  if body == ".nan".toList then return 0.0 / 0.0
  let x ←
    if body == ".inf".toList then pure (1.0 / 0.0)
    else if body.contains ':' then
      let parts ← (sixtyParts body).mapM readDouble
      pure (sixtySum 0 1 parts.reverse)
    else readDouble body
  return if negative then -x else x

/-- That a text has characters outside ASCII. -/
def notAsciiMessage (s : List Char) : String :=
  let start := s.takeWhile (·.toNat < 128)
  let bad := (s.drop start.length).takeWhile (128 ≤ ·.toNat)
  let first := start.length
  match bad with
  | [c] =>
    let shown := String.ofList (numericEscape c.toNat)
    s!"'ascii' codec can't encode character '{shown}' in position {natText first}: ordinal not in range(128)"
  | _ =>
    s!"'ascii' codec can't encode characters in position {natText first}-{natText (first + bad.length - 1)}: ordinal not in range(128)"

/-- The bytes of a text in base 64. -/
def readBytes (mark : Mark) (s : String) : Except Fault (List UInt8) :=
  let cs := s.toList
  if cs.any (128 ≤ ·.toNat) then .error (.at_ none (.notAscii (notAsciiMessage cs)) mark)
  else (decodeBase64 cs).mapError fun e => .at_ none (.notBase64 e.message) mark

/-- The day or the point in time of a text. -/
def readTimestamp (s : String) : Except GateRollout.Fault Value :=
  match Timestamp.read? s.toList with
  | none => .error (.noAttribute "NoneType" "groupdict")
  | some t =>
    let day := Date.check t.year t.month t.day
    let value : Except CalendarFault Value := match t.time with
      | none => day.map .date
      | some c =>
        (DateTime.check day c.hour c.minute c.second c.micro c.offset).map .dateTime
    value.mapError fun e => wrongValue e.message

/-- How the text of a scalar with a tag, which starts at a mark, is read; `none` for a tag that is not
for scalars. -/
def reader? : CoreTag → Option (Mark → String → Except Fault Value)
  | .null => some fun _ _ => .ok .null
  | .bool => some fun _ s => ((readBool s).map Value.bool).mapError .value
  | .int => some fun _ s => ((readInteger s).map Value.int).mapError .value
  | .float => some fun _ s => ((readFloat s).map Value.float).mapError .value
  | .binary => some fun mark s => (readBytes mark s).map .bytes
  | .timestamp => some fun _ s => (readTimestamp s).mapError .value
  | .str => some fun _ s => .ok (.str s)
  | _ => none

end GateRollout.Yaml.Scalar
