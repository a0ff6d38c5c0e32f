import GateRollout.Failure

/-!
# Writing JSON

A value as JSON text in ASCII.  A layout fixes the separators, whether the keys of a map are sorted,
and whether data that JSON lacks is written as its text or refused.
-/

namespace GateRollout.Json

open Text

/-- How JSON is laid out. -/
structure Layout where
  /-- Between two items. -/
  itemMark : String
  /-- Between a key and its value. -/
  keyMark : String
  /-- Whether keys are written in ascending order instead of the order of the map. -/
  sortKeys : Bool
  /-- Whether data that JSON lacks is written as its text. -/
  textFallback : Bool

/-- One line, with a space after every comma and colon. -/
def Layout.spaced : Layout := ⟨", ", ": ", false, false⟩

/-- No spaces, sorted keys, and the text of whatever JSON lacks. -/
def Layout.canonical : Layout := ⟨",", ":", true, true⟩

/-- Why a value has no JSON text. -/
inductive WriteFault where
  /-- Data of this kind is not JSON. -/
  | kind (typeName : String)
  /-- A key of this kind is no JSON key. -/
  | key (typeName : String)
  /-- Keys of these kinds have no common order. -/
  | order (left right : String)
  /-- An integer has too many digits. -/
  | unwritten
  deriving Repr, DecidableEq

/-- The message of a fault. -/
def WriteFault.message : WriteFault → String
  | kind t => s!"Object of type {t} is not JSON serializable"
  | key t => s!"keys must be str, int, float, bool or None, not {t}"
  | order l r => s!"'<' not supported between instances of '{l}' and '{r}'"
  | unwritten => unwrittenMessage

/-- A fault of writing as a fault: data of a kind that is not written, or an integer that is not. -/
def WriteFault.toFault : WriteFault → Fault
  | unwritten => .unwritten
  | f => ⟨.wrongType, f.message⟩

/-- The escape of a UTF-16 unit. -/
def unitEscape (n : Nat) : List Char := '\\' :: 'u' :: hexPadded 4 n

/-- A character between quotes. -/
def escapeChar (c : Char) : List Char :=
  if c == '"' then ['\\', '"']
  else if c == '\\' then ['\\', '\\']
  else if c == '\n' then ['\\', 'n']
  else if c == '\r' then ['\\', 'r']
  else if c == '\t' then ['\\', 't']
  else if c.toNat == 12 then ['\\', 'f']
  else if c.toNat == 8 then ['\\', 'b']
  else if 32 ≤ c.toNat && c.toNat < 127 then [c]
  else if c.toNat < 0x10000 then unitEscape c.toNat
  else
    let n := c.toNat - 0x10000
    unitEscape (0xD800 + n / 0x400) ++ unitEscape (0xDC00 + n % 0x400)

/-- A text between double quotes. -/
def stringText (s : String) : String :=
  String.ofList ('"' :: s.toList.flatMap escapeChar ++ ['"'])

/-- A double; the numbers that JSON lacks are written by name. -/
def floatText (x : Float) : String :=
  match Decimal.Binary.ofFloat x with
  | .nan => "NaN"
  | .infinite negative => if negative then "-Infinity" else "Infinity"
  | _ => Decimal.generalText x

/-- An integer, which has to be short enough to be written. -/
def integerText (n : Int) : Except WriteFault String :=
  if isWritten n then .ok (intText n) else .error .unwritten

/-- The text of a value that JSON lacks, which has to have one. -/
def fallbackText (v : Value) : Except WriteFault String :=
  if v.hasText then .ok v.text else .error .unwritten

/-- A key as a text. -/
def keyText : Value → Except WriteFault String
  | .str s => .ok s
  | .null => .ok "null"
  | .bool b => .ok (if b then "true" else "false")
  | .int n => integerText n
  | .float x => .ok (floatText x)
  | v => .error (.key v.typeName)

/-- Where a key stands among the numbers: below all of them, at a fraction, or above all of them; `none`
for a key that is no number. -/
def numberPlace? (v : Value) : Option (Int × Option (Int × Nat)) :=
  match v.fraction?, v.infinity? with
  | some q, _ => some (0, some q)
  | none, some negative => some (if negative then -1 else 1, none)
  | none, none => match v with
    | .float _ => some (0, none)
    | _ => none

/-- Whether one key comes before another; keys of kinds without a common order are refused.  What is
called a number and is none comes before nothing. -/
def keyLess (a b : Value) : Except WriteFault Bool :=
  match a, b with
  | .str s, .str t => .ok (s < t)
  | _, _ =>
    match numberPlace? a, numberPlace? b with
    | some (0, some (n, d)), some (0, some (k, e)) => .ok (n * (e : Int) < k * (d : Int))
    | some (0, none), some _ => .ok false
    | some _, some (0, none) => .ok false
    | some (s, _), some (t, _) => .ok (s < t)
    | _, _ => .error (.order a.typeName b.typeName)

/-- Put an entry before the first one with a greater key. -/
def insertByKey (e : Value × Value) : Entries → Except WriteFault Entries
  | [] => .ok [e]
  | f :: rest => do
    if ← keyLess f.1 e.1 then return f :: (← insertByKey e rest) else return e :: f :: rest

/-- Entries in ascending order of their keys. -/
def sortByKey : Entries → Except WriteFault Entries
  | [] => .ok []
  | e :: rest => do insertByKey e (← sortByKey rest)

/-- Entries in ascending order of their keys, or as they are where the keys have no common order. -/
def inKeyOrder (es : Entries) : Entries := (sortByKey es).toOption.getD es

mutual

/-- Bring the entries of every map within a value into ascending order of their keys, where these have a
common order. -/
def sorted : Value → Value
  | .list xs => .list (sortedMembers xs)
  | .tuple xs => .tuple (sortedMembers xs)
  | .map entries => .map (inKeyOrder (sortedEntries entries))
  | v => v

/-- Sort within every member. -/
def sortedMembers : List Value → List Value
  | [] => []
  | x :: xs => sorted x :: sortedMembers xs

/-- Sort within the value of every entry. -/
def sortedEntries : List (Value × Value) → Entries
  | [] => []
  | (k, v) :: rest => (k, sorted v) :: sortedEntries rest

end

mutual

/-- The JSON text of a value, keys in the order of each map.  Where keys are sorted, those of each map
have to have a common order. -/
def print (layout : Layout) : Value → Except WriteFault String
  | .null => .ok "null"
  | .bool b => .ok (if b then "true" else "false")
  | .int n => integerText n
  | .float x => .ok (floatText x)
  | .str s => .ok (stringText s)
  | .list xs => return "[" ++ layout.itemMark.intercalate (← printMembers layout xs) ++ "]"
  | .tuple xs => return "[" ++ layout.itemMark.intercalate (← printMembers layout xs) ++ "]"
  | .map entries => do
    if layout.sortKeys then let _ ← sortByKey entries
    return "\x7b" ++ layout.itemMark.intercalate (← printEntries layout entries) ++ "\x7d"
  | v =>
    if layout.textFallback then return stringText (← fallbackText v) else .error (.kind v.typeName)

/-- The JSON texts of the members of a value. -/
def printMembers (layout : Layout) : List Value → Except WriteFault (List String)
  | [] => .ok []
  | x :: xs => return (← print layout x) :: (← printMembers layout xs)

/-- The JSON texts of the entries of a map. -/
def printEntries (layout : Layout) : List (Value × Value) → Except WriteFault (List String)
  | [] => .ok []
  | (k, v) :: rest => do
    let key ← keyText k
    let value ← print layout v
    return (stringText key ++ layout.keyMark ++ value) :: (← printEntries layout rest)

end

/-- The JSON text of a value. -/
def write (layout : Layout) (v : Value) : Except WriteFault String :=
  print layout (if layout.sortKeys then sorted v else v)

end GateRollout.Json
