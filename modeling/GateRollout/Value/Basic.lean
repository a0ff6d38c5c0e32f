import GateRollout.Value.Calendar
import GateRollout.Decimal.Binary
import GateRollout.Decimal.Written

/-!
# Values

The data of a document: what a configuration file or a message may hold in any place.  A map keeps
the order of its entries and may have keys of any kind.
-/

namespace GateRollout

/-- Data of any kind. -/
inductive Value where
  | null
  | bool (b : Bool)
  | int (n : Int)
  | float (x : Float)
  | str (s : String)
  | bytes (bs : List UInt8)
  | date (d : Date)
  | dateTime (t : DateTime)
  | decimal (d : Decimal.Written)
  | list (xs : List Value)
  | tuple (xs : List Value)
  | set (xs : List Value)
  | map (entries : List (Value × Value))
  /-- A thing of a class that has no data of its own. -/
  | object (className : String)
  deriving Inhabited

/-- The entries of a map. -/
abbrev Entries := List (Value × Value)

namespace Value

/-- The name of a value's kind. -/
def typeName : Value → String
  | null => "NoneType"
  | bool _ => "bool"
  | int _ => "int"
  | float _ => "float"
  | str _ => "str"
  | bytes _ => "bytes"
  | date _ => "date"
  | dateTime _ => "datetime"
  | decimal _ => "Decimal"
  | list _ => "list"
  | tuple _ => "tuple"
  | set _ => "set"
  | map _ => "dict"
  | object className => className

/-- The name of a value's kind together with where the kind is defined. -/
def qualifiedTypeName : Value → String
  | date _ => "datetime.date"
  | dateTime _ => "datetime.datetime"
  | decimal _ => "decimal.Decimal"
  | v => v.typeName

/-- Whether a value counts as given: nothing, zero and what is empty do not. -/
def isGiven : Value → Bool
  | null => false
  | bool b => b
  | int n => n != 0
  | float x => !(x == 0)
  | str s => !s.isEmpty
  | bytes bs => !bs.isEmpty
  | date _ => true
  | dateTime _ => true
  | decimal d => !d.isZero
  | list xs => !xs.isEmpty
  | tuple xs => !xs.isEmpty
  | set xs => !xs.isEmpty
  | map entries => !entries.isEmpty
  | object _ => true

/-- Whether a value is absent. -/
def isNull : Value → Bool
  | null => true
  | _ => false

/-- The text of a value that is a text. -/
def asText? : Value → Option String
  | str s => some s
  | _ => none

/-- Whether a value is this text. -/
def isText (v : Value) (s : String) : Bool := v.asText? == some s

/-- The members that going through a value meets; `none` for a value that has no members. -/
def members? : Value → Option (List Value)
  | list xs => some xs
  | tuple xs => some xs
  | set xs => some xs
  | map entries => some (entries.map (·.1))
  | str s => some (s.toList.map fun c => str c.toString)
  | bytes bs => some (bs.map fun b => int b.toNat)
  | _ => none

/-- A finite number as an exact fraction with positive denominator. -/
def fraction? : Value → Option (Int × Nat)
  | bool b => some (if b then 1 else 0, 1)
  | int n => some (n, 1)
  | float x =>
    match Decimal.Binary.ofFloat x with
    | .finite negative m q =>
      let (num, den) := Decimal.fraction m q
      some (if negative then -(num : Int) else num, den)
    | _ => none
  | decimal (.finite negative ds e) =>
    let n : Int := Text.ofDigitValues ds
    let n := if negative then -n else n
    some (if 0 ≤ e then (n * (Nat.pow 10 e.toNat : Nat), 1) else (n, Nat.pow 10 (-e).toNat))
  | _ => none

/-- A number that is an infinity: whether it is the negative one. -/
def infinity? : Value → Option Bool
  | float x =>
    match Decimal.Binary.ofFloat x with
    | .infinite negative => some negative
    | _ => none
  | decimal (.infinite negative) => some negative
  | _ => none

mutual

/-- Whether two keys are the same key: numbers by their value across kinds, other data by kind and
content. -/
def sameKey : Value → Value → Bool
  | null, null => true
  | str s, str t => s == t
  | bytes a, bytes b => a == b
  | date a, date b => a == b
  | dateTime a, dateTime b => a == b
  | tuple xs, tuple ys => sameKeys xs ys
  | a, b =>
    match a.fraction?, b.fraction? with
    | some (n, d), some (k, e) => n * (e : Int) == k * (d : Int)
    | _, _ => (a.infinity?).isSome && a.infinity? == b.infinity?

/-- Whether two lists of keys are the same, member by member. -/
def sameKeys : List Value → List Value → Bool
  | [], [] => true
  | x :: xs, y :: ys => sameKey x y && sameKeys xs ys
  | _, _ => false

end

mutual

/-- The kind of the first part of a value that keeps it from being a key. -/
def unhashable? : Value → Option String
  | list _ => some "list"
  | set _ => some "set"
  | map _ => some "dict"
  | tuple xs => unhashableIn? xs
  | _ => none

/-- The first kind among the members that is no key. -/
def unhashableIn? : List Value → Option String
  | [] => none
  | x :: xs => (unhashable? x).or (unhashableIn? xs)

end

end Value

namespace Entries

/-- The value under a text key. -/
def valueAt? (entries : Entries) (key : String) : Option Value :=
  (entries.find? fun e => e.1.isText key).map (·.2)

/-- The value under a text key, nothing when the key is missing. -/
def valueAt (entries : Entries) (key : String) : Value :=
  (valueAt? entries key).getD Value.null

/-- Whether a text key is present. -/
def hasKey (entries : Entries) (key : String) : Bool :=
  (valueAt? entries key).isSome

/-- Put a value under a text key: in place where the key is present, else at the end. -/
def put (entries : Entries) (key : String) (v : Value) : Entries :=
  if hasKey entries key then
    entries.map fun e => if e.1.isText key then (e.1, v) else e
  else entries ++ [(Value.str key, v)]

/-- The value under a key of any kind. -/
def lookup (entries : Entries) (key : Value) : Option Value :=
  (entries.find? fun e => e.1.sameKey key).map (·.2)

/-- Put a value under a key of any kind, keeping the first spelling and place of the key. -/
def insert (entries : Entries) (key v : Value) : Entries :=
  if (lookup entries key).isSome then
    entries.map fun e => if e.1.sameKey key then (e.1, v) else e
  else entries ++ [(key, v)]

end Entries

end GateRollout
