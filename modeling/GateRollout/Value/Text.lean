import GateRollout.Value.Basic
import GateRollout.Text.Quoted
import GateRollout.Decimal.Shortest

/-!
# The text of values

How a value stands in a message: a text stands for itself at the top and is quoted inside other
values.  A value that holds an integer of too many digits stands in no message.
-/

namespace GateRollout.Value

open Text

/-- An offset from universal time as a call. -/
def offsetCall (o : Int) : String :=
  if o == 0 then "datetime.timezone.utc" else "datetime.timezone(" ++ timeSpanCall o ++ ")"

/-- A day as a call. -/
def dateCall (d : Date) : String :=
  "datetime.date(" ++ ", ".intercalate ([d.year, d.month, d.day].map natText) ++ ")"

/-- A point in time as a call; seconds and their fraction are written where they are not zero. -/
def dateTimeCall (t : DateTime) : String :=
  let fine :=
    if t.micro != 0 then [t.second, t.micro] else if t.second != 0 then [t.second] else []
  let numbers := [t.date.year, t.date.month, t.date.day, t.hour, t.minute] ++ fine
  let zone := match t.offset with
    | some o => [s!"tzinfo={offsetCall o}"]
    | none => []
  "datetime.datetime(" ++ ", ".intercalate (numbers.map natText ++ zone) ++ ")"

mutual

/-- The text of a value inside another value. -/
def quoted : Value → String
  | null => "None"
  | bool b => if b then "True" else "False"
  | int n => intText n
  | float x => Decimal.generalText x
  | str s => Text.quoted s
  | bytes bs => quotedBytes bs
  | date d => dateCall d
  | dateTime t => dateTimeCall t
  | decimal d => "Decimal('" ++ d.text ++ "')"
  | list xs => "[" ++ ", ".intercalate (quotedMembers xs) ++ "]"
  | tuple xs =>
    match quotedMembers xs with
    | [x] => "(" ++ x ++ ",)"
    | texts => "(" ++ ", ".intercalate texts ++ ")"
  | set xs =>
    match quotedMembers xs with
    | [] => "set()"
    | texts => "\x7b" ++ ", ".intercalate texts ++ "\x7d"
  | map entries => "\x7b" ++ ", ".intercalate (quotedEntries entries) ++ "\x7d"
  | object className => "<" ++ className ++ " object>"

/-- The texts of the members of a value. -/
def quotedMembers : List Value → List String
  | [] => []
  | x :: xs => quoted x :: quotedMembers xs

/-- The texts of the entries of a map. -/
def quotedEntries : List (Value × Value) → List String
  | [] => []
  | (k, v) :: rest => (quoted k ++ ": " ++ quoted v) :: quotedEntries rest

end

/-- The text of a value, however long its integers are. -/
def text : Value → String
  | str s => s
  | date d => d.text
  | dateTime t => t.text
  | decimal d => d.text
  | v => v.quoted

mutual

/-- Whether a value has a text: every integer in it is short enough to be written. -/
def hasText : Value → Bool
  | int n => isWritten n
  | list xs => membersHaveText xs
  | tuple xs => membersHaveText xs
  | set xs => membersHaveText xs
  | map entries => entriesHaveText entries
  | _ => true

/-- Whether the members of a value have texts. -/
def membersHaveText : List Value → Bool
  | [] => true
  | x :: xs => hasText x && membersHaveText xs

/-- Whether the keys and values of a map have texts. -/
def entriesHaveText : List (Value × Value) → Bool
  | [] => true
  | (k, v) :: rest => hasText k && hasText v && entriesHaveText rest

end

end GateRollout.Value
