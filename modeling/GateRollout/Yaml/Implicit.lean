import GateRollout.Yaml.Node
import GateRollout.Yaml.Timestamp

/-!
# Tags of plain scalars

What a plain scalar without a tag stands for is told by its form.
-/

namespace GateRollout.Yaml.Implicit

/-- The words for truth values, each in three spellings. -/
def boolWords : List String :=
  ["yes", "Yes", "YES", "no", "No", "NO", "true", "True", "TRUE", "false", "False", "FALSE",
    "on", "On", "ON", "off", "Off", "OFF"]

/-- The words for nothing. -/
def nullWords : List String := ["", "~", "null", "Null", "NULL"]

/-- The words for infinity, without a sign. -/
def infinityWords : List String := [".inf", ".Inf", ".INF"]

/-- The words for no number. -/
def nanWords : List String := [".nan", ".NaN", ".NAN"]

/-- A text without its sign. -/
def unsigned : List Char → List Char
  | '+' :: rest => rest
  | '-' :: rest => rest
  | s => s

/-- Whether a character may stand inside a number: a digit or an underscore. -/
def isInner (c : Char) : Bool := c.isDigit || c == '_'

/-- Whether a text is a digit with digits and underscores after it. -/
def isWhole : List Char → Bool
  | [] => false
  | c :: rest => c.isDigit && rest.all isInner

/-- Whether a text is an exponent with its sign, or empty. -/
def isExponentOrEmpty : List Char → Bool
  | [] => true
  | e :: sign :: ds =>
    (e == 'e' || e == 'E') && (sign == '+' || sign == '-') && !ds.isEmpty && ds.all Char.isDigit
  | _ => false

/-- Whether a text is a number below sixty of one or two digits. -/
def isSixtieth : List Char → Bool
  | [d] => d.isDigit
  | [t, d] => '0' ≤ t && t ≤ '5' && d.isDigit
  | _ => false

/-- Whether a text has parts between colons of which all after the first, and there is one, are numbers
below sixty. -/
def isSexagesimal (first : List Char → Bool) (s : List Char) : Bool :=
  match (String.ofList s).splitOn ":" with
  | part :: p :: parts =>
    first part.toList && (p :: parts).all fun q => isSixtieth q.toList
  | _ => false

/-- Whether a text has the form of a number with a point. -/
def isFloat (s : List Char) : Bool :=
  let body := unsigned s
  let whole := body.takeWhile (· != '.')
  match body.dropWhile (· != '.') with
  | '.' :: fraction =>
    (isWhole whole && isExponentOrEmpty (fraction.dropWhile isInner)) ||
      (isSexagesimal isWhole whole && fraction.all isInner) ||
      (s.head? == some '.' && isWhole (fraction.takeWhile isInner) &&
        isExponentOrEmpty (fraction.dropWhile isInner)) ||
      infinityWords.contains (String.ofList body) || nanWords.contains (String.ofList s)
  | _ => false

/-- Whether a text is not empty and all its characters are digits of a class or underscores. -/
def isDigits (p : Char → Bool) (s : List Char) : Bool :=
  !s.isEmpty && s.all fun c => p c || c == '_'

/-- Whether a text is a number without a leading zero. -/
def isPositive : List Char → Bool
  | [] => false
  | c :: rest => c.isDigit && c != '0' && rest.all isInner

/-- Whether a text has the form of an integer: decimal, with base two, eight or sixteen, or in parts of
sixty. -/
def isInt (s : List Char) : Bool :=
  match unsigned s with
  | ['0'] => true
  | '0' :: 'b' :: ds => isDigits (fun c => c == '0' || c == '1') ds
  | '0' :: 'x' :: ds => isDigits (fun c => c.isDigit || ('a' ≤ c.toLower && c.toLower ≤ 'f')) ds
  | '0' :: ds => isDigits (fun c => '0' ≤ c && c ≤ '7') ds
  | body => isPositive body || isSexagesimal isPositive body

/-- The tag that the form of a plain scalar tells. -/
def tagOf (text : String) : CoreTag :=
  let s := text.toList
  if boolWords.contains text then .bool
  else if isFloat s then .float
  else if isInt s then .int
  else if text == "<<" then .merge
  else if nullWords.contains text then .null
  else if Timestamp.isPlain s then .timestamp
  else if text == "=" then .value
  else .str

end GateRollout.Yaml.Implicit
