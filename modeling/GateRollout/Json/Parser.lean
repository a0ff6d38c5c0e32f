import GateRollout.Value.Basic
import GateRollout.Decimal.Reading
import GateRollout.Text.Hex

/-!
# Reading JSON

One JSON value and nothing after it.  Integers have any size up to the digit limit, the names `NaN`,
`Infinity` and `-Infinity` are numbers, and of two entries with one key the later gives the value.
Every step hands on a strictly shorter text, which is what the recursion is by.
-/

namespace GateRollout.Json

open Text

/-- Why a text is no JSON. -/
inductive ReadFault where
  | malformed
  | numeralTooLong (digits : Nat)
  deriving Repr, DecidableEq

/-- What is left of a text after a part of it was read. -/
abbrev Rest (s : List Char) := { r : List Char // r.length < s.length }

/-- A longer text leaves the same rest. -/
def Rest.weaken {s t : List Char} (r : Rest s) (h : s.length ≤ t.length) : Rest t :=
  ⟨r.1, Nat.lt_of_lt_of_le r.2 h⟩

/-- White space between tokens. -/
def isSpace (c : Char) : Bool := c == ' ' || c == '\t' || c == '\n' || c == '\r'

/-- Skip white space. -/
def skip (s : List Char) : { r : List Char // r.length ≤ s.length } :=
  ⟨s.dropWhile isSpace, (List.dropWhile_sublist _).length_le⟩

/-- The number of four hexadecimal digits, and what follows them. -/
def fourDigits? : List Char → Option (Nat × List Char)
  | a :: b :: c :: d :: rest => do
    let w ← hexValue? a
    let x ← hexValue? b
    let y ← hexValue? c
    let z ← hexValue? d
    return (((w * 16 + x) * 16 + y) * 16 + z, rest)
  | _ => none

/-- The character that a one-letter escape stands for. -/
def simpleEscape? (c : Char) : Option Char :=
  match c with
  | '"' => some '"'
  | '\\' => some '\\'
  | '/' => some '/'
  | 'b' => some (Char.ofNat 8)
  | 'f' => some (Char.ofNat 12)
  | 'n' => some '\n'
  | 'r' => some '\r'
  | 't' => some '\t'
  | _ => none

theorem fourDigits?_length {s r : List Char} {n : Nat} (h : fourDigits? s = some (n, r)) :
    r.length < s.length := by
  unfold fourDigits? at h
  split at h
  · simp only [Option.bind_eq_bind, Option.bind_eq_some_iff, Option.pure_def, Option.some.injEq,
      Prod.mk.injEq] at h
    obtain ⟨_, _, _, _, _, _, _, _, _, rfl⟩ := h
    simp only [List.length_cons]
    omega
  · simp at h

/-- The character of an escape after `\u`, whose second half may follow in a second escape.  A half without
the other stands for no character and is replaced. -/
def unicodeEscape? (s : List Char) : Option (Char × Rest s) :=
  match h : fourDigits? s with
  | none => none
  | some (n, r) =>
    let code := if 0xD800 ≤ n && n < 0xE000 then 0xFFFD else n
    let single : Option (Char × Rest s) := some (Char.ofNat code, ⟨r, fourDigits?_length h⟩)
    if 0xD800 ≤ n && n < 0xDC00 then
      match hr : r with
      | '\\' :: 'u' :: t =>
        match ht : fourDigits? t with
        | some (k, u) =>
          if 0xDC00 ≤ k && k < 0xE000 then
            some (Char.ofNat (0x10000 + (n - 0xD800) * 0x400 + (k - 0xDC00)), ⟨u, by
              have h₁ := fourDigits?_length h
              have h₂ := fourDigits?_length ht
              simp only [List.length_cons] at h₁
              omega⟩)
          else single
        | none => single
      | _ => single
    else single

/-- The characters of a string up to its closing quote, and what follows it. -/
def stringBody (s : List Char) : Except ReadFault (List Char × Rest s) :=
  match s with
  | [] => .error .malformed
  | '"' :: rest => .ok ([], ⟨rest, Nat.lt_succ_self _⟩)
  | '\\' :: 'u' :: rest =>
    match unicodeEscape? rest with
    | none => .error .malformed
    | some (c, r) =>
      have : r.1.length < ('\\' :: 'u' :: rest).length := by
        have := r.2; simp only [List.length_cons]; omega
      match stringBody r.1 with
      | .error e => .error e
      | .ok (cs, t) => .ok (c :: cs, ⟨t.1, by have := t.2; omega⟩)
  | '\\' :: c :: rest =>
    match simpleEscape? c with
    | none => .error .malformed
    | some d =>
      match stringBody rest with
      | .error e => .error e
      | .ok (cs, t) => .ok (d :: cs, t.weaken (by simp only [List.length_cons]; omega))
  | c :: rest =>
    if c.toNat < 32 || c == '\\' then .error .malformed
    else
      match stringBody rest with
      | .error e => .error e
      | .ok (cs, t) => .ok (c :: cs, t.weaken (Nat.le_succ _))
termination_by s.length
decreasing_by all_goals (simp only [List.length_cons] at *; omega)

/-- The fraction and exponent that may follow the integer part of a number, and what follows them. -/
def numberTail (s : List Char) : List Char × List Char :=
  let (frac, r) := match s with
    | '.' :: rest =>
      if (rest.takeWhile Char.isDigit).isEmpty then ([], s)
      else ('.' :: rest.takeWhile Char.isDigit, rest.dropWhile Char.isDigit)
    | _ => ([], s)
  let withExponent (e : Char) (sign ds rest : List Char) : List Char × List Char :=
    if ds.isEmpty then (frac, r) else (frac ++ e :: sign ++ ds, rest)
  match r with
  | e :: rest =>
    if e == 'e' || e == 'E' then
      match rest with
      | '+' :: t => withExponent e ['+'] (t.takeWhile Char.isDigit) (t.dropWhile Char.isDigit)
      | '-' :: t => withExponent e ['-'] (t.takeWhile Char.isDigit) (t.dropWhile Char.isDigit)
      | t => withExponent e [] (t.takeWhile Char.isDigit) (t.dropWhile Char.isDigit)
    else (frac, r)
  | [] => (frac, r)

/-- A number after its sign: its value, and what follows it. -/
def number (negative : Bool) (s : List Char) : Except ReadFault (Value × List Char) :=
  let whole := match s with
    | '0' :: _ => ['0']
    | _ => s.takeWhile Char.isDigit
  if whole.isEmpty then .error .malformed
  else
    let (tail, rest) := numberTail (s.drop whole.length)
    if tail.isEmpty then
      if maxNumeralDigits < whole.length then .error (.numeralTooLong whole.length)
      else
        let n : Int := ofDigitValues (whole.map Decimal.asciiDigit)
        .ok (.int (if negative then -n else n), rest)
    else
      match Decimal.readUnsigned? (whole ++ tail) with
      | some x => .ok (.float (if negative then -x else x), rest)
      | none => .error .malformed

/-- The words that stand for a value. -/
def words : List (String × Value) :=
  [("null", .null), ("true", .bool true), ("false", .bool false), ("NaN", .float (0.0 / 0.0)),
    ("Infinity", .float (1.0 / 0.0)), ("-Infinity", .float (-1.0 / 0.0))]

/-- A number or a word, and what follows it. -/
def atom (s : List Char) : Except ReadFault (Value × List Char) :=
  match words.find? fun w => w.1.toList.isPrefixOf s with
  | some (w, v) => .ok (v, s.drop w.length)
  | none =>
    match s with
    | '-' :: rest => number true rest
    | _ => number false s

/-- A rest that is known to be shorter. -/
def shorter (s r : List Char) : Except ReadFault (Rest s) :=
  if h : r.length < s.length then .ok ⟨r, h⟩ else .error .malformed

mutual

/-- One value, and what follows it. -/
def value (s : List Char) : Except ReadFault (Value × Rest s) :=
  match s with
  | '"' :: rest => do
    let (cs, r) ← stringBody rest
    return (.str (String.ofList cs), r.weaken (Nat.le_succ _))
  | '[' :: rest =>
    let t := skip rest
    match ht : t.1 with
    | ']' :: r => .ok (.list [], ⟨r, by have := t.2; simp only [ht, List.length_cons] at *; omega⟩)
    | _ => do
      have hl : t.1.length < ('[' :: rest).length := by have := t.2; simp only [List.length_cons]; omega
      let (xs, r) ← items t.1
      return (.list xs, r.weaken (by omega))
  | '\x7b' :: rest =>
    let t := skip rest
    match ht : t.1 with
    | '\x7d' :: r => .ok (.map [], ⟨r, by have := t.2; simp only [ht, List.length_cons] at *; omega⟩)
    | _ => do
      have hl : t.1.length < ('\x7b' :: rest).length := by
        have := t.2; simp only [List.length_cons]; omega
      let (es, r) ← members [] t.1
      return (.map es, r.weaken (by omega))
  | t => do
    let (v, r) ← atom t
    return (v, ← shorter t r)
termination_by (s.length, 0)

/-- The items of a list up to its closing bracket, and what follows it. -/
def items (s : List Char) : Except ReadFault (List Value × Rest s) := do
  let (v, r) ← value s
  let t := skip r.1
  match ht : t.1 with
  | ']' :: u =>
    return ([v], ⟨u, by have := t.2; have := r.2; simp only [ht, List.length_cons] at *; omega⟩)
  | ',' :: u =>
    let w := skip u
    have hw : w.1.length < s.length := by
      have := w.2; have := t.2; have := r.2; simp only [ht, List.length_cons] at *; omega
    let (vs, x) ← items w.1
    return (v :: vs, x.weaken (by omega))
  | _ => throw .malformed
termination_by (s.length, 1)

/-- The members of an object up to its closing brace, added to `known`, and what follows it. -/
def members (known : Entries) (s : List Char) : Except ReadFault (Entries × Rest s) :=
  match s with
  | '"' :: rest => do
    let (cs, r) ← stringBody rest
    let t := skip r.1
    match ht : t.1 with
    | ':' :: u =>
      let w := skip u
      have hw : w.1.length < ('"' :: rest).length := by
        have := w.2; have := t.2; have := r.2; simp only [ht, List.length_cons] at *; omega
      let (v, x) ← value w.1
      let known := known.put (String.ofList cs) v
      let y := skip x.1
      match hy : y.1 with
      | '\x7d' :: z =>
        return (known, ⟨z, by have := y.2; have := x.2; simp only [hy, List.length_cons] at *; omega⟩)
      | ',' :: z =>
        let a := skip z
        have ha : a.1.length < ('"' :: rest).length := by
          have := a.2; have := y.2; have := x.2; simp only [hy, List.length_cons] at *; omega
        let (es, b) ← members known a.1
        return (es, b.weaken (by omega))
      | _ => throw .malformed
    | _ => throw .malformed
  | _ => .error .malformed
termination_by (s.length, 1)

end

/-- Read a text that is one JSON value with white space around it. -/
def parse (s : String) : Except ReadFault Value := do
  let (v, r) ← value (skip s.toList).1
  if (skip r.1).1.isEmpty then return v else throw .malformed

end GateRollout.Json
