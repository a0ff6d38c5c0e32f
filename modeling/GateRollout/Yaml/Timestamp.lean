import GateRollout.Value.Calendar

/-!
# Timestamps

The form of days and points in time, as in `2021-02-08` and `2021-02-08 10:00:00.5 +01:00`.
-/

namespace GateRollout.Yaml

open Text

/-- The time of day of a timestamp. -/
structure TimeOfDay where
  hour : Nat
  minute : Nat
  second : Nat
  micro : Nat
  offset : Option Int
  deriving Repr, DecidableEq

/-- A timestamp whose numbers may be out of range. -/
structure Timestamp where
  year : Nat
  month : Nat
  day : Nat
  time : Option TimeOfDay
  deriving Repr, DecidableEq

namespace Timestamp

/-- The number of some digits. -/
def numberOf (ds : List Char) : Nat := ofDigitValues (ds.map fun c => c.toNat - 48)

/-- A number of `least` to `most` digits, and what follows it. -/
def number? (least most : Nat) (s : List Char) : Option (Nat × List Char) :=
  let ds := (s.take most).takeWhile Char.isDigit
  if ds.length < least then none else some (numberOf ds, s.drop ds.length)

/-- What follows a character. -/
def after? (c : Char) : List Char → Option (List Char)
  | [] => none
  | d :: rest => if c == d then some rest else none

/-- Whether a character is a space or a tab. -/
def isGap (c : Char) : Bool := c == ' ' || c == '\t'

/-- The millionths of a second that digits after a point stand for; digits beyond the sixth are cut
off. -/
def microOf (ds : List Char) : Nat :=
  let ds := ds.take 6
  numberOf (ds ++ List.replicate (6 - ds.length) '0')

/-- A fraction of a second, where there is one, and what follows it. -/
def fraction (s : List Char) : Nat × List Char :=
  match after? '.' s with
  | some rest => (microOf (rest.takeWhile Char.isDigit), rest.dropWhile Char.isDigit)
  | none => (0, s)

/-- An offset in seconds that has to be all that is left, or nothing at all. -/
def offset? (s : List Char) : Option (Option Int) :=
  match s.dropWhile isGap with
  | [] => if s.isEmpty then some none else none
  | ['Z'] => some (some 0)
  | sign :: rest =>
    if sign == '+' || sign == '-' then do
      let (hours, rest) ← number? 1 2 rest
      let minutes ← match rest with
        | [] => some 0
        | _ => do
          let (minutes, rest) ← number? 2 2 (← after? ':' rest)
          if rest.isEmpty then some minutes else none
      let seconds : Int := 3600 * hours + 60 * minutes
      return some (if sign == '-' then -seconds else seconds)
    else none

/-- A time of day with all that follows it. -/
def time? (s : List Char) : Option TimeOfDay := do
  let (hour, s) ← number? 1 2 s
  let (minute, s) ← number? 2 2 (← after? ':' s)
  let (second, s) ← number? 2 2 (← after? ':' s)
  let (micro, s) := fraction s
  return ⟨hour, minute, second, micro, ← offset? s⟩

/-- What follows the gap between day and time: the letter `t` in either case, or blanks. -/
def afterGap? : List Char → Option (List Char)
  | [] => none
  | c :: rest =>
    if c == 'T' || c == 't' then some rest
    else if isGap c then some (rest.dropWhile isGap)
    else none

/-- The timestamp that a text is. -/
def read? (s : List Char) : Option Timestamp := do
  let (year, s) ← number? 4 4 s
  let (month, s) ← number? 1 2 (← after? '-' s)
  let (day, s) ← number? 1 2 (← after? '-' s)
  match s with
  | [] => return ⟨year, month, day, none⟩
  | s => return ⟨year, month, day, some (← time? (← afterGap? s))⟩

/-- Whether a text is a timestamp in the form that needs no tag: a day alone has two digits for the
month and for the day. -/
def isPlain (s : List Char) : Bool :=
  match read? s with
  | some t => t.time.isSome || s.length == 10
  | none => false

end Timestamp

end GateRollout.Yaml
