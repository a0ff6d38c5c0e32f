import GateRollout.Text.CaseTable

/-!
# Lower case

The full lower-case form of a text.  Two letters need more than the table: a capital `I` with a dot
becomes two characters, and a capital sigma takes its final form at the end of a word.
-/

namespace GateRollout.Text

/-- The lower-case form of a letter that has one of one character; any other character itself. -/
def lowerChar (c : Char) : Char :=
  let n := c.toNat
  if n < 128 then c.toLower
  else
    match lowerRuns.find? fun (first, last, step, _) => first ≤ n && n ≤ last && (n - first) % step == 0 with
    | some (_, _, _, shift) => Char.ofNat ((n : Int) + shift).toNat
    | none => c

/-- Whether the nearest character that casing does not pass over is a letter with case. -/
def meetsCased (s : List Char) : Bool :=
  match s.dropWhile caseIgnorableBands.has with
  | [] => false
  | c :: _ => casedBands.has c

/-- Lower-case a text whose part already read is `before`, nearest character first. -/
def lowerAfter (before : List Char) : List Char → List Char
  | [] => []
  | c :: rest =>
    let here :=
      if c == 'İ' then ['i', '\u0307']
      else if c == 'Σ' then
        if meetsCased before && !meetsCased rest then ['ς'] else ['σ']
      else [lowerChar c]
    here ++ lowerAfter (c :: before) rest

/-- The lower-case form of a text. -/
def lower (s : String) : String := String.ofList (lowerAfter [] s.toList)

end GateRollout.Text
