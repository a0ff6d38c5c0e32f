import GateRollout.Audit.Record
import GateRollout.Text.Blank

/-!
# The history of pushes

The audit log holds one record a line.  Lines that are no records are passed over.  The history is
read from the newest record to the oldest.
-/

namespace GateRollout.History

open Text

/-- The lines of a text; a line ends with a line feed, a carriage return, or both in this order. -/
def linesOf (current : List Char) : List Char → List (List Char)
  | [] => if current.isEmpty then [] else [current.reverse]
  | '\r' :: '\n' :: rest => current.reverse :: linesOf [] rest
  | '\r' :: rest => current.reverse :: linesOf [] rest
  | '\n' :: rest => current.reverse :: linesOf [] rest
  | c :: rest => linesOf (c :: current) rest

/-- The record on a line, when there is one.  A numeral that is too long to be converted is a failure,
every other line that is no record is not. -/
def recordOn? (line : List Char) : Except Failure (Option PushRecord) :=
  let text := trim line
  if text.isEmpty then .ok none
  else
    match PushRecord.ofJson (String.ofList text) with
    | .ok r => .ok (some r)
    | .error (.fault ⟨.malformedJson, _⟩) => .ok none
    | .error (.fault ⟨.wrongType, _⟩) => .ok none
    | .error f => .error f

/-- Which records are asked for; a part that is not given accepts every record. -/
structure Filter where
  nodeId : Value := .null
  status : Value := .null

/-- Whether a filter accepts a record. -/
def Filter.accepts (f : Filter) (r : PushRecord) : Bool :=
  (!f.nodeId.isGiven || r.nodeId.sameKey f.nodeId) && (!f.status.isGiven || r.status.sameKey f.status)

/-- The records of a log that a filter accepts, the oldest first. -/
def accepted (f : Filter) (log : String) : Except Failure (List PushRecord) := do
  let records ← (linesOf [] log.toList).mapM recordOn?
  return (records.filterMap id).filter f.accepts

/-- The last `limit` items of a list.  A limit of zero takes all of them, and a negative one drops as
many from the front. -/
def lastItems {α : Type} (limit : Int) (xs : List α) : List α :=
  if 0 < limit then xs.drop (xs.length - limit.toNat) else xs.drop (-limit).toNat

/-- The limit that a value is. -/
def limitOf (v : Value) : Except Failure Int :=
  match v with
  | .int n => .ok n
  | .bool b => .ok (if b then 1 else 0)
  | v => .error (.fault ⟨.wrongType, s!"bad limit: '{v.typeName}'"⟩)

/-- The newest records of a log that a filter accepts, the newest first. -/
def recent (f : Filter) (limit : Value) (log : String) : Except Failure (List PushRecord) := do
  let records ← accepted f log
  return (lastItems (← limitOf limit) records).reverse

end GateRollout.History
