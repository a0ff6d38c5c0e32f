import GateRollout.Json.Parser
import GateRollout.Json.Printer
import GateRollout.Failure

/-!
# Audit records

What is noted of one push, as one line of JSON.  A record that is read back may hold data of any kind
in any place.
-/

namespace GateRollout

/-- What is noted of one push to one target. -/
structure PushRecord where
  timestamp : Value
  nodeId : Value
  interface : Value
  feature : Value
  plugin : Value
  scheduleId : Value
  status : Value
  dryRun : Value := .bool false
  checksum : Value := .null
  error : Value := .null

namespace PushRecord

/-- The parts of a record with their names, in the order in which they are written. -/
def fields (r : PushRecord) : List (String × Value) :=
  [("timestamp", r.timestamp), ("node_id", r.nodeId), ("interface", r.interface),
    ("feature", r.feature), ("plugin", r.plugin), ("schedule_id", r.scheduleId),
    ("status", r.status), ("dry_run", r.dryRun), ("intent_checksum", r.checksum),
    ("error", r.error)]

/-- The names of the parts that a record must have. -/
def requiredNames : List String :=
  ["timestamp", "node_id", "interface", "feature", "plugin", "schedule_id", "status"]

/-- The names of all parts. -/
def names : List String := requiredNames ++ ["dry_run", "intent_checksum", "error"]

/-- The record that named values describe; a part that is missing and a name that is no part are
refused. -/
def ofEntries (given : Entries) : Except Failure PushRecord := do
  match given.find? fun e => !(e.1.asText?.any names.contains) with
  | some (key, _) => throw (.fault ⟨.wrongType, s!"unexpected part {key.quoted}"⟩)
  | none => pure ()
  match requiredNames.find? fun n => !given.hasKey n with
  | some n => throw (.fault ⟨.wrongType, s!"missing part '{n}'"⟩)
  | none => pure ()
  return {
    timestamp := given.valueAt "timestamp"
    nodeId := given.valueAt "node_id"
    interface := given.valueAt "interface"
    feature := given.valueAt "feature"
    plugin := given.valueAt "plugin"
    scheduleId := given.valueAt "schedule_id"
    status := given.valueAt "status"
    dryRun := (given.valueAt? "dry_run").getD (.bool false)
    checksum := given.valueAt "intent_checksum"
    error := given.valueAt "error" }

/-- A record as a line of JSON. -/
def toJson (r : PushRecord) : Except Failure String :=
  (Json.write .spaced (.map (r.fields.map fun (k, v) => (.str k, v)))).mapError fun f => .fault f.toFault

/-- Read a record from a line of JSON. -/
def ofJson (line : String) : Except Failure PushRecord :=
  match Json.parse line with
  | .error .malformed => .error (.fault ⟨.malformedJson, "no JSON value"⟩)
  | .error (.numeralTooLong n) => .error (.fault ⟨.wrongValue, (Text.NumeralFault.tooLong n).message ""⟩)
  | .ok (.map entries) => ofEntries entries
  | .ok v => .error (.fault ⟨.wrongType, s!"a record is a mapping, not {v.typeName}"⟩)

/-- The longest error that is noted. -/
def errorLimit : Nat := 1000

/-- An error cut to the longest that is noted; nothing where there is no error. -/
def cutError (error : Value) : Except Failure Value :=
  if !error.isGiven then .ok .null
  else
    match error with
    | .str s => .ok (.str (String.ofList (s.toList.take errorLimit)))
    | .list xs => .ok (.list (xs.take errorLimit))
    | .tuple xs => .ok (.tuple (xs.take errorLimit))
    | .bytes bs => .ok (.bytes (bs.take errorLimit))
    | v => .error (.fault ⟨.wrongType, s!"'{v.qualifiedTypeName}' object is not subscriptable"⟩)

/-- The record that named values describe, made at a point in time. -/
def make (now : DateTime) (given : Entries) : Except Failure PushRecord := do
  let stamped := (Value.str "timestamp", Value.str (now.textWith 'T')) :: given
  if given.hasKey "timestamp" then throw (.fault ⟨.wrongType, "unexpected part 'timestamp'"⟩)
  let r ← ofEntries stamped
  return { r with error := ← cutError r.error }

end PushRecord

end GateRollout
