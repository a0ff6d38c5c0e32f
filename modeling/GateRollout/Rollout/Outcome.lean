import GateRollout.Value.Number
import GateRollout.Failure

/-!
# Outcomes

What became of every target of a rollout, and what that amounts to.
-/

namespace GateRollout

/-- What became of one target. -/
inductive TargetStatus where
  | success
  | failed
  | cancelled
  deriving Repr, DecidableEq

namespace TargetStatus

/-- The name of a status. -/
def name : TargetStatus → String
  | success => "success"
  | failed => "failed"
  | cancelled => "cancelled"

/-- The status with a name. -/
def ofName? (s : String) : Option TargetStatus := [success, failed, cancelled].find? (·.name == s)

end TargetStatus

/-- The result of one target. -/
structure TargetResult where
  nodeId : Value
  interface : String
  status : TargetStatus
  plugin : Option String := none
  error : Option String := none
  errorKind : Option String := none
  /-- How long it took, in milliseconds. -/
  duration : Number := .float 0
  /-- What would have been sent, where nothing was. -/
  payload : Option String := none

namespace TargetResult

/-- Whether the target was configured. -/
def isSuccess (r : TargetResult) : Bool := r.status == .success

/-- The text that names the target of a result.  A result is reported after it was recorded, so that its
device has a text. -/
def label (r : TargetResult) : String := r.nodeId.text ++ "/" ++ r.interface

/-- The error of a result, where there is one to speak of. -/
def statedError? (r : TargetResult) : Option String := r.error.filter fun s => !s.isEmpty

/-- A text or nothing. -/
def optionalText (s : Option String) : Value := (s.map Value.str).getD .null

/-- A result as data. -/
def toValue (r : TargetResult) : Value :=
  let error : List (String × Value) := match r.statedError? with
    | some s => [("error", .str s), ("error_kind", optionalText r.errorKind)]
    | none => []
  let payload : List (String × Value) := match r.payload with
    | some s => [("payload", .str s)]
    | none => []
  .map (([("node_id", r.nodeId), ("interface", .str r.interface), ("status", .str r.status.name),
      ("plugin", optionalText r.plugin), ("duration_ms", (r.duration.roundPlaces 2).toValue)] ++
    error ++ payload).map fun (k, v) => (.str k, v))

end TargetResult

/-- What the results of a rollout amount to. -/
inductive OutcomeStatus where
  | applied
  | partiallyApplied
  | notApplied
  deriving Repr, DecidableEq

/-- The name of a status. -/
def OutcomeStatus.name : OutcomeStatus → String
  | applied => "applied"
  | partiallyApplied => "partially_applied"
  | notApplied => "not_applied"

/-- What the results of a rollout amount to: all were configured, and there was one; some were; none
was. -/
def OutcomeStatus.ofResults (results : List TargetResult) : OutcomeStatus :=
  if results.any (·.isSuccess) then
    if results.all (·.isSuccess) then .applied else .partiallyApplied
  else .notApplied

/-- The outcome of a rollout. -/
structure Outcome where
  status : OutcomeStatus
  results : List TargetResult := []
  /-- The devices that no backend serves. -/
  skipped : List Value := []
  /-- Why the rollout could not start. -/
  error : Option String := none
  /-- Whether payloads were only written, not sent. -/
  dryRun : Bool := false

namespace Outcome

/-- The outcome of a rollout with some results. -/
def ofResults (results : List TargetResult) (skipped : List Value) (dryRun : Bool) : Outcome :=
  { status := .ofResults results, results, skipped, dryRun }

/-- The outcome of a rollout that could not start. -/
def unresolved (error : String) : Outcome := { status := .notApplied, error := some error }

/-- The number of results with a status. -/
def count (o : Outcome) (s : TargetStatus) : Nat := o.results.countP (·.status == s)

/-- The number of targets. -/
def total (o : Outcome) : Nat := o.results.length

/-- The results other than successes. -/
def failures (o : Outcome) : List TargetResult := o.results.filter fun r => !r.isSuccess

/-- The names of skipped devices in one text; only texts can be joined. -/
def joinedNames (names : List Value) : Except Failure String := do
  let texts ← names.zipIdx.mapM fun (v, i) =>
    match v with
    | .str s => .ok s
    | v =>
      .error (.fault ⟨.wrongType,
        s!"sequence item {Text.natText i}: expected str instance, {v.qualifiedTypeName} found"⟩)
  return ", ".intercalate texts

/-- What the results amount to, in words. -/
def headline (o : Outcome) : String :=
  let total := Text.natText o.total
  match o.status with
  | .applied => s!"Applied to {total} target(s)"
  | .partiallyApplied =>
    s!"Partially applied: {Text.natText (o.total - o.count .success)}/{total} targets failed"
  | .notApplied =>
    if o.total == 0 then "Not applied: no targets"
    else s!"Not applied: all {total} target(s) failed"

/-- An outcome in one line. -/
def summary (o : Outcome) : Except Failure String :=
  match o.error.filter fun s => !s.isEmpty with
  | some e => .ok s!"Not applied: {e}"
  | none => do
    let start := if o.dryRun then "Dry run: " else ""
    let cancelled := o.count .cancelled
    let cancelledPart := if cancelled == 0 then "" else s!" ({Text.natText cancelled} cancelled)"
    let skippedPart ← if o.skipped.isEmpty then pure ""
      else (joinedNames o.skipped).map fun names => s!"; skipped nodes: {names}"
    return start ++ o.headline ++ cancelledPart ++ skippedPart

/-- An outcome as data. -/
def toValue (o : Outcome) : Except Failure Value := do
  let summary ← o.summary
  return .map
    ([("status", .str o.status.name), ("summary", .str summary), ("dry_run", .bool o.dryRun),
      ("total", .int o.total), ("succeeded", .int (o.count .success)),
      ("failed", .int (o.count .failed)), ("cancelled", .int (o.count .cancelled)),
      ("skipped_nodes", .list o.skipped), ("error", TargetResult.optionalText o.error),
      ("results", .list (o.results.map TargetResult.toValue))].map fun (k, v) => (.str k, v))

end Outcome

end GateRollout
