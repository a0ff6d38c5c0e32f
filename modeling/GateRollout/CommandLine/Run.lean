import GateRollout.Audit.Log
import GateRollout.CommandLine.Command
import GateRollout.Inventory.Loading
import GateRollout.Service
import GateRollout.Transport.Netconf

/-!
# Running commands

A command prints lines and ends with an exit code: zero where everything was applied, two where only a
part was, one where nothing was or an error kept the command from being carried out.  Errors of the
rollout and settings that are not acceptable are reported; any other failure is passed on.
-/

namespace GateRollout.CommandLine

/-- How a command ends. -/
structure Ending where
  code : Nat
  /-- The lines that it prints. -/
  lines : List String := []
  /-- The error that it reports. -/
  report : Option String := none
  deriving Repr, DecidableEq

namespace Ending

/-- What a command prints. -/
def output (e : Ending) : String := String.join (e.lines.map (· ++ "\n"))

/-- The exit code that an outcome calls for. -/
def codeOf : OutcomeStatus → Nat
  | .applied => 0
  | .partiallyApplied => 2
  | .notApplied => 1

/-- The line for a result. -/
def resultLine (r : TargetResult) : String :=
  let given (s : Option String) : Option String := s.filter fun t => !t.isEmpty
  s!"{r.label}: {r.status.name}" ++
    ((given r.plugin).map fun p => s!" [{p}]").getD "" ++
    ((given r.error).map fun e => s!" - {e}").getD ""

/-- The lines for a result: where payloads are only written, the payload too. -/
def resultLines (dryRun : Bool) (r : TargetResult) : List String :=
  resultLine r :: (if dryRun then (r.payload.filter fun p => !p.isEmpty).toList else [])

/-- How applying a configuration ends. -/
def ofResponse (dryRun : Bool) (r : Response) : Ending where
  code := codeOf r.outcome.status
  lines := r.outcome.results.flatMap (resultLines dryRun) ++ [r.message]

/-- How listing what is supported ends. -/
def ofFeatures (features : List (String × List (String × List String))) : Ending where
  code := 0
  lines := features.flatMap fun (protocol, plugins) =>
    protocol :: plugins.map fun (feature, names) => s!"  {feature}: " ++ ", ".intercalate names

/-- How a command ends that meets a failure; `none` for a failure that it does not report. -/
def ofFailure? : Failure → Option Ending
  | .error e => some { code := 1, report := some s!"{e.kind.name}: {e.message}" }
  | .fault f =>
    if f.kind.isValueFault then some { code := 1, report := some s!"Invalid settings: {f.text}" }
    else none

end Ending

namespace Invocation

/-- How many pushes a command wants to run at once, where it says so; zero says nothing. -/
def workers? (i : Invocation) : Option Int :=
  match i.command with
  | .apply _ _ workers => workers.filter (· != 0)
  | _ => none

/-- The settings of the environment with those of the command line over them. -/
def settings (i : Invocation) (env : Environment) : Except Failure Settings := do
  let s ← Settings.ofEnvironment env
  let s := match i.inventory.filter fun p => !p.isEmpty with
    | some p => { s with inventoryPath := .str p }
    | none => s
  match i.workers? with
  | some n => Settings.check { s with maxWorkers := .int n }
  | none => return s

end Invocation

variable {σ : Type}

/-- The service for an inventory, with the default plugins and the given way to reach devices. -/
def serviceFor (h : Host σ) (d : Netconf.Dialer σ) (s : Settings) (auditLog : String) :
    Action σ (Service σ) := do
  let inv ← Inventory.load h s.inventoryPath
  let engine : Engine σ :=
    { registry := ← defaultRegistry
      models := fun id => Action.ofExcept (inv.model id)
      connector := Netconf.connector d s
      settings := s
      environment := h.environment
      clock := h.clock
      now := h.now
      audit := AuditLog.write h auditLog }
  return ⟨inv.store, engine⟩

/-- The newest records of the audit log, as lines. -/
def history (h : Host σ) (s : Settings) (node : Option String) (limit : Int) :
    Action σ Ending := do
  let log := (s.auditDirectory.asText?.filter fun d => !d.isEmpty).map AuditLog.pathIn
  let nodeId := (node.map Value.str).getD .null
  let records ← AuditLog.recent h log { nodeId } (.int limit)
  return { code := 0, lines := ← Action.ofExcept (records.mapM PushRecord.toJson) }

/-- Carry out a command with some settings. -/
def carryOut (h : Host σ) (d : Netconf.Dialer σ) (s : Settings) (c : Command) : Action σ Ending := do
  let service : Action σ (Service σ) := do
    serviceFor h d s (← AuditLog.setUp h s.auditDirectory)
  match c with
  | .history node limit => history h s node limit
  | .apply id dryRun _ => return .ofResponse dryRun (← (← service).apply (.str id) dryRun)
  | .render id node port =>
    return { code := 0, lines := [← (← service).render (.str id) (.str node) port] }
  | .features => return .ofFeatures (← Action.ofExcept (← service).features)

/-- Carry out a command; what it can report about a failure is how it ends. -/
def run (h : Host σ) (d : Netconf.Dialer σ) (i : Invocation) : Action σ Ending := do
  let carriedOut : Action σ Ending := do
    carryOut h d (← Action.ofExcept (i.settings h.environment)) i.command
  match ← Action.attempt carriedOut with
  | .ok e => return e
  | .error f =>
    match Ending.ofFailure? f with
    | some e => return e
    | none => throw f

end GateRollout.CommandLine
