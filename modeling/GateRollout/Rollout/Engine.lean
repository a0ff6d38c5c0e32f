import GateRollout.Audit.Record
import GateRollout.Mapping.Registry
import GateRollout.Rollout.Executor
import GateRollout.Rollout.Topology
import GateRollout.Timing

/-!
# The engine

One intent goes to every port of every device that some backend serves.  A failure on one target is
noted in its result and stops no other.  Every result is recorded in the audit log.
-/

namespace GateRollout

/-- What a rollout works with. -/
structure Engine (σ : Type) where
  registry : Registry Backend
  /-- The modules that a device has installed. -/
  models : Value → Action σ DeviceModel
  connector : Connector σ
  settings : Settings
  environment : Environment
  /-- A clock that counts seconds from some moment on. -/
  clock : Action σ Number
  /-- The time of day. -/
  now : Action σ DateTime
  /-- Write a line to the audit log. -/
  audit : String → Action σ Unit

/-- What is asked of the engine besides an intent and a topology. -/
structure RunOptions where
  /-- Whether payloads are only written, not sent. -/
  dryRun : Bool := false
  /-- The checksum of the document that the intent was read from. -/
  checksum : Value := .null

namespace Engine

variable {σ : Type}

/-- The modules of a device, or the error of the store that keeps them from being known. -/
def modelOf (e : Engine σ) (node : Node) : Action σ (Except RolloutError DeviceModel) := do
  match ← Action.attempt (e.models node.id) with
  | .ok m => return .ok m
  | .error (.error err) =>
    if err.kind.isA .store then
      let id ← Action.ofExcept node.id.words
      Action.log .error s!"Device model for node {id} unavailable: {err.message}"
      return .error err
    else throw (.error err)
  | .error f => throw f

/-- The target of a port of a device. -/
def targetOf (node : Node) (secret : Value) (port : Port) : Target :=
  { management := node.management, secret, interface := port.name, nodeId := node.id }

/-- The jobs for the ports of a device; `none` for a device that no backend serves. -/
def jobsOf (e : Engine σ) (node : Node) : Action σ (Option (List Job)) := do
  let protocol := node.management.protocol
  match ← Action.ofExcept (e.registry.get protocol) with
  | none =>
    let id ← Action.ofExcept node.id.words
    let protocol ← Action.ofExcept protocol.words
    Action.log .info s!"Skipping node {id}: no backend for protocol '{protocol}'"
    return none
  | some backend =>
    let model ← e.modelOf node
    let secret ← Action.ofExcept (node.management.secret e.environment)
    return some (node.ports.map fun port =>
      { nodeId := node.id, target := targetOf node secret port, backend, model })

/-- The jobs for the ports of some devices in their order, and the devices that are skipped. -/
def buildJobs (e : Engine σ) : List Node → Action σ (List Job × List Value)
  | [] => return ([], [])
  | node :: rest => do
    match ← e.jobsOf node with
    | none =>
      let (jobs, skipped) ← e.buildJobs rest
      return (jobs, node.id :: skipped)
    | some own =>
      let (jobs, skipped) ← e.buildJobs rest
      return (own ++ jobs, skipped)

/-- The result of a job whose device's modules are not known. -/
def modelFailure (job : Job) (err : RolloutError) : TargetResult :=
  { nodeId := job.nodeId, interface := job.target.interface, status := .failed
    error := some s!"device model unavailable: {err.message}", errorKind := some err.kind.name }

/-- A text that is given, else another. -/
def givenOr (s other : Option String) : Option String := (s.filter fun t => !t.isEmpty).or other

/-- Write the payload of a job without sending it.  The plugin is noted as soon as it is known. -/
def renderJob (intent : Intent) (model : DeviceModel) (job : Job) :
    Action σ (Option String × Except Failure (Option String)) := do
  match ← Action.attempt (job.backend.select intent.feature model) with
  | .error f => return (none, .error f)
  | .ok plugin =>
    let result ← Action.attempt (job.backend.render intent model job.target)
    return (some plugin.name, result.map some)

/-- Push a job to its device. -/
def pushJob (e : Engine σ) (intent : Intent) (model : DeviceModel) (job : Job) :
    Action σ (Option String × Except Failure (Option String)) := do
  match ← Action.attempt (job.backend.push e.connector intent model job.target) with
  | .error f => return (none, .error f)
  | .ok plugin => return (some plugin.name, .ok none)

/-- What is timed of a job. -/
def sectionOf (dryRun : Bool) (job : Job) : TimedSection :=
  { operation := if dryRun then "render" else "push", device := some job.target.label
    context := [("protocol", .str job.backend.protocol)] }

/-- The result of a job that was tried: the plugin that is known, and what came of it. -/
def resultOf (job : Job) (duration : Number) (plugin : Option String)
    (ending : Except Failure (Option String)) : TargetResult :=
  let base : TargetResult :=
    { nodeId := job.nodeId, interface := job.target.interface, status := .success, plugin, duration }
  match ending with
  | .ok payload => { base with payload }
  | .error (.error err) =>
    { base with
      status := .failed
      plugin := givenOr plugin err.plugin
      error := some err.message
      errorKind := some err.kind.name }
  | .error (.fault f) =>
    { base with
      status := .failed
      error := some (if f.text.isEmpty then f.kind.name else f.text)
      errorKind := some f.kind.name }

/-- Note a failure of a job. -/
def logFailure (job : Job) : Failure → Action σ Unit
  | .error err => Action.log .error s!"{job.target.label}: {err.message}"
  | .fault _ => Action.log .error s!"{job.target.label}: unexpected error"

/-- Run a job on a device whose modules are known. -/
def runKnown (e : Engine σ) (intent : Intent) (dryRun : Bool) (model : DeviceModel) (job : Job) :
    Action σ TargetResult := do
  let start ← e.clock
  -- a job that cannot be named cannot be noted as failed either
  let _ ← Action.ofExcept job.target.words
  let began ← e.clock
  let (plugin, ending) ←
    if dryRun then renderJob intent model job else e.pushJob intent model job
  let failure := match ending with
    | .ok _ => none
    | .error f => some f
  let r := (sectionOf dryRun job).record began (← e.clock) failure
  Action.logAside r.level r.message
  match failure with
  | none => pure ()
  | some f => logFailure job f
  let stop ← e.clock
  return resultOf job ((stop.sub start).mul (.int 1000)) plugin ending

/-- Run a job: whatever happens to it is noted in its result. -/
def runJob (e : Engine σ) (intent : Intent) (dryRun : Bool) (job : Job) : Action σ TargetResult :=
  match job.model with
  | .error err => return modelFailure job err
  | .ok model => e.runKnown intent dryRun model job

/-- The audit record of a result. -/
def auditRecord (now : DateTime) (intent : Intent) (options : RunOptions) (r : TargetResult) :
    Except Failure PushRecord := do
  let feature := intent.feature
  return {
    timestamp := .str (now.textWith 'T')
    nodeId := r.nodeId
    interface := .str r.interface
    feature := if feature.isGiven then feature else .str intent.typeName
    plugin := TargetResult.optionalText r.plugin
    scheduleId := intent.scheduleId
    status := .str r.status.name
    dryRun := .bool options.dryRun
    checksum := options.checksum
    error := ← PushRecord.cutError (TargetResult.optionalText r.error) }

/-- Record results in the audit log. -/
def auditAll (e : Engine σ) (intent : Intent) (options : RunOptions) (results : List TargetResult) :
    Action σ Unit :=
  results.forM fun r => do
    let record ← Action.ofExcept (auditRecord (← e.now) intent options r)
    e.audit (← Action.ofExcept record.toJson)

/-- The record of a target that was not configured. -/
def failureRecord (r : TargetResult) : LogRecord :=
  let error := (r.statedError?.map fun s => s!" - {s}").getD ""
  ⟨.warning, s!"{r.label}: {r.status.name}{error}"⟩

/-- Apply an intent to every port of a topology. -/
def apply (e : Engine σ) (cancelled : Action σ Bool) (intent : Intent) (topology : Topology)
    (options : RunOptions) : Action σ Outcome := do
  if !intent.isPresent then return .unresolved "no intent message"
  let (jobs, skipped) ← e.buildJobs topology.nodes
  let verb := if options.dryRun then "Rendering" else "Applying"
  let served := topology.nodes.length - skipped.length
  let feature ← Action.ofExcept intent.feature.words
  Action.log .info
    s!"{verb} {feature} intent to {Text.natText jobs.length} target(s) on {Text.natText served} node(s)"
  let results ←
    Executor.run e.settings.maxWorkers cancelled (e.runJob intent options.dryRun) jobs
  let outcome := Outcome.ofResults results skipped options.dryRun
  e.auditAll intent options results
  Action.logAll (outcome.failures.map failureRecord)
  Action.log .info (← Action.ofExcept outcome.summary)
  return outcome

end Engine

end GateRollout
