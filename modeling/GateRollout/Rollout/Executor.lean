import GateRollout.Mapping.Backend
import GateRollout.Rollout.Outcome
import GateRollout.Settings

/-!
# Running jobs

The jobs of a rollout are run in order.  Whether the rollout was cancelled is asked before each job;
a job that has not started by then is reported as cancelled.
-/

namespace GateRollout

/-- One push to be done. -/
structure Job where
  nodeId : Value
  target : Target
  backend : Backend
  /-- The device's modules, or why they are not known. -/
  model : Except RolloutError DeviceModel

namespace Executor

variable {σ : Type}

/-- The result of a job that was not started. -/
def cancelledResult (job : Job) : TargetResult :=
  { nodeId := job.nodeId, interface := job.target.interface, status := .cancelled
    error := some "orchestration cancelled" }

/-- Run one job unless the rollout was cancelled. -/
def runOne (cancelled : Action σ Bool) (work : Job → Action σ TargetResult) (job : Job) :
    Action σ TargetResult := do
  if ← cancelled then
    let label ← Action.ofExcept job.target.words
    Action.log .info s!"Cancelled before start: {label}"
    return cancelledResult job
  else work job

/-- Run jobs in order: one result a job, in the order of the jobs. -/
def runAll (cancelled : Action σ Bool) (work : Job → Action σ TargetResult) :
    List Job → Action σ (List TargetResult)
  | [] => return []
  | job :: rest => do
    let r ← runOne cancelled work job
    return r :: (← runAll cancelled work rest)

/-- Run jobs on a number of workers, of which there must be at least one. -/
def run (workers : Value) (cancelled : Action σ Bool) (work : Job → Action σ TargetResult)
    (jobs : List Job) : Action σ (List TargetResult) := do
  if ← Action.ofExcept (Settings.isBelowOne workers) then throw (Settings.tooSmall "max_workers")
  runAll cancelled work jobs

end Executor

end GateRollout
