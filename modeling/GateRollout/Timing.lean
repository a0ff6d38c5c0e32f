import GateRollout.Journal
import GateRollout.Value.Number

/-!
# How long things take

An action between two readings of a clock, with a record of the time between them and of whether the
action succeeded.
-/

namespace GateRollout

/-- What is timed: an operation, the device it concerns, and what else is known about it. -/
structure TimedSection where
  operation : String
  device : Option String
  context : List (String × Value)

namespace TimedSection

/-- The record of a section: the milliseconds between two readings of the clock in seconds, and how it
ended. -/
def record (t : TimedSection) (start stop : Number) (failure : Option Failure) : LogRecord :=
  let elapsed := ((stop.sub start).mul (.int 1000)).fixedText 2
  let device := (t.device.filter fun d => !d.isEmpty).getD "-"
  let context := String.join (t.context.map fun (k, v) => s!" {k}={v.text}")
  match failure with
  | none => ⟨.info, s!"{t.operation} {device} {elapsed}ms OK{context}"⟩
  | some f => ⟨.warning, s!"{t.operation} {device} {elapsed}ms FAIL{context} error={f.text}"⟩

variable {σ α : Type}

/-- Do something and record how long it took; what is known about it has to have texts. -/
def around (t : TimedSection) (clock : Action σ Number) (x : Action σ α) : Action σ α := do
  if !t.context.all (·.2.hasText) then throw .unwritten
  let start ← clock
  let result ← Action.attempt x
  let r := t.record start (← clock) (match result with
    | .ok _ => none
    | .error f => some f)
  Action.logAside r.level r.message
  Action.ofExcept result

end TimedSection

end GateRollout
