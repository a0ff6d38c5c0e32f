import GateRollout.Failure

/-!
# Actions with a journal

An action may fail, changes a state of its own, and writes records to a journal.  What was written
and changed before a failure stays.  Records of how long things took and of repeated attempts are kept
apart from the others.
-/

namespace GateRollout

/-- How grave a record is. -/
inductive Level where
  | debug
  | info
  | warning
  | error
  deriving Repr, DecidableEq

/-- The name of a level. -/
def Level.name : Level → String
  | debug => "DEBUG"
  | info => "INFO"
  | warning => "WARNING"
  | error => "ERROR"

/-- One record of the journal. -/
structure LogRecord where
  level : Level
  message : String
  deriving Repr, DecidableEq

/-- The records written so far and a state. -/
structure Journal (σ : Type) where
  records : List LogRecord
  /-- The records of how long things took and of repeated attempts. -/
  asides : List LogRecord
  world : σ

/-- A computation that may fail, writes records and changes a state. -/
abbrev Action (σ : Type) := ExceptT Failure (StateM (Journal σ))

namespace Action

variable {σ : Type} {α : Type}

/-- Write a record. -/
def log (level : Level) (message : String) : Action σ Unit :=
  modify fun j => { j with records := j.records ++ [⟨level, message⟩] }

/-- Write records. -/
def logAll (records : List LogRecord) : Action σ Unit :=
  records.forM fun r => log r.level r.message

/-- Write a record that is kept apart. -/
def logAside (level : Level) (message : String) : Action σ Unit :=
  modify fun j => { j with asides := j.asides ++ [⟨level, message⟩] }

/-- The state. -/
def world : Action σ σ := return (← get).world

/-- Change the state. -/
def modifyWorld (f : σ → σ) : Action σ Unit := modify fun j => { j with world := f j.world }

/-- Run an action from a state: its result, the records it wrote, and the state after it. -/
def start (x : Action σ α) (world : σ) : Except Failure α × Journal σ :=
  x.run.run ⟨[], [], world⟩

/-- The outcome of an action as a value: failing does not end the computation. -/
def attempt (x : Action σ α) : Action σ (Except Failure α) := fun j =>
  let (r, j) := x.run.run j
  (.ok r, j)

/-- Succeed or fail as told. -/
def ofExcept (r : Except Failure α) : Action σ α := ExceptT.mk (pure r)

end Action

end GateRollout
