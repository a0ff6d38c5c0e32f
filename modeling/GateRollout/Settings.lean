import GateRollout.Device.Target
import GateRollout.Decimal.Reading
import GateRollout.Value.Number

/-!
# Settings

How a rollout runs: how many pushes at once, how long to wait for a device and how often to try to
reach it, and where the inventory and the audit log lie.  Only the two counts are checked; the rest
is kept as it was given.
-/

namespace GateRollout

/-- The settings of a rollout. -/
structure Settings where
  /-- How many pushes run at once. -/
  maxWorkers : Value := .int 8
  /-- Seconds to wait for a reply. -/
  rpcTimeout : Value := .int 30
  /-- Seconds to wait for a connection. -/
  connectTimeout : Value := .int 10
  /-- How many times opening a session is attempted. -/
  connectRetries : Value := .int 3
  /-- Seconds before the second attempt. -/
  retryMinWait : Value := .int 1
  /-- The most seconds between two attempts. -/
  retryMaxWait : Value := .int 10
  inventoryPath : Value := .null
  auditDirectory : Value := .null

namespace Settings

/-- Whether a count is below one; only a number can be told. -/
def isBelowOne (v : Value) : Except Failure Bool :=
  match v.fraction?, v.infinity?, v with
  | some (n, d), _, _ => .ok (n < d)
  | none, some negative, _ => .ok negative
  | none, none, .float _ => .ok false
  | none, none, v =>
    .error (.fault ⟨.wrongType, s!"'<' not supported between instances of '{v.typeName}' and 'int'"⟩)

/-- That a count must be at least one. -/
def tooSmall (name : String) : Failure := .fault ⟨.wrongValue, s!"{name} must be at least 1"⟩

/-- Check the two counts. -/
def check (s : Settings) : Except Failure Settings := do
  if ← isBelowOne s.maxWorkers then throw (tooSmall "max_workers")
  if ← isBelowOne s.connectRetries then throw (tooSmall "connect_retries")
  return s

/-- The settings with their names, in order. -/
def fields (s : Settings) : List (String × Value) :=
  [("max_workers", s.maxWorkers), ("rpc_timeout", s.rpcTimeout),
    ("connect_timeout", s.connectTimeout), ("connect_retries", s.connectRetries),
    ("retry_min_wait", s.retryMinWait), ("retry_max_wait", s.retryMaxWait),
    ("inventory_path", s.inventoryPath), ("audit_dir", s.auditDirectory)]

/-- The settings that named values describe, the rest at their defaults.  A name that is no setting
is refused. -/
def ofEntries (given : Entries) : Except Failure Settings := do
  let default : Settings := {}
  let names := default.fields.map (·.1)
  match given.find? fun e => !(e.1.asText?.any names.contains) with
  | some (key, _) => throw (.fault ⟨.wrongType, s!"unexpected setting {key.quoted}"⟩)
  | none => pure ()
  check {
    maxWorkers := (given.valueAt? "max_workers").getD default.maxWorkers
    rpcTimeout := (given.valueAt? "rpc_timeout").getD default.rpcTimeout
    connectTimeout := (given.valueAt? "connect_timeout").getD default.connectTimeout
    connectRetries := (given.valueAt? "connect_retries").getD default.connectRetries
    retryMinWait := (given.valueAt? "retry_min_wait").getD default.retryMinWait
    retryMaxWait := (given.valueAt? "retry_max_wait").getD default.retryMaxWait
    inventoryPath := (given.valueAt? "inventory_path").getD default.inventoryPath
    auditDirectory := (given.valueAt? "audit_dir").getD default.auditDirectory }

/-- The integer in a variable of the environment, or a default where it is not given. -/
def integerIn (env : Environment) (name : String) (default : Value) : Except Failure Value :=
  match env.given? name with
  | none => .ok default
  | some s =>
    match Text.readInt s.toList with
    | .ok n => .ok (.int n)
    | .error _ =>
      .error (.fault ⟨.wrongValue, s!"{name} must be an integer, got {Text.quoted s}"⟩)

/-- The number in a variable of the environment, or a default where it is not given. -/
def numberIn (env : Environment) (name : String) (default : Value) : Except Failure Value :=
  match env.given? name with
  | none => .ok default
  | some s =>
    match Decimal.readFloat? s.toList with
    | some x => .ok (.float x)
    | none => .error (.fault ⟨.wrongValue, s!"{name} must be a number, got {Text.quoted s}"⟩)

/-- The text in a variable of the environment, where it is given. -/
def textIn (env : Environment) (name : String) : Value :=
  ((env.given? name).map Value.str).getD .null

/-- The settings that the environment describes. -/
def ofEnvironment (env : Environment) : Except Failure Settings := do
  let default : Settings := {}
  let maxWorkers ← integerIn env "TSNCONF_MAX_WORKERS" default.maxWorkers
  let rpcTimeout ← numberIn env "TSNCONF_RPC_TIMEOUT" default.rpcTimeout
  let connectTimeout ← numberIn env "TSNCONF_CONNECT_TIMEOUT" default.connectTimeout
  let connectRetries ← integerIn env "TSNCONF_CONNECT_RETRIES" default.connectRetries
  check {
    maxWorkers, rpcTimeout, connectTimeout, connectRetries
    inventoryPath := textIn env "TSNCONF_INVENTORY"
    auditDirectory := textIn env "TSNCONF_AUDIT_DIR" }

end Settings

end GateRollout
