import GateRollout.Digest.Checksum
import GateRollout.Inventory.Basic
import GateRollout.Rollout.Engine

/-!
# The service

Stored configurations applied to the stored topology.  A configuration or a topology that cannot be had
is an outcome too: nothing was applied, and the error says why.
-/

namespace GateRollout

/-- What the service needs from a store of devices and configurations. -/
structure DeviceStore where
  schedule : Value → Except Failure Schedule
  topology : Except Failure Topology
  model : Value → Except Failure DeviceModel
  /-- The documents of the configurations, where the store has them. -/
  document : Option (Value → Except Failure Entries)

/-- An inventory as a store. -/
def Inventory.store (inv : Inventory) : DeviceStore where
  schedule := inv.schedule
  topology := inv.topology
  model := inv.model
  document := some inv.document

/-- A store and an engine to apply its configurations with. -/
structure Service (σ : Type) where
  store : DeviceStore
  engine : Engine σ

/-- What the service answers when it is asked to apply a configuration. -/
structure Response where
  success : Bool
  message : String
  outcome : Outcome

namespace Response

/-- The answer that an outcome calls for. -/
def ofOutcome (o : Outcome) : Except Failure Response := do
  return ⟨o.status == .applied, ← o.summary, o⟩

/-- An answer as data. -/
def toValue (r : Response) : Except Failure Value := do
  return .map
    [(.str "success", .bool r.success), (.str "message", .str r.message),
      (.str "outcome", ← r.outcome.toValue)]

end Response

namespace DeviceStore

/-- The checksum of the document of a configuration, where there are documents. -/
def checksum (s : DeviceStore) (id : Value) : Except Failure Value :=
  match s.document with
  | none => .ok .null
  | some document => do return .str (← Checksum.ofDocument (.map (← document id)))

/-- What is to be applied, and where. -/
def resolve (s : DeviceStore) (id : Value) : Except Failure (Schedule × Topology) := do
  return (← s.schedule id, ← s.topology)

end DeviceStore

namespace Service

variable {σ : Type}

/-- The outcome where a configuration or the topology cannot be had. -/
def unresolved (e : RolloutError) : Outcome := .unresolved s!"{e.kind.name}: {e.message}"

/-- Apply a configuration to every port of every device, or only write what would be sent. -/
def apply (s : Service σ) (id : Value) (dryRun : Bool) : Action σ Response := do
  match s.store.resolve id with
  | .error (.error e) =>
    let words ← Action.ofExcept id.words
    Action.log .error s!"Cannot resolve configuration {words}: {e.message}"
    Action.ofExcept (Response.ofOutcome (unresolved e))
  | .error f => throw f
  | .ok (schedule, topology) =>
    let checksum ← Action.ofExcept (s.store.checksum id)
    let outcome ← s.engine.apply (return false) (.schedule schedule) topology { dryRun, checksum }
    Action.ofExcept (Response.ofOutcome outcome)

/-- The device with a name, and the backend for its protocol. -/
def backendFor (s : Service σ) (topology : Topology) (nodeId : Value) :
    Except Failure (Node × Backend) := do
  let some node := topology.node? nodeId
    | throw (.ofKind .notFound s!"Unknown node: {← nodeId.words}")
  let protocol := node.management.protocol
  match ← s.engine.registry.get protocol with
  | some backend => return (node, backend)
  | none =>
    throw (.ofKind .unsupportedFeature
      s!"Node {← nodeId.words} uses unsupported protocol '{← protocol.words}'")

/-- The payload that a port of a device would be sent for a configuration. -/
def render (s : Service σ) (id nodeId : Value) (port : String) : Action σ String := do
  let (schedule, topology) ← Action.ofExcept (s.store.resolve id)
  let (node, backend) ← Action.ofExcept (s.backendFor topology nodeId)
  let target : Target :=
    { management := node.management, secret := .str "", interface := port, nodeId }
  backend.render (.schedule schedule) (← Action.ofExcept (s.store.model nodeId)) target

/-- The plugins for every feature of every protocol.  Each protocol that is listed is looked up again, and
there has to be a backend for it. -/
def features (s : Service σ) : Except Failure (List (String × List (String × List String))) :=
  s.engine.registry.protocols.mapM fun protocol => do
    match ← s.engine.registry.get (.str protocol) with
    | none => throw (.fault (.noAttribute "NoneType" "supported_features"))
    | some backend =>
      return (protocol, backend.features.map fun feature =>
        (feature, (backend.pluginsOf feature).map (·.nameAtRevision)))

end Service

end GateRollout
