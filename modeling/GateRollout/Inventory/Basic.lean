import GateRollout.Rollout.Topology
import GateRollout.Device.Model
import GateRollout.Schedule.Document

/-!
# Inventories

The devices of a network and the stored configurations, as an inventory document describes them.  What
the document gives as defaults is filled into the management block of every device.  The rest of a
device is looked at only when it is asked for, so that a fault in one device keeps no other from being
used.
-/

namespace GateRollout

/-- The content of an inventory document. -/
structure Inventory where
  /-- The devices, each with the entries that describe it; the management block is always there. -/
  nodes : List (Value × Entries)
  /-- The configurations under their names. -/
  configurations : Entries

namespace Inventory

/-! ## From a document -/

/-- A refusal that names what it is about, which has to have a text. -/
def refusal {α : Type} (kind : ErrorKind) (id : Value) (message : String → String) : Except Failure α := do
  throw (.ofKind kind (message (← id.words)))

/-- A section of a document: the entries under a name, none where nothing is given. -/
def sectionOf (path : String) (doc : Entries) (name : String) : Except Failure Entries :=
  match doc.valueAt name with
  | .null => .ok []
  | .map entries => .ok entries
  | _ => .error (.ofKind .store s!"'{name}' in {path} must be a mapping")

/-- Entries with those of the defaults whose keys they lack. -/
def withDefaults (defaults own : Entries) : Entries :=
  defaults.foldl (fun es (k, v) => if (es.lookup k).isSome then es else es ++ [(k, v)]) own

/-- The management block that the entries of a device give. -/
def managementBlock (id : Value) (own : Entries) : Except Failure Entries :=
  match own.valueAt "management" with
  | .null => .ok []
  | .map entries => .ok entries
  | _ => refusal .store id fun id => s!"Management block of node '{id}' must be a mapping"

/-- The entries of a device with the defaults filled in. -/
def nodeOf (defaults : Entries) (id v : Value) : Except Failure (Value × Entries) :=
  match v with
  | .map own => do
    let management ← managementBlock id own
    return (id, Entries.put own "management" (.map (withDefaults defaults management)))
  | _ => refusal .store id fun id => s!"Node '{id}' must be a mapping"

/-- The inventory that a document at a path describes.  A document that holds nothing describes an
empty one. -/
def ofValue (path : String) (v : Value) : Except Failure Inventory := do
  let doc ← match v with
    | .map entries => pure entries
    | v =>
      if v.isGiven then throw (.ofKind .store s!"Inventory {path} must be a mapping") else pure []
  let defaults ← sectionOf path doc "defaults"
  let nodes ← sectionOf path doc "nodes"
  let configurations ← sectionOf path doc "configurations"
  return ⟨← nodes.mapM fun (id, v) => nodeOf defaults id v, configurations⟩

/-! ## Devices -/

/-- What is found under a key of any kind; only what can be a key is looked for. -/
def entryFor (entries : List (Value × α)) (key : Value) (missing : String) : Except Failure α :=
  match key.unhashable? with
  | some t => .error (.fault (.unhashable t))
  | none =>
    match entries.find? fun e => e.1.sameKey key with
    | some (_, a) => .ok a
    | none => refusal .notFound key fun key => s!"{missing}: {key}"

/-- The names of the devices. -/
def nodeIds (inv : Inventory) : List Value := inv.nodes.map (·.1)

/-- The names of the configurations. -/
def configurationIds (inv : Inventory) : List Value := inv.configurations.map (·.1)

/-- The entries that describe a device. -/
def nodeEntries (inv : Inventory) (id : Value) : Except Failure Entries :=
  entryFor inv.nodes id "Unknown node"

/-- The value under a name, or the members of nothing where none is given. -/
def givenList (entries : Entries) (name : String) : Value :=
  let v := entries.valueAt name
  if v.isGiven then v else .list []

/-- The modules installed on a device. -/
def model (inv : Inventory) (id : Value) : Except Failure DeviceModel := do
  let entries ← inv.nodeEntries id
  match DeviceModel.ofValue (givenList entries "modules") with
  | .ok model => return model
  | .error f =>
    if [.missingKey, .wrongType, .wrongValue].contains f.kind then
      refusal .store id fun id => s!"Invalid module list for node {id}: {f.text}"
    else throw (.fault f)

/-- The port number that a management block gives. -/
def portNumber (id v : Value) : Except Failure Value :=
  match v.toInteger with
  | .ok n => .ok (.int n)
  | .error .infinite => .error IntegerFault.infinite.toFailure
  | .error e => refusal .store id fun id => s!"Invalid management port for node {id}: {e.message}"

/-- How the management block of a device says that it is reached. -/
def managementOf (id : Value) (block : Entries) : Except Failure Management := do
  let default : Management := { address := .null }
  let some address := (block.valueAt? "ip_address").or (block.valueAt? "host")
    | refusal .store id fun id => s!"Node {id} has no management ip_address"
  let port ← match block.valueAt? "port" with
    | some v => portNumber id v
    | none => pure default.port
  return {
    address := .str (← address.words)
    port
    username := (block.valueAt? "username").getD default.username
    protocol := (block.valueAt? "protocol").getD default.protocol
    password := (block.valueAt? "password").getD default.password
    passwordVariable := (block.valueAt? "password_env").getD default.passwordVariable }

/-- The port that an item of a device's list of ports describes: by its name, or by a map with a
name. -/
def portOf (id v : Value) : Except Failure Port :=
  match v with
  | .map entries =>
    match Entries.valueAt? entries "name" with
    | some name => return ⟨← name.words⟩
    | none => refusal .store id fun id => s!"Port entry without name on node {id}"
  | v => return ⟨← v.words⟩

/-- The device that some entries describe. -/
def readNode (id : Value) (entries : Entries) : Except Failure Node := do
  match givenList entries "ports" with
  | .list ports =>
    let block : Entries := match entries.valueAt "management" with
      | .map es => es
      | _ => []
    return ⟨id, ← managementOf id block, ← ports.mapM (portOf id)⟩
  | _ => refusal .store id fun id => s!"Ports of node {id} must be a list"

/-- A device. -/
def node (inv : Inventory) (id : Value) : Except Failure Node := do
  readNode id (← inv.nodeEntries id)

/-- All devices in their order. -/
def topology (inv : Inventory) : Except Failure Topology := do
  return ⟨← inv.nodes.mapM fun (id, entries) => readNode id entries⟩

/-! ## Configurations -/

/-- The document of a configuration. -/
def document (inv : Inventory) (id : Value) : Except Failure Entries := do
  match ← entryFor inv.configurations id "Unknown configuration" with
  | .map entries => return entries
  | _ => refusal .store id fun id => s!"Configuration '{id}' must be a mapping"

/-- The document of a configuration, which names its schedule by the name of the configuration unless
it gives another. -/
def namedDocument (inv : Inventory) (id : Value) : Except Failure Entries := do
  let entries ← inv.document id
  return if entries.hasKey "schedule_id" then entries else entries ++ [(.str "schedule_id", id)]

/-- The schedule of a configuration. -/
def schedule (inv : Inventory) (id : Value) : Except Failure Schedule := do
  (Document.read (.map (← inv.namedDocument id))).mapError Document.Fault.toFailure

end Inventory

end GateRollout
