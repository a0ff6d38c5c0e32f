import GateRollout.Mapping.Legacy
import GateRollout.Schedule.Intent
import GateRollout.Device.Model
import GateRollout.Transport.Connector
import GateRollout.Text.Lower

/-!
# Plugins

A plugin serves one feature on devices that have certain schema modules.  It maps an intent to what
the schema can express, and writes that as the payload for a target.
-/

namespace GateRollout

/-- How a plugin maps and writes intents. -/
inductive Dialect where
  /-- Tables in the standard spelling, with cycle times in nanoseconds. -/
  | standard
  /-- Tables in the legacy spelling, with cycle times in milliseconds. -/
  | legacy
  /-- Every message as it is, with no spelling of its own. -/
  | bare
  deriving Repr, DecidableEq

namespace Dialect

/-- The name of the class of plugins of a dialect. -/
def className : Dialect → String
  | standard => "QbvNetconfPlugin"
  | legacy => "LegacyQbvNetconfPlugin"
  | bare => "BarePlugin"

/-- The parts of a second in which a dialect counts cycle times. -/
def denominator : Dialect → Int
  | legacy => 1000
  | _ => Check.nanosPerSecond

/-- How a dialect summarises gate states. -/
def summary : Dialect → Summary
  | legacy => .union
  | _ => .first

end Dialect

/-- An adapter for one feature and one revision of the schema. -/
structure Plugin where
  dialect : Dialect
  name : String
  feature : String
  required : List SchemaModule
  /-- Whether payloads go through the generic encoder. -/
  generic : Bool
  deriving Repr, DecidableEq

/-- What an intent is mapped to. -/
inductive Mapped where
  | table (t : GateTable)
  | message (m : Intent)

/-- The name of the kind of a mapped structure. -/
def Mapped.typeName : Mapped → String
  | table _ => "GateParameterTable"
  | message m => m.typeName

namespace Plugin

/-- The scheduler modules of a revision. -/
def schedulerModules (revision : String) : List SchemaModule :=
  [⟨Standard.schedModule, revision⟩, ⟨Standard.schedBridgeModule, revision⟩]

/-- The plugin for the scheduler modules of 2021. -/
def standard : Plugin :=
  ⟨.standard, "qbv-netconf", Schedule.feature, schedulerModules "2021-02-08", true⟩

/-- The plugin for the scheduler modules of 2018. -/
def legacy : Plugin :=
  ⟨.legacy, "qbv-netconf-legacy", Schedule.feature, schedulerModules "2018-09-10", false⟩

/-- A plugin that serves no feature and requires nothing. -/
def bare : Plugin := ⟨.bare, "bare", "", [], true⟩

/-- The same plugin with other required modules, brought to one spelling. -/
def requiring (p : Plugin) (modules : List SchemaModule) : Plugin :=
  { p with required := modules.map fun m => .ofTexts m.name m.revision }

/-- The protocols that plugins exist for, and their plugins. -/
def byProtocol : List (String × List Plugin) := [("netconf", [standard, legacy])]

/-- The plugins for a protocol. -/
def forProtocol (protocol : String) : List Plugin :=
  ((byProtocol.find? (·.1 == Text.lower protocol)).map (·.2)).getD []

/-- The greatest of some texts; the empty text where there are none. -/
def greatest (texts : List String) : String :=
  texts.foldl (fun best s => if best < s then s else best) ""

/-- The newest revision among the required modules. -/
def schemaRevision (p : Plugin) : String := greatest (p.required.map (·.revision))

/-- The name of a plugin with the revision it serves. -/
def nameAtRevision (p : Plugin) : String := p.name ++ "@" ++ p.schemaRevision

/-- The text of a plugin. -/
def text (p : Plugin) : String :=
  s!"<{p.dialect.className} {p.name} feature={p.feature} rev={p.schemaRevision}>"

/-- The required modules that a device lacks. -/
def missing (p : Plugin) (model : DeviceModel) : List SchemaModule :=
  p.required.filter fun m => !model.has m

/-- Whether a device has every required module. -/
def isSupportedBy (p : Plugin) (model : DeviceModel) : Bool := (p.missing model).isEmpty

/-- Whether a plugin maps an intent. -/
def supports (p : Plugin) (m : Intent) : Bool :=
  match p.dialect, m with
  | .bare, _ => true
  | _, .schedule _ => true
  | _, _ => false

/-- An error of a mapping that concerns the plugin. -/
def mappingError (p : Plugin) (message : String) : Failure :=
  .error { kind := .mapping, message, plugin := some p.name }

/-- That a schedule is not representable, with everything that keeps it from being so. -/
def notRepresentable (p : Plugin) (s : Schedule) (faults : List Check.Fault) : Failure :=
  p.mappingError
    (s!"Schedule {s.id} not representable: " ++ "; ".intercalate (faults.map (·.message)))

/-- The table of a schedule. -/
def table (p : Plugin) (s : Schedule) : Except Failure GateTable :=
  (GateTable.ofSchedule p.dialect.denominator p.dialect.summary s).mapError (p.notRepresentable s)

/-- Whether the offset of a schedule can be told, where there is one. -/
def tellsOffset (s : Schedule) : Bool := s.offset.all Text.isWritten

/-- The structure that a schedule is mapped to.  Everything that the check finds and the offset have to
be told. -/
def mappedSchedule (p : Plugin) (s : Schedule) : Except Failure Mapped := do
  if !Check.isTold p.dialect.denominator s then throw .unwritten
  let t ← p.table s
  if !tellsOffset s then throw .unwritten
  return .table t

/-- The structure that an intent is mapped to. -/
def mapped (p : Plugin) (m : Intent) : Except Failure Mapped :=
  match p.dialect, m with
  | .bare, m => .ok (.message m)
  | _, .schedule s => p.mappedSchedule s
  | _, m => .error (p.mappingError s!"{p.name} maps GateControlSchedule, got {m.typeName}")

/-- The records about what a representable schedule says that the schema cannot express. -/
def unmappedRecords (p : Plugin) (s : Schedule) : List LogRecord :=
  let offset : LogRecord := match s.offset with
    | none => ⟨.info, s!"{p.name}: interface time offset not set, left unmapped"⟩
    | some n =>
      ⟨.info, s!"{p.name}: interface time offset {Text.intText n}ns has no leaf in {Standard.schedModule}, left unmapped"⟩
  let described := (s.entries.filter (·.description.isGiven)).map fun e => Value.int e.index
  let remarks : List LogRecord :=
    if described.isEmpty then []
    else
      [⟨.debug, s!"{p.name}: entry descriptions not mapped (entries {(Value.list described).text})"⟩]
  if tellsOffset s then offset :: remarks else []

/-- The records that mapping an intent leaves. -/
def mapRecords (p : Plugin) (m : Intent) : List LogRecord :=
  match p.dialect, m with
  | .bare, _ => []
  | _, .schedule s =>
    if Check.isTold p.dialect.denominator s then
      ((Check.warnings s).map fun w => ⟨.warning, s!"{p.name}: {w.message}"⟩) ++
        (if Check.isRepresentable p.dialect.denominator s then p.unmappedRecords s else [])
    else []
  | _, _ => []

/-- Refuse a structure that another plugin made. -/
def checkMapped (p : Plugin) (m : Mapped) : Except Failure Unit :=
  match p.dialect, m with
  | .bare, _ => .ok ()
  | _, .table _ => .ok ()
  | _, m => .error (p.mappingError s!"{p.name} cannot push {m.typeName}")

/-- That a plugin lacks a way to write. -/
def notImplemented (p : Plugin) (what : String) : Failure :=
  .fault ⟨.notImplemented, s!"{p.name} does not build {what}"⟩

/-- The tree for the generic encoder. -/
def tree (p : Plugin) (m : Mapped) (target : Target) : Except Failure Value :=
  match p.dialect, m with
  | .standard, .table t => .ok (Standard.portTree t target.interface)
  | .standard, m => do p.checkMapped m; throw (p.notImplemented "an encoder tree")
  | _, _ => .error (p.notImplemented "an encoder tree")

/-- Markup without the generic encoder. -/
def markup (p : Plugin) (m : Mapped) (target : Target) : Except Failure String :=
  match p.dialect, m with
  | .legacy, .table t =>
    if t.isWritten then .ok (Legacy.portMarkup t target.interface) else .error .unwritten
  | .legacy, m => do p.checkMapped m; throw (p.notImplemented "its own markup")
  | _, _ => .error (p.notImplemented "its own markup")

/-- The payload for a target. -/
def payload (p : Plugin) (m : Mapped) (target : Target) : Except Failure String :=
  if p.generic then do
    let v ← p.tree m target
    (Markup.encode v 0).mapError .fault
  else p.markup m target

variable {σ : Type}

/-- Whether a device has every required module, with a record of those it lacks. -/
def supportedByDevice (p : Plugin) (model : DeviceModel) : Action σ Bool := do
  let lacking := p.missing model
  if lacking.isEmpty then return true
  Action.log .debug (s!"{p.name}: device lacks " ++ ", ".intercalate (lacking.map (·.text)))
  return false

/-- Map an intent. -/
def map (p : Plugin) (m : Intent) : Action σ Mapped := do
  Action.logAll (p.mapRecords m)
  Action.ofExcept (p.mapped m)

/-- Push a mapped structure to a target. -/
def push (p : Plugin) (c : Connector σ) (m : Mapped) (target : Target) : Action σ Unit := do
  Action.ofExcept (p.checkMapped m)
  let payload ← Action.ofExcept (p.payload m target)
  let label ← Action.ofExcept target.words
  Action.log .debug s!"{p.name}: pushing {Text.natText payload.length} bytes to {label}"
  c.editOnce target payload
  Action.log .info s!"{p.name}: configured {label}"

end Plugin

end GateRollout
