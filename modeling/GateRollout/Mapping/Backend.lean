import GateRollout.Mapping.Plugin

/-!
# Backends

A backend holds the plugins for one management protocol, grouped by feature, and brings an intent
from selection through mapping to the device.  Within a feature the names of the plugins differ.
-/

namespace GateRollout

/-- The plugins for a protocol. -/
structure Backend where
  protocol : String
  /-- The plugins of every feature, in the order in which they were added. -/
  variants : List (String × List Plugin)

namespace Backend

/-- A backend without plugins. -/
def empty (protocol : String) : Backend := ⟨protocol, []⟩

/-- The plugins of a feature. -/
def pluginsOf (b : Backend) (feature : String) : List Plugin :=
  ((b.variants.find? (·.1 == feature)).map (·.2)).getD []

/-- The features that some plugin serves, in order. -/
def features (b : Backend) : List String := (b.variants.map (·.1)).mergeSort fun a b => !(b < a)

/-- That a plugin of the same name and feature is there already. -/
def alreadyRegistered (p : Plugin) : Failure :=
  .fault ⟨.wrongValue, s!"Plugin {p.name} already registered for feature {p.feature}"⟩

/-- Add a plugin after the others of its feature. -/
def insert (b : Backend) (p : Plugin) : Except Failure Backend :=
  if (b.pluginsOf p.feature).any (·.name == p.name) then .error (alreadyRegistered p)
  else if b.variants.any (·.1 == p.feature) then
    .ok { b with variants := b.variants.map fun (f, ps) => if f == p.feature then (f, ps ++ [p]) else (f, ps) }
  else .ok { b with variants := b.variants ++ [(p.feature, [p])] }

/-- The plugins of a feature given as a value of any kind; only what can be a key names a feature. -/
def pluginsFor (b : Backend) (feature : Value) : Except Failure (List Plugin) :=
  match feature.asText? with
  | some s => .ok (b.pluginsOf s)
  | none =>
    match feature.unhashable? with
    | some t => .error (.fault (.unhashable t))
    | none => .ok []

/-- Whether one plugin is preferred to another: the newer revision, then the lesser name. -/
def prefers (p q : Plugin) : Bool :=
  q.schemaRevision < p.schemaRevision ||
    (p.schemaRevision == q.schemaRevision && !(q.name < p.name))

/-- The plugins that a device supports, the preferred first. -/
def ranked (model : DeviceModel) (plugins : List Plugin) : List Plugin :=
  (plugins.filter (·.isSupportedBy model)).mergeSort prefers

/-- That no plugin serves a feature on a device. -/
def unsupported (b : Backend) (feature : Value) : Failure :=
  if feature.hasText then
    .ofKind .unsupportedFeature
      s!"No {b.protocol} plugin supports feature '{feature.text}' for this device model"
  else .unwritten

/-- The plugin that serves a feature on a device. -/
def selected (b : Backend) (feature : Value) (model : DeviceModel) : Except Failure Plugin := do
  match ranked model (← b.pluginsFor feature) with
  | [] => throw (b.unsupported feature)
  | p :: _ => return p

/-- The error of a push with the plugin in front of its text; its kind stays. -/
def inContext (p : Plugin) (target : Target) (what : String) : Failure → Failure
  | .error e =>
    match target.words with
    | .ok label =>
      .error
        { kind := e.kind
          message := s!"plugin {p.name} {what}: {e.message}"
          plugin := some p.name
          target := some label }
    | .error f => f
  | f => f

variable {σ : Type}

/-- Add a plugin, with a record of it. -/
def add (b : Backend) (p : Plugin) : Action σ Backend := do
  let b ← Action.ofExcept (b.insert p)
  Action.log .debug s!"Registered {p.text} with {b.protocol} backend"
  return b

/-- A backend with some plugins. -/
def ofPlugins (protocol : String) (plugins : List Plugin) : Action σ Backend :=
  plugins.foldlM add (empty protocol)

/-- Select the plugin for a feature, with records of what is lacking and of a choice among many. -/
def select (b : Backend) (feature : Value) (model : DeviceModel) : Action σ Plugin := do
  let plugins ← Action.ofExcept (b.pluginsFor feature)
  plugins.forM fun p => do let _ ← p.supportedByDevice model
  let chosen ← Action.ofExcept (b.selected feature model)
  let candidates := ranked model plugins
  if 1 < candidates.length then
    -- only a text names a feature that has plugins
    let names := ", ".intercalate (candidates.map (·.name))
    Action.log .warning
      s!"Feature '{feature.text}': {Text.natText candidates.length} plugins match ({names}); using {chosen.name}"
  return chosen

/-- Select the plugin for an intent. -/
def selectFor (b : Backend) (m : Intent) (model : DeviceModel) : Action σ Plugin := do
  if m.feature.isNull then
    throw (.ofKind .unsupportedFeature s!"{m.typeName} does not name a feature")
  b.select m.feature model

/-- Do something whose errors are told apart by the plugin. -/
def within {α : Type} (p : Plugin) (target : Target) (what : String) (x : Action σ α) :
    Action σ α := do
  match ← Action.attempt x with
  | .ok a => return a
  | .error f => throw (inContext p target what f)

/-- Select a plugin, map an intent and push it to a target. -/
def push (b : Backend) (c : Connector σ) (m : Intent) (model : DeviceModel) (target : Target) :
    Action σ Plugin := do
  let p ← b.selectFor m model
  let mapped ← within p target "mapping failed" (p.map m)
  within p target "push failed" (p.push c mapped target)
  return p

/-- Select a plugin, map an intent and write the payload for a target without opening a session. -/
def render (b : Backend) (m : Intent) (model : DeviceModel) (target : Target) : Action σ String := do
  let p ← b.selectFor m model
  let mapped ← within p target "mapping failed" (p.map m)
  Action.ofExcept (p.payload mapped target)

end Backend

end GateRollout
