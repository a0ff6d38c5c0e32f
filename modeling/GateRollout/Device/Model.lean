import GateRollout.Failure

/-!
# Device models

The schema modules that a device has installed.  A description of a module is a module, a map with a
name and perhaps a revision, or a pair; all are brought to one spelling.
-/

namespace GateRollout

/-- An installed schema module. -/
structure SchemaModule where
  name : String
  revision : String
  deriving Repr, DecidableEq

namespace SchemaModule

/-- The ending of a module's file name, which is no part of the module's name. -/
def fileEnding : List Char := ['.', 'y', 'a', 'n', 'g']

/-- Drop one file ending. -/
def withoutEnding (name : String) : String :=
  let cs := name.toList
  if fileEnding.isSuffixOf cs then String.ofList (cs.take (cs.length - fileEnding.length)) else name

/-- The module with a name, which may be that of its file, and a revision. -/
def ofTexts (name revision : String) : SchemaModule := ⟨withoutEnding name, revision⟩

/-- The module that a name and a revision of any kind describe. -/
def normalized (name revision : Value) : Except Fault SchemaModule := do
  let name ← name.written
  return ofTexts name (← revision.written)

/-- The text of a module. -/
def text (m : SchemaModule) : String := m.name ++ "@" ++ m.revision

/-- The order by name, then revision. -/
def le (a b : SchemaModule) : Bool :=
  a.name < b.name || (a.name == b.name && !(b.revision < a.revision))

end SchemaModule

/-- A description of one module. -/
inductive ModuleItem where
  | known (m : SchemaModule)
  | described (v : Value)

/-- The modules installed on a device, without repetition. -/
structure DeviceModel where
  modules : List SchemaModule
  deriving Repr, DecidableEq

namespace DeviceModel

/-- The pair that a value consists of. -/
def pairOf (v : Value) : Except Fault (Value × Value) :=
  match v.members? with
  | none => .error ⟨.wrongType, s!"cannot unpack non-iterable {v.qualifiedTypeName} object"⟩
  | some [a, b] => .ok (a, b)
  | some xs =>
    if 2 < xs.length then .error ⟨.wrongValue, "too many values to unpack (expected 2)"⟩
    else
      .error
        ⟨.wrongValue, s!"not enough values to unpack (expected 2, got {Text.natText xs.length})"⟩

/-- The module that an item describes. -/
def moduleOf (item : ModuleItem) : Except Fault SchemaModule :=
  match item with
  | .known m => .ok (.ofTexts m.name m.revision)
  | .described (.map entries) =>
    match Entries.valueAt? entries "name" with
    | some name => SchemaModule.normalized name ((Entries.valueAt? entries "revision").getD (.str ""))
    | none => .error (.noKey (.str "name"))
  | .described v => do
    let (name, revision) ← pairOf v
    SchemaModule.normalized name revision

/-- The model with the modules that some items describe. -/
def ofItems (items : List ModuleItem) : Except Fault DeviceModel := do
  return ⟨(← items.mapM moduleOf).eraseDups⟩

/-- The model that a value describes, item by item. -/
def ofValue (v : Value) : Except Fault DeviceModel :=
  match v.members? with
  | some items => ofItems (items.map .described)
  | none => .error (.notIterable v)

/-- Whether a module is installed. -/
def has (model : DeviceModel) (m : SchemaModule) : Bool := model.modules.contains m

/-- The modules in order. -/
def sorted (model : DeviceModel) : List SchemaModule := model.modules.mergeSort SchemaModule.le

end DeviceModel

end GateRollout
