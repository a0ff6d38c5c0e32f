import GateRollout.Schedule.Basic
import GateRollout.Value.Integer
import GateRollout.Text.Lower

/-!
# Schedule documents

Reading a schedule from the data of a document.  Several fields have two names, integers may be
written as text, and gate states have five spellings; whatever is amiss is reported as the fault of
one field.
-/

namespace GateRollout.Document

open Text

/-- Why a value gives no bytes. -/
inductive BytesFault where
  | boolean
  | outOfRange
  | notInteger (typeName : String)
  | notHex (position : Nat)
  | unsupported (typeName : String)
  deriving Repr, DecidableEq

/-- The message of a fault. -/
def BytesFault.message : BytesFault → String
  | boolean => "boolean gate states"
  | outOfRange => "bytes must be in range(0, 256)"
  | notInteger t => s!"'{t}' object cannot be interpreted as an integer"
  | notHex p => s!"non-hexadecimal number found in fromhex() arg at position {natText p}"
  | unsupported t => s!"unsupported type {t}"

/-- Why data is no schedule. -/
inductive Fault where
  | notMapping (typeName : String)
  | feature (given : Value)
  | missing (field : String)
  | integer (field : String) (given : Value)
  | adminState (given : String)
  | entryNotMapping (position : Nat)
  | missingInterval (position : Nat)
  | operation (index : Int) (given : Value)
  | gateStates (index : Int) (cause : BytesFault)
  /-- The entries are given and are nothing to go through. -/
  | entriesNotIterable (given : Value)
  /-- An infinite number where an integer is needed. -/
  | infinite
  /-- An integer of too many digits where a text is needed. -/
  | unwritten

/-- The message of a fault. -/
def Fault.message : Fault → String
  | notMapping t => s!"Intent document must be a mapping, got {t}"
  | feature v => s!"Unsupported feature in intent document: {v.text}"
  | missing field => s!"Missing required field: {field}"
  | integer field v => s!"Invalid integer for {field}: {v.text}"
  | adminState s => s!"Invalid admin_state: {s}. Must be 'enabled' or 'disabled'"
  | entryNotMapping p => s!"Entry #{natText p} must be a mapping"
  | missingInterval p => s!"Missing time_interval_ns in entry #{natText p}"
  | operation i v =>
    s!"Invalid operation for entry {intText i}: {v.text}. Valid: " ++
      ", ".intercalate (Operation.all.map Operation.name)
  | gateStates i cause => s!"Invalid gate_states for entry {intText i}: {cause.message}"
  | entriesNotIterable v => (Fault.notIterable v).text
  | infinite => IntegerFault.infinite.message
  | unwritten => unwrittenMessage

/-- Whether the message of a fault is written. -/
def Fault.isWritten : Fault → Bool
  | feature v => v.hasText
  | integer _ v => v.hasText
  | operation i v => Text.isWritten i && v.hasText
  | gateStates i _ => Text.isWritten i
  | unwritten => false
  | _ => true

/-- A fault as a failure: entries that cannot be gone through, infinite numbers and messages that are
not written are not errors of the document. -/
def Fault.toFailure (f : Fault) : Failure :=
  if f.isWritten then
    match f with
    | entriesNotIterable _ => .fault ⟨.wrongType, f.message⟩
    | infinite => .fault ⟨.overflow, f.message⟩
    | _ => .ofKind .parse f.message
  else .unwritten

/-- The integer that a value other than a boolean stands for. -/
def integerOf (field : String) (v : Value) : Except Fault Int :=
  match v with
  | .bool _ => .error (.integer field v)
  | v =>
    match v.toInteger with
    | .ok n => .ok n
    | .error .infinite => .error .infinite
    | .error _ => .error (.integer field v)

/-- The integer under the first of some names that is present. -/
def integerField (doc : Entries) (names : List String) (field : String) : Except Fault Int :=
  match names.findSome? doc.valueAt? with
  | some v => integerOf field v
  | none => .error (.missing field)

/-- One byte of a list of gate states. -/
def byteOf (v : Value) : Except BytesFault UInt8 :=
  let inRange (n : Int) : Except BytesFault UInt8 :=
    if 0 ≤ n ∧ n < 256 then .ok (UInt8.ofNat n.toNat) else .error .outOfRange
  match v with
  | .int n => inRange n
  | .bool b => .ok (if b then 1 else 0)
  | v => .error (.notInteger v.qualifiedTypeName)

/-- Delete every occurrence of `0x`. -/
def dropHexMarks : List Char → List Char
  | '0' :: 'x' :: rest => dropHexMarks rest
  | c :: rest => c :: dropHexMarks rest
  | [] => []

/-- The bytes of gate states: a byte, a list of bytes, hexadecimal text, or bytes as they are. -/
def gateStatesOf (v : Value) : Except BytesFault (List UInt8) :=
  match v with
  | .null => .ok []
  | .bool _ => .error .boolean
  | .int _ => (byteOf v).map ([·])
  | .list xs => xs.mapM byteOf
  | .tuple xs => xs.mapM byteOf
  | .str s =>
    (readHex (dropHexMarks (lowerAfter [] (trim s.toList)))).mapError .notHex
  | .bytes bs => .ok bs
  | v => .error (.unsupported v.typeName)

/-- The operation of an entry, when one is given. -/
def operationOf (index : Int) (v : Value) : Except Fault (Option Operation) :=
  if v.isGiven then
    match v.asText?.bind Operation.ofName? with
    | some op => .ok (some op)
    | none => .error (.operation index v)
  else .ok none

/-- The name of a field of the entry at a position. -/
def entryField (position : Nat) (name : String) : String :=
  s!"entries[{natText position}].{name}"

/-- Read the entry at a position. -/
def readEntry (position : Nat) (v : Value) : Except Fault GateEntry :=
  match v with
  | .map entries => do
    let raw : Entries := entries
    let index ← integerOf (entryField position "index") ((raw.valueAt? "index").getD (.int position))
    let interval := (raw.valueAt? "time_interval_ns").getD (raw.valueAt "time_interval")
    if interval.isNull then throw (.missingInterval position)
    let op ← operationOf index (raw.valueAt "operation")
    let length ← integerOf (entryField position "time_interval_ns") interval
    let states ← (gateStatesOf (raw.valueAt "gate_states")).mapError (Fault.gateStates index)
    return ⟨index, length, states, op, raw.valueAt "description"⟩
  | _ => .error (.entryNotMapping position)

/-- Read entries, the first of which stands at a position. -/
def readEntries (position : Nat) : List Value → Except Fault (List GateEntry)
  | [] => .ok []
  | v :: rest => return (← readEntry position v) :: (← readEntries (position + 1) rest)

/-- The members of the entries field. -/
def entryList (v : Value) : Except Fault (List Value) :=
  if v.isGiven then
    match v.members? with
    | some vs => .ok vs
    | none => .error (.entriesNotIterable v)
  else .ok []

/-- The offset of the interface's clock, when one is given. -/
def offsetOf (v : Value) : Except Fault (Option Int) :=
  if v.isNull then .ok none else (integerOf "interface_time_offset_ns" v).map some

/-- The text of a value in a schedule. -/
def textOf (v : Value) : Except Fault String := v.written.mapError fun _ => .unwritten

/-- Read a schedule from the entries of a document. -/
def readEntriesOf (doc : Entries) : Except Fault Schedule := do
  let feature := (doc.valueAt? "feature").getD (.str Schedule.feature)
  if !feature.isText Schedule.feature then throw (.feature feature)
  let named := doc.valueAt "schedule_id"
  let id := if named.isGiven then named else doc.valueAt "id"
  if !id.isGiven then throw (.missing "schedule_id")
  let baseTime ← integerField doc ["base_time_ns", "base_time"] "base_time_ns"
  let cycleTime ← integerField doc ["cycle_time_ns", "cycle_time"] "cycle_time_ns"
  let stateName := lower (← textOf ((doc.valueAt? "admin_state").getD (.str "enabled")))
  let some adminState := AdminState.ofName? stateName | throw (.adminState stateName)
  let offset ← offsetOf (doc.valueAt "interface_time_offset_ns")
  let entries ← readEntries 0 (← entryList (doc.valueAt "entries"))
  return ⟨← textOf id, baseTime, cycleTime, adminState, entries, offset⟩

/-- Read a schedule from a document. -/
def read (doc : Value) : Except Fault Schedule :=
  match doc with
  | .map entries => readEntriesOf entries
  | v => .error (.notMapping v.typeName)

end GateRollout.Document
