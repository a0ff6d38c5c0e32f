import GateRollout.Schedule.Check
import GateRollout.Value.Number

/-!
# Gate parameter tables

A schedule as the scheduler schema knows it: cycle time as a fraction of a second, base time in
seconds and nanoseconds, and at most one byte of gate states an entry.  Variants of the schema
differ in the denominator of the cycle time and in how the gate states are summarised.
-/

namespace GateRollout

/-- One entry of a gate parameter table. -/
structure TableEntry where
  index : Int
  operation : String
  interval : Int
  gateStates : Option Int
  deriving Repr, DecidableEq

/-- The gate parameters of one port. -/
structure GateTable where
  gateEnabled : Bool
  adminGateStates : Option Int
  entries : List TableEntry
  cycleNumerator : Number
  cycleDenominator : Number
  baseSeconds : Int
  baseNanoseconds : Int
  extension : Number
  configChange : Bool

/-- Whether the numbers of an entry are short enough to be written. -/
def TableEntry.isWritten (e : TableEntry) : Bool :=
  Text.isWritten e.index && Text.isWritten e.interval && e.gateStates.all Text.isWritten

/-- Whether all numbers of a table are short enough to be written. -/
def GateTable.isWritten (t : GateTable) : Bool :=
  t.adminGateStates.all Text.isWritten && t.entries.all (·.isWritten) &&
    t.cycleNumerator.isWritten && t.cycleDenominator.isWritten && t.extension.isWritten &&
    Text.isWritten t.baseSeconds && Text.isWritten t.baseNanoseconds

/-- A base time in whole seconds and nanoseconds, without rounding. -/
def splitBaseTime (t : Int) : Int × Int :=
  (t / Check.nanosPerSecond, t % Check.nanosPerSecond)

/-- How the gate states of all entries are summarised. -/
inductive Summary where
  /-- The states of the first entry that has any. -/
  | first
  /-- All states that any entry opens; none where no entry has any. -/
  | union
  deriving Repr, DecidableEq

/-- The states of the first entry that has any. -/
def firstStates? (entries : List GateEntry) : Option Nat :=
  entries.findSome? GateEntry.firstGateState?

/-- All states that any entry opens. -/
def unionStates (entries : List GateEntry) : Nat :=
  entries.foldl (fun acc e => acc ||| e.firstGateState?.getD 0) 0

/-- The summary of the gate states of entries. -/
def Summary.of (summary : Summary) (entries : List GateEntry) : Option Nat :=
  match summary with
  | first => firstStates? entries
  | union => some (unionStates entries)

/-- An entry as the schema knows it. -/
def TableEntry.ofEntry (e : GateEntry) : TableEntry :=
  ⟨e.index, e.effectiveOperation.name, e.interval, e.firstGateState?.map Int.ofNat⟩

/-- The table of a schedule; the faults of the schedule where it has none. -/
def GateTable.ofSchedule (denominator : Int) (summary : Summary) (s : Schedule) :
    Except (List Check.Fault) GateTable :=
  match Check.faults denominator s, Check.numerator? denominator s.cycleTime with
  | [], some numerator =>
    let (seconds, nanoseconds) := splitBaseTime s.baseTime
    .ok
      { gateEnabled := s.adminState == .enabled
        adminGateStates := (summary.of s.entries).map Int.ofNat
        entries := s.entries.map TableEntry.ofEntry
        cycleNumerator := .int numerator
        cycleDenominator := .int denominator
        baseSeconds := seconds
        baseNanoseconds := nanoseconds
        extension := .int 0
        configChange := true }
  | faults, _ => .error faults

end GateRollout
