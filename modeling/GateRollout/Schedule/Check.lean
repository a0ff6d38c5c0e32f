import GateRollout.Schedule.Basic
import GateRollout.Text.Numeral

/-!
# Representable schedules

What a schedule must satisfy for the wire schemas to express it, with the cycle time counted in parts
of a second that the schema fixes.  Faults make a schedule unrepresentable; warnings do not.
-/

namespace GateRollout.Check

open Text

/-- Nanoseconds in a second. -/
def nanosPerSecond : Int := 1000000000

/-- The greatest 32-bit number. -/
def max32 : Int := 4294967295

/-- The greatest 64-bit number. -/
def max64 : Int := 18446744073709551615

/-- The number of entries beyond which devices may refuse a list. -/
def largeList : Nat := 1024

/-- Why a schedule is not representable. -/
inductive Fault where
  | baseTime (given : Int)
  | cycleTimeSign (given : Int)
  | cycleTimeScale (given denominator : Int)
  | cycleTimeOverflow (given denominator : Int)
  | indexRange (given : Int)
  | indexTwice (given : Int)
  | interval (given index : Int)
  deriving Repr, DecidableEq

/-- That a cycle time is no whole number of parts of a second; of one with too many digits, that it is
not written. -/
def scaleMessage (cycleTime denominator : Int) : String :=
  if isWritten cycleTime && isWritten denominator then
    s!"cycle time {intText cycleTime}ns is not a multiple of 1/{intText denominator}s"
  else unwrittenMessage

/-- The message of a fault. -/
def Fault.message : Fault → String
  | baseTime t => s!"Invalid base time {intText t}: must fit an unsigned 64-bit value"
  | cycleTimeSign t => s!"Invalid cycle time {intText t}: must be positive"
  | cycleTimeScale t d => s!"Cycle time not representable: {scaleMessage t d}"
  | cycleTimeOverflow t d =>
    s!"Cycle time {intText t}ns overflows the 32-bit numerator (denominator {intText d})"
  | indexRange i => s!"Invalid entry index {intText i}: must fit uint32"
  | indexTwice i => s!"Duplicate entry index {intText i}"
  | interval t i => s!"Invalid time interval {intText t} in entry {intText i}: must fit uint32"

/-- Whether the message of a fault is written. -/
def Fault.isWritten : Fault → Bool
  | baseTime t => Text.isWritten t
  | cycleTimeSign t => Text.isWritten t
  | cycleTimeScale _ _ => true
  | cycleTimeOverflow t d => Text.isWritten t && Text.isWritten d
  | indexRange i => Text.isWritten i
  | indexTwice i => Text.isWritten i
  | interval t i => Text.isWritten t && Text.isWritten i

/-- What is odd about a representable schedule. -/
inductive Warning where
  | noEntries (id : String)
  | manyEntries (count : Nat)
  | wideStates (index : Int) (count : Nat)
  | coverage (total cycleTime : Int)
  deriving Repr, DecidableEq

/-- The message of a warning. -/
def Warning.message : Warning → String
  | noEntries id => s!"Schedule {id} has no gate-control entries"
  | manyEntries n => s!"Large control list ({natText n} entries) - verify device limits"
  | wideStates i n =>
    s!"Entry {intText i} has {natText n} gate-state bytes; only the first is mapped"
  | coverage total cycle =>
    s!"Entry intervals sum to {intText total}ns but cycle time is {intText cycle}ns"

/-- Whether the message of a warning is written. -/
def Warning.isWritten : Warning → Bool
  | noEntries _ => true
  | manyEntries _ => true
  | wideStates i _ => Text.isWritten i
  | coverage total cycle => Text.isWritten total && Text.isWritten cycle

/-- A cycle time in parts of a second, when it is a whole number of them. -/
def numerator? (denominator cycleTime : Int) : Option Int :=
  let scaled := cycleTime * denominator
  if scaled % nanosPerSecond == 0 then some (scaled / nanosPerSecond) else none

/-- The faults of the base time. -/
def baseTimeFaults (t : Int) : List Fault :=
  if 0 ≤ t ∧ t ≤ max64 then [] else [.baseTime t]

/-- The faults of the cycle time. -/
def cycleTimeFaults (denominator t : Int) : List Fault :=
  if t ≤ 0 then [.cycleTimeSign t]
  else
    match numerator? denominator t with
    | none => [.cycleTimeScale t denominator]
    | some n => if max32 < n then [.cycleTimeOverflow t denominator] else []

/-- The faults of one index, after some others. -/
def indexFaults (seen : List Int) (i : Int) : List Fault :=
  if ¬(0 ≤ i ∧ i ≤ max32) then [.indexRange i]
  else if seen.contains i then [.indexTwice i]
  else []

/-- The faults of the interval of an entry. -/
def intervalFaults (e : GateEntry) : List Fault :=
  if 0 ≤ e.interval ∧ e.interval ≤ max32 then [] else [.interval e.interval e.index]

/-- The faults of entries, after entries with the indices `seen`. -/
def entryFaults (seen : List Int) : List GateEntry → List Fault
  | [] => []
  | e :: rest => indexFaults seen e.index ++ intervalFaults e ++ entryFaults (e.index :: seen) rest

/-- The warnings of the entries of a schedule. -/
def entryWarnings (s : Schedule) : List Warning :=
  if s.entries.isEmpty then [.noEntries s.id]
  else
    (if largeList < s.entries.length then [.manyEntries s.entries.length] else []) ++
      s.entries.flatMap fun e =>
        if 1 < e.gateStates.length then [.wideStates e.index e.gateStates.length] else []

/-- The sum of the intervals of entries. -/
def totalInterval (entries : List GateEntry) : Int := entries.foldr (fun e n => e.interval + n) 0

/-- The warning that the intervals do not fill the cycle. -/
def coverageWarnings (s : Schedule) : List Warning :=
  if s.entries.isEmpty || s.cycleTime ≤ 0 then []
  else if totalInterval s.entries != s.cycleTime then
    [.coverage (totalInterval s.entries) s.cycleTime]
  else []

/-- Everything that keeps a schedule from being represented, in the order of its parts. -/
def faults (denominator : Int) (s : Schedule) : List Fault :=
  baseTimeFaults s.baseTime ++ cycleTimeFaults denominator s.cycleTime ++ entryFaults [] s.entries

/-- Everything odd about a schedule. -/
def warnings (s : Schedule) : List Warning := entryWarnings s ++ coverageWarnings s

/-- Whether everything that is amiss with a schedule can be told. -/
def isTold (denominator : Int) (s : Schedule) : Bool :=
  (faults denominator s).all (·.isWritten) && (warnings s).all (·.isWritten)

/-- Whether a schedule can be represented. -/
def isRepresentable (denominator : Int) (s : Schedule) : Bool := (faults denominator s).isEmpty

end GateRollout.Check
