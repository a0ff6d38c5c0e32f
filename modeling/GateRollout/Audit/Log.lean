import GateRollout.Audit.History
import GateRollout.Host
import GateRollout.Text.Utf8

/-!
# The audit log

Where the audit log lies, how it is set up, and how records get into it and out of it.  A log that would
become too large starts anew, and what it held becomes the first of some older logs.
-/

namespace GateRollout.AuditLog

/-- The name of the log in its directory. -/
def fileName : String := "audit.log"

variable {σ : Type}

/-- The directory of the log where none is named. -/
def defaultDirectory (h : Host σ) : String :=
  (h.environment.given? "TSNCONF_AUDIT_DIR").getD (Path.join h.homeDirectory ".tsn-config")

/-- The directory that a value names, or the default one. -/
def directoryOf (h : Host σ) (given : Value) : Except Failure String :=
  if !given.isGiven then .ok (defaultDirectory h)
  else
    match given with
    | .str s => .ok s
    | v => .error (.fault ⟨.wrongType, s!"a path is a text, not '{v.typeName}'"⟩)

/-- The log in a directory. -/
def pathIn (directory : String) : String := Path.join directory fileName

/-- Make the directory of the log and the log itself; the result is its path. -/
def setUp (h : Host σ) (directory : Value) : Action σ String := do
  let directory ← Action.ofExcept (directoryOf h directory)
  h.makeDirectories directory
  let path := pathIn directory
  h.appendFile path ""
  return path

/-- The size in bytes that a log does not reach. -/
def maxBytes : Nat := 10 * 1024 * 1024

/-- The number of older logs that are kept. -/
def backupCount : Nat := 10

/-- The path of an older log; the first is the newest. -/
def backup (path : String) (n : Nat) : String := path ++ "." ++ Text.natText n

/-- Whether a log of some bytes has no place for a line. -/
def isFull (size : Nat) (line : String) : Bool := maxBytes ≤ size + (line ++ "\n").length

/-- Give a file another path, where there is one. -/
def moveIfThere (h : Host σ) (path target : String) : Action σ Unit := do
  if ← h.hasFile path then h.move path target

/-- Start the log at a path anew.  Each older log takes the place of the one before it, and the log that of
the newest. -/
def rollOver (h : Host σ) (path : String) : Action σ Unit := do
  (List.range (backupCount - 1)).reverse.forM fun n =>
    moveIfThere h (backup path (n + 1)) (backup path (n + 2))
  moveIfThere h path (backup path 1)
  h.appendFile path ""

/-- Write a line to the log at a path, which starts anew where it has no place for the line.  What goes wrong
keeps nothing from going on. -/
def write (h : Host σ) (path line : String) : Action σ Unit := do
  let written : Action σ Unit := do
    if isFull (← h.readFile path).length line then rollOver h path
    h.appendFile path (line ++ "\n")
  let _ ← Action.attempt written

/-- Record the push that named values describe, at the time of day, in the log at a path. -/
def record (h : Host σ) (path : String) (given : Entries) : Action σ PushRecord := do
  let r ← Action.ofExcept (PushRecord.make (← h.now) given)
  write h path (← Action.ofExcept r.toJson)
  return r

/-- The newest records of the log at a path, or at the default one, that a filter accepts.  A log
that does not exist has no records. -/
def recent (h : Host σ) (path : Option String) (f : History.Filter) (limit : Value) :
    Action σ (List PushRecord) := do
  let path := path.getD (pathIn (defaultDirectory h))
  if ← h.hasFile path then
    let bytes ← h.readFile path
    match Text.decodeUtf8 bytes with
    | .ok log => Action.ofExcept (History.recent f limit log)
    | .error e => throw (.fault ⟨.undecodable, e.message⟩)
  else return []

end GateRollout.AuditLog
