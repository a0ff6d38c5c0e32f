import GateRollout.Files.Tree
import GateRollout.Journal
import GateRollout.Device.Target
import GateRollout.Value.Number

/-!
# Hosts

What the program needs from the machine it runs on: the environment, files, two clocks, and a reader of
documents.
-/

namespace GateRollout

/-- Why a reader gives no data for a document. -/
inductive DocumentFault where
  /-- The text has not the form of a document. -/
  | malformed (message : String)
  /-- A value cannot be made, such as a day that is in no calendar. -/
  | value (f : Fault)
  /-- The data would hold themselves, as data that are values cannot. -/
  | recursive
  deriving Repr, DecidableEq

/-- A reader of documents: from the path of a file and the text in it to the data that it stands for. -/
abbrev DocumentReader := String → String → Except DocumentFault Value

/-- A machine to run on. -/
structure Host (σ : Type) where
  environment : Environment
  homeDirectory : String
  workingDirectory : String
  /-- Whether a path leads to anything. -/
  hasFile : String → Action σ Bool
  /-- The content of a file. -/
  readFile : String → Action σ (List UInt8)
  /-- Add a text to the end of a file, which is made where there is none. -/
  appendFile : String → String → Action σ Unit
  /-- Give what lies at a path another path, in place of a file that lies there. -/
  move : String → String → Action σ Unit
  /-- Make a directory with all directories on the way. -/
  makeDirectories : String → Action σ Unit
  /-- A clock that counts seconds from some moment on. -/
  clock : Action σ Number
  /-- The time of day. -/
  now : Action σ DateTime
  readDocument : DocumentReader

namespace Host

variable {σ : Type}

/-- A change to a tree of files, or the failure at a path. -/
def changeTree (get : σ → FileTree) (set : FileTree → σ → σ) (p : String)
    (f : FileTree → Except FileFault FileTree) : Action σ Unit := do
  match f (get (← Action.world)) with
  | .ok t => Action.modifyWorld (set t)
  | .error e => throw (e.toFailure p)

/-- A host whose files are a tree inside the state. -/
def ofTree (get : σ → FileTree) (set : FileTree → σ → σ) (environment : Environment)
    (homeDirectory workingDirectory : String) (clock : Action σ Number) (now : Action σ DateTime)
    (readDocument : DocumentReader) : Host σ where
  environment
  homeDirectory
  workingDirectory
  hasFile p := return (get (← Action.world)).contains p
  readFile p := do
    match (get (← Action.world)).read p with
    | .ok content => return content
    | .error e => throw (e.toFailure p)
  appendFile p text := changeTree get set p fun t => t.append p text.toUTF8.toList
  move p q := changeTree get set p fun t => t.move p q
  makeDirectories p := changeTree get set p fun t => t.makeDirectories p
  clock
  now
  readDocument

end Host

end GateRollout
