import GateRollout.Host

/-!
# Setting up logs

Which records go where: the console at a level of its own, a log file, and a second file for how long
things took.  Setting up happens once; what was set up before a failure stays.
-/

namespace GateRollout

open Text

/-- Where records go. -/
inductive LogHandler where
  | console (level : Int)
  | file (format path : String) (maxBytes backups : Int)
  deriving Repr, DecidableEq

/-- What is set up. -/
structure LogSetup where
  /-- Where the program's records go. -/
  program : List LogHandler := []
  /-- Where the records of how long things took go. -/
  timing : List LogHandler := []
  /-- Whether the program's handlers see those records too. -/
  timingPropagates : Bool := true
  /-- The least level at which the session library may speak. -/
  libraryLevel : Option Int := none
  isDone : Bool := false
  deriving Repr, DecidableEq

namespace LogSetup

/-- The layout of a line of the program's log. -/
def lineFormat : String :=
  "%(asctime)s.%(msecs)03d %(levelname)-7s [%(threadName)s] %(name)s: %(message)s"

/-- The layout of a line about how long something took. -/
def timingFormat : String := "%(asctime)s.%(msecs)03d %(message)s"

/-- The layout of dates. -/
def dateFormat : String := "%Y-%m-%d %H:%M:%S"

/-- The name of the log of how long things took. -/
def timingFileName : String := "tsn-config-perf.log"

/-- The level of the least grave records. -/
def debugLevel : Int := 10

/-- The level of warnings. -/
def warningLevel : Int := 30

/-- The levels by name. -/
def levels : List (String × Int) :=
  [("CRITICAL", 50), ("FATAL", 50), ("ERROR", 40), ("WARNING", 30), ("WARN", 30), ("INFO", 20),
    ("DEBUG", 10), ("NOTSET", 0)]

/-- What a level's name may stand for: a level, or in one case a text that is none. -/
def namedValues : List (String × Value) :=
  levels.map (fun (n, k) => (n, .int k)) ++
    [("BASIC_FORMAT", .str "%(levelname)s:%(name)s:%(message)s")]

/-- The upper-case form of a character as far as it lies in ASCII.  Two letters outside ASCII have
one that does. -/
def upperChar (c : Char) : Char :=
  if c == 'ı' then 'I' else if c == 'ſ' then 'S' else c.toUpper

/-- The level that the environment asks for, by default that of information. -/
def levelIn (env : Environment) : Value :=
  let name := String.ofList (((env.get? "TSNCONF_LOG_LEVEL").getD "INFO").toList.map upperChar)
  ((namedValues.find? (·.1 == name)).map (·.2)).getD (.int 20)

/-- The log file that the environment asks for. -/
def fileIn {σ : Type} (h : Host σ) : String :=
  Path.clean
    ((h.environment.given? "TSNCONF_LOG_FILE").getD
      (Path.join h.homeDirectory ".tsn-config/tsn-config.log"))

/-- The level that a value is: a number, or the name of a level. -/
def levelOf (v : Value) : Except Failure Int :=
  match v with
  | .int n => .ok n
  | .bool b => .ok (if b then 1 else 0)
  | .str s =>
    match levels.find? (·.1 == s) with
    | some (_, n) => .ok n
    | none => .error (.fault ⟨.wrongValue, s!"Unknown level: {quoted s}"⟩)
  | v => do
    let quoted ← v.writtenQuoted.mapError .fault
    throw (.fault ⟨.wrongType, s!"Level not an integer or a valid string: {quoted}"⟩)

/-- The integer in a variable of the environment, or a default where the variable is not set. -/
def integerIn (env : Environment) (name : String) (default : Int) : Except Failure Int :=
  match env.get? name with
  | none => .ok default
  | some s =>
    match readInt s.toList with
    | .ok n => .ok n
    | .error e => .error (.fault ⟨.wrongValue, e.message (quoted s)⟩)

variable {σ : Type}

/-- A handler that writes to a file, which is made at once. -/
def fileHandler (h : Host σ) (path format : String) : Action σ LogHandler := do
  let megabytes ← Action.ofExcept (integerIn h.environment "TSNCONF_LOG_MAX_SIZE" 10)
  let backups ← Action.ofExcept (integerIn h.environment "TSNCONF_LOG_BACKUPS" 5)
  let path := Path.absolute h.workingDirectory path
  h.appendFile path ""
  return .file format path (megabytes * 1024 * 1024) backups

/-- The log file that a value names, or the one that the environment asks for. -/
def fileOf (h : Host σ) (given : Value) : Except Failure String :=
  if !given.isGiven then .ok (fileIn h)
  else
    match given with
    | .str s => .ok (Path.clean s)
    | v => .error (.fault ⟨.wrongType, s!"a path is a text, not '{v.typeName}'"⟩)

/-- Set up unless that was done before.  The result is what is set up afterwards, whether or not all of
it succeeded. -/
def run (h : Host σ) (level file : Value) (s : LogSetup) : Action σ (LogSetup × Except Failure Unit) := do
  if s.isDone then return (s, .ok ())
  let prepare : Action σ (Int × String) := do
    let file ← Action.ofExcept (fileOf h file)
    h.makeDirectories (Path.parent file)
    let level ← Action.ofExcept (levelOf (if level.isNull then levelIn h.environment else level))
    return (level, file)
  match ← Action.attempt prepare with
  | .error f => return (s, .error f)
  | .ok (level, file) =>
    let s := { s with program := s.program ++ [.console level] }
    match ← Action.attempt (fileHandler h file lineFormat) with
    | .error f => return (s, .error f)
    | .ok handler =>
      let s := { s with program := s.program ++ [handler], timingPropagates := false }
      match ← Action.attempt (fileHandler h (Path.join (Path.parent file) timingFileName) timingFormat) with
      | .error f => return (s, .error f)
      | .ok handler =>
        let s :=
          { s with timing := s.timing ++ [handler], libraryLevel := some warningLevel, isDone := true }
        return (s, .ok ())

end LogSetup

end GateRollout
