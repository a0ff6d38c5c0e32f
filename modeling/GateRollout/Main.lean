import GateRollout.CommandLine.Run
import GateRollout.Yaml.Reading
import Std.Time.DateTime.Timestamp

/-!
# The program

A run is computed on a snapshot of the files that it may touch; afterwards what changed is written back.
There is no transport to devices in this program: every attempt to reach one fails, and payloads can be
written and looked at.
-/

namespace GateRollout.Program

/-- The variables of the environment that mean something to a run. -/
def variableNames : List String :=
  ["TSNCONF_INVENTORY", "TSNCONF_AUDIT_DIR", "TSNCONF_MAX_WORKERS", "TSNCONF_RPC_TIMEOUT",
    "TSNCONF_CONNECT_TIMEOUT", "TSNCONF_CONNECT_RETRIES", "NETCONF_PASSWORD"]

/-- Those of some variables that are set. -/
def environment (names : List String) : IO Environment := do
  let found ← names.mapM fun n => return (n, ← IO.getEnv n)
  return found.filterMap fun (n, v) => v.map ((n, ·))

/-- What lies at a path. -/
def entryAt? (path : String) : IO (Option FileEntry) := do
  try
    let content ← IO.FS.readBinFile path
    return some (.file content.toList)
  catch
    | .inappropriateType .. => return some .directory
    | _ => return none

/-- A tree with what lies at an absolute path and on the way to it. -/
def withPath (t : FileTree) (path : String) : IO FileTree := do
  let all := Path.components path
  (List.range all.length).foldlM
    (fun t n => do
      let place := all.take (n + 1)
      match ← entryAt? (Path.ofComponents "/" place) with
      | some e => return t.put place e
      | none => return t)
    t

/-- The machine that the program runs on, of which the files are the state.  Its clocks stand still. -/
def host (env : Environment) (home cwd : String) (now : DateTime) : Host FileTree :=
  .ofTree id (fun t _ => t) env home cwd (return .float 0) (return now) Yaml.reader

/-- The paths that a run may touch. -/
def paths (h : Host FileTree) (i : CommandLine.Invocation) : List String :=
  let named := [i.inventory, h.environment.get? "TSNCONF_INVENTORY"].filterMap id
  let log := AuditLog.pathIn (AuditLog.defaultDirectory h)
  let backups := (List.range AuditLog.backupCount).map fun n => AuditLog.backup log (n + 1)
  (named ++ Inventory.places h ++ log :: backups).map (Path.absolute h.workingDirectory)

/-- The variables that hold the passwords of the devices of an inventory file. -/
def passwordVariables (t : FileTree) (path : String) : List String :=
  let nodes : Except Failure (List Node) := do
    let inv ← Inventory.ofBytes Yaml.reader path (← (t.read path).mapError (FileFault.toFailure path))
    return (← inv.topology).nodes
  (nodes.toOption.getD []).filterMap fun n => n.management.passwordVariable.asText?

/-- Write back what a run changed. -/
def writeBack (before after : FileTree) : IO Unit := do
  before.entries.forM fun (place, _) => do
    if (after.find? place).isNone then IO.FS.removeFile (Path.ofComponents "/" place)
  after.entries.forM fun (place, e) => do
    if before.find? place != some e then
      let path := Path.ofComponents "/" place
      match e with
      | .directory => IO.FS.createDirAll path
      | .file content => IO.FS.writeBinFile path ⟨content.toArray⟩

/-- No way to reach a device. -/
def noTransport : Netconf.Dialer FileTree where
  dial _ := throw (.fault ⟨.session, "no transport is built in"⟩)
  sleep _ := return ()
  warning _ f := s!"Trying again after {f.kindName}: {f.text}"

/-- Whether a record is shown. -/
def isShown (verbose : Bool) (r : LogRecord) : Bool := verbose || r.level != .debug

/-- Carry out a command on this machine. -/
def carryOut (i : CommandLine.Invocation) : IO UInt32 := do
  let micros := (← Std.Time.Timestamp.now).toNanosecondsSinceUnixEpoch.toInt.toNat / 1000
  let cwd := (← IO.getEnv "PWD").getD "/"
  let home := (← IO.getEnv "HOME").getD "/"
  let hostFor (env : Environment) := host env home cwd (.ofMicros micros)
  let touched := paths (hostFor (← environment variableNames)) i
  let files ← touched.foldlM withPath (.ofWorkingDirectory cwd)
  let env ← environment (variableNames ++ touched.flatMap (passwordVariables files))
  let (result, journal) := Action.start (CommandLine.run (hostFor env) noTransport i) files
  (journal.records.filter (isShown i.verbose)).forM fun r =>
    IO.eprintln s!"{r.level.name} {r.message}"
  writeBack files journal.world
  match result with
  | .ok ending =>
    IO.print ending.output
    ending.report.forM IO.eprintln
    return .ofNat ending.code
  | .error f =>
    IO.eprintln s!"{f.kindName}: {f.text}"
    return 1

end GateRollout.Program

/-- Carry out the command that the arguments make. -/
def main (args : List String) : IO UInt32 :=
  match GateRollout.CommandLine.Invocation.ofArguments args with
  | .ok i => GateRollout.Program.carryOut i
  | .error r => return .ofNat r.exitCode
