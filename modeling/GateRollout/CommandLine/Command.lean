import GateRollout.CommandLine.Switch

/-!
# Commands

What can be asked for on the command line: applying a configuration, writing the payload for one port,
listing what is supported, and showing the newest records of the audit log.
-/

namespace GateRollout.CommandLine

/-- A command with what it is given. -/
inductive Command where
  | apply (configuration : String) (dryRun : Bool) (workers : Option Int)
  | render (configuration node port : String)
  | features
  | history (node : Option String) (limit : Int)
  deriving Repr, DecidableEq

/-- A command, and what is given in front of it. -/
structure Invocation where
  inventory : Option String
  verbose : Bool
  command : Command
  deriving Repr, DecidableEq

namespace Command

/-- How many records are shown unless another number is given. -/
def defaultLimit : Int := 20

/-- Arguments that are all taken, with the word that is wanted among them. -/
def word (known : List Switch) (args : List String) : Except Refusal (Given × String) := do
  let g ← Given.ofArguments known (.upTo 1) args
  match g.words, g.extra with
  | [w], [] => return (g, w)
  | _, _ => throw .usage

/-- Arguments that are all taken, with no word among them. -/
def noWord (known : List Switch) (args : List String) : Except Refusal Given := do
  let g ← Given.ofArguments known (.upTo 0) args
  if g.extra.isEmpty then return g else throw .usage

/-- The value of a switch that has to be given. -/
def required (g : Given) (name : String) : Except Refusal String :=
  match g.value? name with
  | some v => .ok v
  | none => .error .usage

/-- A command by its name, from its arguments. -/
def read (name : String) (args : List String) : Except Refusal Command :=
  match name with
  | "apply" => do
    let (g, configuration) ←
      word [{ name := "dry-run" }, { name := "workers", takes := .integer }] args
    return .apply configuration (g.has "dry-run") (g.integer? "workers")
  | "render" => do
    let (g, configuration) ←
      word [{ name := "node", takes := .text }, { name := "port", takes := .text }] args
    return .render configuration (← required g "node") (← required g "port")
  | "features" => do
    let _ ← noWord [] args
    return .features
  | "history" => do
    let g ← noWord [{ name := "node", takes := .text }, { name := "limit", takes := .integer }] args
    return .history (g.value? "node") ((g.integer? "limit").getD defaultLimit)
  | _ => .error .usage

end Command

namespace Invocation

/-- The switches that stand in front of a command. -/
def switches : List Switch :=
  [{ name := "inventory", takes := .text }, { name := "verbose", letter := some 'v' }]

/-- The command that arguments make. -/
def ofArguments (args : List String) : Except Refusal Invocation := do
  let g ← Given.ofArguments switches .command args
  match g.words with
  | [name] =>
    let command ← Command.read name g.rest
    if g.extra.isEmpty then return ⟨g.value? "inventory", g.has "verbose", command⟩ else throw .usage
  | _ => throw .usage

end Invocation

end GateRollout.CommandLine
