import GateRollout.CommandLine.Command
import GateRollout.Proofs.Journal
import GateRollout.Proofs.Text.Numeral

/-!
# The arguments of the history

The history of a device, or of all devices, is asked for with a limit.
-/

namespace GateRollout.CommandLine

open Text

/-- The arguments that ask for the history of a device, or of all devices, with a limit. -/
def historyArguments (node : Option String) (limit : Nat) : List String :=
  "history" :: ((node.elim [] fun n => ["--node", n]) ++ ["--limit", intText limit])

/-- A text does not begin with a hyphen. -/
def IsPlainWord (s : String) : Prop := s.toList.head? ≠ some '-'

theorem readArgument_word (known : List Switch) {s : String} (h : IsPlainWord s) :
    Switch.readArgument known s = .ok .word := by
  rw [IsPlainWord] at h
  unfold Switch.readArgument
  split
  all_goals simp_all

theorem isPlainWord_intText (n : Nat) : IsPlainWord (intText n) := by
  intro h
  have hhead : (natDigits n).head? = some '-' := by
    rw [← h, intText, String.toList_ofList]
    rfl
  have hdigit := isDigit_of_mem_natDigits (List.mem_of_head? hhead)
  exact absurd hdigit (by decide)

theorem readInt_intText {n : Nat} (h : (natDigits n).length ≤ maxNumeralDigits) :
    readInt (intText n).toList = .ok (n : Int) := by
  have hlength : numeralLength n ≤ maxNumeralDigits := h
  rw [intText, String.toList_ofList, readInt_intDigits hlength]

/-- An argument that ends no switches is read before the others. -/
theorem readArguments_cons {known : List Switch} {arg : String} {a : Argument}
    (h : Switch.readArgument known arg = .ok a) (ha : a ≠ .separator) {args : List String}
    {read : List (String × Argument)} (hargs : Switch.readArguments known args = .ok read) :
    Switch.readArguments known (arg :: args) = .ok ((arg, a) :: read) := by
  rw [Switch.readArguments, h]
  cases a with
  | separator => exact absurd rfl ha
  | _ =>
    change (do return (arg, _) :: (← Switch.readArguments known args)) = _
    rw [hargs]
    rfl

/-! ## The switches of the command -/

/-- The switch for the name of a device. -/
def nodeSwitch : Switch := { name := "node", takes := .text }

/-- The switch for the limit. -/
def limitSwitch : Switch := { name := "limit", takes := .integer }

/-- The switches that the history takes. -/
def historySwitches : List Switch := [helpSwitch, nodeSwitch, limitSwitch]

theorem readArgument_node :
    Switch.readArgument historySwitches "--node" = .ok (.switches [nodeSwitch] none none) := rfl

theorem readArgument_limit :
    Switch.readArgument historySwitches "--limit" = .ok (.switches [limitSwitch] none none) := rfl

theorem read_limit {n : Nat} (h : (natDigits n).length ≤ maxNumeralDigits) :
    Given.read (.upTo 0) none false
        [("--limit", .switches [limitSwitch] none none), (intText n, .word)] =
      .ok { switches := [(limitSwitch, intText n)] } := by
  change Given.withSwitch limitSwitch (intText n) (.ok {}) = _
  rw [Given.withSwitch, readInt_intText h]
  rfl

theorem read_node {rest : List (String × Argument)} {g : Given}
    (h : Given.read (.upTo 0) none false rest = .ok g) (node : String) :
    Given.read (.upTo 0) none false
        (("--node", .switches [nodeSwitch] none none) :: (node, .word) :: rest) =
      .ok { g with switches := (nodeSwitch, node) :: g.switches } := by
  change Given.withSwitch nodeSwitch node (Given.read (.upTo 0) none false rest) = _
  rw [h, Given.withSwitch]
  rfl

variable {node : Option String} {limit : Nat}

/-- The arguments of the history give the device and the limit. -/
theorem ofArguments_switches (hnode : ∀ n ∈ node, IsPlainWord n)
    (hlimit : (natDigits limit).length ≤ maxNumeralDigits) :
    Given.ofArguments [nodeSwitch, limitSwitch] (.upTo 0) (historyArguments node limit).tail =
      .ok { switches := (node.map fun n => (nodeSwitch, n)).toList ++ [(limitSwitch, intText limit)] } := by
  have hread : Switch.readArguments historySwitches ["--limit", intText limit] = .ok _ :=
    readArguments_cons readArgument_limit nofun
      (readArguments_cons (readArgument_word historySwitches (isPlainWord_intText limit)) nofun rfl)
  cases node with
  | none => exact bind_eq_ok.2 ⟨_, hread, read_limit hlimit⟩
  | some n =>
    have hread := readArguments_cons readArgument_node nofun
      (readArguments_cons (readArgument_word historySwitches (hnode n rfl)) nofun hread)
    exact bind_eq_ok.2 ⟨_, hread, read_node (read_limit hlimit) n⟩

theorem read_history (hnode : ∀ n ∈ node, IsPlainWord n)
    (hlimit : (natDigits limit).length ≤ maxNumeralDigits) :
    Command.read "history" (historyArguments node limit).tail = .ok (.history node limit) := by
  have hgiven : Command.noWord [nodeSwitch, limitSwitch] (historyArguments node limit).tail = .ok _ :=
    bind_eq_ok.2 ⟨_, ofArguments_switches hnode hlimit, rfl⟩
  refine bind_eq_ok.2 ⟨_, hgiven, congrArg Except.ok ?_⟩
  have hint : ∀ g : Given, g.value? "limit" = some (intText limit) →
      g.integer? "limit" = some (limit : Int) := by
    intro g hg
    rw [Given.integer?, hg, Option.bind_some, readInt_intText hlimit]
    rfl
  rw [hint]
  all_goals cases node <;> rfl

/-! ## The command -/

/-- A text without a value that no switch is named by, in full or by its beginning, is not taken
for a switch. -/
theorem readLong_unknown {known : List Switch} {arg : String}
    (hsplit : Switch.splitValue arg.toList = (arg, none)) (hword : arg.toList.contains ' ' = false)
    (hname : known.find? (fun s => s.spelling == arg) = none)
    (hbeginning : known.filter (fun s => s.spelling.startsWith arg) = []) :
    Switch.readLong known arg.toList = .ok .unknown := by
  rw [Switch.readLong, hsplit]
  simp only [hname, hbeginning, hword]
  rfl

-- The switches of the history are none of those in front of a command.

theorem readArgument_node_first :
    Switch.readArgument (helpSwitch :: Invocation.switches) "--node" = .ok .unknown := by
  have h : Switch.readLong (helpSwitch :: Invocation.switches) "--node".toList = .ok .unknown :=
    readLong_unknown (by decide) (by decide) (by decide) (by decide +kernel)
  exact h

theorem readArgument_limit_first :
    Switch.readArgument (helpSwitch :: Invocation.switches) "--limit" = .ok .unknown := by
  have h : Switch.readLong (helpSwitch :: Invocation.switches) "--limit".toList = .ok .unknown :=
    readLong_unknown (by decide) (by decide) (by decide) (by decide +kernel)
  exact h

/-- The history is asked for by its arguments. -/
theorem ofArguments_history (hnode : ∀ n ∈ node, IsPlainWord n)
    (hlimit : (natDigits limit).length ≤ maxNumeralDigits) :
    Invocation.ofArguments (historyArguments node limit) = .ok ⟨none, false, .history node limit⟩ := by
  have hgiven : Given.ofArguments Invocation.switches .command (historyArguments node limit) =
      .ok { words := ["history"], rest := (historyArguments node limit).tail } := by
    have hread : Switch.readArguments (helpSwitch :: Invocation.switches)
        ["--limit", intText limit] = .ok _ :=
      readArguments_cons readArgument_limit_first nofun
        (readArguments_cons (readArgument_word _ (isPlainWord_intText limit)) nofun rfl)
    have hword {args : List String} {read : List (String × Argument)}
        (h : Switch.readArguments (helpSwitch :: Invocation.switches) args = .ok read) :=
      readArguments_cons (readArgument_word (helpSwitch :: Invocation.switches) (s := "history") nofun) nofun h
    cases node with
    | none => exact bind_eq_ok.2 ⟨_, hword hread, rfl⟩
    | some n =>
      have hread := readArguments_cons readArgument_node_first nofun
        (readArguments_cons (readArgument_word _ (hnode n rfl)) nofun hread)
      exact bind_eq_ok.2 ⟨_, hword hread, rfl⟩
  exact bind_eq_ok.2 ⟨_, hgiven, bind_eq_ok.2 ⟨_, read_history hnode hlimit, rfl⟩⟩

end GateRollout.CommandLine
