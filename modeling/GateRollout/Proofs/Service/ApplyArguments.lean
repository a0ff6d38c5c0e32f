import GateRollout.Proofs.Service.Arguments
import Mathlib.Data.List.TakeWhile

/-!
# The arguments that apply a configuration

A configuration is applied by its name, perhaps with a number of workers.  A number is a word although it
may begin with a hyphen: no switch has a digit for its letter.
-/

namespace GateRollout.CommandLine

open Text

/-- The arguments that apply a configuration, perhaps on a number of workers. -/
def applyArguments (id : String) (workers : Option Int) : List String :=
  "apply" :: id :: workers.elim [] fun n => ["--workers", intText n]

/-! ## Numbers -/

theorem isNumber_natDigits (n : Nat) : Switch.isNumber (natDigits n) = true := by
  have hdigits : ∀ c ∈ natDigits n, (decimalDigit? c).isSome = true := by
    intro c hc
    rw [decimalDigit?_of_isDigit (isDigit_of_mem_natDigits hc)]
    rfl
  have hrest : (natDigits n).dropWhile (fun c => (decimalDigit? c).isSome) = [] :=
    List.dropWhile_eq_nil_iff.2 hdigits
  have hsome : natDigits n ≠ [] := Nat.toDigits_ne_nil
  simp only [Switch.isNumber, hrest]
  simpa using hsome

/-- A number is a word where no switch has a digit for its letter. -/
theorem readArgument_intText {known : List Switch}
    (hletters : ∀ s ∈ known, s.letter.any Char.isDigit = false) (n : Int) :
    Switch.readArgument known (intText n) = .ok .word := by
  cases n with
  | ofNat n => exact readArgument_word known (isPlainWord_intText n)
  | negSucc n =>
    have hnumber := isNumber_natDigits (n + 1)
    have hdigit : ∀ c ∈ natDigits (n + 1), c.isDigit = true := fun c => isDigit_of_mem_natDigits
    rw [Switch.readArgument, intText, String.toList_ofList, intDigits]
    cases hdigits : natDigits (n + 1) with
    | nil => exact absurd hdigits Nat.toDigits_ne_nil
    | cons letter rest =>
      rw [hdigits] at hnumber hdigit
      have hletter := hdigit letter List.mem_cons_self
      have hhyphen : letter ≠ '-' := by
        rintro rfl
        exact absurd hletter (by decide)
      have hknown : known.any (·.letter == some letter) = false := by
        refine List.any_eq_false.2 fun s hs heq => ?_
        have hdigits := hletters s hs
        rw [beq_iff_eq.1 heq, Option.any_some, hletter] at hdigits
        cases hdigits
      have hword : Switch.readShort known letter rest = .word := by
        simp only [Switch.readShort, hknown, hnumber, Bool.true_or, if_true, Bool.false_eq_true, if_false]
      split
      case h_1 heq => exact absurd (List.cons.inj (List.cons.inj heq).2).1 hhyphen
      case h_2 heq => exact absurd (List.cons.inj (List.cons.inj heq).2).1 hhyphen
      case h_3 heq =>
        obtain ⟨rfl, rfl⟩ := List.cons.inj (List.cons.inj heq).2
        rw [hword]
      case h_4 hnone => exact absurd rfl (hnone letter rest)

/-! ## The switches of the command -/

/-- The switch for only writing payloads. -/
def dryRunSwitch : Switch := { name := "dry-run" }

/-- The switch for the number of workers. -/
def workersSwitch : Switch := { name := "workers", takes := .integer }

/-- The switches that applying a configuration takes. -/
def applySwitches : List Switch := [helpSwitch, dryRunSwitch, workersSwitch]

theorem readArgument_workers :
    Switch.readArgument applySwitches "--workers" = .ok (.switches [workersSwitch] none none) := rfl

theorem readArgument_workers_first :
    Switch.readArgument (helpSwitch :: Invocation.switches) "--workers" = .ok .unknown := by
  have h : Switch.readLong (helpSwitch :: Invocation.switches) "--workers".toList = .ok .unknown :=
    readLong_unknown (by decide) (by decide) (by decide) (by decide +kernel)
  exact h

theorem applySwitches_letters : ∀ s ∈ applySwitches, s.letter.any Char.isDigit = false := by
  decide

theorem firstSwitches_letters :
    ∀ s ∈ helpSwitch :: Invocation.switches, s.letter.any Char.isDigit = false := by
  decide

variable {id : String} {n : Int}

/-- What the arguments of the command are, where the name of the configuration is a word. -/
theorem readArguments_apply (hid : IsPlainWord id) (n : Int) :
    Switch.readArguments applySwitches (applyArguments id (some n)).tail =
      .ok [(id, .word), ("--workers", .switches [workersSwitch] none none), (intText n, .word)] :=
  readArguments_cons (readArgument_word applySwitches hid) nofun
    (readArguments_cons readArgument_workers nofun
      (readArguments_cons (readArgument_intText applySwitches_letters n) nofun rfl))

/-- The first reading takes the name of the command, and leaves its arguments to the command. -/
theorem ofArguments_first (hid : IsPlainWord id) (workers : Option Int) :
    Given.ofArguments Invocation.switches .command (applyArguments id workers) =
      .ok { words := ["apply"], rest := (applyArguments id workers).tail } := by
  have hword {s : String} (hs : IsPlainWord s) {args : List String} {read : List (String × Argument)}
      (h : Switch.readArguments (helpSwitch :: Invocation.switches) args = .ok read) :=
    readArguments_cons (readArgument_word (helpSwitch :: Invocation.switches) hs) nofun h
  have hcommand : IsPlainWord "apply" := nofun
  cases workers with
  | none => exact bind_eq_ok.2 ⟨_, hword hcommand (hword hid rfl), rfl⟩
  | some n =>
    have hworkers : Switch.readArguments (helpSwitch :: Invocation.switches) ["--workers", intText n] = .ok _ :=
      readArguments_cons readArgument_workers_first nofun
        (readArguments_cons (readArgument_intText firstSwitches_letters n) nofun rfl)
    exact bind_eq_ok.2 ⟨_, hword hcommand (hword hid hworkers), rfl⟩

/-- What the command is given by a switch for the number of workers and its value. -/
theorem read_workers (id : String) (n : Int) :
    Given.read (.upTo 1) none false
        [(id, .word), ("--workers", .switches [workersSwitch] none none), (intText n, .word)] =
      (Given.withSwitch workersSwitch (intText n) (.ok {})).map (Given.withWord id) := rfl

/-! ## The command -/

theorem ofArguments_apply_eq (hid : IsPlainWord id) (workers : Option Int) :
    Invocation.ofArguments (applyArguments id workers) = (do
      return ⟨none, false, ← Command.read "apply" (applyArguments id workers).tail⟩) := by
  rw [Invocation.ofArguments, ofArguments_first hid]
  rfl

theorem ofArguments_apply_none (hid : IsPlainWord id) :
    Invocation.ofArguments (applyArguments id none) = .ok ⟨none, false, .apply id false none⟩ := by
  have hgiven : Given.ofArguments [dryRunSwitch, workersSwitch] (.upTo 1) [id] = .ok { words := [id] } :=
    bind_eq_ok.2 ⟨_, readArguments_cons (readArgument_word applySwitches hid) nofun rfl, rfl⟩
  have hword : Command.word [dryRunSwitch, workersSwitch] [id] = .ok ({ words := [id] }, id) :=
    bind_eq_ok.2 ⟨_, hgiven, rfl⟩
  rw [ofArguments_apply_eq hid]
  exact bind_eq_ok.2 ⟨_, bind_eq_ok.2 ⟨_, hword, rfl⟩, rfl⟩

theorem ofArguments_apply_some (hid : IsPlainWord id) (hn : numeralLength n ≤ maxNumeralDigits) :
    Invocation.ofArguments (applyArguments id (some n)) = .ok ⟨none, false, .apply id false (some n)⟩ := by
  have hread : readInt (intText n).toList = .ok n := by
    rw [intText, String.toList_ofList, readInt_intDigits hn]
  have hgiven : Given.ofArguments [dryRunSwitch, workersSwitch] (.upTo 1) (applyArguments id (some n)).tail =
      .ok { words := [id], switches := [(workersSwitch, intText n)] } := by
    refine bind_eq_ok.2 ⟨_, readArguments_apply hid n, ?_⟩
    rw [read_workers, Given.withSwitch, hread]
    rfl
  have hword : Command.word [dryRunSwitch, workersSwitch] (applyArguments id (some n)).tail = .ok (_, id) :=
    bind_eq_ok.2 ⟨_, hgiven, rfl⟩
  have hint : ∀ g : Given, g.value? "workers" = some (intText n) → g.integer? "workers" = some n := by
    intro g hg
    rw [Given.integer?, hg, Option.bind_some, hread]
    rfl
  rw [ofArguments_apply_eq hid]
  refine bind_eq_ok.2 ⟨_, bind_eq_ok.2 ⟨_, hword, congrArg Except.ok ?_⟩, rfl⟩
  rw [hint]
  all_goals rfl

theorem ofArguments_apply_long (hid : IsPlainWord id) (hn : maxNumeralDigits < numeralLength n) :
    Invocation.ofArguments (applyArguments id (some n)) = .error .usage := by
  have hread : readInt (intText n).toList = .error (.tooLong (numeralLength n)) := by
    rw [intText, String.toList_ofList, readInt_long_intDigits hn]
  have hgiven : Given.ofArguments [dryRunSwitch, workersSwitch] (.upTo 1) (applyArguments id (some n)).tail =
      .error .usage := by
    refine bind_eq_error.2 (.inr ⟨_, readArguments_apply hid n, ?_⟩)
    rw [read_workers, Given.withSwitch, hread]
    rfl
  have hword : Command.word [dryRunSwitch, workersSwitch] (applyArguments id (some n)).tail = .error .usage :=
    bind_eq_error.2 (.inl hgiven)
  rw [ofArguments_apply_eq hid]
  exact bind_eq_error.2 (.inl (bind_eq_error.2 (.inl hword)))

end GateRollout.CommandLine
