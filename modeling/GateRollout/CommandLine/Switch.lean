import GateRollout.Text.Numeral

/-!
# Switches

How the arguments of a command are told apart.  A switch is spelt in full, or by a beginning that
belongs to no other switch, or by its letter; its value follows it or is joined to it by an equals
sign.  Two hyphens alone end the switches: all after them are words.
-/

namespace GateRollout.CommandLine

open Text

/-- Why arguments are not taken. -/
inductive Refusal where
  /-- Help was asked for. -/
  | help
  /-- The arguments make no command. -/
  | usage
  deriving Repr, DecidableEq

/-- The exit code of a refusal. -/
def Refusal.exitCode : Refusal → Nat
  | help => 0
  | usage => 2

/-- What a switch takes as its value. -/
inductive ValueKind where
  | nothing
  | text
  | integer
  deriving Repr, DecidableEq

/-- A switch, spelt by its name after two hyphens or by its letter after one.  A switch with a letter
takes no value. -/
structure Switch where
  name : String
  letter : Option Char := none
  takes : ValueKind := .nothing
  deriving Repr, DecidableEq

/-- The switch that asks for help, which every command has. -/
def helpSwitch : Switch := { name := "help", letter := some 'h' }

/-- What an argument is. -/
inductive Argument where
  | word
  /-- The two hyphens that end the switches. -/
  | separator
  /-- Switches: one by its name with what is joined to it, or several by their letters with the letters
  that are no switch. -/
  | switches (these : List Switch) (value leftover : Option String)
  /-- A switch with a value that it does not take. -/
  | refused
  | unknown
  deriving Repr, DecidableEq

namespace Switch

/-- A switch spelt in full. -/
def spelling (s : Switch) : String := "--" ++ s.name

/-- Switches by their letters, up to a letter that is no switch; neither an equals sign nor a hyphen may
follow the letter of a switch. -/
def lettered (known : List Switch) : List Char → Argument
  | [] => .switches [] none none
  | c :: rest =>
    match known.find? (·.letter == some c), rest with
    | none, _ => .switches [] none (some (String.ofList ('-' :: c :: rest)))
    | some _, '=' :: _ => .refused
    | some _, '-' :: _ => .refused
    | some s, rest =>
      match lettered known rest with
      | .switches these value leftover => .switches (s :: these) value leftover
      | a => a

/-- A switch by its name with what is joined to it. -/
def named (s : Switch) (value : Option String) : Argument :=
  if s.takes == .nothing && value.isSome then .refused else .switches [s] value none

/-- An argument at its first equals sign: what stands in front of it, and behind it. -/
def splitValue (arg : List Char) : String × Option String :=
  let front := arg.takeWhile (· != '=')
  (String.ofList front,
    if front.length < arg.length then some (String.ofList (arg.drop (front.length + 1))) else none)

/-- An argument that begins with two hyphens. -/
def readLong (known : List Switch) (arg : List Char) : Except Refusal Argument :=
  let (front, value) := splitValue arg
  match known.find? fun s => s.spelling == front with
  | some s => .ok (s.named value)
  | none =>
    match known.filter fun s => s.spelling.startsWith front with
    | [] => .ok (if arg.contains ' ' then .word else .unknown)
    | [s] => .ok (s.named value)
    | _ => .error .usage

/-- Whether a text is a number after a hyphen, perhaps with a point in it. -/
def isNumber (s : List Char) : Bool :=
  let isDigit (c : Char) : Bool := (decimalDigit? c).isSome
  match s.dropWhile isDigit with
  | [] => !s.isEmpty
  | '.' :: ds => !ds.isEmpty && ds.all isDigit
  | _ => false

/-- An argument that begins with one hyphen, which is followed by `letter` and `rest`. -/
def readShort (known : List Switch) (letter : Char) (rest : List Char) : Argument :=
  if known.any (·.letter == some letter) then lettered known (letter :: rest)
  else if isNumber (letter :: rest) || rest.contains ' ' then .word
  else .unknown

/-- What an argument is, among some switches. -/
def readArgument (known : List Switch) (arg : String) : Except Refusal Argument :=
  match arg.toList with
  | ['-', '-'] => .ok .separator
  | '-' :: '-' :: rest => readLong known ('-' :: '-' :: rest)
  | '-' :: letter :: rest => .ok (readShort known letter rest)
  | _ => .ok .word

/-- What some arguments are; all after a separator are words. -/
def readArguments (known : List Switch) : List String → Except Refusal (List (String × Argument))
  | [] => .ok []
  | arg :: rest => do
    let a ← readArgument known arg
    match a with
    | .separator => return (arg, a) :: rest.map fun s => (s, .word)
    | a => return (arg, a) :: (← readArguments known rest)

end Switch

/-- Which words are wanted among arguments. -/
inductive WordsWanted where
  /-- One, which ends the reading. -/
  | command
  /-- So many at most. -/
  | upTo (count : Nat)
  deriving Repr, DecidableEq

/-- What arguments give. -/
structure Given where
  /-- The switches in their order, each with its value. -/
  switches : List (Switch × String) := []
  words : List String := []
  /-- Arguments that nothing takes. -/
  extra : List String := []
  /-- All that follows the word that ends the reading. -/
  rest : List String := []
  deriving Repr

namespace Given

/-- A switch more, with its value; help is given at once, and a value has to be of the right kind. -/
def withSwitch (s : Switch) (value : String) (g : Except Refusal Given) : Except Refusal Given :=
  if s == helpSwitch then .error .help
  else
    match s.takes, readInt value.toList with
    | .integer, .error _ => .error .usage
    | _, _ => g.map fun g => { g with switches := (s, value) :: g.switches }

/-- A word more. -/
def withWord (w : String) (g : Given) : Given := { g with words := w :: g.words }

/-- An argument more that nothing takes. -/
def withExtra (g : Given) (s : String) : Given := { g with extra := s :: g.extra }

/-- What arguments give, read from the left: a switch before them may be waiting for its value, and a
word may have been taken just before.  Words that are not wanted are extra, and a separator beside a word
that is taken is passed over. -/
def read (wanted : WordsWanted) (waiting : Option Switch) (afterWord : Bool) :
    List (String × Argument) → Except Refusal Given
  | [] => if waiting.isSome then .error .usage else .ok {}
  | (arg, a) :: rest =>
    match waiting, a with
    | some s, .word => withSwitch s arg (read wanted none false rest)
    | some _, _ => .error .usage
    | none, .refused => .error .usage
    | none, .switches these value leftover =>
      match these.find? fun s => s.takes != .nothing && value.isNone with
      | some s => read wanted (some s) false rest
      | none =>
        these.foldr (fun s g => withSwitch s (value.getD "") g)
          ((read wanted none false rest).map fun g => leftover.elim g fun l => g.withExtra l)
    | none, .unknown => (read wanted none false rest).map (·.withExtra arg)
    | none, .word =>
      match wanted with
      | .command => .ok { words := [arg], rest := rest.map (·.1) }
      | .upTo 0 => (read wanted none false rest).map (·.withExtra arg)
      | .upTo (n + 1) => (read (.upTo n) none true rest).map (withWord arg)
    | none, .separator =>
      if afterWord then read wanted none false rest
      else if rest.isEmpty || wanted == .upTo 0 then
        (read wanted none false rest).map (·.withExtra arg)
      else if wanted == .command then .ok { words := [arg], rest := rest.map (·.1) }
      else read wanted none false rest

/-- What the arguments of a command give. -/
def ofArguments (known : List Switch) (wanted : WordsWanted) (args : List String) :
    Except Refusal Given := do
  read wanted none false (← Switch.readArguments (helpSwitch :: known) args)

/-- Whether a switch is given. -/
def has (g : Given) (name : String) : Bool := g.switches.any (·.1.name == name)

/-- The value of a switch, the last one where there are several. -/
def value? (g : Given) (name : String) : Option String :=
  (g.switches.reverse.find? (·.1.name == name)).map (·.2)

/-- The integer that a switch is given. -/
def integer? (g : Given) (name : String) : Option Int :=
  (g.value? name).bind fun s => (readInt s.toList).toOption

end Given

end GateRollout.CommandLine
