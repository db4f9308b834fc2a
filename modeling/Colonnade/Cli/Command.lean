import Colonnade.Cli.Arguments
import Colonnade.Cli.Help
import Colonnade.Files.Tree
import Colonnade.Inspection.Basic

/-!
# Commands

The tool has three commands: `build` writes the scene file of a specification, `inspect` reports
on a specification, and `expand` prints the string of one of its L-systems.  Each takes one input
file and some options.  `Command.read` turns arguments into a `Request`.
-/

namespace Colonnade.Cli

/-- The commands. -/
inductive Command where
  | build
  | expand
  | inspect
  deriving DecidableEq, Repr

/-! ## Options -/

namespace Switch

/-- Shows the help page. -/
def help : Switch where
  name := "help"
  summary := "Show this message and exit."

/-- Shows the version of the tool. -/
def version : Switch where
  name := "version"
  summary := "Show the version and exit."

/-- Where the scene file goes. -/
def output : Switch where
  name := "output"
  letter := some 'o'
  taking := some .path
  summary := "Output GLB file path. Defaults to input name with .glb extension."

/-- Codes of warnings that end a run. -/
def promoted : Switch where
  name := "warn-as-error"
  taking := some .text
  summary := "Comma-separated W-codes or names to treat as errors (e.g. W01,DuplicateRuleSymbol)."

/-- Codes of warnings that are dropped. -/
def suppressed : Switch where
  name := "suppress-warning"
  taking := some .text
  summary := "Comma-separated W-codes or names to suppress (e.g. OriginPoint)."

/-- Where the manifest goes. -/
def manifest : Switch where
  name := "emit-manifest"
  taking := some .path
  summary := "Write a JSON build manifest to this path after a successful build."

/-- How an inspection is printed. -/
def format : Switch where
  name := "format"
  taking := some (.word ["text", "json"])
  usual := some "text"
  summary := "Inspection output format."

/-- The pillars that are reported; may be given many times. -/
def selected : Switch where
  name := "pillar"
  taking := some .text
  summary := "Restrict output to selected pillar id(s). May be repeated."

/-- How long a string may be that is built for an inspection. -/
def limit : Switch where
  name := "max-symbols"
  taking := some .count
  usual := some (toString Inspection.defaultLimit)
  summary := "Skip mesh statistics for L-systems whose expansion would exceed this length."

/-- The pillar whose string is printed. -/
def pillar : Switch where
  name := "pillar"
  taking := some .text
  needed := true
  summary := "Id of the lsystem pillar to expand."

/-- How many rounds are made, instead of what the pillar says. -/
def rounds : Switch where
  name := "iterations"
  taking := some .count
  summary := "Override the pillar's iteration count."

end Switch

namespace Command

/-- All commands, in order of name. -/
def all : List Command := [.build, .expand, .inspect]

/-- The name of a command. -/
def name : Command → String
  | .build => "build"
  | .expand => "expand"
  | .inspect => "inspect"

/-- What a command does. -/
def summary : Command → String
  | .build => "Build a .pillar.yaml spec into a GLB."
  | .expand => "Print the expanded L-system string of one pillar."
  | .inspect => "Report expansion growth and mesh statistics without writing a GLB."

/-- The options of a command, without the one for help. -/
def ownSwitches : Command → List Switch
  | .build => [.output, .promoted, .suppressed, .manifest]
  | .expand => [.pillar, .rounds]
  | .inspect => [.format, .selected, .limit, .promoted, .suppressed]

/-- The options of a command. -/
def switches (c : Command) : List Switch := c.ownSwitches ++ [.help]

/-- The command with a given name. -/
def ofName? (name : String) : Option Command := all.find? fun c => c.name == name

@[simp] theorem ofName?_name (c : Command) : ofName? c.name = some c := by
  cases c <;> decide

end Command

/-! ## Usage -/

/-- What is used: the tool as a whole, or a command. -/
abbrev Used := Option Command

namespace Used

/-- How it is called. -/
def call : Used → String
  | none => "pillargen"
  | some c => "pillargen " ++ c.name

/-- The line on usage. -/
def usage (u : Used) : String :=
  "Usage: " ++ u.call ++
    match u with
    | none => " [OPTIONS] COMMAND [ARGS]..."
    | some _ => " [OPTIONS] INPUT_FILE"

/-- The options of the tool. -/
def toolSwitches : List Switch := [.version, .help]

/-- The section with all commands. -/
def commandLines : List String :=
  Help.sectionLines "Commands" (Command.all.map fun c => ⟨c.name, Help.wordsOf c.summary⟩)

/-- The help page. -/
def page (u : Used) : String :=
  match u with
  | none =>
    Help.page u.usage "pillargen: L-system driven procedural pillar meshes."
      [Help.switchLines toolSwitches, commandLines]
  | some c => Help.page u.usage c.summary [Help.switchLines c.switches]

/-- The lines that go before the message of a misuse. -/
def hint (u : Used) : String :=
  u.usage ++ "\nTry '" ++ u.call ++ " --help' for help.\n\n"

end Used

/-! ## Requests -/

/-- The lists of warning codes that are given. -/
structure CodeLists where
  promoted : Option String := none
  suppressed : Option String := none
  deriving DecidableEq, Repr

/-- How an inspection is printed. -/
inductive Format where
  | text
  | json
  deriving DecidableEq, Repr

/-- What a command is asked to do. -/
inductive Request where
  | build (input : Files.Path) (output manifest : Option Files.Path) (codes : CodeLists)
  | inspect (input : Files.Path) (format : Format) (selected : List String) (limit : Nat)
    (codes : CodeLists)
  | expand (input : Files.Path) (pillar : String) (rounds : Option Nat)
  deriving DecidableEq, Repr

namespace Given

/-- The path given for an option. -/
def path? (g : Given) (s : Switch) : Option Files.Path := (g.value? s).map Files.Path.ofText

/-- The number given for an option. -/
def count? (g : Given) (s : Switch) : Except Misuse (Option Nat) :=
  match g.value? s with
  | none => .ok none
  | some value => (s.countOf value).map some

/-- The lists of warning codes. -/
def codes (g : Given) : CodeLists := ⟨g.value? .promoted, g.value? .suppressed⟩

/-- The format of an inspection. -/
def format (g : Given) : Format := if g.value? .format = some "json" then .json else .text

end Given

namespace Command

/-- The name of the one operand. -/
def operandName : String := "INPUT_FILE"

/-- The one operand: something must be at its path. -/
def operand (t : Files.Tree) (g : Given) : Except Misuse String :=
  match g.operands with
  | [] => .error (.operandMissing operandName)
  | text :: _ =>
    if Files.hasZero text then .error .notAPath
    else if t.exists? text then .ok text else .error (.nothingAt operandName text)

/-- The request with a given input. -/
def request (c : Command) (g : Given) (input : Files.Path) : Except Misuse Request :=
  match c with
  | .build => .ok (.build input (g.path? .output) (g.path? .manifest) g.codes)
  | .inspect => do
    let limit ← g.count? .limit
    pure (.inspect input g.format (g.values .selected) (limit.getD Inspection.defaultLimit.toNat)
      g.codes)
  | .expand => do
    let rounds ← g.count? .rounds
    match g.value? .pillar with
    | some id => pure (.expand input id rounds)
    | none => .error (.optionMissing Switch.pillar.spelling)

/-- What is asked for by what is given.  The values of options are looked at first, then the
operand, then whether an option is missing, and operands that are left over come last. -/
def ask (c : Command) (t : Files.Tree) (g : Given) : Except Misuse Request :=
  match g.valueFault? with
  | some cause => .error cause
  | none => do
    let input ← operand t g
    match g.missing? c.switches with
    | some s => .error (.optionMissing s.spelling)
    | none =>
      if g.operands.tail.isEmpty then c.request g (.ofText input)
      else .error (.leftOver g.operands.tail)

end Command

/-! ## Command lines -/

/-- What a command line asks for: to be shown some text, or a request. -/
inductive Order where
  | display (text : String)
  | request (r : Request)
  deriving DecidableEq, Repr

/-- Why a command line asks for nothing: it is empty, or something used is misused. -/
inductive Refusal where
  | nothingGiven
  | misuse (used : Used) (cause : Misuse)
  deriving DecidableEq, Repr

namespace Order

/-- What the version option shows. -/
def versionText (version : String) : String := "pillargen, version " ++ version ++ "\n"

/-- What an option shows instead of doing anything. -/
def ofSwitch? (version : String) (used : Used) (s : Switch) : Option Order :=
  if s = .help then some (.display used.page)
  else if s = .version then some (.display (versionText version))
  else none

/-- What the first option that only shows something shows. -/
def ofGiven? (version : String) (used : Used) (g : Given) : Option Order :=
  g.options.findSome? fun o => ofSwitch? version used o.1

/-- What the arguments of a command ask for. -/
def ofCommand (version : String) (t : Files.Tree) (c : Command) (args : List String) :
    Except Refusal Order :=
  let order : Except Misuse Order := do
    let g ← Given.of c.switches false args
    match ofGiven? version (some c) g with
    | some order => pure order
    | none => do
      let r ← c.ask t g
      pure (.request r)
  order.mapError (.misuse (some c))

/-- What an unknown command asks for.  If it looks like an option it is taken for one. -/
def ofUnknown (version : String) (name : String) (args : List String) : Except Refusal Order :=
  match Given.of Used.toolSwitches true (name :: args) with
  | .error cause => .error (.misuse none cause)
  | .ok g =>
    match ofGiven? version none g with
    | some order => .ok order
    | none =>
      .error (.misuse none (.unknownCommand name (Text.closeNames (Command.all.map Command.name) name)))

/-- What a command line asks for. -/
def of (version : String) (t : Files.Tree) (args : List String) : Except Refusal Order :=
  if args.isEmpty then .error .nothingGiven
  else
    match Given.of Used.toolSwitches true args with
    | .error cause => .error (.misuse none cause)
    | .ok g =>
      match ofGiven? version none g with
      | some order => .ok order
      | none =>
        match g.operands with
        | [] => .error (.misuse none .noCommand)
        | name :: args =>
          match Command.ofName? name with
          | some c => ofCommand version t c args
          | none => ofUnknown version name args

end Order

/-- Whether a refusal is about how the tool is used; else no file can have a path that is given. -/
def Refusal.isReported : Refusal → Bool
  | .misuse _ .notAPath => false
  | _ => true

/-- The wording of a refusal. -/
def Refusal.text : Refusal → String
  | .nothingGiven => Used.page none
  | .misuse used cause =>
    (if cause.isBare then "" else used.hint) ++ "Error: " ++ cause.message ++ "\n"

end Colonnade.Cli
