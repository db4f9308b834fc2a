import Colonnade.Cli.Switch

/-!
# Arguments

A command line is a row of arguments: options, their values, and operands.  An argument that
starts with a dash and has more letters is an option.  The value of an option follows an equals
sign or a letter, or else is the next argument, whatever that looks like.  After two dashes alone
everything is an operand.
-/

namespace Colonnade.Cli

/-- What is given on a command line: options with their values, in order, and operands.  Flags
have an empty value. -/
structure Given where
  options : List (Switch × String) := []
  operands : List String := []
  deriving DecidableEq, Repr

/-- What one argument is. -/
inductive Argument where
  | operand
  /-- An option as it is spelled, perhaps with a value. -/
  | option (s : Switch) (spelling : String) (attached : Option String)
  deriving DecidableEq, Repr

namespace Argument

/-- A long option, with what follows its first equals sign. -/
def ofLong (switches : List Switch) (arg : String) : Except Misuse Argument :=
  let spelling := String.ofList (arg.toList.takeWhile (· ≠ '='))
  match switches.find? fun s => s.spelling == spelling with
  | none =>
    .error (.unknownOption spelling (Text.closeNames (switches.map Switch.spelling) spelling))
  | some s =>
    match arg.toList.dropWhile (· ≠ '=') with
    | [] => .ok (.option s spelling none)
    | _ :: value => .ok (.option s spelling (some (String.ofList value)))

/-- An option with a letter, with what follows the letter. -/
def ofLetter (switches : List Switch) (letter : Char) (value : List Char) :
    Except Misuse Argument :=
  let spelling := Switch.letterSpelling letter
  match switches.find? fun s => s.letter == some letter with
  | none => .error (.unknownOption spelling [])
  | some s =>
    .ok (.option s spelling (if value.isEmpty then none else some (String.ofList value)))

/-- What an argument is, among some options. -/
def of (switches : List Switch) (arg : String) : Except Misuse Argument :=
  match arg.toList with
  | '-' :: '-' :: _ => ofLong switches arg
  | '-' :: letter :: value => ofLetter switches letter value
  | _ => .ok .operand

end Argument

namespace Given

/-- What is given, after one more option. -/
def consOption (s : Switch) (value : String) (g : Given) : Given :=
  { g with options := (s, value) :: g.options }

/-- What is given, after one more operand. -/
def consOperand (operand : String) (g : Given) : Given :=
  { g with operands := operand :: g.operands }

/-- What arguments give.  If options must come first, everything from the first operand on is an
operand. -/
def of (switches : List Switch) (optionsFirst : Bool) : List String → Except Misuse Given
  | [] => .ok {}
  | arg :: rest =>
    if arg = "--" then .ok { operands := rest }
    else
      match Argument.of switches arg with
      | .error cause => .error cause
      | .ok .operand =>
        if optionsFirst then .ok { operands := arg :: rest }
        else (of switches optionsFirst rest).map (consOperand arg)
      | .ok (.option s spelling attached) =>
        match s.taking, attached with
        | none, none => (of switches optionsFirst rest).map (consOption s "")
        | none, some _ => .error (.valueUnwanted spelling)
        | some _, some value => (of switches optionsFirst rest).map (consOption s value)
        | some _, none =>
          match rest with
          | [] => .error (.valueMissing spelling)
          | value :: rest => (of switches optionsFirst rest).map (consOption s value)

/-- Arguments without dashes are all operands. -/
theorem of_operands (switches : List Switch) {args : List String}
    (h : ∀ arg ∈ args, arg.toList.head? ≠ some '-') :
    of switches false args = .ok { operands := args } := by
  induction args with
  | nil => rfl
  | cons arg rest ih =>
    have harg := h arg List.mem_cons_self
    have hne : arg ≠ "--" := by
      intro heq
      subst heq
      exact harg (by decide)
    have hoperand : Argument.of switches arg = .ok .operand := by
      unfold Argument.of
      split <;> rename_i heq
      · simp [heq] at harg
      · simp [heq] at harg
      · rfl
    rw [of, if_neg hne, hoperand, ih fun a ha => h a (List.mem_cons_of_mem _ ha)]
    rfl

/-- The values given for an option, in order. -/
def values (g : Given) (s : Switch) : List String :=
  (g.options.filter fun o => o.1.name == s.name).map Prod.snd

/-- The value that counts for an option: the last one. -/
def value? (g : Given) (s : Switch) : Option String := (g.values s).getLast?

/-- What is wrong with the values that count, in the order in which options first appear. -/
def valueFault? (g : Given) : Option Misuse :=
  g.options.findSome? fun o => (g.value? o.1).bind o.1.fault?

/-- The first option of some options that is needed and not given. -/
def missing? (g : Given) (switches : List Switch) : Option Switch :=
  switches.find? fun s => s.needed && (g.values s).isEmpty

end Given

end Colonnade.Cli
