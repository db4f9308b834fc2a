import Colonnade.Files.Path
import Colonnade.Number.Integer
import Colonnade.Text.Likeness

/-!
# Options and misuse

An option has a long spelling, perhaps a letter, and usually a value; one without a value is a
flag.  `Misuse` lists what can be wrong with a command line.  A name that is not known is answered
with the known names that are close to it.
-/

namespace Colonnade.Cli

/-! ## Options -/

/-- What the value of an option is. -/
inductive Taking where
  | text
  | path
  /-- One of some words. -/
  | word (choices : List String)
  /-- A whole number that is not negative. -/
  | count
  deriving DecidableEq, Repr

/-- An option.  A flag takes nothing; what the value usually is is only shown. -/
structure Switch where
  name : String
  letter : Option Char := none
  taking : Option Taking := none
  needed : Bool := false
  usual : Option String := none
  summary : String
  deriving DecidableEq, Repr

namespace Switch

/-- The long spelling. -/
def spelling (s : Switch) : String := "--" ++ s.name

/-- The spelling with a letter. -/
def letterSpelling (letter : Char) : String := String.ofList ['-', letter]

/-- All spellings, the short one first. -/
def spellings (s : Switch) : List String :=
  (s.letter.map letterSpelling).toList ++ [s.spelling]

end Switch

/-! ## Misuse -/

/-- What is wrong with a command line. -/
inductive Misuse where
  | unknownOption (spelling : String) (close : List String)
  | valueMissing (spelling : String)
  | valueUnwanted (spelling : String)
  | optionMissing (spelling : String)
  | operandMissing (name : String)
  | nothingAt (name path : String)
  /-- No path has a character with number zero. -/
  | notAPath
  | notAWord (spelling value : String) (choices : List String)
  | notACount (spelling value : String)
  | negative (spelling : String) (value : Int)
  | leftOver (operands : List String)
  | noCommand
  | unknownCommand (name : String) (close : List String)
  | unknownPillars (ids : List String)
  | unknownPillar (id : String)
  | notAnLSystem (id label : String)
  deriving DecidableEq, Repr

namespace Misuse

/-- A spelling or a name of an operand in plain single quotes. -/
def named (name : String) : String := "'" ++ name ++ "'"

/-- The opening words of a message about a value. -/
def invalid (name : String) : String := "Invalid value for " ++ named name ++ ": "

/-- The words about what may be meant by a name that is not known. -/
def hint : List String → String
  | [] => ""
  | [name] => " Did you mean " ++ Text.quoted name ++ "?"
  | names => " (Did you mean one of: " ++ ", ".intercalate (names.map Text.quoted) ++ "?)"

/-- The wording of a misuse. -/
def message : Misuse → String
  | .unknownOption spelling close =>
    "No such option " ++ Text.quoted spelling ++ "." ++ hint close
  | .valueMissing spelling => "Option " ++ Text.quoted spelling ++ " requires an argument."
  | .valueUnwanted spelling => "Option " ++ Text.quoted spelling ++ " does not take a value."
  | .optionMissing spelling => "Missing option " ++ named spelling ++ "."
  | .operandMissing name => "Missing argument " ++ named name ++ "."
  | .nothingAt name path => invalid name ++ "Path " ++ Text.quoted path ++ " does not exist."
  | .notAPath => Files.zeroMessage
  | .notAWord spelling value choices =>
    invalid spelling ++ Text.quoted value ++ " is not one of " ++
      ", ".intercalate (choices.map Text.quoted) ++ "."
  | .notACount spelling value =>
    invalid spelling ++ Text.quoted value ++ " is not a valid integer range."
  | .negative spelling value =>
    invalid spelling ++ toString value ++ " is not in the range x>=0."
  | .leftOver [operand] => "Got unexpected extra argument (" ++ operand ++ ")"
  | .leftOver operands => "Got unexpected extra arguments (" ++ " ".intercalate operands ++ ")"
  | .noCommand => "Missing command."
  | .unknownCommand name close => "No such command " ++ Text.quoted name ++ "." ++ hint close
  | .unknownPillars ids =>
    "Unknown pillar id(s): " ++ ", ".intercalate (ids.map Text.quoted)
  | .unknownPillar id => "Unknown pillar id: " ++ Text.quoted id
  | .notAnLSystem id label =>
    "Pillar " ++ Text.quoted id ++ " is " ++ Text.quoted label ++ ", not 'lsystem'"

/-- Whether a misuse is noticed before it is known what is being used; no usage is shown then. -/
def isBare : Misuse → Bool
  | .valueMissing _ => true
  | .valueUnwanted _ => true
  | _ => false

end Misuse

/-! ## Values -/

namespace Switch

/-- The number that a text writes as the value of an option. -/
def countOf (s : Switch) (value : String) : Except Misuse Nat :=
  match Number.readInteger 10 value.toList with
  | .error _ => .error (.notACount s.spelling value)
  | .ok n => if n < 0 then .error (.negative s.spelling n) else .ok n.toNat

/-- What is wrong with a value of an option, if anything. -/
def fault? (s : Switch) (value : String) : Option Misuse :=
  match s.taking with
  | some .path => if Files.hasZero value then some .notAPath else none
  | some (.word choices) =>
    if choices.contains value then none else some (.notAWord s.spelling value choices)
  | some .count =>
    match s.countOf value with
    | .error cause => some cause
    | .ok _ => none
  | _ => none

/-- A number is read whenever nothing is wrong with it. -/
theorem countOf_of_fault?_eq_none {s : Switch} {value : String} (ht : s.taking = some .count)
    (h : s.fault? value = none) : ∃ n, s.countOf value = .ok n := by
  unfold fault? at h
  rw [ht] at h
  cases hc : s.countOf value with
  | error cause => simp [hc] at h
  | ok n => exact ⟨n, rfl⟩

end Switch

end Colonnade.Cli
