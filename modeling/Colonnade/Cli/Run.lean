import Colonnade.Cli.Command
import Colonnade.Gltf.File
import Colonnade.Inspection.Text
import Colonnade.Manifest
import Colonnade.Spec.Check
import Colonnade.Spec.Edit
import Colonnade.Spec.Source
import Colonnade.Text.Terminal

/-!
# Running requests

A run reads and writes a tree of files, prints text, and records warnings.  A step that fails ends
the run, but what was written, printed and recorded before stays.  Every fault ends with exit
code 1 or 2.  Faults of files, specifications and options are reported in one message; a fault of
another kind is left to whoever started the run, and nothing is printed about it.
-/

namespace Colonnade.Cli

/-! ## Failures -/

/-- Why a run fails. -/
inductive Failure where
  | refusal (cause : Refusal)
  | code (cause : UnknownCode)
  | source (cause : SourceFault)
  | spec (cause : SpecFault)
  | generation (stop : Stop GenerationFault)
  | scene (cause : Gltf.ExportFault)
  | manifest (cause : Files.Fault)
  | payload (cause : Inspection.RenderFault)
  | printing (cause : Text.Unprintable)

namespace Failure

/-- The wording of a failure. -/
def message : Failure → String
  | .refusal (.misuse _ .notAPath) => Files.zeroMessage
  | .refusal cause => cause.text
  | .code cause => cause.message
  | .source cause => cause.message
  | .spec cause => cause.message
  | .generation (.promoted warning) => warning.text
  | .generation (.fault cause) => cause.message
  | .scene cause => cause.message
  | .manifest cause => cause.message
  | .payload cause => cause.message
  | .printing cause => cause.message

/-- Whether a document's fault is reported; faults of single values are not. -/
def reportsDocument : LoadFault → Bool
  | .yaml (.malformed _) => true
  | .yaml _ => false
  | .tooLarge => false
  | .fieldName => false
  | _ => true

/-- Whether a fault of a source is reported. -/
def reportsSource : SourceFault → Bool
  | .file cause => cause.cause != .zeroByte
  | .encoding _ => false
  | .document cause => reportsDocument cause

/-- Whether a broken rule is reported; what is not set or cannot be written is not. -/
def reportsSpec : SpecFault → Bool
  | .unwritable => false
  | .unset _ => false
  | _ => true

/-- Whether a fault of generation is reported; only those that name a pillar and columns of too few
segments are. -/
def reportsGeneration : GenerationFault → Bool
  | .noLSystem _ _ => true
  | .unknownForm _ _ => true
  | .column (.tooFewSegments _) => true
  | _ => false

/-- Whether a failure is reported. -/
def isReported : Failure → Bool
  | .refusal cause => cause.isReported
  | .source cause => reportsSource cause
  | .spec cause => reportsSpec cause
  | .generation (.fault cause) => reportsGeneration cause
  | .manifest _ => false
  | .payload _ => false
  | .printing _ => false
  | _ => true

/-- What is printed about a failure. -/
def report (f : Failure) : String :=
  if f.isReported then
    match f with
    | .refusal cause => cause.text
    | _ => "Error: " ++ f.message ++ "\n"
  else ""

/-- The exit code of a failure. -/
def exitCode : Failure → Nat
  | .refusal cause => if cause.isReported then 2 else 1
  | _ => 1

end Failure

/-! ## Steps -/

/-- What a run has done so far. -/
structure World where
  files : Files.Tree
  printed : String := ""
  warnings : List Warning := []

/-- A step of a run. -/
abbrev Step (α : Type) : Type := ExceptT Failure (StateM World) α

namespace Step

variable {ε α : Type}

/-- Goes on with a result, or fails. -/
def ofExcept (fail : ε → Failure) (r : Except ε α) : Step α :=
  match r with
  | .ok value => pure value
  | .error cause => throw (fail cause)

/-- Goes on with the value of a report, whose warnings are recorded either way. -/
def ofReport (fail : Stop ε → Failure) (policy : Policy) (m : Report ε α) : Step α := do
  let outcome := m.run policy
  modify fun w => { w with warnings := w.warnings ++ outcome.warnings }
  ofExcept fail outcome.result

/-- Prints some text, without terminal sequences. -/
def print (text : Text.Loose) : Step Unit := do
  let text ← ofExcept .printing (Text.printed text)
  modify fun w => { w with printed := w.printed ++ text }

/-- The files as they are now. -/
def files : Step Files.Tree := do
  let w ← get
  pure w.files

/-- Changes the files. -/
def putFiles (t : Files.Tree) : Step Unit :=
  modify fun w => { w with files := t }

end Step

/-! ## Commands -/

/-- The codes in a list that may not be given; an empty list selects nothing. -/
def codesOf (raw : Option String) : Except UnknownCode (List String) :=
  match raw with
  | none => .ok []
  | some raw => if raw = "" then .ok [] else (Code.parseList raw).map fun cs => cs.map Code.text

/-- The policy that lists of codes select. -/
def CodeLists.policy (lists : CodeLists) : Except UnknownCode Policy := do
  let promoted ← codesOf lists.promoted
  let suppressed ← codesOf lists.suppressed
  pure ⟨promoted, suppressed⟩

/-- The specification in a file, after all checks. -/
def loadSpec (input : Files.Path) : Step Spec := do
  let spec ← Step.ofExcept .source (Spec.ofFile (← Step.files) input)
  Step.ofExcept .spec spec.validate
  pure spec

/-- The endings of specification files; the first that fits is meant. -/
def specEndings : List String := [".pillar.yaml", ".pillar.yml", ".yaml", ".yml"]

/-- A name without the ending of a specification file. -/
def stemOf (name : String) : String :=
  match specEndings.find? fun ending => ending.toList.isSuffixOf name.toList with
  | none => name
  | some ending => String.ofList (name.toList.take (name.length - ending.length))

/-- Where the scene file of an input goes by itself. -/
def defaultOutput (input : Files.Path) : Files.Path :=
  input.withName (stemOf input.name ++ ".glb")

/-- A misuse that shows only when the specification is known. -/
def misuse (c : Command) (cause : Misuse) : Failure := .refusal (.misuse (some c) cause)

/-- Writes the manifest of a build. -/
def writeManifest (s : Surroundings) (arguments : List String) (input output path : Files.Path)
    (gs : List Generated) : Step Unit := do
  let m ← Step.ofExcept .manifest
    (Manifest.of s (← Step.files) input output gs (some arguments))
  let t ← Step.ofExcept .manifest ((← Step.files).write path (Text.Utf8.encode m.text))
  Step.putFiles t

/-- Builds the scene file of a specification. -/
def buildScene (s : Surroundings) (arguments : List String) (input : Files.Path)
    (output manifest : Option Files.Path) (lists : CodeLists) : Step Unit := do
  let policy ← Step.ofExcept .code lists.policy
  let output := output.getD (defaultOutput input)
  let spec ← loadSpec input
  let gs ← Step.ofReport .generation policy spec.generate
  let t ← Step.ofExcept .scene (Gltf.write (← Step.files) output gs)
  Step.putFiles t
  match manifest with
  | none => pure ()
  | some path => writeManifest s arguments input output path gs
  Step.print ↑("Built: " ++ output.text ++ "\n")

/-- Reports on a specification. -/
def printInspection (input : Files.Path) (format : Format) (selected : List String) (limit : Nat)
    (lists : CodeLists) : Step Unit := do
  let policy ← Step.ofExcept .code lists.policy
  let spec ← loadSpec input
  let unknown := spec.unknownIds selected
  if unknown.isEmpty then
    let selection := if selected.isEmpty then none else some (selected.map Text.Loose.ofText)
    let found ← Step.ofReport .generation policy (spec.inspect selection limit)
    match format with
    | .json =>
      let text ← Step.ofExcept .payload (Inspection.documentText found)
      Step.print ↑(text ++ "\n")
    | .text =>
      let text ← Step.ofExcept .payload (Inspection.render found.toJson)
      Step.print text
  else throw (misuse .inspect (.unknownPillars unknown))

/-- The first pillar with an id, which must be an L-system. -/
def findLSystem (spec : Spec) (id : String) : Except Misuse Pillar :=
  match spec.pillars.find? fun p => p.id == Text.Loose.ofText id with
  | none => .error (.unknownPillar id)
  | some p =>
    match p.form? with
    | some .lsystem => .ok p
    | _ => .error (.notAnLSystem id p.label)

/-- A pillar with another number of rounds, if one is given. -/
def withRounds (rounds : Option Nat) (p : Pillar) : Pillar :=
  match rounds with
  | some n => p.edit (.iterations (some n))
  | none => p

/-- Prints the string of an L-system. -/
def printSymbols (input : Files.Path) (id : String) (rounds : Option Nat) : Step Unit := do
  let spec ← loadSpec input
  let p ← Step.ofExcept (misuse .expand) (findLSystem spec id)
  let table ← Step.ofReport .generation .permissive p.table
  let symbols ← Step.ofReport .generation .permissive ((withRounds rounds p).symbols table)
  Step.print (symbols ++ Text.Loose.ofText "\n")

/-- Does what is asked for. -/
def Request.perform (s : Surroundings) (arguments : List String) : Request → Step Unit
  | .build input output manifest lists =>
    buildScene s arguments input output manifest lists
  | .inspect input format selected limit lists =>
    printInspection input format selected limit lists
  | .expand input id rounds => printSymbols input id rounds

/-- Reads a command line and does what it asks for. -/
def perform (s : Surroundings) (arguments : List String) : Step Unit := do
  match ← Step.ofExcept .refusal (Order.of toolVersion (← Step.files) arguments) with
  | .display text => Step.print text
  | .request r => r.perform s arguments

/-! ## Results -/

/-- What a run leaves behind. -/
structure Result where
  exitCode : Nat
  output : String
  errors : String
  files : Files.Tree
  warnings : List Warning
  unreported : Option Failure

/-- Runs a command line. -/
def run (s : Surroundings) (t : Files.Tree) (arguments : List String) : Result :=
  let (ended, w) := ((perform s arguments).run).run { files := t }
  match ended with
  | .ok () => ⟨0, w.printed, "", w.files, w.warnings, none⟩
  | .error f =>
    ⟨f.exitCode, w.printed, Text.withoutSequences f.report, w.files, w.warnings,
      if f.isReported then none else some f⟩

end Colonnade.Cli
