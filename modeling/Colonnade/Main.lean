import Colonnade.Cli.Run
import Colonnade.Document.Clock
import Colonnade.Revision
import Std.Time.DateTime.Timestamp

/-!
# The program

The program looks at the files that its arguments may name, runs the command line on them, writes
back the files that changed, and prints.
-/

namespace Colonnade.Program

/-! ## Looking at files -/

/-- What is at a place. -/
inductive Found where
  | file (bytes : List UInt8)
  | directory
  | nothing

/-- How the system writes a place. -/
def placeText (l : Files.Location) : String := "/" ++ "/".intercalate l

/-- The place that the system writes. -/
def placeOf (text : String) : Files.Location := (Files.Path.ofText text).names

/-- Looks at a place. -/
def look (l : Files.Location) : IO Found := do
  try
    let bytes ← IO.FS.readBinFile (placeText l)
    pure (.file bytes.toList)
  catch
    | .inappropriateType .. => pure .directory
    | _ => pure .nothing

/-- A tree with what is found on the way along names. -/
def gather (t : Files.Tree) (here : Files.Location) : List String → IO Files.Tree
  | [] => pure t
  | name :: rest => do
    let there := here.enter name
    match ← look there with
    | .file bytes => pure (t.addFile there bytes)
    | .directory => gather (t.addDirectory there) there rest
    | .nothing => pure t

/-- The texts in an argument that may be paths: all of it, what follows an equals sign, and what
follows a letter. -/
def pathTexts (argument : String) : List String :=
  [argument, String.ofList ((argument.toList.dropWhile (· ≠ '=')).drop 1),
    String.ofList (argument.toList.drop 2)]

/-- The paths that an argument may name or lead to. -/
def pathsIn (argument : String) : List Files.Path :=
  ((pathTexts argument).map Files.Path.ofText).flatMap fun p => [p, Cli.defaultOutput p]

/-- The files that arguments may name. -/
def survey (start : Files.Location) (arguments : List String) : IO Files.Tree :=
  (arguments.flatMap pathsIn).foldlM (fun t p => gather t (t.base p) p.names)
    (Files.Tree.startingIn start)

/-! ## Looking around -/

/-- The text of the file at a place, if there is one. -/
def textAt? (l : Files.Location) : IO (Option String) := do
  match ← look l with
  | .file bytes =>
    pure ((Text.Utf8.decode bytes).toOption.map String.ofList)
  | _ => pure none

/-- The revision of a branch, from the files kept at a place. -/
def branchRevision? (kept : Files.Location) (name : String) : IO (Option String) := do
  match ← textAt? (kept ++ placeOf name) with
  | some text => pure (some (Revision.trimmed text))
  | none =>
    let list ← textAt? (kept ++ ["packed-refs"])
    pure (list.bind (Revision.packed? name))

/-- The revision of the innermost work tree around a place.  The places from the root down to it
are given by how many names they have. -/
def revision? (l : Files.Location) : Nat → IO (Option String)
  | 0 => pure none
  | count + 1 => do
    let kept := l.take count ++ [".git"]
    match ← textAt? (kept ++ ["HEAD"]) with
    | none => revision? l count
    | some text =>
      match Revision.Head.ofText text with
      | .revision text => pure (some text)
      | .branch name => branchRevision? kept name

/-- The present time. -/
def timeText : IO String := do
  let now ← Std.Time.Timestamp.now
  let micros := now.toNanosecondsSinceUnixEpoch.val.toNat / 1000
  pure ((Document.Moment.ofClock micros).text "T")

/-- The surroundings of a run. -/
def surroundings (start : Files.Location) : IO Surroundings := do
  let revision ← revision? start (start.length + 1)
  let time ← timeText
  pure { runtime := "4.33.0", revision := revision, time := time }

/-! ## Running -/

/-- Writes the files that differ from a tree. -/
def writeBack (before : Files.Tree) (after : Files.Tree) : IO Unit :=
  after.files.forM fun (l, bytes) =>
    if before.content? l = some bytes then pure ()
    else IO.FS.writeBinFile (placeText l) ⟨bytes.toArray⟩

/-- Runs a command line. -/
def run (arguments : List String) : IO UInt32 := do
  let start := placeOf (toString (← IO.currentDir))
  let t ← survey start arguments
  let r := Cli.run (← surroundings start) t arguments
  writeBack t r.files
  IO.print r.output
  r.warnings.forM fun w => IO.eprintln w.text
  IO.eprint r.errors
  match r.unreported with
  | some f => IO.eprintln f.message
  | none => pure ()
  pure (.ofNat r.exitCode)

end Colonnade.Program

/-- Runs the command line that the program is started with. -/
def main (arguments : List String) : IO UInt32 :=
  Colonnade.Program.run arguments
