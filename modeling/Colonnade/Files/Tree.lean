import Colonnade.Files.Path
import Colonnade.Text.Quoted

/-!
# A tree of files

The files that a run can see: directories, and files with their content, by where they are below
the root.  A path starts at the root or at the directory that the run starts in, and is followed
name by name, so every name but the last must be a directory.  Writing makes or replaces one file
and never a directory.
-/

namespace Colonnade.Files

/-- Where something is, from the root down. -/
abbrev Location := List String

/-- Where one more name leads.  Double dots lead up, but not beyond the root. -/
def Location.enter (here : Location) (name : String) : Location :=
  if name = ".." then here.dropLast else here ++ [name]

/-- The directory that a run starts in, directories and files.  The root is not listed. -/
structure Tree where
  start : Location := []
  directories : List Location := []
  files : List (Location × List UInt8) := []

/-- What goes wrong with a path. -/
inductive Cause where
  | missing
  | isDirectory
  | notDirectory
  | tooLong
  | zeroByte
  deriving DecidableEq, Repr

/-- A fault of a path. -/
structure Fault where
  cause : Cause
  path : Path
  deriving DecidableEq, Repr

/-- The wording of a cause, after its number if it has one. -/
def Cause.text : Cause → String
  | .missing => "[Errno 2] No such file or directory"
  | .isDirectory => "[Errno 21] Is a directory"
  | .notDirectory => "[Errno 20] Not a directory"
  | .tooLong => "[Errno 36] File name too long"
  | .zeroByte => zeroMessage

/-- The wording of a fault, which shows the path if it is one. -/
def Fault.message (f : Fault) : String :=
  match f.cause with
  | .zeroByte => f.cause.text
  | _ => f.cause.text ++ ": " ++ Text.quoted f.path.text

namespace Tree

/-- Whether a location is a directory. -/
def isDirectory (t : Tree) (l : Location) : Bool :=
  l.isEmpty || t.directories.contains l

/-- The content of a file. -/
def content? (t : Tree) (l : Location) : Option (List UInt8) :=
  t.files.lookup l

/-- Follows names from a directory, to where the last of them is or would be. -/
def follow (t : Tree) : Location → List String → Except Cause Location
  | here, [] => .ok here
  | here, name :: rest =>
    let there := here.enter name
    if nameLimit < name.utf8ByteSize then .error .tooLong
    else if rest.isEmpty then .ok there
    else if t.isDirectory there then t.follow there rest
    else if (t.content? there).isSome then .error .notDirectory
    else .error .missing

/-- Where the names of a path start. -/
def base (t : Tree) (p : Path) : Location := if p.fromRoot then [] else t.start

/-- Where a path leads. -/
def locate (t : Tree) (p : Path) : Except Cause Location :=
  if hasZero p.text then .error .zeroByte
  else if pathLimit ≤ p.text.utf8ByteSize then .error .tooLong
  else t.follow (t.base p) p.names

/-- Whether something is at a path; its text may ask for a directory. -/
def exists? (t : Tree) (text : String) : Bool :=
  if text = "" || pathLimit ≤ text.utf8ByteSize then false
  else
    match t.locate (.ofText text) with
    | .error _ => false
    | .ok l =>
      t.isDirectory l || ((t.content? l).isSome && !Path.asksForDirectory text)

/-- The content of the file at a path. -/
def read (t : Tree) (p : Path) : Except Fault (List UInt8) :=
  match t.locate p with
  | .error cause => .error ⟨cause, p⟩
  | .ok l =>
    if t.isDirectory l then .error ⟨.isDirectory, p⟩
    else
      match t.content? l with
      | some bytes => .ok bytes
      | none => .error ⟨.missing, p⟩

/-- Files with the content of one replaced, or with a new one at the end. -/
def put (l : Location) (bytes : List UInt8) :
    List (Location × List UInt8) → List (Location × List UInt8)
  | [] => [(l, bytes)]
  | (k, old) :: rest => if k = l then (k, bytes) :: rest else (k, old) :: put l bytes rest

/-- The tree with one more file. -/
def addFile (t : Tree) (l : Location) (bytes : List UInt8) : Tree :=
  { t with files := put l bytes t.files }

/-- The tree after a file is written at a path. -/
def write (t : Tree) (p : Path) (bytes : List UInt8) : Except Fault Tree :=
  match t.locate p with
  | .error cause => .error ⟨cause, p⟩
  | .ok l =>
    if t.isDirectory l then .error ⟨.isDirectory, p⟩
    else .ok (t.addFile l bytes)

/-- The tree with a directory and all directories above it. -/
def addDirectory (t : Tree) (l : Location) : Tree :=
  let above := (List.range l.length).map fun n => l.take (n + 1)
  { t with directories := t.directories ++ above.filter fun d => !t.isDirectory d }

/-- The tree with nothing but the directory that a run starts in. -/
def startingIn (start : Location) : Tree := ({ start := start } : Tree).addDirectory start

theorem lookup_put (l : Location) (bytes : List UInt8) (files : List (Location × List UInt8))
    (k : Location) :
    (put l bytes files).lookup k = if k = l then some bytes else files.lookup k := by
  have step (m : Location) (old : List UInt8) (rest : List (Location × List UInt8)) :
      ((m, old) :: rest).lookup k = if k = m then some old else rest.lookup k := by
    by_cases h : k = m
    · simp [h]
    · simp [List.lookup_cons, h, beq_eq_false_iff_ne.2 h]
  induction files with
  | nil => rw [put, step]
  | cons file rest ih =>
    obtain ⟨m, old⟩ := file
    by_cases hm : m = l
    · subst hm
      by_cases hk : k = m <;> simp [put, step, hk]
    · by_cases hk : k = m
      · subst hk
        simp [put, step, hm]
      · simp [put, step, hm, hk, ih]

/-- Writing changes the content of one file only. -/
theorem content?_write {t u : Tree} {p : Path} {bytes : List UInt8} (h : t.write p bytes = .ok u) :
    ∃ l, t.locate p = .ok l ∧ u.directories = t.directories ∧
      ∀ k, u.content? k = if k = l then some bytes else t.content? k := by
  unfold write at h
  split at h
  · cases h
  · rename_i l hl
    split at h
    · cases h
    · cases h
      exact ⟨l, hl, rfl, fun k => lookup_put l bytes t.files k⟩

end Tree

end Colonnade.Files
