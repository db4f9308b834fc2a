import Colonnade.Text.Blank
import Colonnade.Text.LineEnd
import Colonnade.Text.Split

/-!
# Revisions

The revision of a work tree is known from the answer of a version control program, or from the
files that such a program keeps: its head names a revision or a branch, and the revision of a
branch is in a file of its own or in a packed list.
-/

namespace Colonnade.Revision

/-- A text without white space around. -/
def trimmed (text : String) : String := String.ofList (Text.trim Text.isSpacing text.toList)

/-- The revision in the answer of a version control program: what it says, if it succeeds. -/
def ofAnswer? (exitCode : Int) (answer : String) : Option String :=
  if exitCode = 0 then some (trimmed (String.ofList (Text.unifyLineEnds answer.toList))) else none

/-- What a head names. -/
inductive Head where
  | revision (text : String)
  | branch (name : String)
  deriving DecidableEq, Repr

/-- What marks the name of a branch. -/
def branchMark : List Char := ['r', 'e', 'f', ':', ' ']

/-- The head that a text writes. -/
def Head.ofText (text : String) : Head :=
  let text := trimmed text
  if branchMark.isPrefixOf text.toList then
    .branch (String.ofList (text.toList.drop branchMark.length))
  else .revision text

/-- A head that is marked names the branch behind the mark. -/
theorem Head.ofText_branch {text name : String}
    (h : (trimmed text).toList = branchMark ++ name.toList) :
    Head.ofText text = .branch name := by
  simp [Head.ofText, h]

/-- The revision of a branch in a packed list, which has a revision and a name on each line. -/
def packed? (name list : String) : Option String :=
  (Text.split '\n' list.toList).findSome? fun line =>
    match Text.split ' ' line with
    | [revision, branch] => if branch = name.toList then some (String.ofList revision) else none
    | _ => none

end Colonnade.Revision
