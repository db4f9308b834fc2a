import Colonnade.Text.Split

/-!
# Paths

A path is a row of names, perhaps from the root.  Empty names and single dots between slashes
mean nothing and are dropped; double dots stay, because what they mean depends on the files.  At
the start exactly two slashes are kept apart from one, though both mean the root.  The character
with number zero is in no path, and there are limits to the bytes of a path and of each of its
names.
-/

namespace Colonnade.Files

/-- Whether a text has the character with number zero. -/
def hasZero (text : String) : Bool := text.toList.contains '\x00'

/-- The wording of a text that has the character with number zero. -/
def zeroMessage : String := "embedded null byte"

/-- A name has at most this many bytes. -/
def nameLimit : Nat := 255

/-- A path has fewer bytes than this. -/
def pathLimit : Nat := 4096

/-- What a path starts with: nothing, the root, or the root with two slashes. -/
inductive Anchor where
  | relative
  | root
  | doubleRoot
  deriving DecidableEq, Repr

namespace Anchor

/-- The anchor that a text starts with.  Three slashes or more are as good as one. -/
def ofChars : List Char → Anchor
  | '/' :: '/' :: '/' :: _ => .root
  | '/' :: '/' :: _ => .doubleRoot
  | '/' :: _ => .root
  | _ => .relative

/-- The slashes of an anchor. -/
def text : Anchor → String
  | .relative => ""
  | .root => "/"
  | .doubleRoot => "//"

end Anchor

/-- A path. -/
structure Path where
  anchor : Anchor := .relative
  names : List String := []
  deriving DecidableEq, Repr

namespace Path

/-- The pieces of a text between slashes. -/
def pieces (text : String) : List String := (Text.split '/' text.toList).map String.ofList

/-- The path that a text writes. -/
def ofText (text : String) : Path :=
  { anchor := .ofChars text.toList
    names := (pieces text).filter fun n => n ≠ "" ∧ n ≠ "." }

/-- Whether a text ends in a slash, or in a slash and a dot, and so asks for a directory. -/
def asksForDirectory (text : String) : Bool :=
  match (pieces text).getLast? with
  | some last => last == "" || last == "."
  | none => false

/-- Whether a path starts at the root. -/
def fromRoot (p : Path) : Bool := p.anchor != .relative

/-- The text of a path; the path without anchor and names is the present directory. -/
def text (p : Path) : String :=
  if p.names.isEmpty && !p.fromRoot then "."
  else p.anchor.text ++ "/".intercalate p.names

/-- The last name of a path. -/
def name (p : Path) : String := p.names.getLast?.getD ""

/-- The path with another last name. -/
def withName (p : Path) (name : String) : Path :=
  { p with names := p.names.dropLast ++ [name] }

end Path

end Colonnade.Files
