import Colonnade.Yaml.Cursor
import Colonnade.Yaml.Fault

/-!
# Block scalars

A block scalar is made of the indented lines below its header.  The header may fix the
indentation and says what becomes of the line breaks at the end: they are clipped to one, kept,
or stripped.  In a folded scalar a single line break between two lines that do not start with a
blank reads as a space.
-/

namespace Colonnade.Yaml.Block

/-- What becomes of the line breaks at the end. -/
inductive Chomping where
  | clip
  | keep
  | strip
  deriving DecidableEq, Repr

/-- The header of a block scalar. -/
structure Header where
  chomping : Chomping
  increment : Option Nat

/-- A sign for the line breaks at the end. -/
def chomping? : Char → Option Chomping
  | '+' => some .keep
  | '-' => some .strip
  | _ => none

/-- A digit for the indentation; zero is refused. -/
def increment? (c : Char) : Except Fault (Option Nat) :=
  if c = '0' then malformed .token
  else if c.isDigit then .ok (some (c.toNat - 48))
  else .ok none

/-- The signs of a header, in either order. -/
def indicators (c : Cursor) : Except Fault (Header × Cursor) := do
  match chomping? c.peek with
  | some chomping =>
    let c := c.next
    match ← increment? c.peek with
    | some n => pure (⟨chomping, some n⟩, c.next)
    | none => pure (⟨chomping, none⟩, c)
  | none =>
    match ← increment? c.peek with
    | none => pure (⟨.clip, none⟩, c)
    | some n =>
      let c := c.next
      match chomping? c.peek with
      | some chomping => pure (⟨chomping, some n⟩, c.next)
      | none => pure (⟨.clip, some n⟩, c)

/-- The header after its first sign. -/
def header (c : Cursor) : Except Fault (Header × Cursor) := do
  let (h, c) ← indicators c
  if !Cursor.endsWord c.peek then malformed .token
  else
    match c.restOfLine? with
    | none => malformed .token
    | some c => pure (h, c)

/-- Empty lines before the first line of text: their breaks, the column of the first break, and
the widest indentation. -/
structure Leading where
  breaks : List Char := []
  first : Option Nat := none
  widest : Nat := 0

/-- The empty lines at a cursor. -/
def leadingFrom : Nat → Cursor → Leading → Leading × Cursor
  | 0, c, found => (found, c)
  | fuel + 1, c, found =>
    if c.peek = ' ' then
      let c := c.next
      leadingFrom fuel c { found with widest := max found.widest c.column }
    else
      match c.lineBreak? with
      | none => (found, c)
      | some (br, after) =>
        leadingFrom fuel after
          { found with breaks := found.breaks ++ [br], first := some (found.first.getD c.column) }

/-- The empty lines at a cursor; none may be indented more than the first one that is indented
at all. -/
def leading (c : Cursor) : Except Fault (Leading × Cursor) :=
  let (found, c) := leadingFrom c.bound c {}
  let first := found.first.getD 0
  if 0 < first ∧ first < found.widest then malformed .token else .ok (found, c)

/-- Spaces up to a column. -/
def indentTo (column : Int) : Nat → Cursor → Cursor
  | 0, c => c
  | fuel + 1, c => if c.column < column ∧ c.peek = ' ' then indentTo column fuel c.next else c

/-- Empty lines inside the text, and the indentation of the line after them. -/
def emptyLines (column : Int) : Nat → Cursor → List Char → List Char × Cursor
  | 0, c, breaks => (breaks, c)
  | fuel + 1, c, breaks =>
    let c := indentTo column c.bound c
    match c.lineBreak? with
    | none => (breaks, c)
    | some (br, c) => emptyLines column fuel c (breaks ++ [br])

/-- The empty lines at a cursor. -/
def breaks (column : Int) (c : Cursor) : List Char × Cursor :=
  emptyLines column c.bound c []

/-- How the lines of a scalar are laid out: whether they are folded, their column, and whether
they may start in the first column, where the mark of a document ends them. -/
structure Shape where
  isFolded : Bool
  column : Int
  atMargin : Bool

/-- The text read so far, last character first, the break of its last line, and the empty lines
after it. -/
structure Progress where
  reversed : List Char := []
  lastBreak : List Char := []
  breaks : List Char
  cursor : Cursor

/-- The lines of a scalar. -/
def lines (s : Shape) : Nat → Progress → Progress
  | 0, p => p
  | fuel + 1, p =>
    if p.cursor.column ≠ s.column ∨ p.cursor.peek = ending then p
    else
      let startsBlank := p.cursor.peek = ' ' || p.cursor.peek = '\t'
      let (line, c) := p.cursor.span fun ch => !Cursor.isBreakOrEnd ch
      let reversed := line.reverseAux (p.breaks.reverseAux p.reversed)
      let (lastBreak, c) :=
        match c.lineBreak? with
        | none => ([], c)
        | some (br, c) => ([br], c)
      let (breaks, c) := breaks s.column c
      if s.atMargin && c.column = 0 && c.atDocumentMark then
        ⟨reversed, lastBreak, breaks, c⟩
      else if c.column = s.column ∧ c.peek ≠ ending then
        let folds :=
          s.isFolded && lastBreak = ['\n'] && !startsBlank && c.peek ≠ ' ' && c.peek ≠ '\t'
        let joint := if !folds then lastBreak else if breaks.isEmpty then [' '] else []
        lines s fuel ⟨joint.reverseAux reversed, lastBreak, breaks, c⟩
      else ⟨reversed, lastBreak, breaks, c⟩

/-- A text with the line breaks at its end. -/
def chomp (chomping : Chomping) (p : Progress) : List Char :=
  match chomping with
  | .clip => p.reversed.reverse ++ p.lastBreak
  | .keep => p.reversed.reverse ++ p.lastBreak ++ p.breaks
  | .strip => p.reversed.reverse

/-- The block scalar at a cursor, inside a collection of given indentation. -/
def read (parent : Int) (c : Cursor) : Except Fault (List Char × Cursor) := do
  let isFolded := c.peek = '>'
  let (h, c) ← header c.next
  match h.increment with
  | none =>
    let (found, c) ← leading c
    let shape : Shape := ⟨isFolded, max (parent + 1) found.widest, parent + 1 = 0⟩
    let done := lines shape c.bound { breaks := found.breaks, cursor := c }
    pure (chomp h.chomping done, done.cursor)
  | some n =>
    let least := max (parent + 1) 1
    let column := least + n - 1
    let (empty, c) := breaks column c
    let done := lines ⟨isFolded, column, false⟩ c.bound { breaks := empty, cursor := c }
    pure (chomp h.chomping done, done.cursor)

end Colonnade.Yaml.Block
