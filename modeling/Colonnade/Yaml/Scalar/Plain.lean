import Colonnade.Yaml.Cursor

/-!
# Plain scalars

A plain scalar has no quotes.  It ends before a comment, before a colon that a gap follows, at
the brackets of a flow collection, and where a line is indented less than it must be.  A single
line break inside it reads as a space; each further one is kept.
-/

namespace Colonnade.Yaml.Plain

/-- Where a plain scalar stands: inside brackets or not, under the older rules of version 1.1 or
not, and the least column of its further lines. -/
structure Context where
  inFlow : Bool
  legacy : Bool
  indent : Int

/-- What ends a run of a plain scalar inside brackets. -/
def isFlowMark (c : Char) : Bool :=
  [',', ':', '?', '[', ']', '\x7b', '\x7d'].contains c

/-- How many characters a run without gaps has. -/
def runLength (x : Context) : List Char → Nat
  | [] => 0
  | c :: rest =>
    let gapFollows := Cursor.isGap (rest.headD ending)
    if (c = ':' && !gapFollows) || (c = '?' && !x.legacy) then runLength x rest + 1
    else if Cursor.isGap c || (!x.inFlow && c = ':' && gapFollows) || (x.inFlow && isFlowMark c)
    then 0
    else runLength x rest + 1

/-- A gap inside a scalar: how it reads, the cursor after it, and whether it has a line break. -/
structure Gap where
  text : List Char
  cursor : Cursor
  isBroken : Bool

/-- The further breaks of a gap, unless the mark of a document stands on one of its lines. -/
def furtherBreaks : Nat → Cursor → List Char → Option (List Char) × Cursor
  | 0, c, breaks => (some breaks, c)
  | fuel + 1, c, breaks =>
    if c.peek = ' ' then furtherBreaks fuel c.next breaks
    else
      match c.lineBreak? with
      | none => (some breaks, c)
      | some (br, c) =>
        if c.atDocumentMark then (none, c) else furtherBreaks fuel c (breaks ++ [br])

/-- How the breaks of a gap read: a single line feed is a space. -/
def foldBreaks (first : Char) (further : List Char) : List Char :=
  if first ≠ '\n' then first :: further
  else if further.isEmpty then [' ']
  else further

/-- The gap at a cursor; an empty one ends the scalar. -/
def gap (c : Cursor) : Gap :=
  let (spaces, c) := c.span (· = ' ')
  match c.lineBreak? with
  | none => ⟨spaces, c, false⟩
  | some (br, c) =>
    if c.atDocumentMark then ⟨[], c, true⟩
    else
      match furtherBreaks c.bound c [] with
      | (none, c) => ⟨[], c, true⟩
      | (some further, c) => ⟨foldBreaks br further, c, true⟩

/-- A scalar, last character first, the cursor after it, and whether a line break follows it. -/
structure Result where
  reversed : List Char
  cursor : Cursor
  isBroken : Bool

/-- Goes on with a scalar after a gap. -/
def continueFrom (x : Context) : Nat → Result → Gap → Result
  | 0, done, _ => done
  | fuel + 1, done, before =>
    let length := if before.cursor.peek = '#' then 0 else runLength x before.cursor.rest
    if length = 0 then { done with cursor := before.cursor, isBroken := before.isBroken }
    else
      let run := before.cursor.rest.take length
      let after := gap (before.cursor.advance length)
      let done :=
        ⟨run.reverseAux (before.text.reverseAux done.reversed), after.cursor, after.isBroken⟩
      if after.text.isEmpty || after.cursor.peek = '#' ||
          (!x.inFlow && after.cursor.column < x.indent) then done
      else continueFrom x fuel done after

/-- The text of a scalar. -/
def Result.text (r : Result) : List Char := r.reversed.reverse

/-- The plain scalar at a cursor. -/
def read (x : Context) (c : Cursor) : Result :=
  continueFrom x c.bound ⟨[], c, false⟩ ⟨[], c, false⟩

end Colonnade.Yaml.Plain
