/-!
# Reading positions

A cursor is the rest of a text together with its place: how many characters lie before it, on
which line it is, and in which column.  Beyond the end every character reads as the null
character, which no document holds.

Lines end with a line feed, a carriage return, or both; the line separators of Unicode end a line
as well, but do not start a new one for the count of lines and columns.
-/

namespace Colonnade.Yaml

/-- What stands for the end of a text. -/
def ending : Char := '\x00'

/-- The rest of a text and its place, and how many characters the whole text has. -/
structure Cursor where
  rest : List Char
  size : Nat := 0
  index : Nat := 0
  line : Nat := 0
  column : Nat := 0

namespace Cursor

/-! ## Classes of characters -/

/-- A character that breaks a line. -/
def isBreak (c : Char) : Bool :=
  c = '\n' || c = '\r' || c = '\x85' || c = '\u2028' || c = '\u2029'

/-- A line break or the end of the text. -/
def isBreakOrEnd (c : Char) : Bool :=
  c = ending || isBreak c

/-- A line break, the end of the text or a blank. -/
def isGap (c : Char) : Bool :=
  isBreakOrEnd c || c = ' ' || c = '\t'

/-- A space, a line break or the end of the text. -/
def endsWord (c : Char) : Bool :=
  c = ' ' || isBreakOrEnd c

/-- Every character that a document may hold. -/
def isAllowed (c : Char) : Bool :=
  let code := c.toNat
  c = '\t' || c = '\n' || c = '\r' || (0x20 ≤ code && code ≤ 0x7E) || code == 0x85 ||
    (0xA0 ≤ code && code ≤ 0xD7FF) || (0xE000 ≤ code && code ≤ 0xFFFD) || 0x10000 ≤ code

/-- Every allowed character that is visible, except the byte order mark. -/
def isVisible (c : Char) : Bool :=
  let code := c.toNat
  (0x21 ≤ code && code ≤ 0x7E) || (0xA0 ≤ code && code ≤ 0xD7FF) ||
    (0xE000 ≤ code && code ≤ 0xFFFD && code != 0xFEFF) || 0x10000 ≤ code

/-- The end of a text is no character that a document may hold. -/
theorem isAllowed_ending : isAllowed ending = false := by decide

/-! ## Moving -/

/-- The start of a text. -/
def start (text : List Char) : Cursor := { rest := text, size := text.length }

/-- More steps than any loop over the text takes. -/
def bound (c : Cursor) : Nat := c.size + 2

/-- The character at the cursor. -/
def peek (c : Cursor) : Char := c.rest.headD ending

/-- The character some places after the cursor. -/
def peekAt (c : Cursor) (n : Nat) : Char := c.rest.getD n ending

/-- The cursor after the next character. -/
def next (c : Cursor) : Cursor :=
  match c.rest with
  | [] => c
  | ch :: rest =>
    if ch = '\n' ∨ (ch = '\r' ∧ rest.headD ending ≠ '\n') then
      { c with rest := rest, index := c.index + 1, line := c.line + 1, column := 0 }
    else if ch = '\uFEFF' then { c with rest := rest, index := c.index + 1 }
    else { c with rest := rest, index := c.index + 1, column := c.column + 1 }

/-- The cursor some characters further. -/
def advance (c : Cursor) : Nat → Cursor
  | 0 => c
  | n + 1 => c.next.advance n

/-- The longest run of characters of a class, and the cursor after it. -/
def span (c : Cursor) (p : Char → Bool) : List Char × Cursor :=
  let run := c.rest.takeWhile p
  (run, c.advance run.length)

/-- The cursor after the longest run of characters of a class. -/
def skip (c : Cursor) (p : Char → Bool) : Cursor := (c.span p).2

/-- The cursor after a run of spaces. -/
def skipSpaces (c : Cursor) : Cursor := c.skip (· = ' ')

/-- A line break at the cursor, brought to one character, and the cursor after it. -/
def lineBreak? (c : Cursor) : Option (Char × Cursor) :=
  let ch := c.peek
  if ch = '\r' ∧ c.peekAt 1 = '\n' then some ('\n', c.advance 2)
  else if ch = '\n' ∨ ch = '\r' ∨ ch = '\x85' then some ('\n', c.next)
  else if ch = '\u2028' ∨ ch = '\u2029' then some (ch, c.next)
  else none

/-- The cursor after the rest of a line that holds nothing but spaces and a comment. -/
def restOfLine? (c : Cursor) : Option Cursor :=
  let c := c.skipSpaces
  let c := if c.peek = '#' then c.skip fun ch => !isBreakOrEnd ch else c
  if isBreakOrEnd c.peek then some ((c.lineBreak?.map Prod.snd).getD c) else none

/-- Whether three equal characters stand at the cursor, with a gap after them. -/
def atMark (c : Cursor) (ch : Char) : Bool :=
  c.peek = ch && c.peekAt 1 = ch && c.peekAt 2 = ch && isGap (c.peekAt 3)

/-- Whether the mark of the start or the end of a document stands at the cursor. -/
def atDocumentMark (c : Cursor) : Bool := c.atMark '-' || c.atMark '.'

/-- The rest of a text never grows. -/
theorem length_next_le (c : Cursor) : c.next.rest.length ≤ c.rest.length := by
  unfold next
  split
  · exact Nat.le_refl _
  · rename_i ch rest h
    split
    · simp [h]
    · split <;> simp [h]

theorem length_advance_le (c : Cursor) (n : Nat) : (c.advance n).rest.length ≤ c.rest.length := by
  induction n generalizing c with
  | zero => exact Nat.le_refl _
  | succ n ih => exact Nat.le_trans (ih c.next) c.length_next_le

end Cursor

end Colonnade.Yaml
