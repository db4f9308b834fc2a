import Colonnade.Yaml.Cursor
import Colonnade.Yaml.Fault

/-!
# Quoted scalars

A scalar in single quotes holds every character as itself, a quote being written twice.  In
double quotes a backslash starts an escape.  Blanks around a line break are dropped; a single
line break reads as a space, each further one is kept, and one after a backslash is dropped.
-/

namespace Colonnade.Yaml.Quoted

/-- The character that a one-letter escape stands for. -/
def escape? : Char → Option Char
  | '0' => some '\x00'
  | 'a' => some '\x07'
  | 'b' => some '\x08'
  | 't' => some '\t'
  | '\t' => some '\t'
  | 'n' => some '\n'
  | 'v' => some '\x0b'
  | 'f' => some '\x0c'
  | 'r' => some '\r'
  | 'e' => some '\x1b'
  | ' ' => some ' '
  | '"' => some '"'
  | '/' => some '/'
  | '\\' => some '\\'
  | 'N' => some '\x85'
  | '_' => some '\xa0'
  | 'L' => some '\u2028'
  | 'P' => some '\u2029'
  | _ => none

/-- How many digits follow the letter of a numeric escape. -/
def digitCount? : Char → Option Nat
  | 'x' => some 2
  | 'u' => some 4
  | 'U' => some 8
  | _ => none

/-- The value of a digit in base sixteen. -/
def hexValue? (c : Char) : Option Nat :=
  if c.isDigit then some (c.toNat - 48)
  else if 'a' ≤ c ∧ c ≤ 'f' then some (c.toNat - 87)
  else if 'A' ≤ c ∧ c ≤ 'F' then some (c.toNat - 55)
  else none

/-- The number that some digits in base sixteen write. -/
def hexNumber? (digits : List Char) : Option Nat :=
  digits.foldlM (fun value c => (hexValue? c).map (value * 16 + ·)) 0

/-- The code point of a numeric escape with `count` digits at the cursor. -/
def numericEscape (count : Nat) (c : Cursor) : Except Fault Text.CodePoint :=
  let digits := c.rest.take count
  match hexNumber? digits with
  | none => malformed .token
  | some code =>
    if digits.length < count then malformed .token
    else if 0x7FFFFFFF < code then .error .hugeCodePoint
    else if 0x10FFFF < code then .error .codePoint
    else .ok (.ofNat code)

/-- The line breaks at a cursor, without the blanks before and between them.  The mark of a
document must not stand on any of the lines. -/
def breaks : Nat → Cursor → List Char → Except Fault (List Char × Cursor)
  | 0, c, found => .ok (found, c)
  | fuel + 1, c, found =>
    if c.atDocumentMark then malformed .token
    else
      let c := c.skip fun ch => ch = ' ' || ch = '\t'
      match c.lineBreak? with
      | none => .ok (found, c)
      | some (br, c) => breaks fuel c (found ++ [br])

/-- All line breaks at a cursor. -/
def allBreaks (c : Cursor) : Except Fault (List Char × Cursor) :=
  breaks c.bound c []

/-- What ends a run of characters that stand for themselves. -/
def endsRun (c : Char) : Bool :=
  c = ' ' || c = '\t' || c = '\x27' || c = '"' || c = '\\' || Cursor.isBreakOrEnd c

/-- A text, last code point first, with more characters at its end. -/
def push (run : List Char) (text : Text.Loose) : Text.Loose :=
  run.foldl (fun text c => .char c :: text) text

/-- Characters other than blanks and line breaks, with escapes, up to the closing quote.  They
are put before the text so far, which is given last code point first. -/
def word (isDouble : Bool) : Nat → Cursor → Text.Loose → Except Fault (Text.Loose × Cursor)
  | 0, c, text => .ok (text, c)
  | fuel + 1, c, text => do
    let (run, c) := c.span fun ch => !endsRun ch
    let text := push run text
    let ch := c.peek
    if !isDouble && ch = '\x27' && c.peekAt 1 = '\x27' then
      word isDouble fuel (c.advance 2) (.char '\x27' :: text)
    else if (isDouble && ch = '\x27') || (!isDouble && (ch = '"' || ch = '\\')) then
      word isDouble fuel c.next (.char ch :: text)
    else if isDouble && ch = '\\' then
      let c := c.next
      match escape? c.peek, digitCount? c.peek with
      | some meant, _ => word isDouble fuel c.next (.char meant :: text)
      | none, some count =>
        let meant ← numericEscape count c.next
        word isDouble fuel (c.next.advance count) (meant :: text)
      | none, none =>
        match c.lineBreak? with
        | none => malformed .token
        | some (_, c) =>
          let (kept, c) ← allBreaks c
          word isDouble fuel c (push kept text)
    else .ok (text, c)

/-- The blanks or line breaks between two words, as they read. -/
def gap (c : Cursor) : Except Fault (List Char × Cursor) := do
  let (blanks, c) := c.span fun ch => ch = ' ' || ch = '\t'
  if c.peek = ending then malformed .token
  else
    match c.lineBreak? with
    | none => .ok (blanks, c)
    | some (br, c) =>
      let (further, c) ← allBreaks c
      if br ≠ '\n' then .ok (br :: further, c)
      else if further.isEmpty then .ok ([' '], c)
      else .ok (further, c)

/-- Words and gaps up to the closing quote, put before the text so far. -/
def words (quote : Char) : Nat → Cursor → Text.Loose → Except Fault (Text.Loose × Cursor)
  | 0, _, _ => malformed .token
  | fuel + 1, c, text =>
    if c.peek = quote then .ok (text, c.next)
    else do
      let (between, c) ← gap c
      let (text, c) ← word (quote = '"') c.bound c (push between text)
      words quote fuel c text

/-- The quoted scalar at a cursor, and the cursor after its closing quote. -/
def read (c : Cursor) : Except Fault (Text.Loose × Cursor) := do
  let quote := c.peek
  let (first, c) ← word (quote = '"') c.bound c.next []
  let (text, c) ← words quote c.bound c first
  pure (text.reverse, c)

end Colonnade.Yaml.Quoted
