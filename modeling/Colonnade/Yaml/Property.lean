import Colonnade.Text.Utf8
import Colonnade.Yaml.Scalar.Quoted

/-!
# Anchors, tags and directives

A node may carry an anchor, by which aliases refer to it, and a tag, which says what it is.  A
tag is written in full, or as a short handle with a suffix; directives at the start of a document
say what handles stand for, and which version of the rules holds.
-/

namespace Colonnade.Yaml

/-- A tag as it is written.  A tag without a handle is complete. -/
structure TagText where
  handle : Option String
  suffix : String
  deriving DecidableEq, Repr

/-- A directive. -/
inductive Directive where
  | version (major minor : Nat)
  | handle (handle stands : String)
  | other
  deriving DecidableEq, Repr

namespace Property

/-! ## Anchors -/

/-- The characters of anchors. -/
def isAnchorChar (c : Char) : Bool :=
  Cursor.isVisible c && !([',', '[', ']', '\x7b', '\x7d'].contains c)

/-- What may follow an anchor. -/
def endsAnchor (c : Char) : Bool :=
  Cursor.isGap c ||
    ['?', ':', ',', '[', ']', '\x7b', '\x7d', '%', '@', '\x60'].contains c

/-- The name of an anchor or alias, after its sign. -/
def anchor (c : Cursor) : Except Fault (String × Cursor) :=
  let (name, c) := c.next.span isAnchorChar
  if name.isEmpty || !endsAnchor c.peek then malformed .token else .ok (String.ofList name, c)

/-! ## Tags -/

/-- The characters of handles and of directive names. -/
def isWordChar (c : Char) : Bool :=
  c.isAlphanum || c = '-' || c = '_'

/-- The characters of tags, apart from escapes. -/
def isTagChar (legacy : Bool) (c : Char) : Bool :=
  c.isAlphanum || "-;/?:@&=+$,_.!~*'()[]".toList.contains c || (!legacy && c = '#')

/-- Bytes written as a percent sign and two digits each. -/
def escapedBytes : Nat → Cursor → List UInt8 → Except Fault (List UInt8 × Cursor)
  | 0, c, bytes => .ok (bytes, c)
  | fuel + 1, c, bytes =>
    if c.peek ≠ '%' then .ok (bytes, c)
    else
      match Quoted.hexValue? (c.peekAt 1), Quoted.hexValue? (c.peekAt 2) with
      | some high, some low =>
        escapedBytes fuel (c.advance 3) (bytes ++ [.ofNat (high * 16 + low)])
      | _, _ => malformed .token

/-- The text of a tag up to the first character that is not part of one. -/
def tagChars (legacy : Bool) : Nat → Cursor → List Char → Except Fault (List Char × Cursor)
  | 0, c, text => .ok (text, c)
  | fuel + 1, c, text => do
    let (run, c) := c.span (isTagChar legacy)
    let text := text ++ run
    if c.peek ≠ '%' then .ok (text, c)
    else
      let (bytes, c) ← escapedBytes c.bound c []
      match Text.Utf8.decode bytes with
      | .error _ => malformed .token
      | .ok chars => tagChars legacy fuel c (text ++ chars)

/-- A text of a tag, which must not be empty. -/
def tagText (legacy : Bool) (c : Cursor) : Except Fault (String × Cursor) := do
  let (text, after) ← tagChars legacy c.bound c []
  if after.rest.length = c.rest.length then malformed .token else .ok (String.ofList text, after)

/-- A handle: an exclamation mark, alone before a space, or a word between two of them. -/
def handle (c : Cursor) : Except Fault (String × Cursor) :=
  if c.peek ≠ '!' then malformed .token
  else if c.peekAt 1 = ' ' then .ok ("!", c.next)
  else
    let (name, c) := c.next.span isWordChar
    if c.peek ≠ '!' then malformed .token
    else .ok (String.ofList ('!' :: name ++ ['!']), c.next)

/-- Whether the tag at a cursor, after its first sign, has a handle of its own. -/
def hasHandle (c : Cursor) : Bool :=
  (c.rest.takeWhile fun ch => !Cursor.endsWord ch).contains '!'

/-- The tag at a cursor before it is checked what follows.  A short handle has one or two signs. -/
def tagBody (legacy : Bool) (c : Cursor) : Except Fault (TagText × Cursor) := do
  let (short, last) := if c.peekAt 1 = '!' then ("!!", c.next) else ("!", c)
  let after := last.next
  if after.peek = '<' then
    let (suffix, c) ← tagText legacy after.next
    if c.peek ≠ '>' then malformed .token else pure (⟨none, suffix⟩, c.next)
  else if Cursor.isGap after.peek then pure (⟨none, short⟩, after)
  else if hasHandle after then
    let (name, c) ← handle last
    let (suffix, c) ← tagText legacy c
    pure (⟨some name, suffix⟩, c)
  else
    let (suffix, c) ← tagText legacy after
    pure (⟨some short, suffix⟩, c)

/-- The tag at a cursor. -/
def tag (legacy : Bool) (c : Cursor) : Except Fault (TagText × Cursor) := do
  let (t, c) ← tagBody legacy c
  if Cursor.endsWord c.peek then pure (t, c) else malformed .token

/-- The character whose code two digits in base sixteen write. -/
def escapedChar (digits : List Char) : Except Fault Char :=
  match Number.readInteger 16 digits with
  | .error cause => .error (.integer cause)
  | .ok code => if code < 0 then .error .codePoint else .ok (Char.ofNat code.toNat)

/-- A text in which escapes, of a percent sign and two digits, are written out. -/
def unescaped : List Char → Except Fault (List Char)
  | [] => .ok []
  | '%' :: a :: b :: rest => do
    let c ← escapedChar [a, b]
    let rest ← unescaped rest
    pure (c :: rest)
  | '%' :: rest => (escapedChar rest).map ([·])
  | c :: rest => (unescaped rest).map (c :: ·)

/-! ## Directives -/

/-- The characters of the names of directives. -/
def isDirectiveChar (c : Char) : Bool :=
  isWordChar c || c = ':' || c = '.'

/-- A number of a version. -/
def versionNumber (c : Cursor) : Except Fault (Nat × Cursor) :=
  let (digits, c) := c.span Char.isDigit
  if digits.isEmpty then malformed .token
  else if Number.digitLimit < digits.length then .error (.integer (.tooManyDigits digits.length))
  else .ok (digits.foldl (fun value d => value * 10 + (d.toNat - 48)) 0, c)

/-- The version that a directive names. -/
def versionDirective (c : Cursor) : Except Fault (Directive × Cursor) := do
  let (major, c) ← versionNumber c.skipSpaces
  if c.peek ≠ '.' then malformed .token
  else
    let (minor, c) ← versionNumber c.next
    if Cursor.endsWord c.peek then pure (.version major minor, c) else malformed .token

/-- The handle that a directive defines. -/
def handleDirective (legacy : Bool) (c : Cursor) : Except Fault (Directive × Cursor) := do
  let (name, c) ← handle c.skipSpaces
  if c.peek ≠ ' ' then malformed .token
  else
    let (stands, c) ← tagText legacy c.skipSpaces
    if Cursor.endsWord c.peek then pure (.handle name stands, c) else malformed .token

/-- The directive at a cursor. -/
def directive (legacy : Bool) (c : Cursor) : Except Fault (Directive × Cursor) := do
  let (name, c) := c.next.span isDirectiveChar
  if name.isEmpty || !Cursor.endsWord c.peek then malformed .token
  else
    let (d, c) ←
      if name = "YAML".toList then versionDirective c
      else if name = "TAG".toList then handleDirective legacy c
      else pure (Directive.other, c.skip fun ch => !Cursor.isBreakOrEnd ch)
    match c.restOfLine? with
    | none => malformed .token
    | some c => pure (d, c)

end Property

end Colonnade.Yaml
