import Colonnade.Yaml.Property
import Colonnade.Yaml.Scalar.Block
import Colonnade.Yaml.Scalar.Plain

/-!
# Tokens

The signs, properties and scalars of a document in a row, together with tokens for what only the
layout shows: where block collections begin and end, and which scalars are keys.

That something is a key is known only when its colon is met.  So whatever may turn out to be one
is remembered as a candidate, and tokens are held back until no candidate stands before them.
-/

namespace Colonnade.Yaml

/-- A token. -/
inductive Token where
  | directive (d : Directive)
  | documentStart
  | documentEnd
  | streamEnd
  | blockSequenceStart
  | blockMappingStart
  | blockEnd
  | flowSequenceStart
  | flowSequenceEnd
  | flowMappingStart
  | flowMappingEnd
  | blockEntry
  | flowEntry
  | key
  | value
  | alias (name : String)
  | anchor (name : String)
  | tag (t : TagText)
  | scalar (text : Text.Loose) (isPlain : Bool)
  deriving DecidableEq, Repr

/-- A token and the line it starts on. -/
structure Placed where
  token : Token
  line : Nat
  deriving DecidableEq, Repr

namespace Token

/-- The brackets that a flow collection is written in. -/
inductive Flow where
  | sequence
  | mapping
  deriving DecidableEq, Repr

/-- Something that may turn out to be a key: the number of its first token, whether it must be
one, and its place. -/
structure Candidate where
  number : Nat
  required : Bool
  index : Nat
  line : Nat
  column : Nat

/-- A key must be on one line and at most this long. -/
def keyReach : Nat := 1024

/-- How far the tokens of a text are found. -/
structure Scan where
  cursor : Cursor
  /-- The version of the rules. -/
  version : Nat × Nat := (1, 2)
  /-- The flow collections around the cursor, the innermost first. -/
  flow : List Flow := []
  /-- The column of the block collection around the cursor. -/
  indent : Int := -1
  /-- The columns of the block collections around that one. -/
  outer : List Int := []
  /-- Whether a key may start at the cursor. -/
  keyAllowed : Bool := true
  /-- The candidates, at most one for every depth of flow collections. -/
  candidates : List (Nat × Candidate) := []
  /-- The tokens held back. -/
  held : List Placed := []
  /-- How many tokens are given out. -/
  given : Nat := 0
  /-- Whether the end of the text is reached. -/
  finished : Bool := false

namespace Scan

/-- The start of a text. -/
def start (text : List Char) : Scan := { cursor := .start text }

/-- Whether the older rules hold. -/
def isLegacy (s : Scan) : Bool := s.version == (1, 1)

/-- Whether tags have fewer characters, as in the first two versions. -/
def hasOldTags (s : Scan) : Bool := s.version == (1, 1) || s.version == (1, 0)

/-- Whether the cursor is inside brackets. -/
def inFlow (s : Scan) : Bool := !s.flow.isEmpty

/-! ## Held tokens -/

/-- Adds a token that starts on the line of the cursor. -/
def push (s : Scan) (t : Token) : Scan :=
  { s with held := s.held ++ [⟨t, s.cursor.line⟩] }

/-- Adds a sign of one or more characters. -/
def pushSign (s : Scan) (t : Token) (length : Nat) : Scan :=
  { s.push t with cursor := s.cursor.advance length }

/-- Puts a token before the first token of a candidate. -/
def insertAt (s : Scan) (k : Candidate) (t : Token) : Scan :=
  let place := k.number - s.given
  { s with held := s.held.take place ++ ⟨t, k.line⟩ :: s.held.drop place }

/-! ## Indentation -/

/-- Ends the block collections that are indented more than a column. -/
def closeBlocks (line : Nat) (column : Int) :
    Int → List Int → List Placed → Int × List Int × List Placed
  | indent, [], held =>
    if column < indent then (-1, [], held ++ [⟨.blockEnd, line⟩]) else (indent, [], held)
  | indent, next :: outer, held =>
    if column < indent then closeBlocks line column next outer (held ++ [⟨.blockEnd, line⟩])
    else (indent, next :: outer, held)

/-- Ends the block collections that the cursor has left.  Inside brackets indentation means
nothing. -/
def unwind (s : Scan) (column : Int) : Scan :=
  if s.inFlow then s
  else
    let (indent, outer, held) := closeBlocks s.cursor.line column s.indent s.outer s.held
    { s with indent := indent, outer := outer, held := held }

/-- Enters a block collection if a column is to the right of the present one. -/
def enter? (s : Scan) (column : Int) : Option Scan :=
  if s.indent < column then some { s with indent := column, outer := s.indent :: s.outer } else none

/-! ## Candidates for keys -/

/-- Drops the candidates that a key can no longer be made of. -/
def dropStale (s : Scan) : Except Fault Scan :=
  let isStale (k : Candidate) : Bool :=
    k.line != s.cursor.line || keyReach < s.cursor.index - k.index
  if s.candidates.any fun (_, k) => isStale k && k.required then malformed .token
  else .ok { s with candidates := s.candidates.filter fun (_, k) => !isStale k }

/-- The candidate at the present depth. -/
def candidate? (s : Scan) : Option Candidate := s.candidates.lookup s.flow.length

/-- The scan without the candidate at the present depth. -/
def withoutCandidate (s : Scan) : Scan :=
  { s with candidates := s.candidates.filter fun (depth, _) => depth != s.flow.length }

/-- Drops the candidate at the present depth, which must not be required. -/
def dropCandidate (s : Scan) : Except Fault Scan :=
  match s.candidate? with
  | none => .ok s
  | some k => if k.required then malformed .token else .ok s.withoutCandidate

/-- Remembers what starts at the cursor as a candidate. -/
def saveCandidate (s : Scan) : Except Fault Scan :=
  let required := !s.inFlow && s.indent = s.cursor.column
  if !s.keyAllowed then .ok s
  else do
    let s ← s.dropCandidate
    let k : Candidate :=
      ⟨s.given + s.held.length, required, s.cursor.index, s.cursor.line, s.cursor.column⟩
    pure { s with candidates := s.candidates ++ [(s.flow.length, k)] }

/-- Whether the next token to give out may have a key put before it. -/
def mustWait (s : Scan) : Bool :=
  let numbers := s.candidates.map fun (_, k) => k.number
  numbers.min? == some s.given

/-! ## Single tokens -/

/-- Skips blanks, comments and line breaks.  After a line break a key may start. -/
def skipBlank : Nat → Scan → Scan
  | 0, s => s
  | fuel + 1, s =>
    let c := s.cursor.skip fun ch => ch = ' ' || (s.inFlow && ch = '\t')
    let c := if c.peek = '#' then c.skip fun ch => !Cursor.isBreakOrEnd ch else c
    match c.lineBreak? with
    | none => { s with cursor := c }
    | some (_, c) =>
      skipBlank fuel { s with cursor := c, keyAllowed := s.keyAllowed || !s.inFlow }

/-- The end of the text. -/
def atEnd (s : Scan) : Except Fault Scan := do
  let s ← (s.unwind (-1)).dropCandidate
  pure { s.push .streamEnd with keyAllowed := false, candidates := [], finished := true }

/-- A directive. -/
def atDirective (s : Scan) : Except Fault Scan := do
  let s ← (s.unwind (-1)).dropCandidate
  let (d, c) ← Property.directive s.hasOldTags s.cursor
  let version :=
    match d with
    | .version major minor => (major, minor)
    | _ => s.version
  pure { s.push (.directive d) with keyAllowed := false, cursor := c, version := version }

/-- The mark of the start or end of a document. -/
def atMark (s : Scan) (t : Token) : Except Fault Scan := do
  let s ← (s.unwind (-1)).dropCandidate
  pure { s.pushSign t 3 with keyAllowed := false }

/-- An opening bracket. -/
def atOpening (s : Scan) (t : Token) (flow : Flow) : Except Fault Scan := do
  let s ← s.saveCandidate
  pure { s.pushSign t 1 with flow := flow :: s.flow, keyAllowed := true }

/-- A closing bracket. -/
def atClosing (s : Scan) (t : Token) : Except Fault Scan := do
  let s ← s.dropCandidate
  pure { s.pushSign t 1 with flow := s.flow.drop 1, keyAllowed := false }

/-- A comma. -/
def atComma (s : Scan) : Except Fault Scan := do
  let s ← { s with keyAllowed := true }.dropCandidate
  pure (s.pushSign .flowEntry 1)

/-- A sign that opens a block collection of given kind when it is further to the right. -/
def openBlock (s : Scan) (t : Token) : Except Fault Scan :=
  if s.inFlow then .ok s
  else if !s.keyAllowed then malformed .token
  else
    match s.enter? s.cursor.column with
    | some s => .ok (s.push t)
    | none => .ok s

/-- The hyphen of a block sequence. -/
def atEntry (s : Scan) : Except Fault Scan := do
  let s ← s.openBlock .blockSequenceStart
  let s ← { s with keyAllowed := true }.dropCandidate
  pure (s.pushSign .blockEntry 1)

/-- The question mark of a key. -/
def atKey (s : Scan) : Except Fault Scan := do
  let s ← s.openBlock .blockMappingStart
  let s ← { s with keyAllowed := !s.inFlow }.dropCandidate
  pure (s.pushSign .key 1)

/-- The colon of a value.  A candidate before it becomes a key. -/
def atValue (s : Scan) : Except Fault Scan :=
  match s.candidate? with
  | some k =>
    let s := s.withoutCandidate.insertAt k .key
    let s :=
      if s.inFlow then s
      else
        match s.enter? k.column with
        | some s => s.insertAt k .blockMappingStart
        | none => s
    .ok ({ s with keyAllowed := false }.pushSign .value 1)
  | none => do
    let s ← s.openBlock .blockMappingStart
    let s ← { s with keyAllowed := !s.inFlow }.dropCandidate
    pure (s.pushSign .value 1)

/-- An alias, an anchor or a tag, read by `read`. -/
def atProperty (s : Scan) (read : Cursor → Except Fault (Token × Cursor)) : Except Fault Scan := do
  let s ← s.saveCandidate
  let (t, c) ← read s.cursor
  pure { s.push t with keyAllowed := false, cursor := c }

/-- A block scalar. -/
def atBlockScalar (s : Scan) : Except Fault Scan := do
  let s ← { s with keyAllowed := true }.dropCandidate
  let (text, c) ← Block.read s.indent s.cursor
  pure { s.push (.scalar (.ofChars text) false) with cursor := c }

/-- A quoted scalar. -/
def atQuoted (s : Scan) : Except Fault Scan :=
  s.atProperty fun c =>
    (Quoted.read c).map fun (text, c) => (.scalar text false, c)

/-- A plain scalar. -/
def atPlain (s : Scan) : Except Fault Scan := do
  let s ← s.saveCandidate
  let found := Plain.read ⟨s.inFlow, s.isLegacy, s.indent + 1⟩ s.cursor
  pure { s.push (.scalar (.ofChars found.text) true) with
    keyAllowed := found.isBroken, cursor := found.cursor }

/-! ## The next token -/

/-- Whether a gap follows the character at the cursor. -/
def gapFollows (s : Scan) : Bool := Cursor.isGap (s.cursor.peekAt 1)

/-- Whether the colon at the cursor is the sign of a value. -/
def isValueSign (s : Scan) : Bool :=
  match s.flow with
  | [] => s.gapFollows
  | flow :: _ =>
    s.isLegacy ||
      (if flow = .sequence ∨ s.held.getLast?.map Placed.token = some .value then s.gapFollows
       else true)

/-- What no plain scalar starts with. -/
def isIndicator (c : Char) : Bool :=
  c = ' ' || c = '\t' || Cursor.isBreakOrEnd c ||
    "-?:,[]#&*!|>'\"%@".toList.contains c || ['\x7b', '\x7d', '\x60'].contains c

/-- Whether a plain scalar starts at the cursor. -/
def startsPlain (s : Scan) : Bool :=
  let ch := s.cursor.peek
  let after := s.cursor.peekAt 1
  if !isIndicator ch then true
  else if !s.isLegacy && ch = ':' && s.inFlow && after ≠ ' ' && after ≠ '\t' then true
  else !s.gapFollows && (ch = '-' || (!s.inFlow && (ch = '?' || ch = ':')))

/-- Whether a mark of three characters stands at the start of a line. -/
def isAtMark (s : Scan) (ch : Char) : Bool :=
  s.cursor.column == 0 && s.cursor.atMark ch

/-- Reads an alias or an anchor as a token. -/
def readAnchor (make : String → Token) (c : Cursor) : Except Fault (Token × Cursor) :=
  (Property.anchor c).map fun (name, c) => (make name, c)

/-- The token that the character at the cursor starts. -/
def step (s : Scan) : Except Fault Scan :=
  let ch := s.cursor.peek
  if ch = ending then s.atEnd
  else if ch = '%' ∧ s.cursor.column = 0 then s.atDirective
  else if s.isAtMark '-' then s.atMark .documentStart
  else if s.isAtMark '.' then s.atMark .documentEnd
  else if ch = '[' then s.atOpening .flowSequenceStart .sequence
  else if ch = '\x7b' then s.atOpening .flowMappingStart .mapping
  else if ch = ']' then s.atClosing .flowSequenceEnd
  else if ch = '\x7d' then s.atClosing .flowMappingEnd
  else if ch = ',' then s.atComma
  else if ch = '-' && s.gapFollows then s.atEntry
  else if ch = '?' && (s.inFlow || s.gapFollows) then s.atKey
  else if ch = ':' && s.isValueSign then s.atValue
  else if ch = '*' then s.atProperty (readAnchor .alias)
  else if ch = '&' then s.atProperty (readAnchor .anchor)
  else if ch = '!' then
    s.atProperty fun c => (Property.tag s.hasOldTags c).map fun (t, c) => (.tag t, c)
  else if (ch = '|' ∨ ch = '>') ∧ !s.inFlow then s.atBlockScalar
  else if ch = '\x27' ∨ ch = '"' then s.atQuoted
  else if s.startsPlain then s.atPlain
  else malformed .token

/-- Finds the next token or tokens. -/
def fetch (s : Scan) : Except Fault Scan := do
  let mark := s.cursor.index = 0 ∧ s.cursor.peek = '\uFEFF'
  let s := if mark then { s with cursor := s.cursor.next } else s
  let s ← (skipBlank s.cursor.bound s).dropStale
  (s.unwind s.cursor.column).step

end Scan

/-- Tokens in a row, and the fault that ends them if there is one. -/
structure Row where
  tokens : List Placed
  fault : Option Fault

/-- Gives out the held tokens that no key can be put before. -/
def giveOut : List Placed → Scan → List Placed × Scan
  | [], s => ([], { s with held := [] })
  | t :: rest, s =>
    if !s.finished && s.mustWait then ([], { s with held := t :: rest })
    else
      let (more, s) := giveOut rest { s with given := s.given + 1 }
      (t :: more, s)

/-- Finds the next tokens and drops the candidates that they outdate. -/
def Scan.fetchFresh (s : Scan) : Except Fault Scan := do
  let s ← s.fetch
  if s.finished then pure s else s.dropStale

/-- The tokens of a text from a scan on. -/
def rowFrom : Nat → Scan → List Placed → Row
  | 0, _, found => ⟨found.reverse, none⟩
  | fuel + 1, s, found =>
    match s.fetchFresh with
    | .error fault => ⟨found.reverse, some fault⟩
    | .ok s =>
      let (given, s) := giveOut s.held s
      let found := given.reverse ++ found
      if s.finished then ⟨found.reverse, none⟩ else rowFrom fuel s found

/-- The tokens of a text. -/
def scan (text : List Char) : Row :=
  rowFrom (text.length + 2) (.start text) []

end Token

end Colonnade.Yaml
