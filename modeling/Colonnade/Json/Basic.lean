import Colonnade.Number.Shortest
import Colonnade.Text.Loose

/-!
# JSON documents

Reports, manifests and scenes are JSON documents whose object members keep their order.  The text
of a document is pure ASCII: other characters are written by their UTF-16 units, and a surrogate is
such a unit itself.  There are two layouts, one without any space and one with a line for every
member.
-/

namespace Colonnade

/-- A JSON document. -/
inductive Json where
  | null
  | bool (value : Bool)
  | int (value : Int)
  | float (value : Float)
  | text (value : Text.Loose)
  | list (items : List Json)
  | object (members : List (String × Json))
  deriving Inhabited

namespace Json

/-- A natural number. -/
def nat (n : Nat) : Json := .int n

/-- The first member of an object with a given name. -/
def get? (name : String) : Json → Option Json
  | .object members => members.lookup name
  | _ => none

/-! ## Text -/

/-- One UTF-16 unit by its number. -/
def unitText (unit : Nat) : List Char :=
  '\\' :: 'u' :: Text.hexDigits 4 unit

/-- One character inside a JSON string. -/
def charText (c : Char) : List Char :=
  if c = '"' then ['\\', '"']
  else if c = '\\' then ['\\', '\\']
  else if c = '\n' then ['\\', 'n']
  else if c = '\r' then ['\\', 'r']
  else if c = '\t' then ['\\', 't']
  else if c = '\x08' then ['\\', 'b']
  else if c = '\x0c' then ['\\', 'f']
  else if 0x20 ≤ c.toNat && c.toNat < 0x7F then [c]
  else if c.toNat < 0x10000 then unitText c.toNat
  else
    let offset := c.toNat - 0x10000
    unitText (0xD800 + offset / 0x400) ++ unitText (0xDC00 + offset % 0x400)

/-- One code point inside a JSON string. -/
def pointText : Text.CodePoint → List Char
  | .char c => charText c
  | .surrogate code => unitText code

/-- A JSON string. -/
def stringText (s : Text.Loose) : String :=
  String.ofList ('"' :: s.flatMap pointText ++ ['"'])

/-- Floats in JSON are written like floats everywhere, with other words for what is no number. -/
def floatStyle : Number.FloatStyle :=
  { Number.FloatStyle.plain with nan := "NaN", infinity := "Infinity" }

/-- A layout: what goes between members, after the colon of a member, and around the members of a
list or object at a depth. -/
structure Layout where
  separator : String
  colon : String
  newline : Nat → String

/-- No space anywhere. -/
def Layout.compact : Layout := ⟨",", ":", fun _ => ""⟩

/-- A line for every member, two spaces deeper than what holds it. -/
def Layout.indented : Layout :=
  ⟨",", ": ", fun depth => String.ofList ('\n' :: List.replicate (2 * depth) ' ')⟩

/-- Members between brackets, each on its own line of the layout. -/
def bracketed (layout : Layout) (depth : Nat) (opening closing : String) (members : List String) :
    String :=
  if members.isEmpty then opening ++ closing
  else
    opening ++ layout.newline (depth + 1) ++
      (layout.separator ++ layout.newline (depth + 1)).intercalate members ++
      layout.newline depth ++ closing

mutual

/-- A document at a depth. -/
def textAt (layout : Layout) (depth : Nat) : Json → String
  | .null => "null"
  | .bool true => "true"
  | .bool false => "false"
  | .int n => toString n
  | .float x => floatStyle.text x
  | .text s => stringText s
  | .list items => bracketed layout depth "[" "]" (itemTexts layout (depth + 1) items)
  | .object members =>
    bracketed layout depth "\x7b" "\x7d" (memberTexts layout (depth + 1) members)

/-- The members of a list. -/
def itemTexts (layout : Layout) (depth : Nat) : List Json → List String
  | [] => []
  | item :: rest => textAt layout depth item :: itemTexts layout depth rest

/-- The members of an object. -/
def memberTexts (layout : Layout) (depth : Nat) : List (String × Json) → List String
  | [] => []
  | (name, value) :: rest =>
    (stringText name ++ layout.colon ++ textAt layout depth value) ::
      memberTexts layout depth rest

end

/-- A document without any space. -/
def compactText (j : Json) : String := textAt .compact 0 j

/-- A document with a line for every member. -/
def indentedText (j : Json) : String := textAt .indented 0 j

mutual

/-- Whether every number in a document is finite, so that it has a strict JSON text. -/
def isStrict : Json → Bool
  | .float x => x.isFinite
  | .list items => areStrict items
  | .object members => membersAreStrict members
  | _ => true

/-- Whether all documents of a list have a strict text. -/
def areStrict : List Json → Bool
  | [] => true
  | item :: rest => isStrict item && areStrict rest

/-- Whether all members of an object have a strict text. -/
def membersAreStrict : List (String × Json) → Bool
  | [] => true
  | (_, value) :: rest => isStrict value && membersAreStrict rest

end

/-- The wording of a document without a strict text. -/
def notStrictMessage : String :=
  "Out of range float values are not JSON compliant"

end Json

end Colonnade
