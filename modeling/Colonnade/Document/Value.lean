import Colonnade.Document.Date
import Colonnade.Number.Integer
import Colonnade.Text.Loose

/-!
# Document values

What a document holds once its tags are resolved: scalars of several kinds, lists, sets, and maps
whose pairs keep their order.  A tuple is a list that stands as the key of a map, or a pair that
stands by itself.  A collection that turns up inside itself is written as a mark of its shape, since
its text would have no end.

`sameScalar` says when two scalars are the same key of a map; `shown` and `plainText` write a
value as text for messages.
-/

namespace Colonnade.Document

/-- The shape of a collection.  An ordered map is one that is tagged as such. -/
inductive Shape where
  | list
  | set
  | map
  | orderedMap
  deriving DecidableEq, Repr

/-- A value of a document. -/
inductive Value where
  | null
  | bool (value : Bool)
  | int (value : Int)
  | float (value : Float)
  | text (value : Text.Loose)
  | bytes (value : List UInt8)
  | date (value : Date)
  | moment (value : Moment)
  | list (items : List Value)
  | tuple (items : List Value)
  | set (items : List Value)
  | map (pairs : List (Value × Value))
  | orderedMap (pairs : List (Value × Value))
  /-- A collection inside itself. -/
  | again (shape : Shape)

namespace Value

/-- The pairs of a map of either kind. -/
def pairs? : Value → Option (List (Value × Value))
  | .map pairs => some pairs
  | .orderedMap pairs => some pairs
  | _ => none

/-- The members of a list, a tuple or a set. -/
def items? : Value → Option (List Value)
  | .list items => some items
  | .tuple items => some items
  | .set items => some items
  | _ => none

/-- The value of a text key among pairs, the first one from the front. -/
def lookup? (name : String) : List (Value × Value) → Option Value
  | [] => none
  | (.text key, value) :: rest => if key = name then some value else lookup? name rest
  | _ :: rest => lookup? name rest

/-! ## Keys -/

/-- Whether a float has exactly the value of an integer. -/
def floatIsInt (x : Float) (n : Int) : Bool :=
  match Number.Parts.ofFloat x with
  | .finite negative mantissa exponent =>
    let (num, den) := Number.fraction mantissa exponent
    num == n.natAbs * den && (num == 0 || negative == decide (n < 0))
  | _ => false

/-- A truth value as a number. -/
def ofBool (b : Bool) : Int := if b then 1 else 0

/-- Whether two scalars are equal.  Numbers are compared by value across their kinds, and truth
values count as the numbers one and zero. -/
def sameScalar : Value → Value → Bool
  | .null, .null => true
  | .bool a, .bool b => a == b
  | .bool a, .int b => ofBool a == b
  | .int a, .bool b => a == ofBool b
  | .bool a, .float b => floatIsInt b (ofBool a)
  | .float a, .bool b => floatIsInt a (ofBool b)
  | .int a, .int b => a == b
  | .int a, .float b => floatIsInt b a
  | .float a, .int b => floatIsInt a b
  | .float a, .float b => a == b
  | .text a, .text b => a == b
  | .bytes a, .bytes b => a == b
  | .date a, .date b => a == b
  | .moment a, .moment b => a.same b
  | _, _ => false

/-! ## Text -/

mutual

/-- Whether an integer that is too large to be written is part of a value. -/
def holdsTooLarge : Value → Bool
  | .int n => Number.isTooLarge n
  | .list items => anyTooLarge items
  | .tuple items => anyTooLarge items
  | .set items => anyTooLarge items
  | .map pairs => anyPairTooLarge pairs
  | .orderedMap pairs => anyPairTooLarge pairs
  | _ => false

/-- Whether an integer that is too large to be written is part of some value of a list. -/
def anyTooLarge : List Value → Bool
  | [] => false
  | item :: rest => holdsTooLarge item || anyTooLarge rest

/-- Whether an integer that is too large to be written is part of some pair. -/
def anyPairTooLarge : List (Value × Value) → Bool
  | [] => false
  | (key, value) :: rest => holdsTooLarge key || holdsTooLarge value || anyPairTooLarge rest

end

/-- The text of one byte inside quotes. -/
def byteText (quote : Char) (byte : UInt8) : List Char :=
  let c := Char.ofNat byte.toNat
  if 0x7F ≤ byte then '\\' :: 'x' :: Text.hexDigits 2 byte.toNat else Text.quotedChar quote c

/-- Bytes in quotes, after a mark. -/
def bytesText (bytes : List UInt8) : String :=
  let quote := Text.quoteFor (bytes.map fun byte => Char.ofNat byte.toNat)
  String.ofList ('b' :: quote :: bytes.flatMap (byteText quote) ++ [quote])

/-- The fields of a date, for messages. -/
def dateFields (d : Date) : List String :=
  [toString d.year, toString d.month, toString d.day]

/-- A zone, for messages. -/
def zoneField (z : Zone) : String :=
  "tzinfo=datetime.timezone(" ++ durationText z.minutes ++ ", " ++ Text.quoted z.name ++ ")"

/-- The fields of a moment, for messages.  Seconds are left out when they and what is finer are
zero. -/
def momentFields (m : Moment) : List String :=
  dateFields m.date ++ [toString m.hour, toString m.minute] ++
    (if m.second = 0 ∧ m.micro = 0 then [] else [toString m.second]) ++
    (if m.micro = 0 then [] else [toString m.micro]) ++ (m.zone.map zoneField).toList

/-- Members in brackets, with commas between them. -/
def enclosed (opening closing : String) (members : List String) : String :=
  opening ++ ", ".intercalate members ++ closing

/-- Members of a tuple; a comma follows one that is alone. -/
def tupleText (members : List String) : String :=
  match members with
  | [member] => "(" ++ member ++ ",)"
  | members => enclosed "(" ")" members

/-- A set, given the texts of its members; braces without members would be a map. -/
def setText (members : List String) : String :=
  if members.isEmpty then "set()" else enclosed "\x7b" "\x7d" members

/-- An ordered map, given the texts of its pairs. -/
def orderedText (pairs : List String) : String :=
  "ordereddict(" ++ (if pairs.isEmpty then "" else enclosed "[" "]" pairs) ++ ")"

/-- The mark for a collection inside itself. -/
def againText : Shape → String
  | .list => "[...]"
  | .set => "set(...)"
  | .map => "\x7b...\x7d"
  | .orderedMap => "..."

mutual

/-- A value as it stands inside a message, texts in quotes. -/
def shown : Value → String
  | .null => "None"
  | .bool true => "True"
  | .bool false => "False"
  | .int n => toString n
  | .float x => Number.floatText x
  | .text s => s.quoted
  | .bytes given => bytesText given
  | .date d => enclosed "datetime.date(" ")" (dateFields d)
  | .moment m => enclosed "datetime.datetime(" ")" (momentFields m)
  | .list items => enclosed "[" "]" (shownItems items)
  | .tuple items => tupleText (shownItems items)
  | .set items => setText (shownItems items)
  | .map pairs => enclosed "\x7b" "\x7d" (shownPairs ": " "" "" pairs)
  | .orderedMap pairs => orderedText (shownPairs ", " "(" ")" pairs)
  | .again shape => againText shape

/-- The members of a list inside a message. -/
def shownItems : List Value → List String
  | [] => []
  | item :: rest => shown item :: shownItems rest

/-- The pairs of a map inside a message, each with a separator inside and brackets around. -/
def shownPairs (separator opening closing : String) : List (Value × Value) → List String
  | [] => []
  | (key, value) :: rest =>
    (opening ++ shown key ++ separator ++ shown value ++ closing) ::
      shownPairs separator opening closing rest

end

/-- A value as text: a text is itself, and dates have their usual form. -/
def plainText : Value → Text.Loose
  | .text s => s
  | .date d => d.text
  | .moment m => m.text " "
  | value => shown value

end Value

end Colonnade.Document
