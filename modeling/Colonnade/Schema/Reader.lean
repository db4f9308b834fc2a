import Colonnade.Schema.Integer
import Colonnade.Schema.Problem
import Colonnade.Text.Utf8

/-!
# Readers of document values

A reader turns a document value into typed data or finds its problems.  The readers of numbers
are generous: a number may be given as a truth value, as text, or as a number of the other kind
if nothing is lost.
-/

namespace Colonnade.Schema

open Colonnade.Document (Value)

/-- Reads typed data out of a document value. -/
abbrev Reader (α : Type) : Type := Value → Checked α

namespace Reader

variable {α : Type}

/-! ## Texts -/

/-- A text, or bytes that store one. -/
def text : Reader Text.Loose
  | .text s => pure s
  | .bytes bytes =>
    match Text.Utf8.decode bytes with
    | .ok chars => pure (.ofChars chars)
    | .error _ => .fail .notUnicode
  | _ => .fail .notText

/-- What is read of a text without surrogates. -/
def unicode (read : String → Checked α) (text : Text.Loose) : Checked α :=
  match text.text? with
  | some s => read s
  | none => .fail .notUnicode

/-- What one of some fixed texts stands for. -/
def choice (options : List (String × α)) (text : String) : Checked α :=
  match options.lookup text with
  | some a => pure a
  | none => .fail (.notOneOf (options.map Prod.fst))

/-- One of some fixed texts, each with what it stands for. -/
def oneOf (options : List (String × α)) : Reader α
  | .text s => unicode (choice options) s
  | _ => .fail (.notOneOf (options.map Prod.fst))

/-! ## Numbers -/

/-- A float that is written as text. -/
def floatOfText (text : List Char) : Checked Float :=
  match Number.readSignedFloat? (Text.trim Text.isBlank text) with
  | some x => pure x
  | none =>
    match (IntegerText.withoutUnderscores? text).bind Number.readSignedFloat? with
    | some x => pure x
    | none => .fail .floatText

/-- The characters of bytes that store a text. -/
def charsOfBytes? (bytes : List UInt8) : Option (List Char) :=
  (Text.Utf8.decode bytes).toOption

/-- A float.  Integers that no float is near to are refused. -/
def float : Reader Float
  | .float x => pure x
  | .bool b => pure (if b then 1.0 else 0.0)
  | .int n =>
    match Number.floatOfInt? n with
    | some x => pure x
    | none => .fail .notFloat
  | .text s => unicode (fun s => floatOfText s.toList) s
  | .bytes bytes => ((charsOfBytes? bytes).map floatOfText).getD (.fail .floatText)
  | _ => .fail .notFloat

/-- An integer that is written as text. -/
def integerOfText (text : List Char) : Checked Int :=
  match IntegerText.read text with
  | .value n => pure n
  | .tooLong => .fail .integerSize
  | .malformed => .fail .integerText

/-- A float that is a whole number of at most sixty-four bits, as an integer. -/
def integerOfFloat (x : Float) : Checked Int :=
  match Number.Parts.ofFloat x with
  | .finite negative mantissa exponent =>
    let (num, den) := Number.fraction mantissa exponent
    if num % den ≠ 0 then .fail .fraction
    else
      let size := num / den
      if Number.twoTo 63 ≤ size then .fail .integerSize
      else pure (if negative then -size else size)
  | _ => .fail .notFinite

/-- An integer. -/
def integer : Reader Int
  | .int n => pure n
  | .bool b => pure (if b then 1 else 0)
  | .float x => integerOfFloat x
  | .text s => unicode (fun s => integerOfText s.toList) s
  | .bytes bytes => ((charsOfBytes? bytes).map integerOfText).getD (.fail .integerText)
  | _ => .fail .notInteger

/-! ## Compound values -/

/-- A value that may be null. -/
def optional (reader : Reader α) : Reader (Option α)
  | .null => pure none
  | value => some <$> reader value

/-- The results of readers of the members of a list, by position. -/
def itemsFrom (reader : Reader α) (position : Nat) : List Value → List (Checked α)
  | [] => []
  | item :: rest =>
    (reader item).inside (.item position) :: itemsFrom reader (position + 1) rest

/-- A list. -/
def list (reader : Reader α) : Reader (List α) := fun value =>
  match value.items? with
  | some items => .all (itemsFrom reader 0 items)
  | none => .fail .notList

/-- Three members of a tuple, by position. -/
def triple (reader : Reader α) (items : List Value) : Checked (α × α × α) :=
  let member (position : Nat) : Checked α :=
    (match items[position]? with
      | some item => reader item
      | none => .fail .missing).inside (.item position)
  if 3 < items.length then .fail (.tooLong 3 items.length)
  else (fun a b c => (a, b, c)) <$> member 0 <*> member 1 <*> member 2

/-- A tuple of three members. -/
def tuple3 (reader : Reader α) : Reader (α × α × α) := fun value =>
  match value.items? with
  | some items => triple reader items
  | none => .fail .notTuple

/-! ## Models -/

/-- The pairs of a map. -/
abbrev Pairs := List (Value × Value)

/-- The value of a field. -/
def field? (name : String) (pairs : Pairs) : Option Value :=
  Value.lookup? name pairs

/-- A field that must be there. -/
def required (name : String) (reader : Reader α) (pairs : Pairs) : Checked α :=
  (match field? name pairs with
    | some value => reader value
    | none => .fail .missing).inside (.field name)

/-- A field with a default. -/
def defaulted (name : String) (default : α) (reader : Reader α) (pairs : Pairs) : Checked α :=
  match field? name pairs with
  | some value => (reader value).inside (.field name)
  | none => pure default

/-- A field that may be left out or null. -/
def absent? (name : String) (reader : Reader α) (pairs : Pairs) : Checked (Option α) :=
  defaulted name none (optional reader) pairs

/-- A key as it stands in a path when it is no text.  The kind alone is named of what cannot be
written. -/
def shownKey (key : Value) : String :=
  if key.holdsTooLarge then
    match key with
    | .int _ => "<unprintable int object>"
    | _ => "<unprintable tuple object>"
  else key.shown

/-- How a key stands in a path: texts and small integers as themselves, truth values as numbers,
and all else as in messages. -/
def placeOfKey : Value → Place
  | .text s => .field (String.ofList s.joined)
  | .int n =>
    if -0x8000000000000000 ≤ n ∧ n < 0x8000000000000000 then .item n else .field (shownKey (.int n))
  | .bool b => .item (if b then 1 else 0)
  | key => .field (shownKey key)

/-- The problem of a key that is no field of a model, if it has one. -/
def strayKey? (fields : List String) (key : Value) : Option Problem :=
  match key with
  | .text s =>
    if fields.any fun name => s = name then none else some ⟨[placeOfKey key], .unknownField⟩
  | key => some ⟨[placeOfKey key], .keyNotText⟩

/-- Refuses keys that are no fields of a model. -/
def strays (fields : List String) (pairs : Pairs) : Checked Unit :=
  match pairs.filterMap fun pair => strayKey? fields pair.1 with
  | [] => pure ()
  | problems => .error problems

/-- Whether a text with surrogates is a key of a map. -/
def hasLooseKey (pairs : Pairs) : Bool :=
  pairs.any fun pair =>
    match pair.1 with
    | .text s => s.text?.isNone
    | _ => false

/-- The fields of a model.  A key with surrogates is no name, and nothing else is reported then. -/
def fields (names : List String) (build : Pairs → Checked α) (pairs : Pairs) : Checked α :=
  if hasLooseKey pairs then .fail .notUnicode else build pairs <* strays names pairs

/-- A model with given name and fields; `build` reads the fields. -/
def model (name : String) (names : List String) (build : Pairs → Checked α) : Reader α :=
  fun value =>
    match value.pairs? with
    | some pairs => fields names build pairs
    | none => .fail (.notModel name)

end Reader

end Colonnade.Schema
