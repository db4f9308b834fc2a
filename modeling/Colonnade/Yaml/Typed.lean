import Colonnade.Document.Value
import Colonnade.Number.Decimal
import Colonnade.Text.Split
import Colonnade.Yaml.Resolution

/-!
# Typed scalars

The values of scalars under their tags.  Underscores in numbers are dropped.  Under the older
rules a leading zero marks base eight, and colons separate the digits of base sixty.
-/

namespace Colonnade.Yaml.Typed

open Document (Value)

/-- A text without its underscores. -/
def withoutLines (text : Text.Loose) : Text.Loose := text.filter (· ≠ .char '_')

/-- An integer in a base, with the fault of this format. -/
def integerIn (base : Nat) (text : Text.Loose) : Except Fault Int :=
  (Number.readLooseInteger base text).mapError .integer

/-- The pieces of a text between colons. -/
def split (text : Text.Loose) : List Text.Loose :=
  Text.split (.char ':') text

/-- The sum of digits in base sixty, the last one first. -/
def sumSixtieths : Int → List Int → Int
  | _, [] => 0
  | base, digit :: rest => digit * base + sumSixtieths (base * 60) rest

/-- An integer without underscores and sign. -/
def unsignedInteger (legacy : Bool) (text : Text.Loose) : Except Fault Int :=
  match text with
  | [.char '0'] => .ok 0
  | .char '0' :: .char 'b' :: rest => integerIn 2 rest
  | .char '0' :: .char 'x' :: rest => integerIn 16 rest
  | .char '0' :: .char 'o' :: rest => integerIn 8 rest
  | _ =>
    if legacy && text.isEmpty then .error .noDigits
    else if legacy && text.head? = some (.char '0') then integerIn 8 text
    else if legacy && text.contains (.char ':') then do
      let digits ← (split text).mapM (integerIn 10)
      pure (sumSixtieths 1 digits.reverse)
    else integerIn 10 text

/-- The sign and the rest of a number, which must not be empty. -/
def signed : Text.Loose → Except Fault (Bool × Text.Loose)
  | [] => .error .noDigits
  | .char '-' :: rest => .ok (true, rest)
  | .char '+' :: rest => .ok (false, rest)
  | text => .ok (false, text)

/-- An integer. -/
def integer (legacy : Bool) (text : Text.Loose) : Except Fault Int := do
  let (negative, rest) ← signed (withoutLines text)
  let n ← unsignedInteger legacy rest
  pure (if negative then -n else n)

/-- A float in text. -/
def floatIn (text : Text.Loose) : Except Fault Float :=
  match text.chars?.bind Number.readFloat? with
  | some x => .ok x
  | none => .error (.floatText text)

/-- The sum of float digits in base sixty, the last one first.  No float is as large as a very
high power of sixty. -/
def sumFloatSixtieths : Float → Nat → List Float → Except Fault Float
  | sum, _, [] => .ok sum
  | sum, base, digit :: rest =>
    match Number.floatOfInt? base with
    | none => .error .floatSize
    | some weight => sumFloatSixtieths (sum + digit * weight) (base * 60) rest

/-- Whether a float, without underscores and sign and in lower case, is the one that is not a
number. -/
def isNaNWord (text : Text.Loose) : Bool := text = .ofChars ".nan".toList

/-- A float without underscores and sign, in lower case. -/
def unsignedFloat (legacy : Bool) (text : Text.Loose) : Except Fault Float :=
  if text = .ofChars ".inf".toList then .ok (Number.infiniteFloat false)
  else if isNaNWord text then .ok (0.0 / 0.0)
  else if legacy && text.contains (.char ':') then do
    let digits ← (split text).mapM floatIn
    sumFloatSixtieths 0.0 1 digits.reverse
  else if legacy && 1 < text.count (.char 'e') then .error .exponents
  else floatIn text

/-- A float without underscores, in lower case, with its sign split off. -/
def floatParts (text : Text.Loose) : Except Fault (Bool × Text.Loose) :=
  signed (withoutLines text).lower

/-- A float. -/
def float (legacy : Bool) (text : Text.Loose) : Except Fault Float := do
  let (negative, rest) ← floatParts text
  let x ← unsignedFloat legacy rest
  pure (if negative then -1.0 * x else 1.0 * x)

/-- Whether a text is a spelling of the one float that is not a number, which all documents
share.  What `nan` writes is another one each time. -/
def isSharedNaN (text : Text.Loose) : Bool :=
  match floatParts text with
  | .ok (_, rest) => isNaNWord rest
  | .error _ => false

/-- The words for truth values, in lower case. -/
def truthValues : List (String × Bool) := [
  ("yes", true), ("no", false), ("y", true), ("n", false), ("true", true), ("false", false),
  ("on", true), ("off", false)]

/-- A truth value. -/
def truth (text : Text.Loose) : Except Fault Bool :=
  let word := text.lower
  match word.chars?.bind fun chars => truthValues.lookup (String.ofList chars) with
  | some b => .ok b
  | none => .error (.truthWord word)

/-- A date or moment. -/
def stamp (text : Text.Loose) : Except Fault Value :=
  match (text.chars?.map Tag.withoutFinalBreak).bind Stamp.read with
  | none => malformed .value
  | some s =>
    match s.resolve with
    | .ok (.inl date) => .ok (.date date)
    | .ok (.inr moment) => .ok (.moment moment)
    | .error fault => .error (.date fault)

/-! ## Bytes -/

/-- The value of a digit in base sixty-four. -/
def digit64? (c : Char) : Option Nat :=
  if 'A' ≤ c ∧ c ≤ 'Z' then some (c.toNat - 65)
  else if 'a' ≤ c ∧ c ≤ 'z' then some (c.toNat - 71)
  else if c.isDigit then some (c.toNat + 4)
  else if c = '+' then some 62
  else if c = '/' then some 63
  else none

/-- The bytes written in base sixty-four.  `phase` counts the digits of the present group, `carry`
holds the bits that are left, `pads` counts the equals signs met since the last digit.  Other
characters are skipped; a group that breaks off is an error. -/
def bytesFrom (phase carry pads : Nat) : List Char → Option (List UInt8)
  | [] => if phase = 0 then some [] else none
  | c :: rest =>
    if c = '=' then
      if 2 ≤ phase then
        if 4 ≤ phase + (pads + 1) then some [] else bytesFrom phase carry (pads + 1) rest
      else bytesFrom phase carry pads rest
    else
      match digit64? c with
      | none => bytesFrom phase carry pads rest
      | some d =>
        match phase with
        | 0 => bytesFrom 1 d 0 rest
        | 1 => (bytesFrom 2 (d % 16) 0 rest).map (.ofNat (carry * 4 + d / 16) :: ·)
        | 2 => (bytesFrom 3 (d % 4) 0 rest).map (.ofNat (carry * 16 + d / 4) :: ·)
        | _ => (bytesFrom 0 0 0 rest).map (.ofNat (carry * 64 + d) :: ·)

/-- The bytes of a scalar in base sixty-four. -/
def bytes (text : Text.Loose) : Except Fault (List UInt8) :=
  match text.chars? with
  | none => malformed .value
  | some chars =>
    if chars.any fun c => 0x80 ≤ c.toNat then malformed .value
    else
      match bytesFrom 0 0 0 chars with
      | some bytes => .ok bytes
      | none => malformed .value

/-- The value of a scalar under a tag; tags of collections and tags without a meaning fit no
scalar. -/
def scalar (legacy : Bool) (tag : Tag) (text : Text.Loose) : Except Fault Value :=
  match tag with
  | .null => .ok .null
  | .bool => (truth text).map .bool
  | .int => (integer legacy text).map .int
  | .float => (float legacy text).map .float
  | .timestamp => stamp text
  | .binary => (bytes text).map .bytes
  | .string => .ok (.text text)
  | _ => malformed .value

end Colonnade.Yaml.Typed
