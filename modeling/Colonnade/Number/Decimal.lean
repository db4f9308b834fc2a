import Colonnade.Number.Integer
import Colonnade.Number.Nearest

/-!
# Reading decimal numbers

A decimal number has digits with an optional point among, before or after them, and an optional
exponent.  It is read as the float nearest to its exact value; what is too large is infinite.
`readFloat?` is the reading of text fields and tagged scalars, with a sign, words for infinity
and NaN, and surrounding white space.
-/

namespace Colonnade.Number

/-- A decimal number `digits * 10 ^ exponent`. -/
structure Decimal where
  digits : Nat
  exponent : Int
  deriving DecidableEq, Repr

/-- The number that ASCII digits write. -/
def asciiValue (digits : List Char) : Nat :=
  digits.foldl (fun value c => value * 10 + (c.toNat - 48)) 0

/-- The exponent part of a decimal number: nothing, or a mark, a sign and digits. -/
def readExponent? : List Char → Option Int
  | [] => some 0
  | mark :: rest =>
    if mark = 'e' ∨ mark = 'E' then
      let (negative, digits) := splitSign rest
      if digits.isEmpty || !digits.all Char.isDigit then none
      else
        let value : Int := asciiValue digits
        some (if negative then -value else value)
    else none

/-- A decimal number without a sign, in ASCII digits. -/
def readDecimal? (text : List Char) : Option Decimal :=
  let (whole, rest) := (text.takeWhile Char.isDigit, text.dropWhile Char.isDigit)
  let (part, rest) :=
    match rest with
    | '.' :: rest => (rest.takeWhile Char.isDigit, rest.dropWhile Char.isDigit)
    | rest => ([], rest)
  if whole.isEmpty && part.isEmpty then none
  else (readExponent? rest).map fun exponent =>
    ⟨asciiValue (whole ++ part), exponent - part.length⟩

/-- The float nearest to a decimal number.  Exponents far outside the range of the format are
settled by size alone. -/
def Decimal.toFloat (d : Decimal) (negative : Bool) : Float :=
  let size := d.exponent + decimalLength d.digits
  if d.digits = 0 ∨ size < -400 then nearestFloat negative 0 1
  else if 400 < size then infiniteFloat negative
  else nearestFloat negative (d.digits * tenTo d.exponent.toNat) (tenTo (-d.exponent).toNat)

/-- The words for infinity and NaN, in lower case, without a sign. -/
def readUnlimited? (negative : Bool) (text : List Char) : Option Float :=
  let word := String.ofList (text.map Char.toLower)
  if word = "inf" ∨ word = "infinity" then some (infiniteFloat negative)
  else if word = "nan" then some (.ofBits 0x7FF8000000000000)
  else none

/-- A float in ASCII text without white space around it. -/
def readSignedFloat? (text : List Char) : Option Float :=
  let (negative, unsigned) := splitSign text
  match readDecimal? unsigned with
  | some decimal => some (decimal.toFloat negative)
  | none => readUnlimited? negative unsigned

/-- A text with the decimal digits of every script written in ASCII. -/
def asciiDigits (text : List Char) : List Char :=
  text.map fun c => ((Text.digitValue? c).map Nat.digitChar).getD c

/-- A text without its underscores, if each stands between two digits. -/
def dropUnderscores? : Bool → List Char → Option (List Char)
  | _, [] => some []
  | afterDigit, '_' :: c :: rest =>
    if afterDigit && c.isDigit then (dropUnderscores? true rest).map (c :: ·) else none
  | _, '_' :: [] => none
  | _, c :: rest => (dropUnderscores? c.isDigit rest).map (c :: ·)

/-- A float in text, with white space around it, digits of any script and single underscores
between digits. -/
def readFloat? (text : List Char) : Option Float :=
  (dropUnderscores? false (asciiDigits (Text.trim Text.isBlank text))).bind readSignedFloat?

end Colonnade.Number
