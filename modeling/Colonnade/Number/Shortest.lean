import Colonnade.Number.Parts

/-!
# Shortest decimal text of a float

A float is written with the fewest significant digits that read back as the same float, and of
several such digit strings with the one nearest to its value.  The digits come from exact
arithmetic on the float's parts; `FloatStyle` says how they are laid out.
-/

namespace Colonnade.Number

/-- The interval of numbers that read back as one float: the float's value and the two ends, all
as multiples of a common unit `unitNum / unitDen`.  The ends belong to it when `closed`. -/
structure Neighbourhood where
  value : Nat
  low : Nat
  high : Nat
  unitNum : Nat
  unitDen : Nat
  closed : Bool

/-- The neighbourhood of `mantissa * 2 ^ exponent`.  Below a power of two the numbers lie twice
as dense, so the lower end is half as far away there. -/
def Neighbourhood.of (mantissa : Nat) (exponent : Int) : Neighbourhood :=
  let (num, den) := fraction 1 (exponent - 2)
  let dense := mantissa = twoTo 52 ∧ -1074 < exponent
  { value := 4 * mantissa
    low := 4 * mantissa - (if dense then 1 else 2)
    high := 4 * mantissa + 2
    unitNum := num
    unitDen := den
    closed := mantissa % 2 = 0 }

/-- The point of the grid of multiples of `10 ^ place` that reads back as the float, if there is
one; of two the nearer, and of two at one distance the even one. -/
def Neighbourhood.onGrid? (b : Neighbourhood) (place : Int) : Option Nat :=
  let scale := b.unitNum * tenTo (-place).toNat
  let step := b.unitDen * tenTo place.toNat
  let value := b.value * scale
  let inside (point : Nat) : Bool :=
    if b.closed then b.low * scale ≤ point && point ≤ b.high * scale
    else b.low * scale < point && point < b.high * scale
  let below := value / step
  let above := below + 1
  match inside (below * step), inside (above * step) with
  | true, true =>
    if 2 * value < (below + above) * step then some below
    else if (below + above) * step < 2 * value then some above
    else if below % 2 = 0 then some below else some above
  | true, false => some below
  | false, true => some above
  | false, false => none

/-- Digits without their trailing zeros, and the place of the last digit that is left. -/
def dropZeros : Nat → Nat → Int → Nat × Int
  | 0, digits, place => (digits, place)
  | fuel + 1, digits, place =>
    if digits ≠ 0 ∧ digits % 10 = 0 then dropZeros fuel (digits / 10) (place + 1)
    else (digits, place)

/-- The first grid, from `count` down to one more digit each time, that has a point for the
float.  Seventeen digits always suffice. -/
def Neighbourhood.search (b : Neighbourhood) (lead : Int) : Nat → Nat × Int
  | 0 => (0, 0)
  | left + 1 =>
    let place := lead - (16 - left : Nat)
    match b.onGrid? place with
    | some digits => dropZeros 17 digits place
    | none => search b lead left

/-- The fewest decimal digits of a positive float, and the place of the last one. -/
def shortestDigits (mantissa : Nat) (exponent : Int) : Nat × Int :=
  let b := Neighbourhood.of mantissa exponent
  b.search (leadingExponent (b.value * b.unitNum) b.unitDen) 17

/-- How digits are laid out: positionally when the exponent of the leading digit is at least
`positionalFrom` and below `positionalBelow`, otherwise with an exponent of at least
`exponentWidth` digits. -/
structure FloatStyle where
  positionalFrom : Int
  positionalBelow : Int
  exponentWidth : Nat
  nan : String
  infinity : String

/-- Floats in messages, reports and documents: positional from one ten-thousandth up to below
ten to the sixteenth, always with a point or an exponent. -/
def FloatStyle.plain : FloatStyle := ⟨-4, 16, 2, "nan", "inf"⟩

/-- A number with at least `width` digits. -/
def paddedDigits (width n : Nat) : List Char :=
  let digits := Nat.toDigits 10 n
  List.replicate (width - digits.length) '0' ++ digits

/-- A decimal exponent with its mark and sign. -/
def exponentText (width : Nat) (exponent : Int) : List Char :=
  'e' :: (if exponent < 0 then '-' else '+') :: paddedDigits width exponent.natAbs

/-- Digits whose last stands at `place`, laid out in a style. -/
def FloatStyle.layOut (style : FloatStyle) (digits : Nat) (place : Int) : List Char :=
  let text := Nat.toDigits 10 digits
  let lead := place + text.length - 1
  if style.positionalFrom ≤ lead ∧ lead < style.positionalBelow then
    if 0 ≤ place then text ++ List.replicate place.toNat '0' ++ ['.', '0']
    else if 0 ≤ lead then
      text.take (lead.toNat + 1) ++ '.' :: text.drop (lead.toNat + 1)
    else '0' :: '.' :: List.replicate (-lead - 1).toNat '0' ++ text
  else
    let rest := text.drop 1
    text.take 1 ++ (if rest.isEmpty then [] else '.' :: rest) ++
      exponentText style.exponentWidth lead

/-- The sign of a negative number. -/
def signText (negative : Bool) : List Char :=
  if negative then ['-'] else []

/-- A float in a style. -/
def FloatStyle.text (style : FloatStyle) (x : Float) : String :=
  match Parts.ofFloat x with
  | .nan => style.nan
  | .infinite negative => String.ofList (signText negative) ++ style.infinity
  | .finite negative mantissa exponent =>
    let (digits, place) := if mantissa = 0 then (0, 0) else shortestDigits mantissa exponent
    String.ofList (signText negative ++ style.layOut digits place)

/-- The shortest text of a float. -/
def floatText (x : Float) : String :=
  FloatStyle.plain.text x

end Colonnade.Number
