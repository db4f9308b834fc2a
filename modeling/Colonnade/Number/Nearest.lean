import Colonnade.Number.Parts

/-!
# The nearest binary number

A fraction is stored as the nearest number of a binary format, a half going to the even
neighbour, and what is too large becomes infinite.  `Format.nearest` gives the bits without the
sign.  Reading a decimal, turning an integer into a float and narrowing to binary32 are this one
function.
-/

namespace Colonnade.Number

/-- A binary floating-point format: how many bits a mantissa has, the exponent of the last
mantissa bit of the smallest numbers, and how many values the exponent field takes. -/
structure Format where
  precision : Nat
  minExponent : Int
  fields : Nat
  deriving DecidableEq, Repr

/-- Numbers of sixty-four bits. -/
def binary64 : Format := ⟨53, -1074, twoTo 11⟩

/-- Numbers of thirty-two bits. -/
def binary32 : Format := ⟨24, -149, twoTo 8⟩

/-- The bits of positive infinity. -/
def Format.infinity (f : Format) : Nat :=
  (f.fields - 1) * twoTo (f.precision - 1)

/-- The exponent that gives a positive fraction a mantissa of full precision, or the least one. -/
def Format.exponentFor (f : Format) (num den : Nat) : Int :=
  let guess := (num.log2 : Int) - den.log2 - f.precision
  let full := twoTo f.precision
  let tooWide (exponent : Int) : Bool :=
    if 0 ≤ exponent then full * (den * twoTo exponent.toNat) ≤ num
    else full * den ≤ num * twoTo (-exponent).toNat
  let exponent := if tooWide guess then guess + 1 else guess
  let exponent := if tooWide exponent then exponent + 1 else exponent
  max exponent f.minExponent

/-- The bits, without the sign, of the number nearest to a fraction. -/
def Format.nearest (f : Format) (num den : Nat) : Nat :=
  if num = 0 then 0
  else
    let exponent := f.exponentFor num den
    let mantissa :=
      if 0 ≤ exponent then roundDiv num (den * twoTo exponent.toNat)
      else roundDiv (num * twoTo (-exponent).toNat) den
    min f.infinity ((exponent - f.minExponent).toNat * twoTo (f.precision - 1) + mantissa)

theorem Format.nearest_le_infinity (f : Format) (num den : Nat) :
    f.nearest num den ≤ f.infinity := by
  unfold Format.nearest
  simp only
  split
  · exact Nat.zero_le _
  · exact Nat.min_le_left _ _

/-- The float with given sign nearest to a fraction. -/
def nearestFloat (negative : Bool) (num den : Nat) : Float :=
  .ofBits (.ofNat ((if negative then twoTo 63 else 0) + binary64.nearest num den))

/-- The infinite float with given sign. -/
def infiniteFloat (negative : Bool) : Float :=
  .ofBits (.ofNat ((if negative then twoTo 63 else 0) + binary64.infinity))

/-- An integer as a float, if one is near enough to it. -/
def floatOfInt? (n : Int) : Option Float :=
  let bits := binary64.nearest n.natAbs 1
  if bits = binary64.infinity then none
  else some (.ofBits (.ofNat ((if n < 0 then twoTo 63 else 0) + bits)))

/-- The bits of the binary32 number nearest to a float. -/
def singleBits (x : Float) : Nat :=
  match Parts.ofFloat x with
  | .nan => 0x7FC00000
  | .infinite negative => (if negative then twoTo 31 else 0) + binary32.infinity
  | .finite negative mantissa exponent =>
    let (num, den) := fraction mantissa exponent
    (if negative then twoTo 31 else 0) + binary32.nearest num den

/-- The float with the value of given binary32 bits. -/
def floatOfSingleBits (bits : Nat) : Float :=
  let negative := decide (twoTo 31 ≤ bits % twoTo 32)
  let sign := if negative then twoTo 63 else 0
  let field : Nat := bits / twoTo 23 % twoTo 8
  let rest : Nat := bits % twoTo 23
  if field = twoTo 8 - 1 then
    .ofBits (.ofNat (sign + binary64.infinity + rest * twoTo 29))
  else
    let (mantissa, exponent) :=
      if field = 0 then (rest, (-149 : Int)) else (twoTo 23 + rest, (field : Int) - 150)
    let (num, den) := fraction mantissa exponent
    nearestFloat negative num den

end Colonnade.Number
