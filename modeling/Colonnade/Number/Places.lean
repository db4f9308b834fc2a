import Colonnade.Number.Shortest

/-!
# Decimal text with a fixed number of places

Two layouts of a float's exact value, rounded to the nearest digit with a half going to the even
neighbour: `fixedText` with so many digits after the point, `scientificText` with one digit
before it and a decimal exponent.
-/

namespace Colonnade.Number

/-- The words for what has no digits. -/
def unlimitedText (x : Parts) : String :=
  match x with
  | .infinite true => "-inf"
  | .infinite false => "inf"
  | _ => "nan"

/-- A float with `places` digits after the point. -/
def fixedText (places : Nat) (x : Float) : String :=
  match Parts.ofFloat x with
  | .finite negative mantissa exponent =>
    let (num, den) := fraction mantissa exponent
    let digits := paddedDigits (places + 1) (roundDiv (num * tenTo places) den)
    let whole := digits.length - places
    String.ofList (signText negative ++ digits.take whole ++ '.' :: digits.drop whole)
  | other => unlimitedText other

/-- A fraction as `places + 1` significant digits and the exponent of the first. -/
def significant (places num den : Nat) : Nat × Int :=
  if num = 0 then (0, 0)
  else
    let lead := leadingExponent num den
    let shift := (places : Int) - lead
    let digits := roundDiv (num * tenTo shift.toNat) (den * tenTo (-shift).toNat)
    if digits = tenTo (places + 1) then (tenTo places, lead + 1) else (digits, lead)

/-- A float with one digit before the point, `places` after it, and an exponent. -/
def scientificText (places : Nat) (x : Float) : String :=
  match Parts.ofFloat x with
  | .finite negative mantissa exponent =>
    let (num, den) := fraction mantissa exponent
    let (value, lead) := significant places num den
    let digits := paddedDigits (places + 1) value
    String.ofList
      (signText negative ++ digits.take 1 ++ '.' :: digits.drop 1 ++ exponentText 2 lead)
  | other => unlimitedText other

end Colonnade.Number
