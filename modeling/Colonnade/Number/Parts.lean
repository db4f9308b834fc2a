import Colonnade.Number.Power

/-!
# The parts of a floating-point number

A binary64 number that is not infinite and not a NaN is a sign and `mantissa * 2 ^ exponent`.
All exact text and all conversions to other widths start from these parts, so that they are
plain arithmetic on natural numbers.
-/

namespace Colonnade.Number

/-- What the bits of a binary64 number say. -/
inductive Parts where
  | nan
  | infinite (negative : Bool)
  | finite (negative : Bool) (mantissa : Nat) (exponent : Int)
  deriving DecidableEq, Repr

/-- The bits of a binary64 number, taken apart. -/
def Parts.ofBits (bits : Nat) : Parts :=
  let negative := decide (twoTo 63 ≤ bits % twoTo 64)
  let field : Nat := bits / twoTo 52 % twoTo 11
  let fraction : Nat := bits % twoTo 52
  if field = twoTo 11 - 1 then
    if fraction = 0 then .infinite negative else .nan
  else if field = 0 then .finite negative fraction (-1074)
  else .finite negative (twoTo 52 + fraction) ((field : Int) - 1075)

/-- The parts of a number. -/
def Parts.ofFloat (x : Float) : Parts :=
  .ofBits x.toBits.toNat

/-- The least exponent is that of the subnormal numbers. -/
theorem Parts.exponent_ge {bits : Nat} {negative : Bool} {mantissa : Nat} {exponent : Int}
    (h : Parts.ofBits bits = .finite negative mantissa exponent) : -1074 ≤ exponent := by
  unfold Parts.ofBits at h
  dsimp only at h
  split at h
  · split at h <;> cases h
  · split at h <;> cases h <;> omega

/-- A mantissa has at most fifty-three bits. -/
theorem Parts.mantissa_lt {bits : Nat} {negative : Bool} {mantissa : Nat} {exponent : Int}
    (h : Parts.ofBits bits = .finite negative mantissa exponent) : mantissa < twoTo 53 := by
  have hfraction := Nat.mod_lt bits (twoTo_pos 52)
  have htwice : twoTo 53 = twoTo 52 * 2 := twoTo_succ 52
  unfold Parts.ofBits at h
  dsimp only at h
  split at h
  · split at h <;> cases h
  · split at h <;> cases h <;> omega

/-- The fraction `mantissa * 2 ^ exponent`, as numerator and denominator. -/
def fraction (mantissa : Nat) (exponent : Int) : Nat × Nat :=
  if 0 ≤ exponent then (mantissa * twoTo exponent.toNat, 1) else (mantissa, twoTo (-exponent).toNat)

theorem fraction_den_pos (mantissa : Nat) (exponent : Int) :
    0 < (fraction mantissa exponent).2 := by
  unfold fraction
  split
  · exact Nat.one_pos
  · exact twoTo_pos _

/-- How many decimal digits a number has; zero has none. -/
def decimalLength (n : Nat) : Nat :=
  if n = 0 then 0 else (Nat.toDigits 10 n).length

/-- The exponent of the leading decimal digit of a positive fraction. -/
def leadingExponent (num den : Nat) : Int :=
  if den ≤ num then (decimalLength (num / den) : Int) - 1
  else -(decimalLength ((den - 1) / num) : Int)

/-- A quotient rounded to the nearest whole number, a half to the even neighbour. -/
def roundDiv (num den : Nat) : Nat :=
  let below := num / den
  let twice := 2 * (num % den)
  if twice < den then below
  else if den < twice then below + 1
  else if below % 2 = 0 then below else below + 1

/-- The rounded quotient is within half a unit of the exact one. -/
theorem roundDiv_near {num den : Nat} (h : 0 < den) :
    2 * (roundDiv num den * den) ≤ 2 * num + den ∧
      2 * num ≤ 2 * (roundDiv num den * den) + den := by
  have hsplit := Nat.div_add_mod num den
  have hlt := Nat.mod_lt num h
  rw [Nat.mul_comm] at hsplit
  unfold roundDiv
  simp only
  split
  · omega
  · split
    · rw [Nat.add_one_mul (num / den)]; omega
    · split
      · omega
      · rw [Nat.add_one_mul (num / den)]; omega

end Colonnade.Number
