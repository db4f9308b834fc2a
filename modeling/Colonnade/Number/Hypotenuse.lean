import Colonnade.Number.Nearest

/-!
# Lengths in the plane

The length of a vector is the root of the sum of two squares.  Here it is right to the last bit in
nearly all cases: coordinates are scaled by a power of two, so that squaring neither overflows nor
loses small ones; squares are split into parts that are exact; what rounding takes from a sum is
kept beside it; and the root is corrected by what its own square leaves of the sum.
-/

namespace Colonnade.Number

/-- A float as the sum of two floats with half of its digits each, the larger one first. -/
def halves (x : Float) : Float × Float :=
  let shifted := x * 134217729.0
  let high := shifted - (shifted - x)
  (high, x - high)

/-- One more than a sum of squares, with what rounding took from it: when products of high halves
were added, when mixed products were added, and the products of low halves, which are too small to
be added at all. -/
structure SquareSum where
  sum : Float := 1.0
  lostHigh : Float := 0.0
  lostMixed : Float := 0.0
  low : Float := 0.0

namespace SquareSum

/-- A sum with a product of high halves added to it. -/
def addHigh (s : SquareSum) (x : Float) : SquareSum :=
  let sum := s.sum + x
  { s with sum := sum, lostHigh := s.lostHigh + ((s.sum - sum) + x) }

/-- A sum with a mixed product added to it. -/
def addMixed (s : SquareSum) (x : Float) : SquareSum :=
  let sum := s.sum + x
  { s with sum := sum, lostMixed := s.lostMixed + ((s.sum - sum) + x) }

/-- A sum with a square added to it, or taken from it if the sign is minus one. -/
def addSquare (s : SquareSum) (sign x : Float) : SquareSum :=
  let (high, low) := halves x
  let s := (s.addHigh (sign * high * high)).addMixed (2.0 * sign * high * low)
  { s with low := s.low + sign * low * low }

/-- The sum of squares alone. -/
def total (s : SquareSum) : Float :=
  s.sum - 1.0 + (s.lostHigh + s.lostMixed + s.low)

end SquareSum

/-- The exponent of the least power of two above a positive float. -/
def exponentAbove (x : Float) : Int :=
  match Parts.ofFloat x with
  | .finite _ mantissa exponent => exponent + mantissa.log2 + 1
  | _ => 0

/-- A power of two as a float. -/
def floatTwoTo (exponent : Int) : Float :=
  let (num, den) := fraction 1 exponent
  nearestFloat false num den

/-- The root of the sum of the squares of two lengths of which the larger one is given.  Only the
least floats cannot be scaled by a power of two, so they are divided by the larger one instead. -/
def rootOfSquares (a b largest : Float) : Float :=
  let exponent := exponentAbove largest
  if -1023 ≤ exponent then
    let scale := floatTwoTo (-exponent)
    let s := (SquareSum.addSquare {} 1.0 (a * scale)).addSquare 1.0 (b * scale)
    let root := s.total.sqrt
    (root + (s.addSquare (-1.0) root).total / (2.0 * root)) / scale
  else
    let square (x : Float) : Float := (x / largest) * (x / largest)
    largest * ((SquareSum.addHigh {} (square a)).addHigh (square b)).total.sqrt

/-- The length of the vector with two given coordinates.  An infinite coordinate wins over one that
is not a number. -/
def hypotenuse (x y : Float) : Float :=
  if x.isInf || y.isInf then infiniteFloat false
  else if x.isNaN || y.isNaN then 0.0 / 0.0
  else
    let largest := if x.abs < y.abs then y.abs else x.abs
    if largest == 0.0 then 0.0 else rootOfSquares x.abs y.abs largest

-- The root of the plain sum of squares is a little more.
example : (hypotenuse 9.659258262890684e-10 2.5881904510252074e-10 == 1e-9) = true := by
  decide +kernel

end Colonnade.Number
