import Colonnade.Number.Hypotenuse
import Colonnade.Text.Loose

/-!
# Turtle walks

A turtle has a place in the plane and a heading in degrees, counted from the first axis against
the clock.  A string of symbols steers it: `F` moves one step and records the new place, `+` and
`-` turn, `[` saves the turtle and `]` goes back to the one saved last, or does nothing when none
is saved.  Every other symbol is ignored.  The recorded places of all branches form one sequence
in the order of the walk.
-/

namespace Colonnade

/-- A point of the plane. -/
structure Point where
  x : Float
  y : Float

namespace Point

/-- The distance of a point from the origin. -/
def norm (p : Point) : Float := Number.hypotenuse p.x p.y

/-- A flat list of coordinates as points; `none` if one is left over. -/
def ofFlat? : List Float → Option (List Point)
  | [] => some []
  | x :: y :: rest => (ofFlat? rest).map (⟨x, y⟩ :: ·)
  | _ => none

/-- The wording of a coordinate that is left over. -/
def leftOverMessage (count : Nat) : String :=
  "cannot reshape array of size " ++ toString count ++ " into shape (2)"

end Point

namespace Turtle

open Text (CodePoint Loose)

/-- Where a turtle is and which way it looks. -/
structure State where
  x : Float := 0.0
  y : Float := 0.0
  heading : Float := 0.0

/-- A heading that has no direction because it is infinite. -/
structure InfiniteHeading where
  deriving DecidableEq, Repr

/-- The wording of an infinite heading. -/
def InfiniteHeading.message (_ : InfiniteHeading) : String :=
  "math domain error"

/-- The ratio of the circumference of a circle to its diameter, as a float. -/
def pi : Float := 3.141592653589793

/-- An angle in degrees, in radians. -/
def radians (degrees : Float) : Float :=
  degrees * (pi / 180.0)

namespace State

/-- The place of a turtle. -/
def place (s : State) : Point := ⟨s.x, s.y⟩

/-- Moves a turtle along its heading. -/
def forward (s : State) (step : Float) : Except InfiniteHeading State :=
  let angle := radians s.heading
  if angle.isInf then .error ⟨⟩
  else .ok { s with x := s.x + angle.cos * step, y := s.y + angle.sin * step }

/-- Turns a turtle. -/
def turn (s : State) (degrees : Float) : State :=
  { s with heading := s.heading + degrees }

end State

/-- A turtle on its way: where it is, which turtles it has saved (the last one first), and the
places it has recorded. -/
structure Walker where
  here : State := {}
  saved : List State := []
  points : Array Point := #[]

/-- One symbol of a walk. -/
def Walker.obey (angle step : Float) (w : Walker) (symbol : CodePoint) :
    Except InfiniteHeading Walker :=
  match symbol with
  | .char 'F' => (w.here.forward step).map fun here =>
      { w with here := here, points := w.points.push here.place }
  | .char '+' => .ok { w with here := w.here.turn (-angle) }
  | .char '-' => .ok { w with here := w.here.turn angle }
  | .char '[' => .ok { w with saved := w.here :: w.saved }
  | .char ']' =>
    match w.saved with
    | [] => .ok w
    | last :: rest => .ok { w with here := last, saved := rest }
  | _ => .ok w

/-- Walks on along a string of symbols. -/
def Walker.follow (angle step : Float) (w : Walker) (symbols : Loose) :
    Except InfiniteHeading Walker :=
  symbols.foldlM (Walker.obey angle step) w

/-- The points that a walk along a string of symbols records. -/
def walk (symbols : Loose) (angle step : Float) : Except InfiniteHeading (Array Point) :=
  (Walker.follow angle step {} symbols).map Walker.points

/-- A walk along two strings goes on with the second where the first one ends. -/
theorem Walker.follow_append (angle step : Float) (w : Walker) (a b : Loose) :
    w.follow angle step (a ++ b) =
      (w.follow angle step a) >>= fun v => v.follow angle step b := by
  simp [Walker.follow, List.foldlM_append]

end Turtle

end Colonnade
