import Colonnade.Mesh.Basic

/-!
# Bounds

The bounds of points are the least and the greatest coordinate along each axis.  A coordinate
that is not a number wins over all others.  Of two equal zeros the last one met is kept, with
its sign.
-/

namespace Colonnade

/-- The smaller of two coordinates. -/
def leastOf (a b : Float) : Float :=
  if a < b || a.isNaN then a else b

/-- The greater of two coordinates. -/
def greatestOf (a b : Float) : Float :=
  if b < a || a.isNaN then a else b

/-- The corners of the smallest box with its sides along the axes that holds some points. -/
structure Bounds where
  low : Vec3
  high : Vec3

namespace Bounds

/-- The box of one point. -/
def single (p : Vec3) : Bounds := ⟨p, p⟩

/-- The box stretched to a point. -/
def cover (b : Bounds) (p : Vec3) : Bounds :=
  { low := ⟨leastOf b.low.x p.x, leastOf b.low.y p.y, leastOf b.low.z p.z⟩
    high := ⟨greatestOf b.high.x p.x, greatestOf b.high.y p.y, greatestOf b.high.z p.z⟩ }

/-- The box of some points; there is none for no points. -/
def of? (points : List Vec3) : Option Bounds :=
  match points with
  | [] => none
  | p :: rest => some (rest.foldl cover (single p))

end Bounds

/-- The wording of bounds asked of no points. -/
def Bounds.missingMessage : String :=
  "zero-size array to reduction operation minimum which has no identity"

/-- The bounds of a mesh. -/
def Mesh.bounds? (m : Mesh) : Option Bounds :=
  Bounds.of? m.positions.toList

theorem Bounds.of?_eq_none_iff (points : List Vec3) : Bounds.of? points = none ↔ points = [] := by
  cases points <;> simp [Bounds.of?]

end Colonnade
