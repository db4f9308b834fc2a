import Colonnade.Mesh.Normals
import Colonnade.Turtle.Walk
import Colonnade.Warning.Report

/-!
# Hollow shells

A shell is a closed ring of points, pulled up along the second axis and given a wall.  Every
point `i` of the ring makes four vertices: `4 * i` at the bottom and `4 * i + 1` at the top of
the outer wall, `4 * i + 2` and `4 * i + 3` in the same way on the inner wall.  The inner wall
lies nearer to the origin by the thickness.  The last point is always joined to the first.

Every edge of the ring makes eight triangles, two for each of the outer wall, the inner wall,
the bottom and the top.  The triangles depend on the number of points alone.
-/

namespace Colonnade.Shell

/-- The vertices of one ring point that stand on the outer wall, bottom and top, and on the inner
wall, bottom and top. -/
def outerBottom (i : Nat) : Nat := 4 * i

/-- The outer vertex at the top. -/
def outerTop (i : Nat) : Nat := 4 * i + 1

/-- The inner vertex at the bottom. -/
def innerBottom (i : Nat) : Nat := 4 * i + 2

/-- The inner vertex at the top. -/
def innerTop (i : Nat) : Nat := 4 * i + 3

/-- The eight triangles of the edge from ring point `i` to ring point `j`. -/
def edgeTriangles (i j : Nat) : List Triangle := [
  ⟨outerBottom i, outerBottom j, outerTop i⟩,
  ⟨outerTop i, outerBottom j, outerTop j⟩,
  ⟨innerBottom i, innerTop i, innerBottom j⟩,
  ⟨innerBottom j, innerTop i, innerTop j⟩,
  ⟨outerBottom i, innerBottom j, innerBottom i⟩,
  ⟨outerBottom i, outerBottom j, innerBottom j⟩,
  ⟨outerTop i, innerTop i, innerTop j⟩,
  ⟨outerTop i, innerTop j, outerTop j⟩]

/-- The triangles of a ring of `n` points. -/
def triangles (n : Nat) : List Triangle :=
  (List.range n).flatMap fun i => edgeTriangles i ((i + 1) % n)

@[simp] theorem length_triangles (n : Nat) : (triangles n).length = 8 * n := by
  simp [triangles, edgeTriangles, List.map_const', Nat.mul_comm]

/-- Points no farther than this from the origin have no direction. -/
def originRadius : Float := 1e-9

/-- Whether a point is too near to the origin to have a direction.  A distance that is not a
number counts as too near. -/
def atOrigin (p : Point) : Bool :=
  !decide (p.norm > originRadius)

/-- The warning for a ring point on the origin. -/
def originWarning (i : Nat) : Warning :=
  ⟨.originPoint,
    "Cross-section point " ++ toString i ++ " lies on the origin; its wall has no thickness"⟩

/-- The warning for a ring of too few points. -/
def degenerateWarning (n : Nat) : Warning :=
  ⟨.degenerateGeometry,
    "Cross-section has " ++ toString n ++ " point(s); at least 3 are needed to build a shell"⟩

/-- The inner twin of a ring point. -/
def innerTwin (p : Point) (thickness : Float) : Point :=
  let length := p.norm
  let direction : Point := if atOrigin p then ⟨0.0, 0.0⟩ else ⟨p.x / length, p.y / length⟩
  ⟨p.x - direction.x * thickness, p.y - direction.y * thickness⟩

/-- The four positions that a ring point makes. -/
def wall (p : Point) (height thickness : Float) : List Vec3 :=
  let inner := innerTwin p thickness
  [⟨p.x, 0.0, p.y⟩, ⟨p.x, height, p.y⟩, ⟨inner.x, 0.0, inner.y⟩, ⟨inner.x, height, inner.y⟩]

/-- The four texture coordinates of ring point `i` of `n`. -/
def wallUvs (i n : Nat) : List Uv :=
  let u := Float.ofNat i / Float.ofNat n
  [⟨u, 0.0⟩, ⟨u, 1.0⟩, ⟨u, 0.0⟩, ⟨u, 1.0⟩]

/-- The positions of a ring, point by point. -/
def positions (ring : List Point) (height thickness : Float) : List Vec3 :=
  ring.flatMap fun p => wall p height thickness

/-- The mesh over a ring, without warnings. -/
def mesh (ring : List Point) (height thickness : Float) : Mesh :=
  let n := ring.length
  let positions := (positions ring height thickness).toArray
  let triangles := triangles n
  { positions := positions
    normals := Mesh.vertexNormals positions triangles
    uvs := ((List.range n).flatMap fun i => wallUvs i n).toArray
    triangles := triangles }

/-- Reports every ring point on the origin, in order. -/
def reportOrigins {ε : Type} : Nat → List Point → Report ε Unit
  | _, [] => pure ()
  | i, p :: rest =>
    if atOrigin p then do
      Report.warn (originWarning i)
      reportOrigins (i + 1) rest
    else reportOrigins (i + 1) rest

/-- The shell over a ring.  With fewer than three points there is a warning and an empty mesh. -/
def extrude {ε : Type} (ring : List Point) (height thickness : Float) : Report ε Mesh :=
  if ring.length < 3 then do
    Report.warn (degenerateWarning ring.length)
    pure .empty
  else do
    reportOrigins 0 ring
    pure (mesh ring height thickness)

end Colonnade.Shell
