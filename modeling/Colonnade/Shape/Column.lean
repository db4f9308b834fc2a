import Colonnade.Mesh.Normals
import Colonnade.Number.Integer
import Colonnade.Number.Nearest
import Colonnade.Turtle.Walk

/-!
# Fluted columns

A fluted column is an open tube around the second axis whose radius swings with the angle.  It
has two rings of vertices, the bottom one first.  A ring of `n` segments has `n + 1` vertices:
the last stands where the first does, so that texture coordinates run from zero to one.
-/

namespace Colonnade.Column

/-- What a column is made from. -/
structure Dimensions where
  height : Float
  radius : Float
  segments : Int
  flutes : Int
  fluteDepth : Float

/-- Why a column cannot be built. -/
inductive Fault where
  | tooFewSegments (segments : Int)
  /-- An integer is too large to be written. -/
  | unwritable
  /-- An integer is too large for a float. -/
  | integerTooLarge
  | infiniteAngle
  | wideCorner (cause : Mesh.WideCorner)
  deriving DecidableEq, Repr

/-- The wording of a fault. -/
def Fault.message : Fault → String
  | .tooFewSegments segments =>
    "Fluted column needs at least 3 segments, got " ++ toString segments
  | .unwritable => Number.IntegerFault.message .tooLarge
  | .integerTooLarge => "int too large to convert to float"
  | .infiniteAngle => "math domain error"
  | .wideCorner cause => cause.message

/-- An integer as a float, or the fault that it is too large. -/
def toFloat (n : Int) : Except Fault Float :=
  match Number.floatOfInt? n with
  | some x => .ok x
  | none => .error .integerTooLarge

/-- The place in the plane of vertex `i` of a ring. -/
def ringPoint (d : Dimensions) (i : Nat) : Except Fault Point := do
  let segments ← toFloat d.segments
  let angle := 2.0 * Turtle.pi * Float.ofNat i / segments
  let flutes ← toFloat d.flutes
  let swing := angle * flutes
  if swing.isInf then .error .infiniteAngle
  else
    let radius := d.radius + swing.sin * d.fluteDepth
    .ok ⟨angle.cos * radius, angle.sin * radius⟩

/-- The triangles of a column of `n` segments: two for each side. -/
def triangles (n : Nat) : List Triangle :=
  (List.range n).flatMap fun i => [⟨i, i + (n + 1), i + 1⟩, ⟨i + 1, i + (n + 1), i + (n + 1) + 1⟩]

@[simp] theorem length_triangles (n : Nat) : (triangles n).length = 2 * n := by
  simp [triangles, List.map_const', Nat.mul_comm]

/-- The mesh over the points of a ring of `n` segments. -/
def mesh (ring : List Point) (height : Float) (n : Nat) : Mesh :=
  let row (y : Float) : List Vec3 := ring.map fun p => ⟨p.x, y, p.y⟩
  let uvRow (v : Float) : List Uv :=
    (List.range (n + 1)).map fun i => ⟨Float.ofNat i / Float.ofNat n, v⟩
  let positions := (row 0.0 ++ row height).toArray
  let triangles := triangles n
  { positions := positions
    normals := Mesh.vertexNormals positions triangles
    uvs := (uvRow 0.0 ++ uvRow 1.0).toArray
    triangles := triangles }

/-- The fault of too few segments. -/
def tooFew (segments : Int) : Fault :=
  if Number.isTooLarge segments then .unwritable else .tooFewSegments segments

/-- The column of given dimensions. -/
def build (d : Dimensions) : Except Fault Mesh :=
  if d.segments < 3 then .error (tooFew d.segments)
  else do
    let n := d.segments.toNat
    let first ← ringPoint d 0
    let others ← (List.range n).mapM fun i => ringPoint d (i + 1)
    (mesh (first :: others) d.height n).stored.mapError .wideCorner

end Colonnade.Column
