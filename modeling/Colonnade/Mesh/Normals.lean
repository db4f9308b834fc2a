import Colonnade.Mesh.Basic

/-!
# Vertex normals

The normal of a vertex is the sum of the face normals of its triangles, brought to length one.
Face normals are not scaled before they are summed, so larger faces weigh more.  A sum that is
almost zero, as that of a vertex without triangles, gives the zero vector.

The face normals are added in three passes over the triangles: to the first corners, then to the
second, then to the third.  The order matters for rounding.
-/

namespace Colonnade.Mesh

/-- A corner that is no vertex. -/
structure CornerOutOfRange where
  corner : Nat
  vertexCount : Nat
  deriving DecidableEq, Repr

/-- The wording of a corner that is no vertex. -/
def CornerOutOfRange.message (e : CornerOutOfRange) : String :=
  "index " ++ toString e.corner ++ " is out of bounds for axis 0 with size " ++
    toString e.vertexCount

/-- The unscaled normal of a face with given corners. -/
def faceNormal (a b c : Vec3) : Vec3 :=
  (b.sub a).cross (c.sub a)

/-- The first corner in a list that is no vertex. -/
def strayCorner? (vertexCount : Nat) (corners : List Nat) : Option Nat :=
  corners.find? fun corner => vertexCount ≤ corner

/-- All corners in the order in which they are looked up: the first of every triangle, then the
second, then the third. -/
def lookupOrder (triangles : List Triangle) : List Nat :=
  triangles.map Triangle.first ++ triangles.map Triangle.second ++ triangles.map Triangle.third

/-- The unscaled normals of triangles whose corners are vertices. -/
def faceNormals (positions : Array Vec3) (triangles : List Triangle) : List Vec3 :=
  triangles.map fun t =>
    faceNormal (positions.getD t.first .zero) (positions.getD t.second .zero)
      (positions.getD t.third .zero)

/-- Adds vectors to the sums of the vertices they go with. -/
def scatter (sums : Array Vec3) (targets : List (Nat × Vec3)) : Array Vec3 :=
  targets.foldl (fun sums (vertex, n) => sums.modify vertex (·.add n)) sums

/-- Sums of this length and below count as zero. -/
def zeroLength : Float := 1e-12

/-- A vector of length one, or zero if the vector is almost zero. -/
def normalized (n : Vec3) : Vec3 :=
  let length := n.length
  if length > zeroLength then n.scaleDown length else .zero

/-- The sum of the face normals around every vertex. -/
def normalSums (positions : Array Vec3) (triangles : List Triangle) : Array Vec3 :=
  let faces := faceNormals positions triangles
  let pass (corner : Triangle → Nat) : List (Nat × Vec3) := (triangles.map corner).zip faces
  let start := Array.replicate positions.size Vec3.zero
  scatter (scatter (scatter start (pass Triangle.first)) (pass Triangle.second))
    (pass Triangle.third)

/-- The normals of the vertices of some triangles. -/
def vertexNormals (positions : Array Vec3) (triangles : List Triangle) : Array Vec3 :=
  (normalSums positions triangles).map normalized

/-- The normals of the vertices of some triangles, if every corner is a vertex. -/
def vertexNormals? (positions : Array Vec3) (triangles : List Triangle) :
    Except CornerOutOfRange (Array Vec3) :=
  match strayCorner? positions.size (lookupOrder triangles) with
  | some corner => .error ⟨corner, positions.size⟩
  | none => .ok (vertexNormals positions triangles)

/-- Why a flat list of corners has no normals. -/
inductive IndexFault where
  | leftOver (count : Nat)
  | outOfRange (e : CornerOutOfRange)
  deriving DecidableEq, Repr

/-- The wording of an index fault. -/
def IndexFault.message : IndexFault → String
  | .leftOver count =>
    "cannot reshape array of size " ++ toString count ++ " into shape (3)"
  | .outOfRange e => e.message

/-- The normals that a flat list of corners gives. -/
def normalsOfIndices (positions : Array Vec3) (corners : List Nat) :
    Except IndexFault (Array Vec3) :=
  match Triangle.ofCorners? corners with
  | none => .error (.leftOver corners.length)
  | some triangles => (vertexNormals? positions triangles).mapError .outOfRange

theorem size_scatter (sums : Array Vec3) (targets : List (Nat × Vec3)) :
    (scatter sums targets).size = sums.size := by
  unfold scatter
  induction targets generalizing sums with
  | nil => rfl
  | cons target rest ih => rw [List.foldl_cons, ih]; simp

/-- There is a normal for every vertex. -/
@[simp] theorem size_vertexNormals (positions : Array Vec3) (triangles : List Triangle) :
    (vertexNormals positions triangles).size = positions.size := by
  simp [vertexNormals, normalSums, size_scatter]

end Colonnade.Mesh
