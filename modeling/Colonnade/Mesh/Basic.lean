/-!
# Triangle meshes

A mesh has vertices, each with a position, a normal and a texture coordinate, and triangles whose
corners are vertex numbers.  `Mesh.indices` is the flat view of the triangles, three numbers
each.
-/

namespace Colonnade

/-- A vector of space. -/
structure Vec3 where
  x : Float
  y : Float
  z : Float

namespace Vec3

/-- The zero vector. -/
def zero : Vec3 := ⟨0.0, 0.0, 0.0⟩

instance : Inhabited Vec3 := ⟨zero⟩

/-- The sum of two vectors. -/
def add (a b : Vec3) : Vec3 := ⟨a.x + b.x, a.y + b.y, a.z + b.z⟩

/-- The difference of two vectors. -/
def sub (a b : Vec3) : Vec3 := ⟨a.x - b.x, a.y - b.y, a.z - b.z⟩

/-- The cross product of two vectors. -/
def cross (a b : Vec3) : Vec3 :=
  ⟨a.y * b.z - a.z * b.y, a.z * b.x - a.x * b.z, a.x * b.y - a.y * b.x⟩

/-- The length of a vector. -/
def length (a : Vec3) : Float :=
  (a.x * a.x + a.y * a.y + a.z * a.z).sqrt

/-- A vector divided by a number. -/
def scaleDown (a : Vec3) (divisor : Float) : Vec3 :=
  ⟨a.x / divisor, a.y / divisor, a.z / divisor⟩

end Vec3

/-- A texture coordinate. -/
structure Uv where
  u : Float
  v : Float

/-- A triangle, by the numbers of its corners. -/
structure Triangle where
  first : Nat
  second : Nat
  third : Nat
  deriving DecidableEq, Repr

namespace Triangle

/-- The corners of a triangle, in order. -/
def corners (t : Triangle) : List Nat := [t.first, t.second, t.third]

/-- A flat list of corners, three by three; `none` if some are left over. -/
def ofCorners? : List Nat → Option (List Triangle)
  | [] => some []
  | a :: b :: c :: rest => (ofCorners? rest).map (⟨a, b, c⟩ :: ·)
  | _ => none

theorem ofCorners?_flatMap (ts : List Triangle) :
    ofCorners? (ts.flatMap corners) = some ts := by
  induction ts with
  | nil => rfl
  | cons t rest ih => simp [corners, ofCorners?] at ih ⊢; exact ih

end Triangle

/-- A triangle mesh. -/
structure Mesh where
  positions : Array Vec3 := #[]
  normals : Array Vec3 := #[]
  uvs : Array Uv := #[]
  triangles : List Triangle := []

namespace Mesh

/-- The mesh without vertices. -/
def empty : Mesh := {}

/-- How many vertices a mesh has. -/
def vertexCount (m : Mesh) : Nat := m.positions.size

/-- How many triangles a mesh has. -/
def triangleCount (m : Mesh) : Nat := m.triangles.length

/-- Whether a mesh has no vertices. -/
def isEmpty (m : Mesh) : Bool := m.vertexCount == 0

/-- The corners of all triangles as one list. -/
def indices (m : Mesh) : List Nat := m.triangles.flatMap Triangle.corners

@[simp] theorem length_indices (m : Mesh) : m.indices.length = 3 * m.triangleCount := by
  unfold indices triangleCount
  induction m.triangles with
  | nil => rfl
  | cons t rest ih => simp [Triangle.corners] at ih ⊢; omega

/-! ## Words -/

/-- A corner that does not fit into a word of thirty-two bits. -/
structure WideCorner where
  corner : Nat
  deriving DecidableEq, Repr

/-- The wording of a corner that does not fit into a word. -/
def WideCorner.message (w : WideCorner) : String :=
  "Python integer " ++ toString w.corner ++ " out of bounds for uint32"

/-- The first corner that does not fit into a word.  There can be one only if there are more
vertices than words. -/
def wideCorner? (m : Mesh) : Option Nat :=
  if m.vertexCount ≤ 0x100000000 then none
  else m.indices.find? fun corner => 0x100000000 ≤ corner

/-- A mesh whose corners are stored in words of thirty-two bits. -/
def stored (m : Mesh) : Except WideCorner Mesh :=
  match m.wideCorner? with
  | some corner => .error ⟨corner⟩
  | none => .ok m

end Mesh

end Colonnade
