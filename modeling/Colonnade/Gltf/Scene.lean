import Colonnade.Bytes.Word
import Colonnade.Mesh.Bounds
import Colonnade.Number.Nearest
import Colonnade.Spec.Generation

/-!
# Scenes

A scene puts generated pillars into one blob of bytes and says where everything is.  Every mesh
has four arrays in a row: positions, normals, texture coordinates, and the corners of its
triangles.  Each array has a view, which is a range of the blob, and an accessor, which says what
the bytes of the view are.  Floats are narrowed to thirty-two bits.  Pillars with an empty mesh
are left out.
-/

namespace Colonnade.Gltf

/-- What the bytes of a view are for. -/
inductive Target where
  | vertices
  | corners
  deriving DecidableEq, Repr

/-- A range of the blob. -/
structure View where
  offset : Nat
  length : Nat
  target : Target
  deriving DecidableEq, Repr

/-- What one element of an array is. -/
inductive Element where
  | vector3
  | vector2
  | corner
  deriving DecidableEq, Repr

/-- How many words one element has. -/
def Element.width : Element → Nat
  | .vector3 => 3
  | .vector2 => 2
  | .corner => 1

/-- An array: the number of its view, what its elements are and how many there are, and for
positions their bounds. -/
structure Accessor where
  view : Nat
  element : Element
  count : Nat
  bounds : Option Bounds

/-- A mesh of a scene: its name, the form of its pillar, and the numbers of its accessors. -/
structure MeshEntry where
  name : Text.Loose
  form : String
  positions : Nat
  normals : Nat
  uvs : Nat
  corners : Nat
  deriving DecidableEq, Repr

/-- A node of a scene: the number of its mesh, its name, and where it is put. -/
structure Node where
  mesh : Nat
  name : Text.Loose
  offset : Option Vec3

/-- A scene; `nodeNumbers` lists the nodes that are shown. -/
structure Scene where
  accessors : List Accessor := []
  views : List View := []
  meshes : List MeshEntry := []
  nodes : List Node := []
  nodeNumbers : List Nat := []
  blob : List UInt8 := []

/-! ## Words -/

/-- A float narrowed to thirty-two bits. -/
def single (x : Float) : UInt32 := .ofNat (Number.singleBits x)

/-- The value of a float after narrowing. -/
def narrowed (x : Float) : Float := Number.floatOfSingleBits (Number.singleBits x)

/-- The words of a vector. -/
def vectorWords (v : Vec3) : List UInt32 := [single v.x, single v.y, single v.z]

/-- The words of a texture coordinate. -/
def uvWords (t : Uv) : List UInt32 := [single t.u, single t.v]

/-- The words of the corners of a triangle. -/
def triangleWords (t : Triangle) : List UInt32 := t.corners.map .ofNat

/-- A vector after narrowing. -/
def narrowedVector (v : Vec3) : Vec3 := ⟨narrowed v.x, narrowed v.y, narrowed v.z⟩

/-- An array that is to be added to a scene. -/
structure Column where
  element : Element
  target : Target
  count : Nat
  words : List UInt32
  bounds : Option Bounds := none

/-- The four arrays of a mesh. -/
def columns (m : Mesh) : List Column := [
  { element := .vector3, target := .vertices, count := m.positions.size,
    words := m.positions.toList.flatMap vectorWords,
    bounds := Bounds.of? (m.positions.toList.map narrowedVector) },
  { element := .vector3, target := .vertices, count := m.normals.size,
    words := m.normals.toList.flatMap vectorWords },
  { element := .vector2, target := .vertices, count := m.uvs.size,
    words := m.uvs.toList.flatMap uvWords },
  { element := .corner, target := .corners, count := 3 * m.triangleCount,
    words := m.triangles.flatMap triangleWords }]

namespace Scene

/-- A scene with one more array. -/
def addColumn (s : Scene) (c : Column) : Scene :=
  let bytes := Bytes.encodeWords c.words
  { s with
    accessors := s.accessors ++ [⟨s.views.length, c.element, c.count, c.bounds⟩]
    views := s.views ++ [⟨s.blob.length, bytes.length, c.target⟩]
    blob := s.blob ++ bytes }

/-- A scene with one more pillar. -/
def addPillar (s : Scene) (g : Generated) : Scene :=
  let first := s.accessors.length
  let name := g.pillar.displayName
  let s := { s with
    meshes := s.meshes ++ [⟨name, g.pillar.label, first, first + 1, first + 2, first + 3⟩]
    nodes := s.nodes ++ [⟨s.meshes.length, name, g.pillar.offset?⟩]
    nodeNumbers := s.nodeNumbers ++ [s.nodes.length] }
  (columns g.mesh).foldl addColumn s

/-- A scene with one more pillar, unless its mesh is empty. -/
def add (s : Scene) (g : Generated) : Scene :=
  if g.mesh.isEmpty then s else s.addPillar g

/-- The scene of some pillars. -/
def ofGenerated (gs : List Generated) : Scene := gs.foldl add {}

end Scene

end Colonnade.Gltf
