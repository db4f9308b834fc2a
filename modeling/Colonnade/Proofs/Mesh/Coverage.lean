import Colonnade.Proofs.Mesh.Gather
import Colonnade.Proofs.Spec.Generation

/-!
# Vertices that triangles use

No vertex of a shell or of a column is left over: each is a corner of some triangle
(`Mesh.IsCovered`).  For a shell this is part of having a fan around every vertex.  For a column the
last vertex of each ring is the one to look at, since it starts no side.

So the corners of these meshes are their vertices, neither more (`Mesh.IsSound`) nor fewer.  Two
things follow: the normals can be computed from the flat list of corners
(`Mesh.normalsOfIndices_eq_ok`), and the corners fit into words exactly if there are no more
vertices than words (`Mesh.wideCorner?_eq_none_iff`).
-/

namespace Colonnade

/-- Every vertex is a corner of some triangle. -/
def Mesh.IsCovered (m : Mesh) : Prop :=
  ∀ v < m.vertexCount, v ∈ m.indices

theorem Mesh.mem_indices_iff {m : Mesh} {v : Nat} :
    v ∈ m.indices ↔ ∃ t ∈ m.triangles, v ∈ t.corners :=
  List.mem_flatMap

theorem Mesh.isCovered_empty : Mesh.empty.IsCovered :=
  fun _ h => absurd h (Nat.not_lt_zero _)

/-- A shell has a fan of six triangles around every vertex, so there is one. -/
theorem Shell.isCovered_mesh {ring : List Point} (hring : 3 ≤ ring.length)
    (height thickness : Float) : (mesh ring height thickness).IsCovered := by
  intro v hv
  rw [vertexCount_mesh] at hv
  obtain ⟨rim, hsix, hfan⟩ := exists_fan hring hv
  have hlength := hfan.length_eq.trans hsix
  obtain ⟨t, ht⟩ := List.exists_mem_of_length_pos (l := Surface.around (triangles ring.length) v)
    (by omega)
  obtain ⟨hmem, hcorner⟩ := List.mem_filter.1 ht
  exact Mesh.mem_indices_iff.2 ⟨t, hmem, of_decide_eq_true hcorner⟩

namespace Column

theorem mem_triangles_iff {n : Nat} {t : Triangle} :
    t ∈ triangles n ↔ ∃ i < n,
      t = ⟨i, i + (n + 1), i + 1⟩ ∨ t = ⟨i + 1, i + (n + 1), i + (n + 1) + 1⟩ := by
  simp [triangles, List.mem_flatMap]

/-- Every vertex but the last of a ring starts a side, and the last one ends one. -/
theorem exists_triangle {n v : Nat} (hn : 0 < n) (hv : v < 2 * (n + 1)) :
    ∃ t ∈ triangles n, v ∈ t.corners := by
  by_cases hbottom : v ≤ n
  · by_cases hlast : v = n
    · refine ⟨⟨n - 1, n - 1 + (n + 1), n - 1 + 1⟩,
        mem_triangles_iff.2 ⟨n - 1, by omega, .inl rfl⟩, ?_⟩
      simp only [Triangle.corners, List.mem_cons, List.not_mem_nil, or_false]
      omega
    · refine ⟨⟨v, v + (n + 1), v + 1⟩, mem_triangles_iff.2 ⟨v, by omega, .inl rfl⟩, ?_⟩
      simp only [Triangle.corners, List.mem_cons, true_or]
  · by_cases hlast : v = 2 * n + 1
    · refine ⟨⟨n - 1 + 1, n - 1 + (n + 1), n - 1 + (n + 1) + 1⟩,
        mem_triangles_iff.2 ⟨n - 1, by omega, .inr rfl⟩, ?_⟩
      simp only [Triangle.corners, List.mem_cons, List.not_mem_nil, or_false]
      omega
    · refine ⟨⟨v - (n + 1), v - (n + 1) + (n + 1), v - (n + 1) + 1⟩,
        mem_triangles_iff.2 ⟨v - (n + 1), by omega, .inl rfl⟩, ?_⟩
      simp only [Triangle.corners, List.mem_cons, List.not_mem_nil, or_false]
      omega

theorem isCovered_mesh {ring : List Point} {n : Nat} (hn : 0 < n) (hring : ring.length = n + 1)
    (height : Float) : (mesh ring height n).IsCovered := by
  intro v hv
  rw [vertexCount_mesh, hring] at hv
  exact Mesh.mem_indices_iff.2 (exists_triangle hn hv)

end Column

namespace Mesh

variable {m : Mesh}

/-! ## Normals from the flat list of corners -/

/-- The normals of a sound mesh can be computed from its positions and its flat list of corners. -/
theorem normalsOfIndices_eq_ok (h : m.IsSound) :
    normalsOfIndices m.positions m.indices = .ok (vertexNormals m.positions m.triangles) :=
  normalsOfIndices_of_lt h.corner_lt

/-! ## Corners in words -/

/-- If every vertex is a corner, then the corners fit into words exactly if there are no more
vertices than words. -/
theorem wideCorner?_eq_none_iff (h : m.IsCovered) :
    m.wideCorner? = none ↔ m.vertexCount ≤ 2 ^ 32 := by
  rw [wideCorner?]
  split
  · rename_i hfew
    exact ⟨fun _ => hfew, fun _ => rfl⟩
  · rename_i hmany
    refine ⟨fun hnone => ?_, fun hfew => absurd hfew hmany⟩
    have hmem : 2 ^ 32 ∈ m.indices := h _ (Nat.lt_of_not_le hmany)
    have hnarrow := List.find?_eq_none.1 hnone _ hmem
    simp at hnarrow

end Mesh

end Colonnade
