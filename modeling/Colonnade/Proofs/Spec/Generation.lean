import Colonnade.Proofs.Shape.Shell
import Colonnade.Spec.Generation

/-!
# The meshes of a generation

A pillar gets one of three meshes: the empty one, that of a shell or that of a column
(`Pillar.mesh_cases`).  Each of them is sound (`Mesh.IsSound`): there are a normal and a texture
coordinate for every vertex, and the triangles have no other corners than vertices.  So every mesh
that a generation gives is sound, under every policy: `Spec.isSound_of_generate`.
-/

namespace Colonnade

/-- A mesh is stored as it is, unless some corner of it is too large for a word. -/
theorem Mesh.stored_eq_ok_iff {mesh m : Mesh} :
    mesh.stored = .ok m ↔ mesh = m ∧ mesh.wideCorner? = none := by
  rw [stored]
  split
  · rename_i corner hwide
    simp [hwide]
  · rename_i hnone
    simp [hnone]

/-- Every vertex of a mesh has a normal and a texture coordinate, and every corner is a vertex. -/
structure Mesh.IsSound (m : Mesh) : Prop where
  normals : m.normals.size = m.vertexCount
  uvs : m.uvs.size = m.vertexCount
  corner_lt : ∀ c ∈ m.indices, c < m.vertexCount

theorem Mesh.isSound_empty : Mesh.empty.IsSound :=
  ⟨rfl, rfl, fun _ h => absurd h List.not_mem_nil⟩

/-! ## Shells -/

theorem Shell.isSound_mesh (ring : List Point) (height thickness : Float) :
    (mesh ring height thickness).IsSound where
  normals := Mesh.size_vertexNormals _ _
  uvs := by
    have huvs : ((List.range ring.length).flatMap fun i => wallUvs i ring.length).length =
        4 * ring.length := by
      rw [List.length_flatMap]
      simp [wallUvs, Nat.mul_comm]
    rw [vertexCount_mesh]
    exact huvs
  corner_lt := by
    intro c hc
    obtain ⟨t, ht, hcorner⟩ := List.mem_flatMap.1 hc
    rw [vertexCount_mesh]
    exact corner_lt ht hcorner

/-! ## Columns -/

namespace Column

/-- The corners of the triangles of a column belong to its two rings. -/
theorem corner_lt {n : Nat} {t : Triangle} (ht : t ∈ triangles n) {v : Nat} (hv : v ∈ t.corners) :
    v < 2 * (n + 1) := by
  obtain ⟨i, hi, hside⟩ := List.mem_flatMap.1 ht
  have hin : i < n := List.mem_range.1 hi
  simp only [List.mem_cons, List.not_mem_nil, or_false] at hside
  rcases hside with rfl | rfl <;>
    simp only [Triangle.corners, List.mem_cons, List.not_mem_nil, or_false] at hv <;>
    omega

@[simp] theorem vertexCount_mesh (ring : List Point) (height : Float) (n : Nat) :
    (mesh ring height n).vertexCount = 2 * ring.length := by
  simp only [Mesh.vertexCount, mesh, List.size_toArray, List.length_append, List.length_map]
  omega

/-- A column is sound if its rings have one point more than segments. -/
theorem isSound_mesh {ring : List Point} {n : Nat} (hring : ring.length = n + 1) (height : Float) :
    (mesh ring height n).IsSound where
  normals := Mesh.size_vertexNormals _ _
  uvs := by
    rw [vertexCount_mesh, hring]
    simp only [mesh, List.size_toArray, List.length_append, List.length_map, List.length_range]
    omega
  corner_lt := by
    intro c hc
    obtain ⟨t, ht, hcorner⟩ := List.mem_flatMap.1 hc
    rw [vertexCount_mesh, hring]
    exact corner_lt ht hcorner

/-- A column that can be built is the mesh over a ring with one point more than segments. -/
theorem build_eq_ok {d : Dimensions} {m : Mesh} (h : build d = .ok m) :
    3 ≤ d.segments ∧ ∃ ring, ring.length = d.segments.toNat + 1 ∧
      m = mesh ring d.height d.segments.toNat := by
  rw [build] at h
  split at h
  · cases h
  · rename_i henough
    obtain ⟨first, _, h⟩ := except_bind_eq_ok_iff.1 h
    obtain ⟨others, hothers, h⟩ := except_bind_eq_ok_iff.1 h
    obtain ⟨rfl, _⟩ := Mesh.stored_eq_ok_iff.1 (mapError_eq_ok_iff.1 h)
    refine ⟨by omega, first :: others, ?_, rfl⟩
    rw [List.length_cons, ← (forall₂_of_mapM hothers).length_eq, List.length_range]

end Column

/-! ## Pillars -/

namespace Pillar

/-- The mesh of a pillar is empty, a shell over a ring of three or more points, or a column of three
or more segments. -/
theorem mesh_cases {p : Pillar} {policy : Policy} {m : Mesh}
    (h : (p.generate.run policy).result = .ok m) :
    m = .empty ∨
      (∃ ring thickness, 3 ≤ ring.length ∧ m = Shell.mesh ring p.height thickness) ∨
      ∃ ring n, 3 ≤ n ∧ ring.length = n + 1 ∧ m = Column.mesh ring p.height n := by
  have hextrude : ∀ {ring : List Point} {thickness : Float},
      ((Shell.extrude ring p.height thickness : Report GenerationFault Mesh).run policy).result =
        .ok m → m = .empty ∨
          ∃ ring thickness, 3 ≤ ring.length ∧ m = Shell.mesh ring p.height thickness := by
    intro ring thickness hrun
    have hmesh := Shell.extrude_eq_ok hrun
    split at hmesh
    · exact .inl hmesh
    · exact .inr ⟨ring, thickness, by omega, hmesh⟩
  rw [generate] at h
  split at h
  · obtain ⟨ring, _, h⟩ := Report.result_bind_eq_ok_iff.1 h
    rw [shell] at h
    split at h
    · obtain ⟨built, hbuilt, h⟩ := Report.result_bind_eq_ok_iff.1 h
      have hstored := mapError_eq_ok_iff.1 (Report.result_ofExcept_eq_ok_iff.1 h)
      obtain ⟨rfl, _⟩ := Mesh.stored_eq_ok_iff.1 hstored
      exact (hextrude hbuilt).imp_right .inl
    · split at h
      · exact (hextrude h).imp_right .inl
      · obtain ⟨_, _, h⟩ := Report.result_bind_eq_ok_iff.1 h
        exact absurd h Report.result_fail_ne_ok
  · rw [column] at h
    split at h
    · have hbuild := mapError_eq_ok_iff.1 (Report.result_ofExcept_eq_ok_iff.1 h)
      obtain ⟨hsegments, ring, hring, hm⟩ := Column.build_eq_ok hbuild
      exact .inr (.inr ⟨ring, _, by omega, hring, hm⟩)
    · exact absurd h Report.result_fail_ne_ok
  · exact absurd h Report.result_fail_ne_ok

theorem isSound_of_generate {p : Pillar} {policy : Policy} {m : Mesh}
    (h : (p.generate.run policy).result = .ok m) : m.IsSound := by
  rcases mesh_cases h with rfl | ⟨ring, thickness, _, rfl⟩ | ⟨ring, n, _, hring, rfl⟩
  · exact Mesh.isSound_empty
  · exact Shell.isSound_mesh ring p.height thickness
  · exact Column.isSound_mesh hring p.height

end Pillar

/-! ## Specifications -/

namespace Spec

/-- A generation gives every pillar of a specification, in order, with the mesh of that pillar. -/
theorem forall₂_of_generate {s : Spec} {policy : Policy} {gs : List Generated}
    (h : (s.generate.run policy).result = .ok gs) :
    List.Forall₂ (fun p g => g.pillar = p ∧ (p.generate.run policy).result = .ok g.mesh)
      s.pillars gs := by
  refine (Report.forall₂_of_result_traverse h).imp ?_
  intro p g hg
  obtain ⟨m, hm, hpure⟩ := Report.result_bind_eq_ok_iff.1 hg
  cases Report.result_pure_eq_ok_iff.1 hpure
  exact ⟨rfl, hm⟩

/-- Every mesh of a generation is sound. -/
theorem isSound_of_generate {s : Spec} {policy : Policy} {gs : List Generated}
    (h : (s.generate.run policy).result = .ok gs) {g : Generated} (hg : g ∈ gs) :
    g.mesh.IsSound := by
  have hall := forall₂_of_generate h
  generalize s.pillars = ps at hall
  clear h
  induction hall with
  | nil => cases hg
  | cons hfirst _ ih =>
    rcases List.mem_cons.1 hg with rfl | hrest
    · exact Pillar.isSound_of_generate hfirst.2
    · exact ih hrest

end Spec

end Colonnade
