import Colonnade.Proofs.Shape.Column
import Colonnade.Proofs.Spec.String
import Colonnade.Proofs.Turtle.Walk

/-!
# How large the meshes of pillars are

The size of a mesh is known from the parameters of its pillar.  An L-system has a ring of as many
points as there are steps in its string, however the string branches, and each point makes four
vertices and eight triangles.  A column has two vertices and two triangles for each segment, and two
vertices more.

The lemmas go back from a mesh to what it was made of: `points_eq_ok` from a ring to the string,
`shell_eq_ok` from a shell to its ring, `column_eq_ok` from a column to its segments.
`counts_of_generate` puts them together.  It also says that the mesh is tidy (`Mesh.IsTidy`): there
are no corners but the vertices, no vertices but the corners, and all of them fit into words.
-/

namespace Colonnade

open Text (Loose)

open Report

/-! ## Tidy meshes -/

/-- A mesh with as many normals and texture coordinates as vertices, whole triangles, and the
vertices as corners.  The normals are those that the flat list of corners gives. -/
structure Mesh.IsTidy (m : Mesh) : Prop where
  normals : m.normals.size = m.positions.size
  uvs : m.uvs.size = m.positions.size
  whole : 3 ∣ m.indices.length
  corner_lt : ∀ c ∈ m.indices, c < m.vertexCount
  word : m.vertexCount ≤ 2 ^ 32
  computed : normalsOfIndices m.positions m.indices = .ok m.normals
  covered : ∀ v < m.vertexCount, v ∈ m.indices

/-- Sound meshes that leave no vertex over are tidy, if their normals are those of the triangles. -/
theorem Mesh.IsSound.isTidy {m : Mesh} (hsound : m.IsSound) (hcovered : m.IsCovered)
    (hword : m.vertexCount ≤ 2 ^ 32)
    (hnormals : m.normals = vertexNormals m.positions m.triangles) : m.IsTidy where
  normals := hsound.normals
  uvs := hsound.uvs
  whole := ⟨m.triangleCount, m.length_indices⟩
  corner_lt := hsound.corner_lt
  word := hword
  computed := by rw [normalsOfIndices_eq_ok hsound, hnormals]
  covered := hcovered

theorem Mesh.isTidy_empty : Mesh.empty.IsTidy :=
  isSound_empty.isTidy isCovered_empty (Nat.zero_le _)
    (Array.eq_empty_of_size_eq_zero (size_vertexNormals _ _)).symm

namespace Pillar

variable {p : Pillar} {policy : Policy}

/-! ## Rings -/

theorem walk_eq_ok_iff {symbols : Loose} {angle step : Float} {ring : List Point} :
    ((walk symbols angle step).run policy).result = .ok ring ↔
      ∃ points, Turtle.walk symbols angle step = .ok points ∧ points.toList = ring := by
  rw [walk, result_ofExcept_eq_ok_iff, except_map_eq_ok_iff]
  simp only [mapError_eq_ok_iff]

/-- The first member of a list at which a condition fails comes right after those before it. -/
private theorem getElem?_length_takeWhile {α : Type} (holds : α → Bool) (as : List α) :
    as[(as.takeWhile holds).length]? = (as.dropWhile holds).head? := by
  induction as with
  | nil => rfl
  | cons a rest ih =>
    cases ha : holds a <;> simp [ha, ih]

/-- A walk that needs a parameter that is not set fails, so one that returns needs none of them. -/
theorem brokenWalk_eq_ok {symbols : Loose} {ring : List Point}
    (h : ((p.brokenWalk symbols).run policy).result = .ok ring) :
    ((walk symbols (p.angle.getD 0.0) (p.segmentLength.getD 0.0)).run policy).result =
      .ok ring := by
  rw [brokenWalk] at h
  obtain ⟨points, hpoints, h⟩ := result_bind_eq_ok_iff.1 h
  rw [getElem?_length_takeWhile] at hpoints h
  cases hrest : symbols.dropWhile fun c => (p.unsetAt? c).isNone with
  | nil =>
    -- Nothing stops the walk: it is the walk along the whole string.
    have hwhole := List.takeWhile_append_dropWhile (p := fun c => (p.unsetAt? c).isNone)
      (l := symbols)
    rw [hrest, List.append_nil] at hwhole
    rw [hrest, hwhole] at hpoints
    rw [hrest] at h
    cases result_pure_eq_ok_iff.1 h
    exact hpoints
  | cons symbol rest =>
    have hhead := List.head?_dropWhile_not (fun c => (p.unsetAt? c).isNone) symbols
    rw [hrest, List.head?_cons] at hhead h
    rw [Option.bind_some] at h
    cases hunset : p.unsetAt? symbol with
    | none => simp [hunset] at hhead
    | some use =>
      rw [hunset] at h
      exact absurd h result_fail_ne_ok

/-- The points of a pillar are those of the turtle, one for every step of the string. -/
theorem points_eq_ok {symbols : Loose} {ring : List Point}
    (h : ((p.points symbols).run policy).result = .ok ring) :
    ring.length = symbols.count (.char 'F') := by
  have hwalk : ∃ angle step, ((walk symbols angle step).run policy).result = .ok ring := by
    rw [points] at h
    split at h
    · exact ⟨_, _, h⟩
    · exact ⟨_, _, brokenWalk_eq_ok h⟩
  obtain ⟨angle, step, hwalk⟩ := hwalk
  obtain ⟨found, hfound, rfl⟩ := walk_eq_ok_iff.1 hwalk
  rw [Array.length_toList]
  exact Turtle.size_of_walk hfound

/-! ## Shells and columns -/

/-- The corners of a shell fit into words exactly if there are no more vertices than words. -/
theorem wideCorner?_shell_eq_none_iff {ring : List Point} (hring : 3 ≤ ring.length)
    (height thickness : Float) :
    (Shell.mesh ring height thickness).wideCorner? = none ↔ 4 * ring.length ≤ 2 ^ 32 := by
  rw [Mesh.wideCorner?_eq_none_iff (Shell.isCovered_mesh hring height thickness),
    Shell.vertexCount_mesh]

/-- The shell over a ring is empty for fewer than three points.  Otherwise it is the mesh of the
ring, with vertices that can be numbered by words. -/
theorem shell_eq_ok {ring : List Point} {m : Mesh}
    (h : ((p.shell ring).run policy).result = .ok m) :
    (ring.length < 3 ∧ m = .empty) ∨
      3 ≤ ring.length ∧ m.vertexCount ≤ 2 ^ 32 ∧
        ∃ thickness, m = Shell.mesh ring p.height thickness := by
  rw [shell] at h
  split at h
  · rename_i thickness _
    obtain ⟨built, hbuilt, h⟩ := result_bind_eq_ok_iff.1 h
    obtain ⟨rfl, hwords⟩ :=
      Mesh.stored_eq_ok_iff.1 (mapError_eq_ok_iff.1 (result_ofExcept_eq_ok_iff.1 h))
    have hmesh := Shell.extrude_eq_ok hbuilt
    split at hmesh
    · rename_i hfew
      exact .inl ⟨hfew, hmesh⟩
    · rename_i hmany
      have hring : 3 ≤ ring.length := by omega
      subst hmesh
      refine .inr ⟨hring, ?_, thickness, rfl⟩
      rw [Shell.vertexCount_mesh]
      exact (wideCorner?_shell_eq_none_iff hring p.height thickness).1 hwords
  · split at h
    · rename_i hfew
      have hmesh := Shell.extrude_eq_ok h
      rw [if_pos hfew] at hmesh
      exact .inl ⟨hfew, hmesh⟩
    · obtain ⟨_, _, h⟩ := result_bind_eq_ok_iff.1 h
      exact absurd h result_fail_ne_ok

/-- If nothing is promoted, extruding returns. -/
theorem result_extrude_permissive (ring : List Point) (height thickness : Float) :
    ((Shell.extrude ring height thickness : Report GenerationFault Mesh).run .permissive).result =
      .ok (if ring.length < 3 then .empty else Shell.mesh ring height thickness) := by
  split
  · rename_i hfew
    rw [Shell.extrude, if_pos hfew]
    rfl
  · exact Shell.result_extrude (by omega) rfl height thickness

/-- If nothing is promoted, a shell of known thickness can be made exactly if its vertices can be
numbered by words. -/
theorem exists_shell_eq_ok_iff {ring : List Point} {thickness : Float}
    (hthickness : p.thickness = some thickness) :
    (∃ m, ((p.shell ring).run .permissive).result = .ok m) ↔ 4 * ring.length ≤ 2 ^ 32 := by
  constructor
  · rintro ⟨m, h⟩
    rcases shell_eq_ok h with ⟨hfew, _⟩ | ⟨_, hword, thickness, rfl⟩
    · omega
    · rw [Shell.vertexCount_mesh] at hword
      exact hword
  · intro hword
    have hextrude := result_extrude_permissive ring p.height thickness
    rw [shell, hthickness]
    refine ⟨_, result_bind_eq_ok_iff.2 ⟨_, hextrude, result_ofExcept_eq_ok_iff.2
      (mapError_eq_ok_iff.2 (Mesh.stored_eq_ok_iff.2 ⟨rfl, ?_⟩))⟩⟩
    split
    · rfl
    · exact (wideCorner?_shell_eq_none_iff (by omega) p.height thickness).2 hword

/-- A column has three or more segments, rings with one point more, and vertices that can be
numbered by words. -/
theorem column_eq_ok {m : Mesh} (h : (p.column.run policy).result = .ok m) :
    ∃ segments, p.segments = some segments ∧ 3 ≤ segments ∧ m.vertexCount ≤ 2 ^ 32 ∧
      ∃ ring, ring.length = segments.toNat + 1 ∧
        m = Column.mesh ring p.height segments.toNat := by
  rw [column] at h
  split at h
  · rename_i radius segments flutes depth _ hsegments _ _
    have hbuild := mapError_eq_ok_iff.1 (result_ofExcept_eq_ok_iff.1 h)
    obtain ⟨henough, ring, hring, hmesh⟩ := Column.build_eq_ok hbuild
    exact ⟨segments, hsegments, henough, Column.words_of_build hbuild, ring, hring, hmesh⟩
  · exact absurd h result_fail_ne_ok

/-! ## Meshes -/

/-- The size of an L-system: from three steps on, four vertices and eight triangles for each step,
and nothing at all for fewer. -/
structure CountsShell (m : Mesh) (steps : Nat) : Prop where
  full : 3 ≤ steps → m.vertexCount = 4 * steps ∧ m.triangleCount = 8 * steps
  empty : steps < 3 → m.positions = #[] ∧ m.normals = #[] ∧ m.uvs = #[] ∧ m.indices = []

theorem tidy_of_lsystem {m : Mesh} (hform : p.form? = some .lsystem)
    (h : (p.generate.run policy).result = .ok m) :
    m.IsTidy ∧ ∃ symbols, p.string? = some symbols ∧ CountsShell m (symbols.count (.char 'F')) := by
  rw [generate, hform] at h
  obtain ⟨ring, hring, hshell⟩ := result_bind_eq_ok_iff.1 h
  obtain ⟨symbols, hstring, hpoints⟩ := exists_string_of_ring hring
  have hcount := points_eq_ok hpoints
  rcases shell_eq_ok hshell with ⟨hfew, rfl⟩ | ⟨hmany, hword, thickness, rfl⟩
  · refine ⟨Mesh.isTidy_empty, symbols, hstring, fun hfull => ?_, fun _ => ⟨rfl, rfl, rfl, rfl⟩⟩
    omega
  · have hsound := Shell.isSound_mesh ring p.height thickness
    have hcovered := Shell.isCovered_mesh hmany p.height thickness
    refine ⟨hsound.isTidy hcovered hword rfl, symbols, hstring, fun _ => ?_, fun hempty => ?_⟩
    · rw [← hcount]
      exact ⟨Shell.vertexCount_mesh _ _ _, Shell.length_triangles _⟩
    · omega

theorem tidy_of_fluted {m : Mesh} (hform : p.form? = some .fluted)
    (h : (p.generate.run policy).result = .ok m) :
    m.IsTidy ∧ ∃ segments, p.segments = some segments ∧ 3 ≤ segments ∧
      (m.vertexCount : Int) = 2 * (segments + 1) ∧ (m.triangleCount : Int) = 2 * segments := by
  rw [generate, hform] at h
  obtain ⟨segments, hsegments, henough, hword, ring, hring, rfl⟩ := column_eq_ok h
  have hpos : 0 < segments.toNat := by omega
  have hsound := Column.isSound_mesh hring p.height
  have hcovered := Column.isCovered_mesh hpos hring p.height
  have htriangles : (Column.mesh ring p.height segments.toNat).triangleCount =
      2 * segments.toNat := Column.length_triangles _
  refine ⟨hsound.isTidy hcovered hword rfl, segments, hsegments, henough, ?_, ?_⟩
  · rw [Column.vertexCount_mesh, hring]
    omega
  · rw [htriangles]
    omega

/-- Every mesh that a generation returns is tidy and has the size that the parameters of its pillar
give: the steps of the string of an L-system, or the segments of a column. -/
theorem counts_of_generate {m : Mesh} (h : (p.generate.run policy).result = .ok m) :
    m.IsTidy ∧
    (p.form? = some .lsystem →
      ∃ symbols, p.string? = some symbols ∧ CountsShell m (symbols.count (.char 'F'))) ∧
    (p.form? = some .fluted → ∃ segments, p.segments = some segments ∧ 3 ≤ segments ∧
      (m.vertexCount : Int) = 2 * (segments + 1) ∧ (m.triangleCount : Int) = 2 * segments) := by
  have htidy : m.IsTidy := by
    cases hform : p.form? with
    | none =>
      rw [generate, hform] at h
      exact absurd h result_fail_ne_ok
    | some form =>
      cases form with
      | lsystem => exact (tidy_of_lsystem hform h).1
      | fluted => exact (tidy_of_fluted hform h).1
  exact ⟨htidy, fun hform => (tidy_of_lsystem hform h).2, fun hform => (tidy_of_fluted hform h).2⟩

/-- A pillar whose walk branches off and goes back more often than it has turtles saved. -/
def branching : Pillar :=
  { label := "lsystem", id := "a", seed := some "F[+F]]F", rules := some [], iterations := some 0
    angle := some 90.0, segmentLength := some 1.0, thickness := some 0.1 }

/-- Three steps, one of them on a branch, make twelve vertices and twenty-four triangles. -/
theorem counts_of_generate_branching :
    ∃ m, (branching.generate.run .permissive).result = .ok m ∧ m.IsTidy ∧
      m.vertexCount = 12 ∧ m.triangleCount = 24 := by
  obtain ⟨a, b, c, hring⟩ :
      ∃ a b c, (branching.ring.run .permissive).result = .ok [a, b, c] := ⟨_, _, _, by rfl⟩
  have hwords : 4 * [a, b, c].length ≤ 2 ^ 32 := by simp
  obtain ⟨m, hshell⟩ := (exists_shell_eq_ok_iff (p := branching) rfl).2 hwords
  have hrun : (branching.generate.run .permissive).result = .ok m :=
    result_bind_eq_ok_iff.2 ⟨[a, b, c], hring, hshell⟩
  obtain ⟨htidy, hlsystem, _⟩ := counts_of_generate hrun
  obtain ⟨symbols, hstring, hcounts⟩ := hlsystem rfl
  have hsymbols : branching.string? = some (Loose.ofText "F[+F]]F") := by rfl
  cases hsymbols.symm.trans hstring
  obtain ⟨hvertices, htriangles⟩ := hcounts.full (by decide)
  exact ⟨m, hrun, htidy, hvertices, htriangles⟩

end Pillar

end Colonnade
