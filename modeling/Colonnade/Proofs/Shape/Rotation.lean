import Colonnade.Proofs.Mesh.Coverage
import Colonnade.Proofs.Mesh.Orientation
import Colonnade.Proofs.Warning.Hinge
import Mathlib.Data.List.Rotate

/-!
# Shells over rotated rings

A ring has no first point: the edge from the last point back to the first is made like all others.  So
a ring that starts at another of its points gives the same shell, with its vertices numbered from
there.  Starting `r` points later, vertex `v` is what was vertex `v + 4 * r`, counted around the `4 * n`
vertices of the ring.

Everything that a ring makes is made point by point or edge by edge, and every point and every edge
makes equally much of it, so a rotation of the points is a rotation of the positions and of the
triangles (`flatMap_rotate`).  The triangles depend on the numbers of the points alone, and these are
shifted by the new numbering (`map_rename_edgeTriangles`).  The points on the origin are found in
another order, but are the same (`isRotated_originPoints`).
-/

namespace Colonnade.Shell

/-! ## Rotated lists -/

/-- If all members of a list make equally much, rotating the members rotates what they make. -/
theorem flatMap_rotate {α β : Type} {f : α → List β} {k : Nat} (hf : ∀ a, (f a).length = k)
    {as : List α} {r : Nat} (hr : r ≤ as.length) :
    (as.rotate r).flatMap f = (as.flatMap f).rotate (k * r) := by
  have hfirst : ((as.take r).flatMap f).length = k * r := by
    simp [List.length_flatMap, hf, List.map_const', hr, Nat.mul_comm]
  have hsplit : as.flatMap f = (as.take r).flatMap f ++ (as.drop r).flatMap f := by
    rw [← List.flatMap_append, List.take_append_drop]
  rw [List.rotate_eq_drop_append_take hr, List.flatMap_append, hsplit, ← hfirst,
    List.rotate_append_length_eq]

/-- Members that are chosen from a rotated list are those chosen from the list, rotated. -/
theorem isRotated_filter {α : Type} (chosen : α → Bool) {as : List α} {r : Nat}
    (hr : r ≤ as.length) : ((as.rotate r).filter chosen).IsRotated (as.filter chosen) := by
  have hsplit : as.filter chosen = (as.take r).filter chosen ++ (as.drop r).filter chosen := by
    rw [← List.filter_append, List.take_append_drop]
  rw [List.rotate_eq_drop_append_take hr, List.filter_append, hsplit]
  exact List.isRotated_append

theorem range_rotate (n r : Nat) : (List.range n).rotate r =
    (List.range n).map fun i => (i + r) % n := by
  apply List.ext_getElem
  · simp
  · intro i hi hi'
    simp [List.getElem_rotate]

/-! ## The triangles -/

/-- Shifting the vertices of a ring by those of `r` points shifts their points by `r`. -/
theorem shift_vertex (n r i : Nat) {c : Nat} (hc : c < 4) :
    (4 * i + c + 4 * r) % (4 * n) = 4 * ((i + r) % n) + c := by
  have hslot : (4 * i + c + 4 * r) % 4 = c := by omega
  have hpoint : (4 * i + c + 4 * r) / 4 = i + r := by omega
  rw [Nat.mod_mul, hslot, hpoint, Nat.add_comm]

/-- The triangles of a ring edge, with shifted vertices, are those of the edge between the shifted
points. -/
theorem map_rename_edgeTriangles (n r i j : Nat) :
    (edgeTriangles i j).map (Triangle.rename fun v => (v + 4 * r) % (4 * n)) =
      edgeTriangles ((i + r) % n) ((j + r) % n) := by
  have houter (i : Nat) : (4 * i + 4 * r) % (4 * n) = 4 * ((i + r) % n) :=
    shift_vertex n r i (show 0 < 4 by decide)
  simp only [edgeTriangles, Triangle.rename, outerBottom, outerTop, innerBottom, innerTop,
    List.map_cons, List.map_nil, houter, shift_vertex n r _ (show 1 < 4 by decide),
    shift_vertex n r _ (show 2 < 4 by decide), shift_vertex n r _ (show 3 < 4 by decide)]

/-- The triangles of a ring, with shifted vertices, are the rotated triangles of the ring. -/
theorem map_rename_triangles {n r : Nat} (hr : r ≤ n) :
    (triangles n).map (Triangle.rename fun v => (v + 4 * r) % (4 * n)) =
      (triangles n).rotate (8 * r) := by
  have hedge (i : Nat) :
      (edgeTriangles i ((i + 1) % n)).map (Triangle.rename fun v => (v + 4 * r) % (4 * n)) =
        edgeTriangles ((i + r) % n) (((i + r) % n + 1) % n) := by
    have hnext : ((i + 1) % n + r) % n = ((i + r) % n + 1) % n := by
      rw [Nat.mod_add_mod, Nat.mod_add_mod]
      congr 1
      omega
    rw [map_rename_edgeTriangles, hnext]
  calc (triangles n).map (Triangle.rename fun v => (v + 4 * r) % (4 * n))
      = (List.range n).flatMap fun i => edgeTriangles ((i + r) % n) (((i + r) % n + 1) % n) := by
        rw [triangles, List.map_flatMap, funext hedge]
    _ = ((List.range n).rotate r).flatMap fun i => edgeTriangles i ((i + 1) % n) := by
        rw [range_rotate, List.flatMap_map]
    _ = (triangles n).rotate (8 * r) := by
        have hlength : r ≤ (List.range n).length := by
          rw [List.length_range]
          exact hr
        exact flatMap_rotate (f := fun i => edgeTriangles i ((i + 1) % n)) (k := 8)
          (fun _ => rfl) hlength

/-! ## The points on the origin -/

/-- The numbers of the ring points on the origin, in order. -/
def originPoints (ring : List Point) : List Nat :=
  (List.range ring.length).filter fun i => ring[i]?.any atOrigin

/-- The points on the origin behind the first point have numbers that are one larger than without
it. -/
theorem originPoints_cons (q : Point) (rest : List Point) :
    originPoints (q :: rest) =
      (if atOrigin q then [0] else []) ++ (originPoints rest).map Nat.succ := by
  have hrest : (fun i => ((q :: rest)[i]?).any atOrigin) ∘ Nat.succ =
      fun i => rest[i]?.any atOrigin := rfl
  rw [originPoints, originPoints, List.length_cons, List.range_succ_eq_map, List.filter_cons,
    List.filter_map, hrest]
  by_cases horigin : atOrigin q <;> simp [horigin]

/-- Points on the origin are reported by their numbers. -/
theorem reportOrigins_eq_script {ε : Type} (k : Nat) (ring : List Point) :
    (reportOrigins k ring : Report ε Unit) =
      .script ((originPoints ring).map fun i => originWarning (k + i)) (.ok ()) := by
  induction ring generalizing k with
  | nil => rfl
  | cons q rest ih =>
    have hshift : (fun i => originWarning (k + i)) ∘ Nat.succ =
        fun i => originWarning (k + 1 + i) := by
      funext i
      show originWarning (k + (i + 1)) = originWarning (k + 1 + i)
      congr 1
      omega
    rw [reportOrigins, originPoints_cons, List.map_append, List.map_map, hshift]
    split
    · rw [ih]
      rfl
    · exact ih (k + 1)

/-- Over three or more points, extruding reports the points on the origin and returns the mesh. -/
theorem extrude_eq_script {ε : Type} {ring : List Point} (hring : 3 ≤ ring.length)
    (height thickness : Float) :
    (extrude ring height thickness : Report ε Mesh) =
      .script ((originPoints ring).map originWarning) (.ok (mesh ring height thickness)) := by
  have hwarnings : (fun i => originWarning (0 + i)) = originWarning := by
    funext i
    rw [Nat.zero_add]
  have hlast : (pure (mesh ring height thickness) : Report ε Mesh) =
      .script [] (.ok (mesh ring height thickness)) := rfl
  rw [extrude, if_neg (by omega), reportOrigins_eq_script, hwarnings,
    Report.script_ok_bind _ [] () _ hlast, List.append_nil]

/-- Where a policy promotes no warning of it, extruding over three or more points returns the mesh of
the ring and reports the points on the origin, unless the policy suppresses this. -/
theorem run_extrude {ε : Type} {ring : List Point} {height thickness : Float} {p : Policy}
    (hring : 3 ≤ ring.length)
    (h : ∀ w, ((extrude (ε := ε) ring height thickness).run p).result ≠ .error (.promoted w)) :
    (extrude (ε := ε) ring height thickness).run p =
      ⟨p.unsuppressed ((originPoints ring).map originWarning),
        .ok (mesh ring height thickness)⟩ := by
  have hscript := extrude_eq_script (ε := ε) hring height thickness
  have hrun := Report.IsScripted.run_of_not_promoted ⟨_, _, hscript⟩ h
  rw [hscript, Report.run_script_permissive] at hrun
  rw [hscript]
  exact hrun

/-- Numbered as before, the points on the origin of a rotated ring are those of the ring. -/
theorem isRotated_originPoints {ring : List Point} {r : Nat} (hr : r ≤ ring.length) :
    ((originPoints (ring.rotate r)).map fun i => (i + r) % ring.length).IsRotated
      (originPoints ring) := by
  have hsame : (originPoints (ring.rotate r)).map (fun i => (i + r) % ring.length) =
      ((List.range ring.length).rotate r).filter fun i => ring[i]?.any atOrigin := by
    rw [originPoints, List.length_rotate, range_rotate, List.filter_map]
    congr 1
    refine List.filter_congr fun i hi => ?_
    rw [List.getElem?_rotate (List.mem_range.1 hi)]
    rfl
  have hlength : r ≤ (List.range ring.length).length := by
    rw [List.length_range]
    exact hr
  rw [hsame]
  exact isRotated_filter _ hlength

/-! ## The shell -/

/-- Whatever the points of a ring of three or more, the height and the thickness, and wherever the ring
is started instead: if extruding promotes no warning for either ring, it returns a shell for both.  The
positions of the shell over the rotated ring are those of the shell over the ring, rotated by four for
each point, and its triangles, with the vertices numbered as before, are the triangles of that shell,
rotated by eight for each point.  The same points are reported to lie on the origin, with their
numbers in the rotated ring, unless the policy suppresses this.  The corners of both shells fit into
words, or of neither. -/
theorem extrude_rotate {ε : Type} {ring : List Point} {r : Nat} {height thickness : Float}
    {p : Policy} (hring : 3 ≤ ring.length) (hr : r < ring.length)
    (h : ∀ w, ((extrude (ε := ε) ring height thickness).run p).result ≠ .error (.promoted w))
    (hrotated : ∀ w, ((extrude (ε := ε) (ring.rotate r) height thickness).run p).result ≠
      .error (.promoted w)) :
    ∃ m turned : Mesh,
      (extrude (ε := ε) ring height thickness).run p =
        ⟨p.unsuppressed ((originPoints ring).map originWarning), .ok m⟩ ∧
      (extrude (ε := ε) (ring.rotate r) height thickness).run p =
        ⟨p.unsuppressed ((originPoints (ring.rotate r)).map originWarning), .ok turned⟩ ∧
      ((originPoints (ring.rotate r)).map fun i => (i + r) % ring.length).IsRotated
        (originPoints ring) ∧
      turned.positions.toList = m.positions.toList.rotate (4 * r) ∧
      turned.triangles.map (Triangle.rename fun v => (v + 4 * r) % (4 * ring.length)) =
        m.triangles.rotate (8 * r) ∧
      (turned.stored = .ok turned ↔ m.stored = .ok m) := by
  have hlength : (ring.rotate r).length = ring.length := List.length_rotate _ _
  have hturned : 3 ≤ (ring.rotate r).length := by omega
  refine ⟨mesh ring height thickness, mesh (ring.rotate r) height thickness, run_extrude hring h,
    run_extrude hturned hrotated, isRotated_originPoints (by omega), ?_, ?_, ?_⟩
  · show positions (ring.rotate r) height thickness =
      (positions ring height thickness).rotate (4 * r)
    exact flatMap_rotate (f := fun q => wall q height thickness) (k := 4) (fun _ => rfl) (by omega)
  · show (triangles (ring.rotate r).length).map _ = (triangles ring.length).rotate (8 * r)
    rw [hlength]
    exact map_rename_triangles (by omega)
  · have hwords {ring : List Point} (hring : 3 ≤ ring.length) :
        (mesh ring height thickness).stored = .ok (mesh ring height thickness) ↔
          4 * ring.length ≤ 2 ^ 32 := by
      rw [Mesh.stored_eq_ok_iff, Mesh.wideCorner?_eq_none_iff (isCovered_mesh hring _ _),
        vertexCount_mesh]
      exact and_iff_right rfl
    rw [hwords hring, hwords hturned, hlength]

/-- A ring of five points with two on the origin, one of them not a number, started at its fourth
point. -/
theorem extrude_rotate_five :
    let ring : List Point := [⟨3.0, 4.0⟩, ⟨0.0, 0.0⟩, ⟨3.0, -4.0⟩, ⟨0.0 / 0.0, 1.0⟩, ⟨-5.0, 0.0⟩]
    let p : Policy := ⟨["W01"], []⟩
    3 ≤ ring.length ∧ 3 < ring.length ∧
      (∀ w, ((extrude (ε := Empty) ring 1.0 2.5).run p).result ≠ .error (.promoted w)) ∧
      (∀ w, ((extrude (ε := Empty) (ring.rotate 3) 1.0 2.5).run p).result ≠
        .error (.promoted w)) ∧
      ∃ m turned : Mesh,
        ((extrude (ε := Empty) ring 1.0 2.5).run p).result = .ok m ∧
        ((extrude (ε := Empty) (ring.rotate 3) 1.0 2.5).run p).result = .ok turned ∧
        ((originPoints (ring.rotate 3)).map fun i => (i + 3) % 5).IsRotated (originPoints ring) ∧
        turned.positions.toList = m.positions.toList.rotate 12 ∧
        turned.triangles.map (Triangle.rename fun v => (v + 12) % 20) = m.triangles.rotate 24 := by
  intro ring p
  have hring : 3 ≤ ring.length := by decide
  have hr : 3 < ring.length := by decide
  have hnone {ring : List Point} (hring : 3 ≤ ring.length) (w : Warning) :
      ((extrude (ε := Empty) ring 1.0 2.5).run p).result ≠ .error (.promoted w) := by
    rw [result_extrude hring (by decide)]
    exact fun h => by cases h
  have hrotated : 3 ≤ (ring.rotate 3).length := by decide
  obtain ⟨m, turned, hrun, hturned, horigins, hpositions, htriangles, _⟩ :=
    extrude_rotate (r := 3) hring hr (hnone hring) (hnone hrotated)
  exact ⟨hring, hr, hnone hring, hnone hrotated, m, turned, by rw [hrun], by rw [hturned],
    horigins, hpositions, htriangles⟩

end Colonnade.Shell
