import Colonnade.Proofs.Mesh.Surface
import Colonnade.Proofs.Warning.Run
import Colonnade.Shape.Shell

/-!
# The surface of a shell

The eight triangles of every ring edge fit together to a closed surface, whatever the ring looks
like: outer wall, inner wall, bottom and top leave no edge open, also at the seam and in the
smallest ring, where the point before and the point after a ring point are next to each other.

The triangles at a ring point `j` belong to the two ring edges at it, from `i` to `j` and from `j`
to `k` (`Consecutive`, `around_triangles`).  Among these sixteen, each of the four vertices of `j`
has six, and they form a closed fan: `isFan_outerBottom`, `isFan_outerTop`, `isFan_innerBottom` and
`isFan_innerTop` name it.  The fans say all that there is to say about the edges, by the general
results on surfaces.
-/

namespace Colonnade.Shell

open Surface

/-! ## The four vertices of a ring point -/

@[simp] theorem outerBottom_inj {i j : Nat} : outerBottom i = outerBottom j ↔ i = j := by
  unfold outerBottom
  omega

@[simp] theorem outerTop_inj {i j : Nat} : outerTop i = outerTop j ↔ i = j := by
  unfold outerTop
  omega

@[simp] theorem innerBottom_inj {i j : Nat} : innerBottom i = innerBottom j ↔ i = j := by
  unfold innerBottom
  omega

@[simp] theorem innerTop_inj {i j : Nat} : innerTop i = innerTop j ↔ i = j := by
  unfold innerTop
  omega

@[simp] theorem outerBottom_ne (i j : Nat) :
    outerBottom i ≠ outerTop j ∧ outerBottom i ≠ innerBottom j ∧ outerBottom i ≠ innerTop j := by
  unfold outerBottom outerTop innerBottom innerTop
  omega

@[simp] theorem outerTop_ne (i j : Nat) :
    outerTop i ≠ outerBottom j ∧ outerTop i ≠ innerBottom j ∧ outerTop i ≠ innerTop j := by
  unfold outerBottom outerTop innerBottom innerTop
  omega

@[simp] theorem innerBottom_ne (i j : Nat) :
    innerBottom i ≠ outerBottom j ∧ innerBottom i ≠ outerTop j ∧ innerBottom i ≠ innerTop j := by
  unfold outerBottom outerTop innerBottom innerTop
  omega

@[simp] theorem innerTop_ne (i j : Nat) :
    innerTop i ≠ outerBottom j ∧ innerTop i ≠ outerTop j ∧ innerTop i ≠ innerBottom j := by
  unfold outerBottom outerTop innerBottom innerTop
  omega

/-- Every vertex is one of the four of its ring point. -/
theorem vertex_cases (v : Nat) : v = outerBottom (v / 4) ∨ v = outerTop (v / 4) ∨
    v = innerBottom (v / 4) ∨ v = innerTop (v / 4) := by
  unfold outerBottom outerTop innerBottom innerTop
  omega

/-- The corners of the triangles of a ring edge belong to the ends of the edge. -/
theorem point_of_corner {i j : Nat} {t : Triangle} (ht : t ∈ edgeTriangles i j) {v : Nat}
    (hv : v ∈ t.corners) : v / 4 = i ∨ v / 4 = j := by
  simp only [edgeTriangles, List.mem_cons, List.not_mem_nil, or_false] at ht
  rcases ht with rfl | rfl | rfl | rfl | rfl | rfl | rfl | rfl <;>
    simp only [Triangle.corners, List.mem_cons, List.not_mem_nil, or_false, outerBottom, outerTop,
      innerBottom, innerTop] at hv <;>
    omega

/-- No triangle of a ring edge between two points meets a vertex twice. -/
theorem nodup_corners {i j : Nat} (hij : i ≠ j) {t : Triangle} (ht : t ∈ edgeTriangles i j) :
    t.corners.Nodup := by
  simp only [edgeTriangles, List.mem_cons, List.not_mem_nil, or_false] at ht
  rcases ht with rfl | rfl | rfl | rfl | rfl | rfl | rfl | rfl <;>
    simp [Triangle.corners, hij, hij.symm]

/-! ## Three ring points in a row -/

/-- Points `i`, `j` and `k` follow each other in a ring of `n` points and are different. -/
structure Consecutive (n i j k : Nat) : Prop where
  i_lt : i < n
  j_lt : j < n
  next_i : (i + 1) % n = j
  next_j : (j + 1) % n = k
  i_ne_j : i ≠ j
  j_ne_k : j ≠ k
  i_ne_k : i ≠ k

theorem next_eq {n a : Nat} (ha : a < n) : (a + 1) % n = if a + 1 = n then 0 else a + 1 := by
  split
  · rename_i h
    rw [h, Nat.mod_self]
  · exact Nat.mod_eq_of_lt (by omega)

/-- Every point of a ring of three or more has a point before it and a point after it. -/
theorem exists_consecutive {n j : Nat} (hn : 3 ≤ n) (hj : j < n) : ∃ i k, Consecutive n i j k := by
  have hk := next_eq hj
  by_cases hzero : j = 0
  · have hi := next_eq (n := n) (a := n - 1) (by omega)
    refine ⟨n - 1, (j + 1) % n, ⟨by omega, hj, ?_, rfl, by omega, ?_, ?_⟩⟩
    · rw [hi, if_pos (by omega), hzero]
    · rw [hk]
      split <;> omega
    · rw [hk]
      split <;> omega
  · have hi := next_eq (n := n) (a := j - 1) (by omega)
    refine ⟨j - 1, (j + 1) % n, ⟨by omega, hj, ?_, rfl, by omega, ?_, ?_⟩⟩
    · rw [hi, if_neg (by omega)]
      omega
    · rw [hk]
      split <;> omega
    · rw [hk]
      split <;> omega

/-- Only one point comes before a point. -/
theorem Consecutive.eq_of_next {n i j k a : Nat} (h : Consecutive n i j k) (ha : a < n)
    (hnext : (a + 1) % n = j) : a = i := by
  have hi := h.next_i
  rw [next_eq h.i_lt] at hi
  rw [next_eq ha] at hnext
  have hil := h.i_lt
  split at hi <;> split at hnext <;> omega

/-! ## The triangles at a ring point -/

/-- What every ring edge has, one edge after the other. -/
def ringOf {α : Type} (cells : Nat → Nat → List α) (n : Nat) : List α :=
  (List.range n).flatMap fun i => cells i ((i + 1) % n)

/-- The triangles of an edge do not reach a vertex of another ring point. -/
theorem around_edgeTriangles_eq_nil {a b v : Nat} (ha : a ≠ v / 4) (hb : b ≠ v / 4) :
    around (edgeTriangles a b) v = [] := by
  rw [around, List.filter_eq_nil_iff]
  intro t ht hv
  rcases point_of_corner ht (of_decide_eq_true hv) with h | h
  · exact ha h.symm
  · exact hb h.symm

/-- If all but two members of a list without repetition contribute nothing, then the contributions
of these two are everything. -/
private theorem flatMap_perm_of_two {α : Type} {f : Nat → List α} {as : List Nat} {a b : Nat}
    (hnodup : as.Nodup) (ha : a ∈ as) (hb : b ∈ as) (hab : a ≠ b)
    (hnil : ∀ x ∈ as, x ≠ a → x ≠ b → f x = []) : (as.flatMap f).Perm (f a ++ f b) := by
  have hfirst : as.Perm (a :: as.erase a) := List.perm_cons_erase ha
  have hb' : b ∈ as.erase a := (List.mem_erase_of_ne hab.symm).2 hb
  have hsecond : (as.erase a).Perm (b :: (as.erase a).erase b) := List.perm_cons_erase hb'
  have hrest : ((as.erase a).erase b).flatMap f = [] := by
    rw [List.flatMap_eq_nil_iff]
    intro x hx
    rw [(hnodup.erase a).mem_erase_iff, hnodup.mem_erase_iff] at hx
    obtain ⟨hxb, hxa, hxas⟩ := hx
    exact hnil x hxas hxa hxb
  have hperm := (hfirst.trans (hsecond.cons a)).flatMap_right f
  rw [List.flatMap_cons, List.flatMap_cons, hrest, List.append_nil] at hperm
  exact hperm

/-- What only an edge at a ring point can have is all found at the edge to the point and the edge
from it. -/
theorem filter_ringOf {α : Type} {cells : Nat → Nat → List α} {p : α → Bool} {n i j k : Nat}
    (h : Consecutive n i j k) (hp : ∀ a b, a ≠ j → b ≠ j → (cells a b).filter p = []) :
    ((ringOf cells n).filter p).Perm ((cells i j ++ cells j k).filter p) := by
  have hends : (cells i j).filter p ++ (cells j k).filter p =
      (cells i ((i + 1) % n)).filter p ++ (cells j ((j + 1) % n)).filter p := by
    rw [h.next_i, h.next_j]
  rw [ringOf, List.filter_flatMap, List.filter_append, hends]
  refine flatMap_perm_of_two List.nodup_range (List.mem_range.2 h.i_lt) (List.mem_range.2 h.j_lt)
    h.i_ne_j ?_
  intro a ha hai haj
  -- An edge that neither starts nor ends at the point: only `i` comes before `j`.
  exact hp a _ haj fun hnext => hai (h.eq_of_next (List.mem_range.1 ha) hnext)

/-- Only the edge to a ring point and the edge from it have triangles around its vertices. -/
theorem around_triangles {n i j k v : Nat} (h : Consecutive n i j k) (hv : v / 4 = j) :
    (around (triangles n) v).Perm (around (edgeTriangles i j ++ edgeTriangles j k) v) := by
  have hnil (a b : Nat) (ha : a ≠ j) (hb : b ≠ j) : around (edgeTriangles a b) v = [] := by
    rw [← hv] at ha hb
    exact around_edgeTriangles_eq_nil ha hb
  exact filter_ringOf h hnil

/-! ## The fans -/

section Fans

variable {i j k : Nat}

theorem isFan_outerBottom (hij : i ≠ j) (hjk : j ≠ k) (hik : i ≠ k) :
    IsFan (outerBottom j)
      [outerBottom k, outerTop j, outerTop i, outerBottom i, innerBottom j, innerBottom k]
      (around (edgeTriangles i j ++ edgeTriangles j k) (outerBottom j)) := by
  have haround : around (edgeTriangles i j ++ edgeTriangles j k) (outerBottom j) =
      [⟨outerBottom i, outerBottom j, outerTop i⟩, ⟨outerTop i, outerBottom j, outerTop j⟩,
        ⟨outerBottom i, outerBottom j, innerBottom j⟩, ⟨outerBottom j, outerBottom k, outerTop j⟩,
        ⟨outerBottom j, innerBottom k, innerBottom j⟩,
        ⟨outerBottom j, outerBottom k, innerBottom k⟩] := by
    simp [around, edgeTriangles, Triangle.corners, hij.symm, hjk]
  rw [haround]
  refine isFan_six (by simp [hij.symm, hjk, hik.symm]) (by simp [hij.symm, hjk])
    (List.perm_iff_count.2 fun t => ?_)
    (Triangle.spans_mk _ _ _)
    (Triangle.spans_mk (outerTop i) (outerBottom j) (outerTop j)).rotate
    (Triangle.spans_mk (outerBottom i) (outerBottom j) (outerTop i)).rotate
    (Triangle.spans_mk (outerBottom i) (outerBottom j) (innerBottom j)).rotate.swap
    (Triangle.spans_mk (outerBottom j) (innerBottom k) (innerBottom j)).swap
    (Triangle.spans_mk (outerBottom j) (outerBottom k) (innerBottom k)).swap
  simp only [List.count_cons, List.count_nil]
  ac_rfl

theorem isFan_outerTop (hij : i ≠ j) (hjk : j ≠ k) (hik : i ≠ k) :
    IsFan (outerTop j)
      [outerBottom j, outerBottom k, outerTop k, innerTop k, innerTop j, outerTop i]
      (around (edgeTriangles i j ++ edgeTriangles j k) (outerTop j)) := by
  have haround : around (edgeTriangles i j ++ edgeTriangles j k) (outerTop j) =
      [⟨outerTop i, outerBottom j, outerTop j⟩, ⟨outerTop i, innerTop j, outerTop j⟩,
        ⟨outerBottom j, outerBottom k, outerTop j⟩, ⟨outerTop j, outerBottom k, outerTop k⟩,
        ⟨outerTop j, innerTop j, innerTop k⟩, ⟨outerTop j, innerTop k, outerTop k⟩] := by
    simp [around, edgeTriangles, Triangle.corners, hij.symm, hjk]
  rw [haround]
  refine isFan_six (by simp [hjk, hjk.symm, hik.symm]) (by simp [hij.symm, hjk])
    (List.perm_iff_count.2 fun t => ?_)
    (Triangle.spans_mk (outerBottom j) (outerBottom k) (outerTop j)).rotate.rotate
    (Triangle.spans_mk _ _ _)
    (Triangle.spans_mk (outerTop j) (innerTop k) (outerTop k)).swap
    (Triangle.spans_mk (outerTop j) (innerTop j) (innerTop k)).swap
    (Triangle.spans_mk (outerTop i) (innerTop j) (outerTop j)).rotate.rotate.swap
    (Triangle.spans_mk (outerTop i) (outerBottom j) (outerTop j)).rotate.rotate
  simp only [List.count_cons, List.count_nil]
  ac_rfl

theorem isFan_innerBottom (hij : i ≠ j) (hjk : j ≠ k) (hik : i ≠ k) :
    IsFan (innerBottom j)
      [innerTop j, innerBottom k, outerBottom j, outerBottom i, innerBottom i, innerTop i]
      (around (edgeTriangles i j ++ edgeTriangles j k) (innerBottom j)) := by
  have haround : around (edgeTriangles i j ++ edgeTriangles j k) (innerBottom j) =
      [⟨innerBottom i, innerTop i, innerBottom j⟩, ⟨innerBottom j, innerTop i, innerTop j⟩,
        ⟨outerBottom i, innerBottom j, innerBottom i⟩,
        ⟨outerBottom i, outerBottom j, innerBottom j⟩,
        ⟨innerBottom j, innerTop j, innerBottom k⟩,
        ⟨outerBottom j, innerBottom k, innerBottom j⟩] := by
    simp [around, edgeTriangles, Triangle.corners, hij.symm, hjk]
  rw [haround]
  refine isFan_six (by simp [hij.symm, hik.symm]) (by simp [hij.symm, hjk])
    (List.perm_iff_count.2 fun t => ?_)
    (Triangle.spans_mk _ _ _)
    (Triangle.spans_mk (outerBottom j) (innerBottom k) (innerBottom j)).rotate.rotate.swap
    (Triangle.spans_mk (outerBottom i) (outerBottom j) (innerBottom j)).rotate.rotate.swap
    (Triangle.spans_mk (outerBottom i) (innerBottom j) (innerBottom i)).rotate.swap
    (Triangle.spans_mk (innerBottom i) (innerTop i) (innerBottom j)).rotate.rotate
    (Triangle.spans_mk _ _ _)
  simp only [List.count_cons, List.count_nil]
  ac_rfl

theorem isFan_innerTop (hij : i ≠ j) (hjk : j ≠ k) (hik : i ≠ k) :
    IsFan (innerTop j)
      [innerBottom j, innerBottom k, innerTop k, outerTop j, outerTop i, innerTop i]
      (around (edgeTriangles i j ++ edgeTriangles j k) (innerTop j)) := by
  have haround : around (edgeTriangles i j ++ edgeTriangles j k) (innerTop j) =
      [⟨innerBottom j, innerTop i, innerTop j⟩, ⟨outerTop i, innerTop i, innerTop j⟩,
        ⟨outerTop i, innerTop j, outerTop j⟩, ⟨innerBottom j, innerTop j, innerBottom k⟩,
        ⟨innerBottom k, innerTop j, innerTop k⟩, ⟨outerTop j, innerTop j, innerTop k⟩] := by
    simp [around, edgeTriangles, Triangle.corners, hij.symm, hjk]
  rw [haround]
  refine isFan_six (by simp [hij.symm, hjk, hik.symm]) (by simp [hij.symm, hjk])
    (List.perm_iff_count.2 fun t => ?_)
    (Triangle.spans_mk (innerBottom j) (innerTop j) (innerBottom k)).rotate.swap
    (Triangle.spans_mk (innerBottom k) (innerTop j) (innerTop k)).rotate.swap
    (Triangle.spans_mk (outerTop j) (innerTop j) (innerTop k)).rotate
    (Triangle.spans_mk (outerTop i) (innerTop j) (outerTop j)).rotate
    (Triangle.spans_mk (outerTop i) (innerTop i) (innerTop j)).rotate.rotate
    (Triangle.spans_mk (innerBottom j) (innerTop i) (innerTop j)).rotate.rotate.swap
  simp only [List.count_cons, List.count_nil]
  ac_rfl

end Fans

/-- Around every vertex of a ring of three or more points there is a closed fan of six
triangles. -/
theorem exists_fan {n v : Nat} (hn : 3 ≤ n) (hv : v < 4 * n) :
    ∃ rim : List Nat, rim.length = 6 ∧ IsFan v rim (around (triangles n) v) := by
  obtain ⟨i, k, h⟩ := exists_consecutive (j := v / 4) hn (by omega)
  have hperm := (around_triangles h rfl).symm
  rcases vertex_cases v with hslot | hslot | hslot | hslot
  · have hfan := isFan_outerBottom h.i_ne_j h.j_ne_k h.i_ne_k
    rw [← hslot] at hfan
    exact ⟨_, rfl, hfan.of_perm hperm⟩
  · have hfan := isFan_outerTop h.i_ne_j h.j_ne_k h.i_ne_k
    rw [← hslot] at hfan
    exact ⟨_, rfl, hfan.of_perm hperm⟩
  · have hfan := isFan_innerBottom h.i_ne_j h.j_ne_k h.i_ne_k
    rw [← hslot] at hfan
    exact ⟨_, rfl, hfan.of_perm hperm⟩
  · have hfan := isFan_innerTop h.i_ne_j h.j_ne_k h.i_ne_k
    rw [← hslot] at hfan
    exact ⟨_, rfl, hfan.of_perm hperm⟩

/-- The corners of the triangles of a ring are vertices of the ring. -/
theorem corner_lt {n : Nat} {t : Triangle} (ht : t ∈ triangles n) {v : Nat} (hv : v ∈ t.corners) :
    v < 4 * n := by
  obtain ⟨i, hi, hedge⟩ := List.mem_flatMap.1 ht
  have hin : i < n := List.mem_range.1 hi
  have hnext : (i + 1) % n < n := Nat.mod_lt _ (by omega)
  rcases point_of_corner hedge hv with h | h <;> omega

/-- The triangles of a ring of three or more points are a closed surface. -/
theorem isClosed_triangles {n : Nat} (hn : 3 ≤ n) : IsClosed (4 * n) (triangles n) where
  nodup := by
    intro t ht
    obtain ⟨i, hi, hedge⟩ := List.mem_flatMap.1 ht
    obtain ⟨_, _, h⟩ := exists_consecutive hn (List.mem_range.1 hi)
    refine nodup_corners ?_ hedge
    rw [h.next_j]
    exact h.j_ne_k
  corner_lt := fun t ht v hv => corner_lt ht hv
  exists_fan := by
    intro v hv
    obtain ⟨rim, _, hfan⟩ := exists_fan hn hv
    exact ⟨rim, hfan⟩

/-! ## The mesh of a shell -/

@[simp] theorem vertexCount_mesh (ring : List Point) (height thickness : Float) :
    (mesh ring height thickness).vertexCount = 4 * ring.length := by
  have hwalls : (positions ring height thickness).length = 4 * ring.length := by
    rw [positions, List.length_flatMap]
    simp [wall, Nat.mul_comm]
  exact hwalls

/-- If extruding returns, it returns the mesh of the ring, or the empty mesh for a ring of too few
points. -/
theorem extrude_eq_ok {ε : Type} {ring : List Point} {height thickness : Float} {p : Policy}
    {m : Mesh} (hrun : ((extrude (ε := ε) ring height thickness).run p).result = .ok m) :
    m = if ring.length < 3 then .empty else mesh ring height thickness := by
  rw [extrude] at hrun
  split at hrun
  · rename_i hfew
    obtain ⟨_, _, hmesh⟩ := Report.result_bind_eq_ok_iff.1 hrun
    rw [if_pos hfew]
    exact (Report.result_pure_eq_ok_iff.1 hmesh).symm
  · rename_i hmany
    obtain ⟨_, _, hmesh⟩ := Report.result_bind_eq_ok_iff.1 hrun
    rw [if_neg hmany]
    exact (Report.result_pure_eq_ok_iff.1 hmesh).symm

/-- Points on the origin do not keep a run from going on, unless a policy promotes their warning. -/
theorem result_reportOrigins {ε : Type} {p : Policy} (h : p.stops .originPoint = false) (i : Nat)
    (ring : List Point) : ((reportOrigins (ε := ε) i ring).run p).result = .ok () := by
  induction ring generalizing i with
  | nil => rfl
  | cons q rest ih =>
    rw [reportOrigins]
    split
    · exact Report.result_bind_eq_ok_iff.2 ⟨(), Report.result_warn_eq_ok_iff.2 h, ih (i + 1)⟩
    · exact ih (i + 1)

/-- Over three or more points, extruding gives the mesh of the ring unless a policy promotes the
warning of points on the origin. -/
theorem result_extrude {ε : Type} {ring : List Point} {p : Policy} (hring : 3 ≤ ring.length)
    (h : p.stops .originPoint = false) (height thickness : Float) :
    ((extrude (ε := ε) ring height thickness).run p).result =
      .ok (mesh ring height thickness) := by
  rw [extrude, if_neg (by omega)]
  exact Report.result_bind_eq_ok_iff.2 ⟨(), result_reportOrigins h 0 ring, rfl⟩

/-- Whatever the points of a ring, the height and the thickness: if extruding returns, the flat list
of corners of the mesh is a closed surface of Euler characteristic zero.  For `n` points it has `8n`
triangles, each with three different corners, and `12n` edges, each with exactly two triangles, and
around every one of the `4n` vertices there are exactly six triangles in a single closed fan. -/
theorem extrude_closed_surface {ε : Type} {ring : List Point} {height thickness : Float}
    {p : Policy} {m : Mesh} (hring : 3 ≤ ring.length)
    (hrun : ((extrude (ε := ε) ring height thickness).run p).result = .ok m) :
    ∃ ts, Triangle.ofCorners? m.indices = some ts ∧
      m.vertexCount = 4 * ring.length ∧
      ts.length = 8 * ring.length ∧
      (∀ t ∈ ts, t.corners.Nodup ∧ ∀ v ∈ t.corners, v < m.vertexCount) ∧
      (edgeSet ts).card = 12 * ring.length ∧
      (∀ e ∈ edgeSet ts, valence ts e = 2) ∧
      (∀ v < m.vertexCount, (around ts v).length = 6 ∧ ∃ rim, IsFan v rim (around ts v)) ∧
      (m.vertexCount : Int) - (edgeSet ts).card + ts.length = 0 := by
  have hmesh := extrude_eq_ok hrun
  rw [if_neg (by omega)] at hmesh
  subst hmesh
  have hclosed := isClosed_triangles hring
  have hlength := length_triangles ring.length
  have hedges := hclosed.two_mul_card_edgeSet
  rw [vertexCount_mesh]
  refine ⟨triangles ring.length, Triangle.ofCorners?_flatMap _, rfl, hlength, ?_, by omega, ?_, ?_,
    by omega⟩
  · intro t ht
    exact ⟨hclosed.nodup t ht, hclosed.corner_lt t ht⟩
  · intro e he
    exact hclosed.valence_eq_two he
  · intro v hv
    obtain ⟨rim, hsix, hfan⟩ := exists_fan hring hv
    exact ⟨hfan.length_eq.trans hsix, rim, hfan⟩

/-- The surface over the smallest ring, with a point on the origin and without a wall. -/
theorem extrude_closed_surface_smallest :
    let ring : List Point := [⟨0.0, 0.0⟩, ⟨1.0, 0.0⟩, ⟨0.0, 1.0⟩]
    let m := mesh ring 4.0 0.0
    3 ≤ ring.length ∧
      ((extrude (ε := Empty) ring 4.0 0.0).run ⟨["W01"], ["W03"]⟩).result = .ok m ∧
      ∃ ts, Triangle.ofCorners? m.indices = some ts ∧ ts.length = 24 ∧ (edgeSet ts).card = 36 ∧
        ∀ e ∈ edgeSet ts, valence ts e = 2 := by
  intro ring m
  have hring : 3 ≤ ring.length := by decide
  have hrun : ((extrude (ε := Empty) ring 4.0 0.0).run ⟨["W01"], ["W03"]⟩).result = .ok m :=
    result_extrude hring (by decide) 4.0 0.0
  obtain ⟨ts, hts, _, hlength, _, hcard, hvalence, _⟩ := extrude_closed_surface hring hrun
  exact ⟨hring, hrun, ts, hts, hlength, hcard, hvalence⟩

end Colonnade.Shell
