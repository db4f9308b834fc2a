import Colonnade.Proofs.Shape.Column
import Colonnade.Proofs.Shape.Winding

/-!
# The tube of a column

The triangles of a column form a strip: the last vertex of each ring stands where the first one
does, but is another vertex.  Taking the two for one (`weld`) closes the strip to a tube.  What was
the side of the strip from vertex `i` to vertex `i + 1` is then the panel of a ring edge, and the
panels of a ring of `n` vertices are all there is (`welded_eq_ringOf`).

So the sides of the tube are known (`mem_sides_welded_iff`): up and down between the rings, along
both diagonals, and once around each ring.  No side occurs twice, and all but those around the rings
occur in both directions: this is what `IsTube` says, and `isTube_welded` proves.
-/

namespace Colonnade.Column

open Surface

/-! ## Welding the seam -/

/-- The vertex of the top ring above vertex `i` of the bottom ring. -/
def above (n i : Nat) : Nat := i + (n + 1)

/-- The name of a vertex when the last vertex of each ring is taken for the first one. -/
def weld (n v : Nat) : Nat :=
  if v = n then 0 else if v = above n n then above n 0 else v

/-- The two triangles between vertices `i` and `j` of the bottom ring. -/
def panel (n i j : Nat) : List Triangle := [⟨i, above n i, j⟩, ⟨j, above n i, above n j⟩]

/-- The triangles of a column with its seam welded. -/
def welded (n : Nat) : List Triangle := (triangles n).map (Triangle.rename (weld n))

theorem weld_of_lt {n i : Nat} (hi : i < n) : weld n i = i ∧ weld n (above n i) = above n i := by
  unfold weld above
  constructor
  · rw [if_neg (by omega), if_neg (by omega)]
  · rw [if_neg (by omega), if_neg (by omega)]

theorem weld_succ {n i : Nat} (hi : i < n) :
    weld n (i + 1) = (i + 1) % n ∧ weld n (above n (i + 1)) = above n ((i + 1) % n) := by
  rw [Shell.next_eq hi]
  split
  · rename_i hlast
    rw [hlast, weld, weld, if_pos rfl, if_neg (by unfold above; omega), if_pos rfl]
    exact ⟨rfl, rfl⟩
  · exact weld_of_lt (by omega)

/-- With the seam welded, the triangles of a column are the panels of its ring edges. -/
theorem welded_eq_ringOf (n : Nat) : welded n = Shell.ringOf (panel n) n := by
  rw [welded, triangles, List.map_flatMap, Shell.ringOf]
  refine List.flatMap_congr fun i hi => ?_
  obtain ⟨hbottom, htop⟩ := weld_of_lt (List.mem_range.1 hi)
  obtain ⟨hnext, hnextTop⟩ := weld_succ (List.mem_range.1 hi)
  simp only [above] at htop hnextTop
  have hcorner : i + (n + 1) + 1 = i + 1 + (n + 1) := by omega
  simp only [List.map_cons, List.map_nil, Triangle.rename, hcorner, hbottom, htop, hnext, hnextTop]
  rfl

/-! ## The sides of the tube -/

/-- The sides of a panel: up at its first vertex, along the diagonal, back along the bottom, back
along the diagonal, along the top, and down at its last vertex. -/
def panelSides (n i j : Nat) : List (Nat × Nat) := [
  (i, above n i), (above n i, j), (j, i), (j, above n i), (above n i, above n j), (above n j, j)]

theorem sides_welded (n : Nat) : sides (welded n) = Shell.ringOf (panelSides n) n := by
  rw [welded_eq_ringOf, Shell.sides_ringOf]
  rfl

/-- No side of a tube occurs twice. -/
theorem isOriented_welded {n : Nat} (hn : 2 ≤ n) : IsOriented (welded n) := by
  rw [IsOriented, sides_welded, Shell.ringOf, List.nodup_flatMap]
  constructor
  · intro i hi
    have hnext := next_cases (List.mem_range.1 hi)
    generalize (i + 1) % n = j at hnext
    simp only [panelSides, above, List.nodup_cons, List.mem_cons, List.not_mem_nil, or_false,
      Prod.mk.injEq, not_false_eq_true, List.nodup_nil, and_true]
    omega
  · refine List.nodup_range.imp_of_mem fun {a b} ha hb hab => ?_
    have hnextA := next_cases (List.mem_range.1 ha)
    have hnextB := next_cases (List.mem_range.1 hb)
    rintro ⟨u, v⟩ (hA : _ ∈ panelSides n a ((a + 1) % n)) (hB : _ ∈ panelSides n b ((b + 1) % n))
    generalize (a + 1) % n = i at hnextA hA
    generalize (b + 1) % n = j at hnextB hB
    simp only [panelSides, above, List.mem_cons, List.not_mem_nil, or_false, Prod.mk.injEq] at hA hB
    omega

/-- No triangle of a tube meets a vertex twice. -/
theorem nodup_corners_welded {n : Nat} (hn : 2 ≤ n) : ∀ t ∈ welded n, t.corners.Nodup := by
  intro t ht
  rw [welded_eq_ringOf] at ht
  obtain ⟨i, hi, hpanel⟩ := List.mem_flatMap.1 ht
  have hnext := next_cases (List.mem_range.1 hi)
  generalize (i + 1) % n = j at hnext hpanel
  simp only [panel, List.mem_cons, List.not_mem_nil, or_false] at hpanel
  rcases hpanel with rfl | rfl <;>
    simp only [Triangle.corners, above, List.nodup_cons, List.mem_cons, List.not_mem_nil, or_false,
      not_false_eq_true, List.nodup_nil, and_true] <;>
    omega

/-! ## The rims -/

/-- The vertices of the bottom ring, the seam once. -/
def bottomRing (n : Nat) : List Nat := List.range n

/-- The vertices of the top ring, the seam once. -/
def topRing (n : Nat) : List Nat := (List.range n).map (above n)

theorem mem_arcs_bottomRing_iff {n u v : Nat} :
    (u, v) ∈ arcs (bottomRing n) ↔ u < n ∧ v = (u + 1) % n := by
  simp only [List.mem_iff_getElem, bottomRing, arcs, List.length_zip, List.length_rotate,
    List.length_range, Nat.min_self, List.getElem_zip, List.getElem_range, List.getElem_rotate,
    Prod.mk.injEq]
  constructor
  · rintro ⟨i, hi, rfl, rfl⟩
    exact ⟨hi, rfl⟩
  · rintro ⟨hu, rfl⟩
    exact ⟨u, hu, rfl, rfl⟩

theorem mem_arcs_topRing_iff {n u v : Nat} :
    (u, v) ∈ arcs (topRing n) ↔ ∃ i < n, u = above n i ∧ v = above n ((i + 1) % n) := by
  have htop : topRing n = (bottomRing n).map (above n) := rfl
  rw [htop, arcs_map]
  simp only [List.mem_map, Prod.exists, mem_arcs_bottomRing_iff, Prod.map_apply, Prod.mk.injEq]
  constructor
  · rintro ⟨i, j, ⟨hi, rfl⟩, rfl, rfl⟩
    exact ⟨i, hi, rfl, rfl⟩
  · rintro ⟨i, hi, rfl, rfl⟩
    exact ⟨i, _, ⟨hi, rfl⟩, rfl, rfl⟩

/-! ## All sides -/

/-- The steps from every vertex of the bottom ring to the one above it, and from there along the
diagonal to the next vertex of the bottom ring. -/
def crossings (n : Nat) : List (Nat × Nat) :=
  (List.range n).flatMap fun i => [(i, above n i), (above n i, (i + 1) % n)]

theorem mem_crossings_iff {n u v : Nat} :
    (u, v) ∈ crossings n ↔ u < n ∧ v = above n u ∨ ∃ i < n, u = above n i ∧ v = (i + 1) % n := by
  simp only [crossings, List.mem_flatMap, List.mem_range, List.mem_cons, List.not_mem_nil,
    or_false, Prod.mk.injEq]
  constructor
  · rintro ⟨i, hi, ⟨rfl, rfl⟩ | h⟩
    · exact .inl ⟨hi, rfl⟩
    · exact .inr ⟨i, hi, h⟩
  · rintro (⟨hu, rfl⟩ | ⟨i, hi, h⟩)
    · exact ⟨u, hu, .inl ⟨rfl, rfl⟩⟩
    · exact ⟨i, hi, .inr h⟩

/-- The sides of a tube go to and fro between the rings, back around the bottom ring, and once
around the top ring. -/
theorem mem_sides_welded_iff {n : Nat} (hn : 3 ≤ n) {u v : Nat} :
    (u, v) ∈ sides (welded n) ↔
      ((u, v) ∈ crossings n ∨ (v, u) ∈ crossings n) ∨
        (v, u) ∈ arcs (bottomRing n) ∨ (u, v) ∈ arcs (topRing n) := by
  rw [sides_welded, Shell.ringOf, mem_arcs_bottomRing_iff, mem_arcs_topRing_iff, mem_crossings_iff,
    mem_crossings_iff]
  simp only [List.mem_flatMap, List.mem_range, panelSides, List.mem_cons, List.not_mem_nil,
    or_false, Prod.mk.injEq]
  constructor
  · rintro ⟨i, hi, h⟩
    rcases h with ⟨rfl, rfl⟩ | h | ⟨rfl, rfl⟩ | ⟨rfl, rfl⟩ | h | ⟨rfl, rfl⟩
    · exact .inl (.inl (.inl ⟨hi, rfl⟩))
    · exact .inl (.inl (.inr ⟨i, hi, h⟩))
    · exact .inr (.inl ⟨hi, rfl⟩)
    · exact .inl (.inr (.inr ⟨i, hi, rfl, rfl⟩))
    · exact .inr (.inr ⟨i, hi, h⟩)
    · exact .inl (.inr (.inl ⟨Nat.mod_lt _ (by omega), rfl⟩))
  · rintro (((⟨hu, rfl⟩ | ⟨i, hi, h⟩) | (⟨hv, rfl⟩ | ⟨i, hi, rfl, rfl⟩)) | ⟨hv, rfl⟩ | ⟨i, hi, h⟩)
    · exact ⟨u, hu, .inl ⟨rfl, rfl⟩⟩
    · exact ⟨i, hi, .inr (.inl h)⟩
    · -- The side down at a vertex belongs to the panel before it.
      obtain ⟨i, _, h⟩ := Shell.exists_consecutive hn hv
      refine ⟨i, h.i_lt, ?_⟩
      rw [h.next_i]
      simp
    · exact ⟨i, hi, .inr (.inr (.inr (.inl ⟨rfl, rfl⟩)))⟩
    · exact ⟨v, hv, .inr (.inr (.inl ⟨rfl, rfl⟩))⟩
    · exact ⟨i, hi, .inr (.inr (.inr (.inr (.inl h))))⟩

theorem lt_of_mem_arcs_bottomRing {n u v : Nat} (h : (u, v) ∈ arcs (bottomRing n)) :
    u < n ∧ v < n := by
  obtain ⟨hu, rfl⟩ := mem_arcs_bottomRing_iff.1 h
  exact ⟨hu, Nat.mod_lt _ (by omega)⟩

theorem lt_of_mem_arcs_topRing {n u v : Nat} (h : (u, v) ∈ arcs (topRing n)) : n < u ∧ n < v := by
  obtain ⟨i, _, rfl, rfl⟩ := mem_arcs_topRing_iff.1 h
  unfold above
  omega

/-- A crossing has one end on either ring. -/
theorem lt_of_mem_crossings {n u v : Nat} (h : (u, v) ∈ crossings n) :
    u < n ∧ n < v ∨ v < n ∧ n < u := by
  rcases mem_crossings_iff.1 h with ⟨hu, rfl⟩ | ⟨i, hi, rfl, rfl⟩
  · exact .inl ⟨hu, by unfold above; omega⟩
  · exact .inr ⟨Nat.mod_lt _ (by omega), by unfold above; omega⟩

theorem nodup_bottomRing (n : Nat) : (bottomRing n).Nodup := List.nodup_range

theorem nodup_topRing (n : Nat) : (topRing n).Nodup :=
  List.nodup_range.map fun i j hij => by
    unfold above at hij
    omega

@[simp] theorem length_bottomRing (n : Nat) : (bottomRing n).length = n := List.length_range

@[simp] theorem length_topRing (n : Nat) : (topRing n).length = n := by
  rw [topRing, List.length_map, List.length_range]

/-- The two rings of a tube have `n` edges each, all different. -/
theorem nodup_rims {n : Nat} (hn : 3 ≤ n) :
    (loopEdges (bottomRing n) ++ loopEdges (topRing n)).Nodup := by
  refine (nodup_loopEdges (nodup_bottomRing n) (by simpa)).append
    (nodup_loopEdges (nodup_topRing n) (by simpa)) fun e hbottom htop => ?_
  induction e using Sym2.ind with
  | _ u v =>
    have hlow : u < n := by
      rcases mem_loopEdges_iff.1 hbottom with h | h
      · exact (lt_of_mem_arcs_bottomRing h).1
      · exact (lt_of_mem_arcs_bottomRing h).2
    have hhigh : n < u := by
      rcases mem_loopEdges_iff.1 htop with h | h
      · exact (lt_of_mem_arcs_topRing h).1
      · exact (lt_of_mem_arcs_topRing h).2
    omega

/-- The ends of a ring edge are different. -/
theorem ne_of_mem_rims {n u v : Nat} (hn : 3 ≤ n)
    (h : s(u, v) ∈ loopEdges (bottomRing n) ∨ s(u, v) ∈ loopEdges (topRing n)) : u ≠ v := by
  rw [mem_loopEdges_iff, mem_loopEdges_iff] at h
  have hbottom {a b : Nat} : (a, b) ∈ arcs (bottomRing n) → a ≠ b :=
    fst_ne_snd_of_mem_arcs (nodup_bottomRing n) (by rw [length_bottomRing]; omega)
  have htop {a b : Nat} : (a, b) ∈ arcs (topRing n) → a ≠ b :=
    fst_ne_snd_of_mem_arcs (nodup_topRing n) (by rw [length_topRing]; omega)
  rcases h with (h | h) | (h | h)
  · exact hbottom h
  · exact (hbottom h).symm
  · exact htop h
  · exact (htop h).symm

/-! ## The tube -/

/-- Triangles over two rings of `n` vertices form an open tube that is oriented consistently.  No
side occurs twice.  The edges between the rings have two triangles, which run them in opposite
directions; those with one triangle are the edges around the two rings; and there are no others. -/
structure IsTube (n : Nat) (ts : List Triangle) : Prop where
  nodup : ∀ t ∈ ts, t.corners.Nodup
  oriented : IsOriented ts
  crossed : ∀ step ∈ crossings n,
    step ∈ sides ts ∧ step.swap ∈ sides ts ∧ valence ts s(step.1, step.2) = 2
  valence_eq_one_iff : ∀ e, valence ts e = 1 ↔
    e ∈ loopEdges (bottomRing n) ∨ e ∈ loopEdges (topRing n)
  edge_cases : ∀ e ∈ edgeSet ts,
    (∃ step ∈ crossings n, e = s(step.1, step.2)) ∨ valence ts e = 1

/-- A crossing is not an edge around a ring: it leads from one ring to the other. -/
theorem not_rim_of_crossing {n u v : Nat} (h : (u, v) ∈ crossings n ∨ (v, u) ∈ crossings n) :
    s(u, v) ∉ loopEdges (bottomRing n) ∧ s(u, v) ∉ loopEdges (topRing n) := by
  have hends : u < n ∧ n < v ∨ v < n ∧ n < u := by
    rcases h with h | h
    · exact lt_of_mem_crossings h
    · exact (lt_of_mem_crossings h).symm
  rw [mem_loopEdges_iff, mem_loopEdges_iff]
  constructor
  · rintro (harc | harc) <;> have := lt_of_mem_arcs_bottomRing harc <;> omega
  · rintro (harc | harc) <;> have := lt_of_mem_arcs_topRing harc <;> omega

/-- The edges with one triangle only are those around the rings. -/
theorem valence_welded_eq_one_iff {n : Nat} (hn : 3 ≤ n) (e : Sym2 Nat) :
    valence (welded n) e = 1 ↔ e ∈ loopEdges (bottomRing n) ∨ e ∈ loopEdges (topRing n) := by
  induction e using Sym2.ind with
  | _ u v =>
    by_cases huv : u = v
    · constructor
      · intro hone
        obtain ⟨t, ht, hedge⟩ := List.countP_pos_iff.1 (by rw [← valence, hone]; exact Nat.one_pos)
        exact absurd huv
          (Triangle.ne_of_mem_edges (nodup_corners_welded (by omega) t ht)
            (of_decide_eq_true hedge))
      · intro hrim
        exact absurd huv (ne_of_mem_rims hn hrim)
    · have hcross := not_rim_of_crossing (n := n) (u := u) (v := v)
      have hbottom := swap_not_mem_arcs (nodup_bottomRing n) (by simpa) (u := u) (v := v)
      have htop := swap_not_mem_arcs (nodup_topRing n) (by simpa) (u := u) (v := v)
      have hapart : s(u, v) ∈ loopEdges (bottomRing n) → s(u, v) ∉ loopEdges (topRing n) :=
        fun hb ht => (List.nodup_append'.1 (nodup_rims hn)).2.2 hb ht
      rw [(isOriented_welded (by omega)).valence_eq_one_iff (nodup_corners_welded (by omega)) huv,
        mem_sides_welded_iff hn, mem_sides_welded_iff hn]
      rw [mem_loopEdges_iff, mem_loopEdges_iff] at hcross hapart ⊢
      -- Crossings are run both ways, and an edge of a ring, which belongs to one ring only, one way.
      grind

/-- The edges between the rings have two triangles. -/
theorem valence_welded_eq_two {n : Nat} (hn : 3 ≤ n) {u v : Nat} (h : (u, v) ∈ crossings n) :
    (u, v) ∈ sides (welded n) ∧ (v, u) ∈ sides (welded n) ∧ valence (welded n) s(u, v) = 2 := by
  have hne : u ≠ v := by
    have hends := lt_of_mem_crossings h
    omega
  have hthere : (u, v) ∈ sides (welded n) := (mem_sides_welded_iff hn).2 (.inl (.inl h))
  have hback : (v, u) ∈ sides (welded n) := (mem_sides_welded_iff hn).2 (.inl (.inr h))
  have hvalence := ((isOriented_welded (by omega)).valence_eq_two_iff
    (nodup_corners_welded (by omega)) hne).2 ⟨hthere, hback⟩
  exact ⟨hthere, hback, hvalence⟩

theorem edge_welded_cases {n : Nat} (hn : 3 ≤ n) {e : Sym2 Nat} (he : e ∈ edgeSet (welded n)) :
    (∃ step ∈ crossings n, e = s(step.1, step.2)) ∨ valence (welded n) e = 1 := by
  rw [edgeSet, List.mem_toFinset, flatMap_edges] at he
  obtain ⟨⟨u, v⟩, hside, rfl⟩ := List.mem_map.1 he
  rw [valence_welded_eq_one_iff hn, mem_loopEdges_iff, mem_loopEdges_iff]
  rcases (mem_sides_welded_iff hn).1 hside with (h | h) | h | h
  · exact .inl ⟨_, h, rfl⟩
  · exact .inl ⟨_, h, Sym2.eq_swap⟩
  · exact .inr (.inl (.inr h))
  · exact .inr (.inr (.inl h))

/-- A column with its seam welded is a tube. -/
theorem isTube_welded {n : Nat} (hn : 3 ≤ n) : IsTube n (welded n) where
  nodup := nodup_corners_welded (by omega)
  oriented := isOriented_welded (by omega)
  crossed := fun _ hstep => valence_welded_eq_two hn hstep
  valence_eq_one_iff := valence_welded_eq_one_iff hn
  edge_cases := fun _ he => edge_welded_cases hn he

/-! ## The column -/

/-- The rings of a column stand above each other, at the bottom and at its height. -/
theorem positions_mesh {ring : List Point} {height : Float} {n i : Nat}
    (hring : ring.length = n + 1) {q : Point} (hq : ring[i]? = some q) :
    (mesh ring height n).positions[i]? = some ⟨q.x, 0.0, q.y⟩ ∧
      (mesh ring height n).positions[above n i]? = some ⟨q.x, height, q.y⟩ := by
  have hi : i < ring.length := (List.getElem?_eq_some_iff.1 hq).1
  rw [mesh, above]
  simp only [List.getElem?_toArray]
  constructor
  · rw [List.getElem?_append_left (by rwa [List.length_map]), List.getElem?_map, hq]
    rfl
  · rw [List.getElem?_append_right (by rw [List.length_map]; omega), List.length_map,
      show i + (n + 1) - ring.length = i by omega, List.getElem?_map, hq]
    rfl

/-- For whatever dimensions a column is built: its flat list of corners is a list of triangles that
is oriented consistently.  It stands on two rings of `n + 1` places each, the bottom one and the top
one, and with the last vertex of each ring taken for the first, the triangles are an open tube
between the two rings.  The rims of the tube are two closed loops of `n` edges each, all
different. -/
theorem build_open_tube {d : Dimensions} {m : Mesh} (h : build d = .ok m) :
    ∃ n : Nat, d.segments = n ∧ 3 ≤ n ∧
      (∀ i ≤ n, ∃ q, ringPoint d i = .ok q ∧ m.positions[i]? = some ⟨q.x, 0.0, q.y⟩ ∧
        m.positions[above n i]? = some ⟨q.x, d.height, q.y⟩) ∧
      ∃ ts, Triangle.ofCorners? m.indices = some ts ∧ IsOriented ts ∧
        IsTube n (ts.map (Triangle.rename (weld n))) ∧
        (loopEdges (bottomRing n) ++ loopEdges (topRing n)).Nodup ∧
        (loopEdges (bottomRing n)).length = n ∧ (loopEdges (topRing n)).length = n := by
  obtain ⟨henough, ring, hring, rfl, -⟩ := build_eq_ok_iff.1 h
  have hn : 3 ≤ d.segments.toNat := by omega
  refine ⟨d.segments.toNat, by omega, hn, fun i hi => ?_, triangles _,
    Triangle.ofCorners?_flatMap _, (isTube_welded hn).oriented.of_rename, isTube_welded hn,
    nodup_rims hn, by simp, by simp⟩
  have hlength := length_of_ringPoints hring
  have hlt : i < ring.length := by omega
  have hpoint := List.Forall₂.get hring (i := i) (by simpa using by omega) hlt
  exact ⟨ring[i], by simpa using hpoint, positions_mesh hlength (List.getElem?_eq_getElem hlt)⟩

/-- A column of three sides with eight flutes. -/
theorem build_open_tube_threeSided :
    ∃ m, build ⟨2.0, 1.0, 3, 8, 0.1⟩ = .ok m ∧
      ∃ ts, Triangle.ofCorners? m.indices = some ts ∧ IsOriented ts ∧
        IsTube 3 (ts.map (Triangle.rename (weld 3))) := by
  obtain ⟨m, hm⟩ : ∃ m, build ⟨2.0, 1.0, 3, 8, 0.1⟩ = .ok m := ⟨_, by rfl⟩
  obtain ⟨n, hsegments, _, _, ts, hts, horiented, htube, _⟩ := build_open_tube hm
  have hthree : n = 3 := Int.ofNat_inj.1 hsegments.symm
  subst hthree
  exact ⟨m, hm, ts, hts, horiented, htube⟩

end Colonnade.Column
