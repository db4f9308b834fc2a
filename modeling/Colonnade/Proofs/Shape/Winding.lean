import Colonnade.Proofs.Mesh.Orientation
import Colonnade.Proofs.Shape.Shell

/-!
# The orientation of a shell

The four triangles of a ring edge on its walls and the four on its caps are each oriented
consistently, also with those of the next ring edge and at the seam.  But walls and caps do not fit
together: the four sides of a ring edge where a cap meets a wall, `rimSides`, are run by both in the
same direction (`extrude_runs_rims_twice`).  Turned over, the caps fit (`isOriented_turned_caps`).

Every side is at some ring point, and what happens at a ring point can be seen on three points in a
row.  Which three they are makes no difference, as long as they are different (`place`), so it is
enough to look at the points 0, 1 and 2: `side_cases`.
-/

namespace Colonnade.Shell

open Surface

/-! ## Walls and caps -/

/-- The triangles of a ring edge on the outer and the inner wall. -/
def wallTriangles (i j : Nat) : List Triangle := (edgeTriangles i j).take 4

/-- The triangles of a ring edge at the bottom and at the top. -/
def capTriangles (i j : Nat) : List Triangle := (edgeTriangles i j).drop 4

/-- The walls of a ring. -/
def walls (n : Nat) : List Triangle := ringOf wallTriangles n

/-- The caps of a ring. -/
def caps (n : Nat) : List Triangle := ringOf capTriangles n

/-- The sides of a ring edge where a cap meets a wall. -/
def rimSides (i j : Nat) : List (Nat × Nat) := [
  (outerBottom i, outerBottom j), (innerBottom j, innerBottom i),
  (outerTop j, outerTop i), (innerTop i, innerTop j)]

/-- The rims of a ring. -/
def rims (n : Nat) : List (Nat × Nat) := ringOf rimSides n

/-- The triangles of a ring are its walls and its caps. -/
theorem triangles_perm (n : Nat) : (triangles n).Perm (walls n ++ caps n) := by
  have hsplit : edgeTriangles = fun i j => wallTriangles i j ++ capTriangles i j := by
    funext i j
    exact (List.take_append_drop 4 _).symm
  rw [triangles, hsplit]
  exact (List.flatMap_append_perm _ _ _).symm

theorem sides_ringOf (cells : Nat → Nat → List Triangle) (n : Nat) :
    sides (ringOf cells n) = ringOf (fun i j => sides (cells i j)) n :=
  List.flatMap_assoc

/-! ## Three points in a row -/

/-- The vertices of the points 0, 1 and 2, put at other points. -/
def place (i j k v : Nat) : Nat :=
  4 * (if v / 4 = 0 then i else if v / 4 = 1 then j else k) + v % 4

/-- A side put at other points. -/
def placeSide (i j k : Nat) : Nat × Nat → Nat × Nat := Prod.map (place i j k) (place i j k)

theorem place_of_lt (i j k : Nat) {c : Nat} (hc : c < 4) :
    place i j k c = 4 * i + c ∧ place i j k (4 + c) = 4 * j + c ∧
      place i j k (8 + c) = 4 * k + c := by
  unfold place
  rw [if_pos (by omega), if_neg (by omega), if_pos (by omega), if_neg (by omega),
    if_neg (by omega)]
  omega

/-- Every vertex of the three points is put there. -/
theorem exists_place {i j k v : Nat} (hv : v / 4 = i ∨ v / 4 = j ∨ v / 4 = k) :
    ∃ b < 12, place i j k b = v := by
  obtain ⟨hi, hj, hk⟩ := place_of_lt i j k (Nat.mod_lt v (show 0 < 4 by decide))
  rcases hv with h | h | h
  · exact ⟨v % 4, by omega, by omega⟩
  · exact ⟨4 + v % 4, by omega, by omega⟩
  · exact ⟨8 + v % 4, by omega, by omega⟩

/-- Different points keep vertices apart. -/
theorem place_inj {i j k : Nat} (hij : i ≠ j) (hjk : j ≠ k) (hik : i ≠ k) {a b : Nat}
    (ha : a < 12) (hb : b < 12) (h : place i j k a = place i j k b) : a = b := by
  unfold place at h
  split_ifs at h <;> omega

/-- The sides of two ring edges in a row from point 0 to point 2. -/
def strip (cells : Nat → Nat → List (Nat × Nat)) : List (Nat × Nat) := cells 0 1 ++ cells 1 2

/-- Sides of ring edges are even if they only join vertices of the two ends of an edge, and are the
same at all points. -/
structure IsEven (cells : Nat → Nat → List (Nat × Nat)) : Prop where
  ends : ∀ i j, ∀ s ∈ cells i j, (s.1 / 4 = i ∨ s.1 / 4 = j) ∧ (s.2 / 4 = i ∨ s.2 / 4 = j)
  placed : ∀ i j k, cells i j ++ cells j k = (strip cells).map (placeSide i j k)

theorem isEven_rimSides : IsEven rimSides where
  ends := by
    intro i j s hs
    simp only [rimSides, List.mem_cons, List.not_mem_nil, or_false] at hs
    rcases hs with rfl | rfl | rfl | rfl <;>
      simp only [outerBottom, outerTop, innerBottom, innerTop] <;> omega
  placed := fun _ _ _ => rfl

theorem ends_of_mem_sides {i j : Nat} {ts : List Triangle} (hts : ts ⊆ edgeTriangles i j)
    {s : Nat × Nat} (hs : s ∈ sides ts) :
    (s.1 / 4 = i ∨ s.1 / 4 = j) ∧ (s.2 / 4 = i ∨ s.2 / 4 = j) := by
  obtain ⟨t, ht, hside⟩ := List.mem_flatMap.1 hs
  have hcorner {v : Nat} (hv : v ∈ t.corners) := point_of_corner (hts ht) hv
  simp only [Triangle.sides, List.mem_cons, List.not_mem_nil, or_false] at hside
  rcases hside with rfl | rfl | rfl <;>
    exact ⟨hcorner (by simp [Triangle.corners]), hcorner (by simp [Triangle.corners])⟩

theorem isEven_wallSides : IsEven fun i j => sides (wallTriangles i j) where
  ends := fun _ _ _ => ends_of_mem_sides (List.take_subset _ _)
  placed := fun _ _ _ => rfl

theorem isEven_capSides : IsEven fun i j => sides (capTriangles i j) where
  ends := fun _ _ _ => ends_of_mem_sides (List.drop_subset _ _)
  placed := fun _ _ _ => rfl

/-- At a ring point, the sides of a ring are those of the edge to the point and the edge from it. -/
theorem IsEven.count_ringOf {cells : Nat → Nat → List (Nat × Nat)} (hcells : IsEven cells)
    {n i j k : Nat} (h : Consecutive n i j k) {s : Nat × Nat} (hs : s.1 / 4 = j ∨ s.2 / 4 = j) :
    (ringOf cells n).count s = (cells i j ++ cells j k).count s := by
  rw [List.count_eq_length_filter, List.count_eq_length_filter]
  refine (filter_ringOf h fun a b ha hb => ?_).length_eq
  rw [List.filter_eq_nil_iff]
  intro x hx heq
  have hends := hcells.ends a b x hx
  rw [eq_of_beq heq] at hends
  omega

/-- A side with an end off the ring is not a side of the ring. -/
theorem IsEven.lt_of_mem_ringOf {cells : Nat → Nat → List (Nat × Nat)} (hcells : IsEven cells)
    {n : Nat} {s : Nat × Nat} (hs : s ∈ ringOf cells n) : s.1 / 4 < n ∧ s.2 / 4 < n := by
  obtain ⟨i, hi, hcell⟩ := List.mem_flatMap.1 hs
  have hin : i < n := List.mem_range.1 hi
  have hnext : (i + 1) % n < n := Nat.mod_lt _ (by omega)
  have hends := hcells.ends _ _ s hcell
  omega

/-- Two edges in a row do not reach a fourth point. -/
theorem IsEven.count_eq_zero {cells : Nat → Nat → List (Nat × Nat)} (hcells : IsEven cells)
    {i j k : Nat} {s : Nat × Nat}
    (hs : ¬(s.1 / 4 = i ∨ s.1 / 4 = j ∨ s.1 / 4 = k) ∨ ¬(s.2 / 4 = i ∨ s.2 / 4 = j ∨ s.2 / 4 = k)) :
    (cells i j ++ cells j k).count s = 0 := by
  refine List.count_eq_zero.2 fun hmem => ?_
  rcases List.mem_append.1 hmem with hmem | hmem
  · have hends := hcells.ends i j s hmem
    omega
  · have hends := hcells.ends j k s hmem
    omega

/-- Different points keep sides apart. -/
theorem IsEven.count_place {cells : Nat → Nat → List (Nat × Nat)} (hcells : IsEven cells)
    {i j k : Nat} (hij : i ≠ j) (hjk : j ≠ k) (hik : i ≠ k) {a b : Nat} (ha : a < 12)
    (hb : b < 12) :
    (cells i j ++ cells j k).count (place i j k a, place i j k b) = (strip cells).count (a, b) := by
  rw [hcells.placed, List.count, List.countP_map, List.count]
  refine List.countP_congr fun s hs => ?_
  have hlt : s.1 < 12 ∧ s.2 < 12 := by
    rcases List.mem_append.1 hs with hs | hs
    · have hends := hcells.ends 0 1 s hs
      omega
    · have hends := hcells.ends 1 2 s hs
      omega
  simp only [Function.comp_apply, beq_iff_eq, placeSide, Prod.ext_iff, Prod.map_fst, Prod.map_snd]
  constructor
  · rintro ⟨hfirst, hsecond⟩
    exact ⟨place_inj hij hjk hik hlt.1 ha hfirst, place_inj hij hjk hik hlt.2 hb hsecond⟩
  · rintro ⟨hfirst, hsecond⟩
    exact ⟨congrArg _ hfirst, congrArg _ hsecond⟩

/-- What there is at a side of a ring is what there is at a side from the middle of three points in
a row, or nothing. -/
theorem side_cases {n : Nat} (hn : 3 ≤ n) (u v : Nat) :
    (∀ cells, IsEven cells →
      (ringOf cells n).count (u, v) = 0 ∧ (ringOf cells n).count (v, u) = 0) ∨
    ∃ a < 12, ∃ b < 12, a / 4 = 1 ∧ ∀ cells, IsEven cells →
      (ringOf cells n).count (u, v) = (strip cells).count (a, b) ∧
        (ringOf cells n).count (v, u) = (strip cells).count (b, a) := by
  by_cases hu : u / 4 < n
  · obtain ⟨i, k, h⟩ := exists_consecutive hn hu
    by_cases hv : v / 4 = i ∨ v / 4 = u / 4 ∨ v / 4 = k
    · obtain ⟨_, hplace, _⟩ :=
        place_of_lt i (u / 4) k (Nat.mod_lt u (show 0 < 4 by decide))
      obtain ⟨b, hb, hv⟩ := exists_place hv
      have hu : place i (u / 4) k (4 + u % 4) = u := by omega
      refine .inr ⟨4 + u % 4, by omega, b, hb, by omega, fun cells hcells => ?_⟩
      have hthere := hcells.count_place h.i_ne_j h.j_ne_k h.i_ne_k (a := 4 + u % 4) (by omega) hb
      have hback := hcells.count_place h.i_ne_j h.j_ne_k h.i_ne_k hb (b := 4 + u % 4) (by omega)
      rw [hu, hv] at hthere hback
      exact ⟨(hcells.count_ringOf h (.inl rfl)).trans hthere,
        (hcells.count_ringOf h (.inr rfl)).trans hback⟩
    · refine .inl fun cells hcells => ?_
      exact ⟨(hcells.count_ringOf h (.inl rfl)).trans (hcells.count_eq_zero (.inr hv)),
        (hcells.count_ringOf h (.inr rfl)).trans (hcells.count_eq_zero (.inl hv))⟩
  · refine .inl fun cells hcells => ⟨?_, ?_⟩
    · exact List.count_eq_zero.2 fun hs => hu (hcells.lt_of_mem_ringOf hs).1
    · exact List.count_eq_zero.2 fun hs => hu (hcells.lt_of_mem_ringOf hs).2

/-! ## Where caps meet walls -/

/-- What walls and caps do at the sides of three points in a row. -/
theorem strip_sides : ∀ a < 12, ∀ b < 12, a / 4 = 1 →
    let walls := strip fun i j => sides (wallTriangles i j)
    let caps := strip fun i j => sides (capTriangles i j)
    walls.count (a, b) ≤ 1 ∧ caps.count (a, b) ≤ 1 ∧
      walls.count (a, b) + caps.count (b, a) ≤ 1 ∧
      (strip rimSides).count (a, b) = min (walls.count (a, b)) (caps.count (a, b)) := by
  decide +kernel

/-- Walls are oriented consistently, caps are, and walls with the caps turned over are.  The rims
are what walls and caps run in the same direction. -/
theorem ring_sides {n : Nat} (hn : 3 ≤ n) (u v : Nat) :
    (sides (walls n)).count (u, v) ≤ 1 ∧ (sides (caps n)).count (u, v) ≤ 1 ∧
      (sides (walls n)).count (u, v) + (sides (caps n)).count (v, u) ≤ 1 ∧
      (rims n).count (u, v) =
        min ((sides (walls n)).count (u, v)) ((sides (caps n)).count (u, v)) := by
  rw [walls, sides_ringOf, caps, sides_ringOf, rims]
  rcases side_cases hn u v with hnone | ⟨a, ha, b, hb, hmiddle, hstrip⟩
  · obtain ⟨hwall, _⟩ := hnone _ isEven_wallSides
    obtain ⟨hcap, hback⟩ := hnone _ isEven_capSides
    obtain ⟨hrim, _⟩ := hnone _ isEven_rimSides
    omega
  · obtain ⟨hwall, _⟩ := hstrip _ isEven_wallSides
    obtain ⟨hcap, hback⟩ := hstrip _ isEven_capSides
    obtain ⟨hrim, _⟩ := hstrip _ isEven_rimSides
    rw [hwall, hcap, hback, hrim]
    exact strip_sides a ha b hb hmiddle

theorem nodup_rims {n : Nat} (hn : 3 ≤ n) : (rims n).Nodup := by
  refine List.nodup_iff_count_le_one.2 fun ⟨u, v⟩ => ?_
  obtain ⟨hwall, _, _, hrim⟩ := ring_sides hn u v
  omega

theorem length_rims (n : Nat) : (rims n).length = 4 * n := by
  rw [rims, ringOf, List.length_flatMap]
  simp [rimSides, Nat.mul_comm]

/-- The shell with its caps turned over is oriented consistently. -/
theorem isOriented_turned_caps {n : Nat} (hn : 3 ≤ n) :
    IsOriented (walls n ++ (caps n).map Triangle.turned) := by
  refine List.nodup_iff_count_le_one.2 fun ⟨u, v⟩ => ?_
  obtain ⟨_, _, hturned, _⟩ := ring_sides hn u v
  rw [sides_append, List.count_append, count_sides_turned]
  exact hturned

/-- Whatever the points of a ring, the height and the thickness: if extruding returns, the flat list
of corners of the mesh is the walls and the caps of the ring.  Every rim is run by a wall and by a
cap in the same direction, and apart from the rims no side is run twice; so with its caps turned
over, but not as it is, the shell is oriented consistently.  For `n` points there are `4n` rims. -/
theorem extrude_runs_rims_twice {ε : Type} {ring : List Point} {height thickness : Float}
    {p : Policy} {m : Mesh} (hring : 3 ≤ ring.length)
    (hrun : ((extrude (ε := ε) ring height thickness).run p).result = .ok m) :
    ∃ ts, Triangle.ofCorners? m.indices = some ts ∧
      ts.Perm (walls ring.length ++ caps ring.length) ∧
      (rims ring.length).Nodup ∧ (rims ring.length).length = 4 * ring.length ∧
      (∀ side ∈ rims ring.length, (sides (walls ring.length)).count side = 1 ∧
        (sides (caps ring.length)).count side = 1 ∧ (sides ts).count side = 2) ∧
      (∀ side ∉ rims ring.length, (sides ts).count side ≤ 1) ∧
      IsOriented (walls ring.length ++ (caps ring.length).map Triangle.turned) := by
  have hmesh := extrude_eq_ok hrun
  rw [if_neg (by omega)] at hmesh
  subst hmesh
  have hperm := triangles_perm ring.length
  have hcount (side : Nat × Nat) : (sides (triangles ring.length)).count side =
      (sides (walls ring.length)).count side + (sides (caps ring.length)).count side := by
    rw [(sides_perm hperm).count_eq, sides_append, List.count_append]
  refine ⟨triangles ring.length, Triangle.ofCorners?_flatMap _, hperm, nodup_rims hring,
    length_rims _, ?_, ?_, isOriented_turned_caps hring⟩
  · rintro ⟨u, v⟩ hrim
    have hpos := List.count_pos_iff.2 hrim
    obtain ⟨hwall, hcap, _, hmin⟩ := ring_sides hring u v
    rw [hcount]
    omega
  · rintro ⟨u, v⟩ hrim
    have hzero := List.count_eq_zero.2 hrim
    obtain ⟨hwall, hcap, _, hmin⟩ := ring_sides hring u v
    rw [hcount]
    omega

/-- The rims of the smallest ring, with an outer wall that faces outwards. -/
theorem extrude_runs_rims_twice_smallest :
    let ring : List Point := [⟨3.0, 4.0⟩, ⟨3.0, -4.0⟩, ⟨-5.0, 0.0⟩]
    let m := mesh ring 1.0 2.5
    3 ≤ ring.length ∧
      ((extrude (ε := Empty) ring 1.0 2.5).run ⟨["W01"], ["W03"]⟩).result = .ok m ∧
      ∃ ts, Triangle.ofCorners? m.indices = some ts ∧ (rims 3).length = 12 ∧
        ∀ side ∈ rims 3, (sides ts).count side = 2 := by
  intro ring m
  have hring : 3 ≤ ring.length := by decide
  have hrun : ((extrude (ε := Empty) ring 1.0 2.5).run ⟨["W01"], ["W03"]⟩).result = .ok m :=
    result_extrude hring (by decide) 1.0 2.5
  obtain ⟨ts, hts, _, _, hlength, hrims, _⟩ := extrude_runs_rims_twice hring hrun
  exact ⟨hring, hrun, ts, hts, hlength, fun side hside => (hrims side hside).2.2⟩

/-- Over the smallest ring, the outer wall and the bottom both run the first edge of the outer rim
from its first to its second end. -/
theorem extrude_not_oriented_smallest :
    let ring : List Point := [⟨3.0, 4.0⟩, ⟨3.0, -4.0⟩, ⟨-5.0, 0.0⟩]
    let m := mesh ring 1.0 2.5
    ((extrude (ε := Empty) ring 1.0 2.5).run ⟨["W01"], ["W03"]⟩).result = .ok m ∧
      ∃ ts, Triangle.ofCorners? m.indices = some ts ∧
        ⟨outerBottom 0, outerBottom 1, outerTop 0⟩ ∈ ts ∧
        ⟨outerBottom 0, outerBottom 1, innerBottom 1⟩ ∈ ts ∧ ¬IsOriented ts := by
  intro ring m
  refine ⟨result_extrude (by decide) (by decide) 1.0 2.5, triangles 3,
    Triangle.ofCorners?_flatMap _, by decide, by decide, ?_⟩
  intro horiented
  have htwo : (sides (triangles 3)).count (outerBottom 0, outerBottom 1) = 2 := by decide
  have hone := List.nodup_iff_count_le_one.1 horiented (outerBottom 0, outerBottom 1)
  omega

end Colonnade.Shell
