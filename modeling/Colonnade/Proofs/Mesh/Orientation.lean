import Colonnade.Proofs.Mesh.Surface

/-!
# Orientation of a surface

A triangle runs each of its three sides in one direction.  Where two triangles of a surface share an
edge, the surface is oriented consistently if one of them runs it from the one end to the other, and
the other one back.  So a list of triangles is consistently oriented if no side occurs twice in it:
`Surface.IsOriented`.

Triangles may be turned over, which turns their sides around: `Surface.count_sides_turned`.  Their
corners may get other names, also the same name for several of them: a surface that is oriented under
the new names was so before (`Surface.IsOriented.of_rename`).

Directions say more than edges: how many triangles an edge has is how often it is run in either
direction (`Surface.valence_eq_count_sides`).
-/

namespace Colonnade

namespace Triangle

/-- The three sides of a triangle, in the direction in which it runs them. -/
def sides (t : Triangle) : List (Nat × Nat) :=
  [(t.first, t.second), (t.second, t.third), (t.third, t.first)]

/-- A triangle turned over. -/
def turned (t : Triangle) : Triangle := ⟨t.first, t.third, t.second⟩

/-- A triangle with other names for its corners. -/
def rename (f : Nat → Nat) (t : Triangle) : Triangle := ⟨f t.first, f t.second, f t.third⟩

/-- A triangle that is turned over runs its sides the other way. -/
theorem sides_turned (t : Triangle) : t.turned.sides.Perm (t.sides.map Prod.swap) := by
  refine List.perm_iff_count.2 fun side => ?_
  simp only [sides, turned, List.map_cons, List.map_nil, Prod.swap_prod_mk, List.count_cons,
    List.count_nil]
  ac_rfl

/-- A triangle under other names has its sides under these names. -/
theorem sides_rename (f : Nat → Nat) (t : Triangle) :
    (t.rename f).sides = t.sides.map (Prod.map f f) := rfl

/-- The edges of a triangle are its sides without their directions. -/
theorem edges_eq_map_sides (t : Triangle) : t.edges = t.sides.map fun side => s(side.1, side.2) :=
  rfl

end Triangle

namespace Surface

/-- The sides of all triangles. -/
def sides (ts : List Triangle) : List (Nat × Nat) := ts.flatMap Triangle.sides

/-- No two triangles run an edge in the same direction. -/
def IsOriented (ts : List Triangle) : Prop := (sides ts).Nodup

@[simp] theorem sides_append (ts us : List Triangle) : sides (ts ++ us) = sides ts ++ sides us :=
  List.flatMap_append

theorem sides_perm {ts us : List Triangle} (h : ts.Perm us) : (sides ts).Perm (sides us) :=
  h.flatMap_right _

/-- Triangles that are turned over run every edge the other way. -/
theorem count_sides_turned (ts : List Triangle) (u v : Nat) :
    (sides (ts.map Triangle.turned)).count (u, v) = (sides ts).count (v, u) := by
  induction ts with
  | nil => rfl
  | cons t rest ih =>
    have hswap : (t.sides.map Prod.swap).count (Prod.swap (v, u)) = t.sides.count (v, u) :=
      List.count_map_of_injective t.sides Prod.swap Prod.swap_injective (v, u)
    rw [sides, List.map_cons, List.flatMap_cons, List.count_append, t.sides_turned.count_eq,
      show (u, v) = Prod.swap (v, u) from rfl, hswap]
    rw [sides, List.flatMap_cons, List.count_append]
    exact congrArg _ ih

/-! ## Other names -/

theorem sides_map_rename (f : Nat → Nat) (ts : List Triangle) :
    sides (ts.map (Triangle.rename f)) = (sides ts).map (Prod.map f f) := by
  rw [sides, sides, List.flatMap_map, List.map_flatMap]
  exact List.flatMap_congr fun t _ => t.sides_rename f

/-- Triangles that are oriented consistently under new names are so under the old ones. -/
theorem IsOriented.of_rename {f : Nat → Nat} {ts : List Triangle}
    (h : IsOriented (ts.map (Triangle.rename f))) : IsOriented ts := by
  rw [IsOriented, sides_map_rename] at h
  exact h.of_map

/-! ## Edges and their directions -/

/-- Without their directions, steps between two different vertices are as many as there are in both
directions together. -/
theorem count_map_edge (steps : List (Nat × Nat)) {u v : Nat} (huv : u ≠ v) :
    (steps.map fun step => s(step.1, step.2)).count s(u, v) =
      steps.count (u, v) + steps.count (v, u) := by
  induction steps with
  | nil => rfl
  | cons step rest ih =>
    obtain ⟨a, b⟩ := step
    simp only [List.map_cons, List.count_cons, ih, beq_iff_eq, Prod.mk.injEq, Sym2.eq_iff]
    by_cases hthere : a = u ∧ b = v
    · obtain ⟨rfl, rfl⟩ := hthere
      have hback : ¬ (a = b ∧ b = a) := fun h => huv h.1
      simp only [hback, and_self, true_or, if_true, if_false]
      omega
    · simp only [hthere, false_or, if_false]
      omega

/-- The edges of all triangles are their sides without directions. -/
theorem flatMap_edges (ts : List Triangle) :
    ts.flatMap Triangle.edges = (sides ts).map fun side => s(side.1, side.2) := by
  rw [sides, List.map_flatMap]
  exact List.flatMap_congr fun t _ => t.edges_eq_map_sides

/-- An edge has as many triangles as there are sides along it, in either direction. -/
theorem valence_eq_count_sides {ts : List Triangle} (hnodup : ∀ t ∈ ts, t.corners.Nodup)
    {u v : Nat} (huv : u ≠ v) :
    valence ts s(u, v) = (sides ts).count (u, v) + (sides ts).count (v, u) := by
  rw [← count_sides hnodup, flatMap_edges, count_map_edge _ huv]

/-- In a surface that is oriented consistently, an edge has one triangle if it is run in one
direction only. -/
theorem IsOriented.valence_eq_one_iff {ts : List Triangle} (h : IsOriented ts)
    (hnodup : ∀ t ∈ ts, t.corners.Nodup) {u v : Nat} (huv : u ≠ v) :
    valence ts s(u, v) = 1 ↔ ((u, v) ∈ sides ts ↔ (v, u) ∉ sides ts) := by
  rw [valence_eq_count_sides hnodup huv, h.count, h.count]
  by_cases hthere : (u, v) ∈ sides ts <;> by_cases hback : (v, u) ∈ sides ts <;>
    simp [hthere, hback]

/-- In a surface that is oriented consistently, an edge has two triangles if it is run in both
directions. -/
theorem IsOriented.valence_eq_two_iff {ts : List Triangle} (h : IsOriented ts)
    (hnodup : ∀ t ∈ ts, t.corners.Nodup) {u v : Nat} (huv : u ≠ v) :
    valence ts s(u, v) = 2 ↔ (u, v) ∈ sides ts ∧ (v, u) ∈ sides ts := by
  rw [valence_eq_count_sides hnodup huv, h.count, h.count]
  by_cases hthere : (u, v) ∈ sides ts <;> by_cases hback : (v, u) ∈ sides ts <;>
    simp [hthere, hback]

/-! ## Loops -/

/-- The edges of a closed rim: from every member to the next one, and from the last to the first. -/
def loopEdges (rim : List Nat) : List (Sym2 Nat) :=
  (arcs rim).map fun arc => s(arc.1, arc.2)

@[simp] theorem length_loopEdges (rim : List Nat) : (loopEdges rim).length = rim.length := by
  rw [loopEdges, List.length_map, length_arcs]

/-- Under other names, a rim has its arcs under these names. -/
theorem arcs_map (f : Nat → Nat) (rim : List Nat) :
    arcs (rim.map f) = (arcs rim).map (Prod.map f f) := by
  rw [arcs, arcs, ← List.map_rotate, List.zip_map]

theorem mem_loopEdges_iff {rim : List Nat} {u v : Nat} :
    s(u, v) ∈ loopEdges rim ↔ (u, v) ∈ arcs rim ∨ (v, u) ∈ arcs rim := by
  simp only [loopEdges, List.mem_map, Prod.exists, Sym2.eq_iff]
  constructor
  · rintro ⟨a, b, harc, ⟨rfl, rfl⟩ | ⟨rfl, rfl⟩⟩
    · exact .inl harc
    · exact .inr harc
  · rintro (harc | harc)
    · exact ⟨u, v, harc, .inl ⟨rfl, rfl⟩⟩
    · exact ⟨v, u, harc, .inr ⟨rfl, rfl⟩⟩

/-- The next number around a circle is one more, or zero after the last. -/
theorem next_cases {n i : Nat} (hi : i < n) :
    i + 1 < n ∧ (i + 1) % n = i + 1 ∨ i + 1 = n ∧ (i + 1) % n = 0 := by
  by_cases hlast : i + 1 = n
  · exact .inr ⟨hlast, by rw [hlast, Nat.mod_self]⟩
  · exact .inl ⟨by omega, Nat.mod_eq_of_lt (by omega)⟩

/-- A rim of three or more different vertices has no edge twice. -/
theorem nodup_loopEdges {rim : List Nat} (hnodup : rim.Nodup) (hlength : 3 ≤ rim.length) :
    (loopEdges rim).Nodup := by
  rw [List.Nodup, List.pairwise_iff_getElem]
  intro i j hi hj hij
  rw [length_loopEdges] at hi hj
  simp only [loopEdges, arcs, List.getElem_map, List.getElem_zip, List.getElem_rotate, ne_eq,
    Sym2.eq_iff, hnodup.getElem_inj_iff]
  -- Two edges of a rim have the same ends only if it has no more than two vertices.
  have hnextI := next_cases hi
  have hnextJ := next_cases hj
  omega

/-- Of three or more vertices on a rim, no two come after each other both ways round. -/
theorem swap_not_mem_arcs {rim : List Nat} (hnodup : rim.Nodup) (hlength : 3 ≤ rim.length)
    {u v : Nat} (h : (u, v) ∈ arcs rim) : (v, u) ∉ arcs rim := by
  intro hback
  have hsame : (u, v) = (v, u) :=
    List.inj_on_of_nodup_map (nodup_loopEdges hnodup hlength) h hback Sym2.eq_swap
  exact fst_ne_snd_of_mem_arcs hnodup (by omega) h (Prod.ext_iff.1 hsame).1

end Surface

end Colonnade
