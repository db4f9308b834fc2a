import Colonnade.Mesh.Basic
import Mathlib.Algebra.BigOperators.Group.Finset.Basic
import Mathlib.Data.List.Rotate
import Mathlib.Data.Sym.Sym2

/-!
# Triangles as a surface

The triangles of a mesh are a list, and positions play no part in how they hang together.  This
file says what it means for such a list to be a closed surface: around every vertex the triangles
form one closed fan.

* `Surface.around` is the list of the triangles around a vertex, and `Surface.IsFan` says that they
  can be put into a circle in which every triangle shares an edge at the vertex with the next one.
* `Surface.IsClosed` is the property of having such a fan around every vertex.  A fan around one end
  of an edge decides how many triangles the edge has: `IsClosed.valence_eq_two`.
* Counting the sides of the triangles in two ways then gives the number of edges:
  `IsClosed.two_mul_card_edgeSet`.

Nothing here knows how a mesh is made.
-/

namespace Colonnade

namespace Triangle

/-- The three edges of a triangle, without direction. -/
def edges (t : Triangle) : List (Sym2 Nat) :=
  [s(t.first, t.second), s(t.second, t.third), s(t.third, t.first)]

/-- The corners of a triangle are exactly the given three vertices. -/
def Spans (t : Triangle) (a b c : Nat) : Prop :=
  ∀ x, x ∈ t.corners ↔ x = a ∨ x = b ∨ x = c

theorem spans_mk (a b c : Nat) : Spans ⟨a, b, c⟩ a b c := by
  intro x
  simp [corners]

/-- The three vertices may be named from the next one on. -/
theorem Spans.rotate {t : Triangle} {a b c : Nat} (h : t.Spans a b c) : t.Spans b c a := by
  intro x
  rw [h x]
  tauto

/-- The last two of the three vertices may be named in the other order. -/
theorem Spans.swap {t : Triangle} {a b c : Nat} (h : t.Spans a b c) : t.Spans a c b := by
  intro x
  rw [h x]
  tauto

/-- Two vertices are the ends of an edge of a triangle exactly if both are corners of it. -/
theorem mem_edges_iff (t : Triangle) {v w : Nat} (hvw : v ≠ w) :
    s(v, w) ∈ t.edges ↔ v ∈ t.corners ∧ w ∈ t.corners := by
  simp only [edges, corners, List.mem_cons, List.not_mem_nil, or_false, Sym2.eq_iff]
  constructor
  · rintro ((⟨rfl, rfl⟩ | ⟨rfl, rfl⟩) | (⟨rfl, rfl⟩ | ⟨rfl, rfl⟩) | (⟨rfl, rfl⟩ | ⟨rfl, rfl⟩)) <;>
      simp
  · rintro ⟨rfl | rfl | rfl, rfl | rfl | rfl⟩ <;> simp at hvw ⊢

/-- The ends of an edge of a triangle with three different corners are different. -/
theorem ne_of_mem_edges {t : Triangle} (h : t.corners.Nodup) {v w : Nat}
    (he : s(v, w) ∈ t.edges) : v ≠ w := by
  rintro rfl
  simp only [corners, edges, List.nodup_cons, List.mem_cons, List.not_mem_nil, or_false,
    Sym2.eq_iff] at h he
  omega

/-- A triangle with three different corners has three different edges. -/
theorem nodup_edges {t : Triangle} (h : t.corners.Nodup) : t.edges.Nodup := by
  simp only [corners, edges, List.nodup_cons, List.mem_cons, List.not_mem_nil, or_false,
    not_false_eq_true, List.nodup_nil, and_true, Sym2.eq_iff] at h ⊢
  omega

end Triangle

namespace Surface

/-- The edges of a list of triangles, each once. -/
def edgeSet (ts : List Triangle) : Finset (Sym2 Nat) :=
  (ts.flatMap Triangle.edges).toFinset

/-- The triangles around a vertex. -/
def around (ts : List Triangle) (v : Nat) : List Triangle :=
  ts.filter fun t => v ∈ t.corners

/-- How many triangles an edge belongs to. -/
def valence (ts : List Triangle) (e : Sym2 Nat) : Nat :=
  ts.countP fun t => e ∈ t.edges

/-- The steps around a closed rim: every member with the next one, and the last with the first. -/
def arcs (rim : List Nat) : List (Nat × Nat) :=
  rim.zip (rim.rotate 1)

/-- Triangles form a single closed fan around a vertex: put in a suitable order, they are the
triangles that the vertex spans with the steps around a closed rim, which meets no vertex twice. -/
structure IsFan (v : Nat) (rim : List Nat) (ts : List Triangle) : Prop where
  nodup : rim.Nodup
  three_le : 3 ≤ rim.length
  hub : v ∉ rim
  spokes : ∃ fan, fan.Perm ts ∧
    List.Forall₂ (fun t arc => t.Spans v arc.1 arc.2) fan (arcs rim)

/-- Triangles form a closed surface with the vertices below `count`: none of them meets a vertex
twice, and around every vertex they form a closed fan. -/
structure IsClosed (count : Nat) (ts : List Triangle) : Prop where
  nodup : ∀ t ∈ ts, t.corners.Nodup
  corner_lt : ∀ t ∈ ts, ∀ v ∈ t.corners, v < count
  exists_fan : ∀ v < count, ∃ rim, IsFan v rim (around ts v)

theorem mem_edgeSet_iff (ts : List Triangle) (e : Sym2 Nat) :
    e ∈ edgeSet ts ↔ ∃ t ∈ ts, e ∈ t.edges := by
  rw [edgeSet, List.mem_toFinset, List.mem_flatMap]

/-! ## The rim of a fan -/

@[simp] theorem length_arcs (rim : List Nat) : (arcs rim).length = rim.length := by
  simp [arcs]

theorem map_fst_arcs (rim : List Nat) : (arcs rim).map Prod.fst = rim :=
  List.map_fst_zip (by simp)

theorem map_snd_arcs (rim : List Nat) : (arcs rim).map Prod.snd = rim.rotate 1 :=
  List.map_snd_zip (by simp)

/-- No step of a rim without repetition stays where it is, unless the rim has one member only. -/
theorem fst_ne_snd_of_mem_arcs {rim : List Nat} (hnodup : rim.Nodup) (hlength : 2 ≤ rim.length)
    {arc : Nat × Nat} (h : arc ∈ arcs rim) : arc.1 ≠ arc.2 := by
  obtain ⟨i, hi, rfl⟩ := List.mem_iff_getElem.1 h
  have hlt : i < rim.length := by
    rw [length_arcs] at hi
    exact hi
  have hmod : (i + 1) % rim.length < rim.length := Nat.mod_lt _ (by omega)
  have hne : i ≠ (i + 1) % rim.length := by
    by_cases hlast : i + 1 = rim.length
    · rw [hlast, Nat.mod_self]
      omega
    · rw [Nat.mod_eq_of_lt (by omega)]
      omega
  simp only [arcs, List.getElem_zip, List.getElem_rotate]
  intro heq
  exact hne ((hnodup.getElem_inj_iff).1 heq)

/-- Among steps that do not stay where they are, those that touch a vertex either start or end
there. -/
theorem countP_touching (w : Nat) {steps : List (Nat × Nat)} (h : ∀ arc ∈ steps, arc.1 ≠ arc.2) :
    steps.countP (fun arc => w = arc.1 ∨ w = arc.2) =
      (steps.map Prod.fst).count w + (steps.map Prod.snd).count w := by
  induction steps with
  | nil => rfl
  | cons arc rest ih =>
    obtain ⟨a, b⟩ := arc
    have hab : a ≠ b := h (a, b) List.mem_cons_self
    have hrest := ih fun arc harc => h arc (List.mem_cons_of_mem _ harc)
    simp only [List.countP_cons, List.map_cons, List.count_cons, hrest, decide_eq_true_eq,
      beq_iff_eq]
    split <;> split <;> split <;> omega

/-- Going around a rim, every member is reached once and left once. -/
theorem countP_arcs {rim : List Nat} (hnodup : rim.Nodup) (hlength : 2 ≤ rim.length) {w : Nat}
    (hw : w ∈ rim) : (arcs rim).countP (fun arc => w = arc.1 ∨ w = arc.2) = 2 := by
  have hrotate : (rim.rotate 1).count w = rim.count w := (List.rotate_perm rim 1).count_eq w
  rw [countP_touching w fun arc harc => fst_ne_snd_of_mem_arcs hnodup hlength harc, map_fst_arcs,
    map_snd_arcs, hrotate, List.count_eq_one_of_mem hnodup hw]

namespace IsFan

variable {v : Nat} {rim : List Nat} {ts : List Triangle}

/-- A fan has as many triangles as its rim has members. -/
theorem length_eq (h : IsFan v rim ts) : ts.length = rim.length := by
  obtain ⟨fan, hperm, hspokes⟩ := h.spokes
  rw [← hperm.length_eq, hspokes.length_eq, length_arcs]

/-- A triangle that the hub spans with a step touches another vertex exactly if the step does. -/
private theorem countP_spokes {fan : List Triangle} {steps : List (Nat × Nat)} {w : Nat}
    (hwv : w ≠ v) (h : List.Forall₂ (fun t arc => t.Spans v arc.1 arc.2) fan steps) :
    fan.countP (fun t => w ∈ t.corners) = steps.countP fun arc => w = arc.1 ∨ w = arc.2 := by
  induction h with
  | nil => rfl
  | cons hspans _ ih =>
    rw [List.countP_cons, List.countP_cons, ih]
    simp only [hspans w, hwv, false_or]

/-- A corner of a triangle of a fan is the hub or a member of the rim. -/
theorem mem_rim (h : IsFan v rim ts) {t : Triangle} (ht : t ∈ ts) {w : Nat} (hw : w ∈ t.corners)
    (hwv : w ≠ v) : w ∈ rim := by
  obtain ⟨fan, hperm, hspokes⟩ := h.spokes
  have hpos : 0 < (arcs rim).countP fun arc => w = arc.1 ∨ w = arc.2 := by
    rw [← countP_spokes hwv hspokes, hperm.countP_eq, List.countP_pos_iff]
    exact ⟨t, ht, decide_eq_true hw⟩
  obtain ⟨arc, harc, htouch⟩ := List.countP_pos_iff.1 hpos
  rcases of_decide_eq_true htouch with rfl | rfl
  · rw [← map_fst_arcs rim]
    exact List.mem_map_of_mem harc
  · rw [← List.mem_rotate (n := 1), ← map_snd_arcs rim]
    exact List.mem_map_of_mem harc

/-- Every member of the rim is in exactly two triangles of a fan. -/
theorem countP_corner (h : IsFan v rim ts) {w : Nat} (hw : w ∈ rim) :
    ts.countP (fun t => w ∈ t.corners) = 2 := by
  obtain ⟨fan, hperm, hspokes⟩ := h.spokes
  have hwv : w ≠ v := fun heq => h.hub (heq ▸ hw)
  have hthree := h.three_le
  rw [← hperm.countP_eq, countP_spokes hwv hspokes]
  exact countP_arcs h.nodup (by omega) hw

end IsFan

/-- Six triangles, each with a corner in the hub and sharing an edge with the next, are a fan over
a rim of six. -/
theorem isFan_six {v a b c d e f : Nat} {t₁ t₂ t₃ t₄ t₅ t₆ : Triangle} {ts : List Triangle}
    (hnodup : [a, b, c, d, e, f].Nodup) (hub : v ∉ [a, b, c, d, e, f])
    (hperm : [t₁, t₂, t₃, t₄, t₅, t₆].Perm ts)
    (h₁ : t₁.Spans v a b) (h₂ : t₂.Spans v b c) (h₃ : t₃.Spans v c d)
    (h₄ : t₄.Spans v d e) (h₅ : t₅.Spans v e f) (h₆ : t₆.Spans v f a) :
    IsFan v [a, b, c, d, e, f] ts where
  nodup := hnodup
  three_le := by simp
  hub := hub
  spokes := by
    have harcs : arcs [a, b, c, d, e, f] = [(a, b), (b, c), (c, d), (d, e), (e, f), (f, a)] := rfl
    refine ⟨[t₁, t₂, t₃, t₄, t₅, t₆], hperm, ?_⟩
    rw [harcs]
    exact .cons h₁ (.cons h₂ (.cons h₃ (.cons h₄ (.cons h₅ (.cons h₆ .nil)))))

/-- The order of the triangles around a vertex does not matter. -/
theorem IsFan.of_perm {v : Nat} {rim : List Nat} {ts us : List Triangle} (h : IsFan v rim ts)
    (hperm : ts.Perm us) : IsFan v rim us := by
  obtain ⟨fan, hfan, hspokes⟩ := h.spokes
  exact ⟨h.nodup, h.three_le, h.hub, fan, hfan.trans hperm, hspokes⟩

/-! ## Edges -/

/-- The triangles of an edge are those around one of its ends that touch the other. -/
theorem valence_eq_countP_around (ts : List Triangle) {v w : Nat} (hvw : v ≠ w) :
    valence ts s(v, w) = (around ts v).countP fun t => w ∈ t.corners := by
  rw [valence, around, List.countP_filter]
  refine List.countP_congr fun t _ => ?_
  simp only [t.mem_edges_iff hvw, Bool.and_eq_true, decide_eq_true_eq]
  exact and_comm

/-- Every edge of a closed surface belongs to exactly two triangles. -/
theorem IsClosed.valence_eq_two {count : Nat} {ts : List Triangle} (h : IsClosed count ts)
    {e : Sym2 Nat} (he : e ∈ edgeSet ts) : valence ts e = 2 := by
  obtain ⟨t, ht, hedge⟩ := (mem_edgeSet_iff ts e).1 he
  induction e using Sym2.ind with
  | _ v w =>
    have hvw : v ≠ w := Triangle.ne_of_mem_edges (h.nodup t ht) hedge
    have hcorners := (t.mem_edges_iff hvw).1 hedge
    obtain ⟨rim, hfan⟩ := h.exists_fan v (h.corner_lt t ht v hcorners.1)
    have haround : t ∈ around ts v := List.mem_filter.2 ⟨ht, decide_eq_true hcorners.1⟩
    rw [valence_eq_countP_around ts hvw]
    exact hfan.countP_corner (hfan.mem_rim haround hcorners.2 hvw.symm)

/-- All triangles together have three sides each. -/
theorem length_sides (ts : List Triangle) : (ts.flatMap Triangle.edges).length = 3 * ts.length := by
  induction ts with
  | nil => rfl
  | cons t rest ih =>
    rw [List.flatMap_cons, List.length_append, ih, List.length_cons]
    show 3 + 3 * rest.length = _
    omega

/-- An edge occurs among the sides of all triangles as often as it has triangles. -/
theorem count_sides {ts : List Triangle} (hnodup : ∀ t ∈ ts, t.corners.Nodup) (e : Sym2 Nat) :
    (ts.flatMap Triangle.edges).count e = valence ts e := by
  induction ts with
  | nil => rfl
  | cons t rest ih =>
    have hrest := ih fun u hu => hnodup u (List.mem_cons_of_mem t hu)
    have ht := Triangle.nodup_edges (hnodup t List.mem_cons_self)
    rw [List.flatMap_cons, List.count_append, hrest, ht.count, valence, valence, List.countP_cons,
      Nat.add_comm]
    simp only [decide_eq_true_eq]

/-- In a closed surface, twice the number of edges is three times the number of triangles: both
count the sides of all triangles. -/
theorem IsClosed.two_mul_card_edgeSet {count : Nat} {ts : List Triangle} (h : IsClosed count ts) :
    2 * (edgeSet ts).card = 3 * ts.length := by
  have hcount : ∀ e ∈ (ts.flatMap Triangle.edges).toFinset,
      (ts.flatMap Triangle.edges).count e = 2 := by
    intro e he
    rw [count_sides h.nodup e]
    exact h.valence_eq_two he
  rw [← length_sides, ← List.sum_toFinset_count_eq_length, Finset.sum_congr rfl hcount,
    Finset.sum_const, smul_eq_mul, Nat.mul_comm, edgeSet]

end Surface

end Colonnade
