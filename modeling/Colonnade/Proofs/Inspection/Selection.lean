import Mathlib.Algebra.Ring.Int.Defs
import Colonnade.Inspection.Text
import Colonnade.Proofs.Inspection.Agreement

/-!
# Inspection of selected pillars

An inspection may be asked for some ids only.  This file says that asking for them is the same as
asking for everything and leaving out the other reports afterwards.

* What is reported of the selected pillars is what is reported of them among all pillars, and the
  totals are those of the reports that are left (`Inspection.Restricts`).  The totals are taken from
  the documents of the reports: a report without a number counts as zero (`vertexTotal_eq_sum`).
* Two selections that share the ids between them share the totals (`sum_filter_add`).
* Pillars that are not selected are not looked at, so it does not matter what they are
  (`Spec.inspect_congr`).
-/

namespace Colonnade

open Text (Loose)

open Report

namespace Inspection

/-! ## Totals of documents -/

/-- The number that the document of a report has under a name; one without it counts as zero. -/
def Entry.number (name : String) (e : Entry) : Int :=
  match e.toJson.get? name with
  | some (.int n) => n
  | _ => 0

/-- Whether the document of a report is marked as one without a mesh. -/
def Entry.isMarked (e : Entry) : Bool :=
  (e.toJson.get? "mesh_skipped").any Json.holds

/-- A member of the summary of an inspection. -/
def summary? (name : String) (i : Inspection) : Option Json :=
  (i.toJson.get? "summary").bind (Json.get? name)

theorem Entry.number_vertexCount (e : Entry) : e.number "vertex_count" =
    ((e.detail.mesh?.map MeshSummary.vertexCount).getD 0 : Nat) := by
  obtain ⟨id, label, detail⟩ := e
  cases detail <;> rfl

theorem Entry.number_triangleCount (e : Entry) : e.number "triangle_count" =
    ((e.detail.mesh?.map MeshSummary.triangleCount).getD 0 : Nat) := by
  obtain ⟨id, label, detail⟩ := e
  cases detail <;> rfl

theorem MeshSummary.lookup_members_meshSkipped (m : MeshSummary) :
    m.members.lookup "mesh_skipped" = none := by
  obtain ⟨vertices, triangles, bounds⟩ := m
  cases bounds <;> rfl

theorem Entry.isMarked_eq_isSkipped (e : Entry) : e.isMarked = e.detail.isSkipped := by
  obtain ⟨id, label, detail⟩ := e
  cases detail with
  | skipped lengths => rfl
  | walked lengths points mesh =>
    show (mesh.members.lookup "mesh_skipped").any Json.holds = false
    rw [mesh.lookup_members_meshSkipped]
    rfl
  | column mesh =>
    show (mesh.members.lookup "mesh_skipped").any Json.holds = false
    rw [mesh.lookup_members_meshSkipped]
    rfl

/-- Numbers that are added up one by one are the sum. -/
theorem foldr_map_eq_sum (entries : List Entry) {number : Entry → Nat} {shown : Entry → Int}
    (h : ∀ e, shown e = number e) :
    (((entries.map number).foldr (· + ·) 0 : Nat) : Int) = (entries.map shown).sum := by
  induction entries with
  | nil => rfl
  | cons e rest ih =>
    rw [List.map_cons, List.foldr_cons, List.map_cons, List.sum_cons, ← ih, h e]
    exact Int.natCast_add _ _

theorem vertexTotal_eq_sum (i : Inspection) :
    (i.vertexTotal : Int) = (i.entries.map (Entry.number "vertex_count")).sum :=
  foldr_map_eq_sum i.entries Entry.number_vertexCount

theorem triangleTotal_eq_sum (i : Inspection) :
    (i.triangleTotal : Int) = (i.entries.map (Entry.number "triangle_count")).sum :=
  foldr_map_eq_sum i.entries Entry.number_triangleCount

theorem skippedTotal_eq_countP (i : Inspection) :
    i.skippedTotal = i.entries.countP Entry.isMarked :=
  List.countP_congr fun e _ => by rw [e.isMarked_eq_isSkipped]

theorem skippedTotal_eq_sum (i : Inspection) :
    (i.skippedTotal : Int) = (i.entries.map fun e => if e.isMarked then 1 else 0).sum := by
  rw [skippedTotal_eq_countP]
  induction i.entries with
  | nil => rfl
  | cons e rest ih =>
    rw [List.countP_cons, List.map_cons, List.sum_cons, ← ih]
    cases e.isMarked <;> simp [Int.add_comm]

/-! ## Restriction -/

/-- The reports of an inspection on pillars with certain ids. -/
def among (i : Inspection) (ids : List Loose) : List Entry :=
  i.entries.filter fun e => ids.contains e.id

/-- One inspection reports on the pillars of another that have certain ids, in the same order.  It
is about the same specification, and its totals are those of the reports that are left. -/
structure Restricts (ids : List Loose) (j i : Inspection) : Prop where
  entries : j.entries = i.among ids
  version : j.version = i.version
  pillarCount : j.pillarCount = i.pillarCount
  pillars : j.toJson.get? "pillars" = some (.list ((i.among ids).map Entry.toJson))
  vertices : j.summary? "vertex_count" =
    some (.int ((i.among ids).map (Entry.number "vertex_count")).sum)
  triangles : j.summary? "triangle_count" =
    some (.int ((i.among ids).map (Entry.number "triangle_count")).sum)
  skipped : j.summary? "skipped_count" = some (.nat ((i.among ids).countP Entry.isMarked))

/-- An inspection with the right reports has the right totals. -/
theorem restricts_of_entries {ids : List Loose} {i j : Inspection}
    (hentries : j.entries = i.among ids) (hversion : j.version = i.version)
    (hcount : j.pillarCount = i.pillarCount) : j.Restricts ids i where
  entries := hentries
  version := hversion
  pillarCount := hcount
  pillars := by
    rw [← hentries]
    rfl
  vertices := by
    rw [← hentries, ← vertexTotal_eq_sum]
    rfl
  triangles := by
    rw [← hentries, ← triangleTotal_eq_sum]
    rfl
  skipped := by
    rw [← hentries, ← skippedTotal_eq_countP]
    rfl

/-- Two selections share some ids between them: each id is in one of them and not in the other. -/
def Share (ids others known : List Loose) : Prop :=
  ∀ id ∈ known, id ∈ ids ↔ id ∉ others

/-- What is added up over reports is shared by selections that share the ids. -/
theorem sum_among {ids others : List Loose} {i : Inspection}
    (h : Share ids others (i.entries.map Entry.id)) (number : Entry → Int) :
    ((i.among ids).map number).sum + ((i.among others).map number).sum =
      (i.entries.map number).sum := by
  unfold among
  generalize i.entries = entries at h
  induction entries with
  | nil => rfl
  | cons e rest ih =>
    have hrest := ih fun x hx => h x (List.mem_cons_of_mem e.id hx)
    have he := h e.id List.mem_cons_self
    rw [List.map_cons, List.sum_cons]
    by_cases hid : e.id ∈ ids
    · rw [List.filter_cons_of_pos (by simpa using hid),
        List.filter_cons_of_neg (by simpa using he.1 hid), List.map_cons, List.sum_cons]
      omega
    · have hother : e.id ∈ others := by
        by_contra hnot
        exact hid (he.2 hnot)
      rw [List.filter_cons_of_neg (by simpa using hid),
        List.filter_cons_of_pos (by simpa using hother), List.map_cons, List.sum_cons]
      omega

/-- Inspections that are restricted to selections that share the ids share the totals. -/
theorem Restricts.totals_add {ids others : List Loose} {i j k : Inspection}
    (h : Share ids others (i.entries.map Entry.id)) (hj : j.Restricts ids i)
    (hk : k.Restricts others i) :
    j.vertexTotal + k.vertexTotal = i.vertexTotal ∧
      j.triangleTotal + k.triangleTotal = i.triangleTotal ∧
      j.skippedTotal + k.skippedTotal = i.skippedTotal := by
  have hvertices := sum_among h (Entry.number "vertex_count")
  have htriangles := sum_among h (Entry.number "triangle_count")
  have hskipped := sum_among h fun e => if e.isMarked then 1 else 0
  rw [← hj.entries, ← hk.entries] at hvertices htriangles hskipped
  rw [← vertexTotal_eq_sum, ← vertexTotal_eq_sum, ← vertexTotal_eq_sum] at hvertices
  rw [← triangleTotal_eq_sum, ← triangleTotal_eq_sum, ← triangleTotal_eq_sum] at htriangles
  rw [← skippedTotal_eq_sum, ← skippedTotal_eq_sum, ← skippedTotal_eq_sum] at hskipped
  omega

end Inspection

/-! ## Specifications -/

theorem Pillar.id_of_inspect {p : Pillar} {policy : Policy} {limit : Int} {e : Inspection.Entry}
    (h : ((p.inspect limit).run policy).result = .ok e) : e.id = p.id := by
  obtain ⟨detail, _, hpure⟩ := result_bind_eq_ok_iff.1 h
  cases result_pure_eq_ok_iff.1 hpure
  rfl

namespace Spec

variable {s t : Spec} {policy : Policy} {limit : Int} {ids : List Loose}

/-- An inspection is the list of the reports on the selected pillars. -/
theorem result_inspect_eq_ok_iff {selection : Option (List Loose)} {i : Inspection} :
    ((s.inspect selection limit).run policy).result = .ok i ↔
      i.version = s.version ∧ i.pillarCount = s.pillars.length ∧
        List.Forall₂ (fun p e => ((p.inspect limit).run policy).result = .ok e)
          (s.pillars.filter fun p => isSelected selection p.id) i.entries := by
  rw [inspect, result_bind_eq_ok_iff]
  constructor
  · rintro ⟨entries, hentries, hpure⟩
    cases result_pure_eq_ok_iff.1 hpure
    exact ⟨rfl, rfl, result_traverse_eq_ok_iff.1 hentries⟩
  · rintro ⟨hversion, hcount, hentries⟩
    obtain ⟨version, count, entries⟩ := i
    cases hversion
    cases hcount
    exact ⟨entries, result_traverse_eq_ok_iff.2 hentries, rfl⟩

/-- Without a selection every pillar has a report. -/
theorem forall₂_of_inspect {i : Inspection}
    (h : ((s.inspect none limit).run policy).result = .ok i) :
    List.Forall₂ (fun p e => ((p.inspect limit).run policy).result = .ok e) s.pillars
      i.entries := by
  obtain ⟨_, _, hentries⟩ := result_inspect_eq_ok_iff.1 h
  have hall : (s.pillars.filter fun p => isSelected none p.id) = s.pillars :=
    List.filter_eq_self.2 fun _ _ => rfl
  rwa [hall] at hentries

theorem map_id_of_inspect {i : Inspection}
    (h : ((s.inspect none limit).run policy).result = .ok i) :
    i.entries.map Inspection.Entry.id = s.pillars.map Pillar.id := by
  rw [← List.forall₂_eq_eq_eq, List.forall₂_map_left_iff, List.forall₂_map_right_iff]
  exact (forall₂_of_inspect h).flip.imp fun _ _ he => Pillar.id_of_inspect he

/-- Where all pillars can be inspected, so can the selected ones, and their reports are the same. -/
theorem exists_restricts {i : Inspection}
    (h : ((s.inspect none limit).run policy).result = .ok i) (ids : List Loose) :
    ∃ j, ((s.inspect (some ids) limit).run policy).result = .ok j ∧ j.Restricts ids i := by
  obtain ⟨hversion, hcount, _⟩ := result_inspect_eq_ok_iff.1 h
  have hkept : List.Forall₂ (fun p e => ((p.inspect limit).run policy).result = .ok e)
      (s.pillars.filter fun p => ids.contains p.id) (i.among ids) := by
    refine List.rel_filter (fun {p e} he => ?_) (forall₂_of_inspect h)
    show ids.contains p.id = true ↔ ids.contains e.id = true
    rw [Pillar.id_of_inspect he]
  exact ⟨⟨s.version, s.pillars.length, i.among ids⟩,
    result_inspect_eq_ok_iff.2 ⟨rfl, rfl, hkept⟩,
    Inspection.restricts_of_entries rfl hversion.symm hcount.symm⟩

/-- Pillars that are not selected may be replaced by others that are not selected. -/
theorem inspect_congr (hversion : t.version = s.version)
    (h : List.Forall₂ (fun p q => p = q ∨ p.id ∉ ids ∧ q.id ∉ ids) s.pillars t.pillars) :
    t.inspect (some ids) limit = s.inspect (some ids) limit := by
  have hlength := h.length_eq
  have hfilter : (s.pillars.filter fun p => isSelected (some ids) p.id) =
      t.pillars.filter fun p => isSelected (some ids) p.id := by
    generalize s.pillars = ps at h
    generalize t.pillars = qs at h
    induction h with
    | nil => rfl
    | cons hfirst _ ih =>
      rcases hfirst with rfl | ⟨hp, hq⟩
      · rw [List.filter_cons, List.filter_cons, ih]
      · rw [List.filter_cons_of_neg (by simpa [isSelected] using hp),
          List.filter_cons_of_neg (by simpa [isSelected] using hq), ih]
  rw [inspect, inspect, hversion, hlength, hfilter]

/-- The selected pillars can be inspected exactly if each of them can. -/
theorem exists_inspect_eq_ok_iff (selection : Option (List Loose)) :
    (∃ j, ((s.inspect selection limit).run policy).result = .ok j) ↔
      ∀ p ∈ s.pillars, isSelected selection p.id = true →
        ∃ e, ((p.inspect limit).run policy).result = .ok e := by
  have hselected : (∃ j, ((s.inspect selection limit).run policy).result = .ok j) ↔
      ∃ entries, List.Forall₂ (fun p e => ((p.inspect limit).run policy).result = .ok e)
        (s.pillars.filter fun p => isSelected selection p.id) entries := by
    constructor
    · rintro ⟨j, hj⟩
      exact ⟨j.entries, (result_inspect_eq_ok_iff.1 hj).2.2⟩
    · rintro ⟨entries, hentries⟩
      exact ⟨⟨_, _, entries⟩, result_inspect_eq_ok_iff.2 ⟨rfl, rfl, hentries⟩⟩
  rw [hselected, exists_forall₂_iff]
  simp only [List.mem_filter, and_imp]

/-- Selection commutes with inspection.

Where all pillars can be inspected, the inspection of the selected ones returns too: its reports are
those on the selected pillars, in document order, about the same specification, and its totals are
the sums over these reports.  Another selection that shares the ids with it has the rest of all
totals.

The pillars that are not selected are not looked at: whether the inspection returns depends on the
selected ones alone, and other pillars in the place of the others change nothing, neither what is
returned nor what is warned of nor why it ends. -/
theorem inspect_selected (s : Spec) (policy : Policy) (limit : Int) (ids : List Loose) :
    (∀ i, ((s.inspect none limit).run policy).result = .ok i →
      ∃ j, ((s.inspect (some ids) limit).run policy).result = .ok j ∧ j.Restricts ids i ∧
        ∀ others, Inspection.Share ids others (s.pillars.map Pillar.id) →
          ∃ k, ((s.inspect (some others) limit).run policy).result = .ok k ∧
            k.Restricts others i ∧ j.vertexTotal + k.vertexTotal = i.vertexTotal ∧
            j.triangleTotal + k.triangleTotal = i.triangleTotal ∧
            j.skippedTotal + k.skippedTotal = i.skippedTotal) ∧
    ((∃ j, ((s.inspect (some ids) limit).run policy).result = .ok j) ↔
      ∀ p ∈ s.pillars, p.id ∈ ids → ∃ e, ((p.inspect limit).run policy).result = .ok e) ∧
    ∀ t : Spec, t.version = s.version →
      List.Forall₂ (fun p q => p = q ∨ p.id ∉ ids ∧ q.id ∉ ids) s.pillars t.pillars →
      (t.inspect (some ids) limit).run policy = (s.inspect (some ids) limit).run policy := by
  refine ⟨fun i hi => ?_, ?_, fun t hversion hpillars => ?_⟩
  · obtain ⟨j, hj, hrestricts⟩ := exists_restricts hi ids
    refine ⟨j, hj, hrestricts, fun others hshare => ?_⟩
    obtain ⟨k, hk, hothers⟩ := exists_restricts hi others
    rw [← map_id_of_inspect hi] at hshare
    exact ⟨k, hk, hothers, Inspection.Restricts.totals_add hshare hrestricts hothers⟩
  · simpa only [isSelected, List.contains_iff_mem] using
      exists_inspect_eq_ok_iff (some ids)
  · rw [inspect_congr hversion hpillars]

/-- A column, a pillar that grows beyond the limit, and one that cannot be built. -/
def hidden : Spec :=
  ⟨"1.0", none, [prism, doubled, { seedling with iterations := none }]⟩

/-- A column, a pillar that grows beyond the limit and one that does not: the first two share the
totals with the third, and they are inspected just the same when the third cannot be built. -/
theorem inspect_selected_mixed :
    let s : Spec := ⟨"1.0", none, [prism, doubled, seedling]⟩
    (∃ i j k, ((s.inspect none 3).run .permissive).result = .ok i ∧
      ((s.inspect (some ["c", "a"]) 3).run .permissive).result = .ok j ∧
      ((s.inspect (some ["b"]) 3).run .permissive).result = .ok k ∧
      j.entries = i.among ["c", "a"] ∧ j.vertexTotal + k.vertexTotal = i.vertexTotal) ∧
    (hidden.inspect (some ["c", "a"]) 3).run .permissive =
      (s.inspect (some ["c", "a"]) 3).run .permissive := by
  intro s
  obtain ⟨hsplit, _, hreplace⟩ := inspect_selected s .permissive 3 ["c", "a"]
  obtain ⟨m, hm⟩ : ∃ m, (prism.generate.run .permissive).result = .ok m := ⟨_, by rfl⟩
  have hall : ∀ p ∈ s.pillars, ∃ e, ((p.inspect 3).run .permissive).result = .ok e := by
    intro p hp
    simp only [s, List.mem_cons, List.not_mem_nil, or_false] at hp
    rcases hp with rfl | rfl | rfl
    · exact ⟨_, result_bind_eq_ok_iff.2 ⟨_, result_bind_eq_ok_iff.2 ⟨m, hm, rfl⟩, rfl⟩⟩
    · exact ⟨_, by rfl⟩
    · exact ⟨_, by rfl⟩
  obtain ⟨i, hi⟩ := (exists_inspect_eq_ok_iff none).2 fun p hp _ => hall p hp
  obtain ⟨j, hj, hrestricts, hshare⟩ := hsplit i hi
  obtain ⟨k, hk, _, hvertices, _⟩ := hshare ["b"] (by unfold Inspection.Share; decide)
  refine ⟨⟨i, j, k, hi, hj, hk, hrestricts.entries, hvertices⟩, hreplace hidden rfl ?_⟩
  exact .cons (.inl rfl) (.cons (.inl rfl) (.cons (.inr ⟨by decide, by decide⟩) .nil))

end Spec

end Colonnade
