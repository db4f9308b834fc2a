import Mathlib.Algebra.GroupWithZero.Nat
import Colonnade.Proofs.Spec.String

/-!
# Inspection against generation

An inspection goes through the steps of a generation on its own: table, growth, string, walk and
shell.  In between it predicts how long the string will be and may leave the rest out.  This file
puts the two side by side.

* A pillar that does not exceed the limit is inspected just as it is generated: same warnings, same
  faults, and a report that describes the mesh (`inspect_matches_generate`).  Both runs are taken
  step by step, in lockstep, and the steps that only the inspection has neither warn nor fail.
* A pillar that exceeds the limit gets no further than its table of rules
  (`inspect_matches_table`).  That the prediction is right is what ties the decision to the string
  itself (`outgrows_growth`).
* The totals of an inspection are sums over the pillars that were built (`totals_of_forall₂`).
-/

namespace Colonnade

open Text (Loose)

open Report

namespace Inspection

/-! ## Reports that describe a mesh -/

/-- The corners of bounds as a document. -/
def boundsJson (b : Bounds) : Json :=
  .object [("min", vectorJson b.low), ("max", vectorJson b.high)]

/-- What a document says of a mesh: its counts, whether it is empty, and its bounds, which only a
mesh with vertices has. -/
structure Detail.Shows (d : Detail) (m : Mesh) : Prop where
  summary : d.mesh? = some (.of m)
  vertexCount : d.members.lookup "vertex_count" = some (.nat m.vertexCount)
  triangleCount : d.members.lookup "triangle_count" = some (.nat m.triangleCount)
  empty : d.members.lookup "empty" = some (.bool m.isEmpty)
  bounds : d.members.lookup "bounds" = m.bounds?.map boundsJson

theorem isNone_bounds? (m : Mesh) : m.bounds?.isNone = m.isEmpty := by
  rw [Bool.eq_iff_iff, Option.isNone_iff_eq_none, Mesh.bounds?, Bounds.of?_eq_none_iff,
    Mesh.isEmpty, Mesh.vertexCount, beq_iff_eq, Array.toList_eq_nil_iff, Array.size_eq_zero_iff]

/-- A detail with the summary of a mesh shows this mesh. -/
theorem Detail.shows_of_mesh? {d : Detail} {m : Mesh} (h : d.mesh? = some (.of m)) : d.Shows m := by
  have hempty := isNone_bounds? m
  cases d with
  | skipped lengths => cases h
  | walked lengths points summary =>
    cases h
    cases hbounds : m.bounds? <;> rw [hbounds] at hempty <;>
      constructor <;> simp [Detail.mesh?, members, MeshSummary.members, MeshSummary.of, hbounds,
        List.lookup_cons, boundsJson, ← hempty]
  | column summary =>
    cases h
    cases hbounds : m.bounds? <;> rw [hbounds] at hempty <;>
      constructor <;> simp [Detail.mesh?, members, MeshSummary.members, MeshSummary.of, hbounds,
        List.lookup_cons, boundsJson, ← hempty]

/-- A report describes a pillar with its mesh: it names the pillar, shows the mesh and, for an
L-system, counts the points of the cross-section. -/
structure Entry.Describes (policy : Policy) (p : Pillar) (e : Entry) (m : Mesh) : Prop where
  id : e.id = p.id
  label : e.label = p.label
  mesh : e.detail.Shows m
  points : p.form? = some .lsystem → ∃ ring, (p.crossSection.run policy).result = .ok ring ∧
    e.detail.members.lookup "cross_section_points" = some (.nat ring.length)

/-- A report names a pillar and the predicted lengths of its string, and has nothing else to say
than that the mesh was skipped. -/
def Entry.Skips (p : Pillar) (e : Entry) (t : Production.Table) : Prop :=
  ∃ seed rounds lengths, p.seed = some seed ∧ p.iterations = some rounds ∧
    t.lengths seed rounds = .ok lengths ∧ e.detail = .skipped lengths ∧
    e.toJson = .object [("id", .text p.id), ("type", .text p.label),
      ("expansion_lengths", growthJson lengths), ("mesh_skipped", .bool true)]

end Inspection

namespace Pillar

variable {p : Pillar} {policy : Policy} {limit : Int}

/-! ## The limit -/

/-- Whether a pillar is an L-system with a string that is longer than a limit. -/
def exceeds (p : Pillar) (limit : Int) : Bool :=
  decide (p.form? = some .lsystem) && p.string?.any fun symbols => limit < symbols.length

/-- A predicted growth is beyond a limit exactly if the string is. -/
theorem outgrows_growth (t : Production.Table) (rounds : Nat) (seed : Loose) (limit : Int) :
    outgrows (t.growth rounds seed) limit = decide (limit < (t.deriveTimes rounds seed).length) := by
  have hlast : (t.growth rounds seed).getLast? = some (t.deriveTimes rounds seed).length := by
    rw [Production.Table.growth_eq_map_length, List.range_succ, List.map_append, List.map_singleton,
      List.getLast?_concat]
  rw [outgrows, hlast, Option.getD_some]

/-- An L-system that has come as far as its growth exceeds a limit exactly if the growth does. -/
theorem exceeds_eq_outgrows (hform : p.form? = some .lsystem) {t : Production.Table}
    {g : Loose × Nat} (ht : (p.table.run policy).result = .ok t)
    (hg : (p.growth.run policy).result = .ok g) :
    p.exceeds limit = outgrows (t.growth g.2 g.1) limit := by
  rw [exceeds, hform, string?_eq_some ht hg, outgrows_growth]
  simp

/-! ## One pillar -/

/-- What an inspection does with an L-system is said once for the two cases of the limit. -/
theorem inspect_eq_of_lsystem (hform : p.form? = some .lsystem) :
    p.inspect limit = p.table >>= fun t => p.growth >>= fun g =>
      (if outgrows (t.growth g.2 g.1) limit then pure (.skipped (t.growth g.2 g.1))
      else do
        let symbols ← p.symbols t
        let ring ← p.points symbols
        let mesh ← p.shell ring
        pure (.walked (t.growth g.2 g.1) ring.length (.of mesh))) >>= fun detail =>
      pure ⟨p.id, p.label, detail⟩ := by
  rw [inspect, inspectDetail, hform]
  simp only [inspectLSystem, bind_assoc]

/-- Anything else is generated and reported as a column. -/
theorem inspect_eq_of_not_lsystem (hform : p.form? ≠ some .lsystem) :
    p.inspect limit = p.generate >>= fun m => pure ⟨p.id, p.label, .column (.of m)⟩ := by
  rw [inspect, inspectDetail]
  split
  · contradiction
  · rw [bind_assoc]
    simp only [pure_bind]

/-- An L-system within the limit is inspected as it is generated. -/
theorem inspect_matches_generate_of_lsystem (hform : p.form? = some .lsystem)
    (h : p.exceeds limit = false) :
    ((p.inspect limit).run policy).Matches (Inspection.Entry.Describes policy p)
      (p.generate.run policy) := by
  have hgenerate : p.generate = p.table >>= fun t => p.growth >>= fun g =>
      pure (t.deriveTimes g.2 g.1) >>= fun symbols => p.points symbols >>= p.shell := by
    rw [generate, hform]
    simp only [ring, symbols, bind_assoc]
  -- Table and growth come first on both sides; only then does the inspection look at the limit.
  rw [inspect_eq_of_lsystem hform, hgenerate]
  refine matches_bind_left fun t ht => matches_bind_left fun g hg => ?_
  have hwithin : outgrows (t.growth g.2 g.1) limit = false :=
    (exceeds_eq_outgrows hform ht hg).symm.trans h
  rw [hwithin, if_neg Bool.false_ne_true, symbols_eq_pure hg t, pure_bind, pure_bind, bind_assoc]
  refine matches_bind_left fun ring hring => ?_
  rw [bind_assoc]
  simp only [pure_bind]
  refine matches_map fun m _ => ⟨rfl, rfl, Inspection.Detail.shows_of_mesh? rfl, fun _ => ?_⟩
  have hcross : (p.crossSection.run policy).result = .ok ring := by
    rw [crossSection, hform]
    refine result_bind_eq_ok_iff.2 ⟨t, ht, result_bind_eq_ok_iff.2 ⟨_, ?_, hring⟩⟩
    rw [symbols_eq_pure hg t]
    rfl
  exact ⟨ring, hcross, rfl⟩

/-- A pillar within the limit is inspected as it is generated. -/
theorem inspect_matches_generate (h : p.exceeds limit = false) :
    ((p.inspect limit).run policy).Matches (Inspection.Entry.Describes policy p)
      (p.generate.run policy) := by
  by_cases hform : p.form? = some .lsystem
  · exact inspect_matches_generate_of_lsystem hform h
  · rw [inspect_eq_of_not_lsystem hform]
    exact matches_map fun m _ =>
      ⟨rfl, rfl, Inspection.Detail.shows_of_mesh? rfl, fun hlsystem => absurd hlsystem hform⟩

theorem form?_of_exceeds (h : p.exceeds limit = true) : p.form? = some .lsystem :=
  of_decide_eq_true (Bool.and_eq_true_iff.1 h).1

/-- Where the string of a pillar exceeds a limit, there is a growth to be found. -/
theorem exists_growth_of_exceeds (h : p.exceeds limit = true) (policy : Policy) :
    ∃ g, (p.growth.run policy).result = .ok g := by
  obtain ⟨symbols, hstring, _⟩ := (Option.any_eq_true _ _).1 (Bool.and_eq_true_iff.1 h).2
  rw [string?] at hstring
  obtain ⟨t, _, hstring⟩ := Option.bind_eq_some_iff.1 hstring
  obtain ⟨seed, hseed, hstring⟩ := Option.bind_eq_some_iff.1 hstring
  obtain ⟨iterations, hiterations, hstring⟩ := Option.bind_eq_some_iff.1 hstring
  rw [Production.Table.expand] at hstring
  cases hrounds : Production.roundsOf iterations with
  | error fault =>
    rw [hrounds] at hstring
    cases hstring
  | ok rounds =>
    exact ⟨_, result_growth_eq_ok_iff.2 ⟨iterations, seed, hiterations, hseed, hrounds, rfl⟩⟩

/-- Nothing of a pillar beyond the limit is looked at but its table of rules. -/
theorem inspect_matches_table (h : p.exceeds limit = true) :
    ((p.inspect limit).run policy).Matches (Inspection.Entry.Skips p) (p.table.run policy) := by
  have hform := form?_of_exceeds h
  obtain ⟨g, hg⟩ := exists_growth_of_exceeds h policy
  rw [inspect_eq_of_lsystem hform]
  refine matches_first fun t ht => ?_
  have hbeyond : outgrows (t.growth g.2 g.1) limit = true :=
    (exceeds_eq_outgrows hform ht hg).symm.trans h
  rw [growth_eq_pure hg, Report.pure_bind, if_pos hbeyond, Report.pure_bind]
  obtain ⟨seed, rounds⟩ := g
  obtain ⟨iterations, text, hiterations, htext, hrounds, rfl⟩ := result_growth_eq_ok_iff.1 hg
  refine matches_pure ⟨text, iterations, _, htext, hiterations, ?_, rfl, rfl⟩
  rw [Production.Table.lengths, hrounds]
  rfl

/-- A pillar beyond the limit warns of repeated rules alone. -/
theorem code_of_mem_warnings_inspect (h : p.exceeds limit = true) {w : Warning}
    (hw : w ∈ ((p.inspect limit).run policy).warnings) : w.code = .duplicateRuleSymbol := by
  rw [(inspect_matches_table h).warnings] at hw
  exact code_of_mem_warnings_table hw

end Pillar

/-! ## Totals -/

namespace Spec

variable {policy : Policy} {limit : Int}

/-- Reports on some pillars count the pillars beyond the limit as skipped, and the vertices and
triangles of the others. -/
theorem totals_of_forall₂ {ps : List Pillar} {entries : List Inspection.Entry}
    (h : List.Forall₂ (fun p e => ((p.inspect limit).run policy).result = .ok e) ps entries)
    (version : Loose) (count : Nat) :
    ∃ meshes, List.Forall₂ (fun p m => (p.generate.run policy).result = .ok m)
        (ps.filter fun p => !p.exceeds limit) meshes ∧
      (Inspection.mk version count entries).vertexTotal = (meshes.map Mesh.vertexCount).sum ∧
      (Inspection.mk version count entries).triangleTotal =
        (meshes.map Mesh.triangleCount).sum ∧
      (Inspection.mk version count entries).skippedTotal =
        ps.countP fun p => p.exceeds limit := by
  induction h with
  | nil => exact ⟨[], .nil, rfl, rfl, rfl⟩
  | @cons p e ps entries he _ ih =>
    obtain ⟨meshes, hmeshes, hvertices, htriangles, hskipped⟩ := ih
    -- Each report is of one of the two kinds, and the limit says of which.
    cases hexceeds : p.exceeds limit with
    | true =>
      obtain ⟨t, _, _, _, _, _, _, _, hdetail, _⟩ :=
        (Pillar.inspect_matches_table hexceeds).exists_of_ok he
      refine ⟨meshes, ?_, ?_, ?_, ?_⟩
      · rw [List.filter_cons_of_neg (by simp [hexceeds])]
        exact hmeshes
      · rw [← hvertices]
        simp [Inspection.vertexTotal, hdetail, Inspection.Detail.mesh?]
      · rw [← htriangles]
        simp [Inspection.triangleTotal, hdetail, Inspection.Detail.mesh?]
      · rw [List.countP_cons, ← hskipped]
        simp [Inspection.skippedTotal, hexceeds, hdetail, Inspection.Detail.isSkipped,
          Inspection.Detail.mesh?]
    | false =>
      obtain ⟨m, hm, hdescribes⟩ := (Pillar.inspect_matches_generate hexceeds).exists_of_ok he
      have hsummary := hdescribes.mesh.summary
      refine ⟨m :: meshes, ?_, ?_, ?_, ?_⟩
      · rw [List.filter_cons_of_pos (by simp [hexceeds])]
        exact .cons hm hmeshes
      · rw [List.map_cons, List.sum_cons, ← hvertices]
        simp [Inspection.vertexTotal, hsummary, Inspection.MeshSummary.of]
      · rw [List.map_cons, List.sum_cons, ← htriangles]
        simp [Inspection.triangleTotal, hsummary, Inspection.MeshSummary.of]
      · rw [List.countP_cons, ← hskipped]
        simp [Inspection.skippedTotal, hexceeds, hsummary, Inspection.Detail.isSkipped]

/-- Inspection agrees with generation.  A pillar within the limit is inspected as it is generated,
warning for warning and fault for fault, and the report describes the mesh.  A pillar beyond it is
reported by the predicted lengths of its string alone, and only its rules are warned of.  The totals
are those of the selected pillars within the limit, and the selected pillars beyond it are counted
as skipped. -/
theorem inspect_agrees_with_generate (policy : Policy) (limit : Int) :
    (∀ p : Pillar, p.exceeds limit = false →
      ((p.inspect limit).run policy).Matches (Inspection.Entry.Describes policy p)
        (p.generate.run policy)) ∧
    (∀ p : Pillar, p.exceeds limit = true →
      ((p.inspect limit).run policy).Matches (Inspection.Entry.Skips p) (p.table.run policy) ∧
      ∀ w ∈ ((p.inspect limit).run policy).warnings, w.code = .duplicateRuleSymbol) ∧
    ∀ (s : Spec) (selection : Option (List Loose)) (i : Inspection),
      ((s.inspect selection limit).run policy).result = .ok i →
      ∃ meshes, List.Forall₂ (fun p m => (p.generate.run policy).result = .ok m)
          (s.pillars.filter fun p => isSelected selection p.id && !p.exceeds limit) meshes ∧
        i.vertexTotal = (meshes.map Mesh.vertexCount).sum ∧
        i.triangleTotal = (meshes.map Mesh.triangleCount).sum ∧
        i.skippedTotal =
          s.pillars.countP fun p => isSelected selection p.id && p.exceeds limit := by
  refine ⟨fun p h => p.inspect_matches_generate h, fun p h => ⟨p.inspect_matches_table h, ?_⟩, ?_⟩
  · exact fun w hw => p.code_of_mem_warnings_inspect h hw
  · intro s selection i hi
    obtain ⟨entries, hentries, hpure⟩ := result_bind_eq_ok_iff.1 hi
    cases result_pure_eq_ok_iff.1 hpure
    obtain ⟨meshes, hmeshes, htotals⟩ :=
      totals_of_forall₂ (forall₂_of_result_traverse hentries) s.version s.pillars.length
    rw [List.filter_filter] at hmeshes
    rw [List.countP_filter] at htotals
    refine ⟨meshes, ?_, ?_⟩
    · simpa only [Bool.and_comm] using hmeshes
    · simpa only [Bool.and_comm] using htotals

/-- A pillar whose string of four symbols comes from rules that repeat a symbol. -/
def doubled : Pillar :=
  { label := "lsystem", id := "a", seed := some "F", rules := some [⟨"F", "FF"⟩, ⟨"F", ""⟩]
    iterations := some 2, angle := some 90.0, segmentLength := some 1.0, thickness := some 0.1 }

/-- The same pillar before the first round. -/
def seedling : Pillar := { doubled with id := "b", iterations := some 0 }

/-- A column of three segments. -/
def prism : Pillar :=
  { label := "fluted", id := "c", radius := some 1.0, segments := some 3, flutes := some 8
    fluteDepth := some 0.1 }

/-- A column, a string of four symbols and a string of one, with a limit of three symbols. -/
theorem inspect_agrees_with_generate_mixed :
    (seedling.exceeds 3 = false ∧ ((seedling.inspect 3).run .permissive).Matches
      (Inspection.Entry.Describes .permissive seedling) (seedling.generate.run .permissive)) ∧
    (doubled.exceeds 3 = true ∧ ((doubled.inspect 3).run .permissive).Matches
      (Inspection.Entry.Skips doubled) (doubled.table.run .permissive)) ∧
    ∃ i, ((inspect ⟨"1.0", none, [prism, doubled, seedling]⟩ none 3).run .permissive).result =
        .ok i ∧ i.skippedTotal = 1 ∧
      ∃ meshes, List.Forall₂ (fun p m => (p.generate.run .permissive).result = .ok m)
          [prism, seedling] meshes ∧ i.vertexTotal = (meshes.map Mesh.vertexCount).sum := by
  obtain ⟨hwithin, hbeyond, htotals⟩ := inspect_agrees_with_generate .permissive 3
  have hseedling : seedling.exceeds 3 = false := by decide
  have hdoubled : doubled.exceeds 3 = true := by decide
  obtain ⟨m, hm⟩ : ∃ m, (prism.generate.run .permissive).result = .ok m := ⟨_, by rfl⟩
  have hcolumn : ((prism.inspect 3).run .permissive).result =
      .ok ⟨"c", "fluted", .column (.of m)⟩ :=
    result_bind_eq_ok_iff.2 ⟨_, result_bind_eq_ok_iff.2 ⟨m, hm, rfl⟩, rfl⟩
  have hskipped : ((doubled.inspect 3).run .permissive).result =
      .ok ⟨"a", "lsystem", .skipped [1, 2, 4]⟩ := by rfl
  obtain ⟨e, he⟩ : ∃ e, ((seedling.inspect 3).run .permissive).result = .ok e := ⟨_, by rfl⟩
  have hentries : ((Report.traverse (fun p : Pillar => p.inspect 3) [prism, doubled, seedling]).run
      .permissive).result = .ok [⟨"c", "fluted", .column (.of m)⟩,
        ⟨"a", "lsystem", .skipped [1, 2, 4]⟩, e] :=
    result_traverse_eq_ok_iff.2 (.cons hcolumn (.cons hskipped (.cons he .nil)))
  have hinspect : ((inspect ⟨"1.0", none, [prism, doubled, seedling]⟩ none 3).run
      .permissive).result = .ok _ := result_bind_eq_ok_iff.2 ⟨_, hentries, rfl⟩
  obtain ⟨meshes, hmeshes, hvertices, _, hcount⟩ := htotals _ none _ hinspect
  exact ⟨⟨hseedling, hwithin _ hseedling⟩, ⟨hdoubled, (hbeyond _ hdoubled).1⟩,
    _, hinspect, hcount, meshes, hmeshes, hvertices⟩

end Spec

end Colonnade
