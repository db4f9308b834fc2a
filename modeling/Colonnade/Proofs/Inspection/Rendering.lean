import Mathlib.Algebra.Order.BigOperators.Group.List
import Mathlib.Algebra.Order.Group.Nat
import Colonnade.Proofs.Inspection.Text
import Colonnade.Proofs.Spec.Counts

/-!
# Inspections as text

The text of an inspection has a block of lines for every selected pillar, and a block ends in one of
three ways (`Inspection.IsBlock`): the mesh was skipped, it is empty, or it has bounds.  Which of
them it is follows from the pillar: from the limit and from the mesh that is generated.  So an
inspection is first taken back to the pillars (`Pillar.isOf_of_inspect`), and then each report is
read off the block that it becomes.

There is such a text exactly if the numbers in it can be written.  The sizes of meshes are no
hindrance, since a mesh is numbered by words (`Spec.totals_lt`).  The predicted lengths of a string
are: they grow by a factor from round to round, and nothing keeps them small where the mesh is
skipped (`Spec.not_rendered_towering`).
-/

namespace Colonnade

open Text (CodePoint Loose)

open Report

/-! ## Growth by a factor -/

/-- A symbol that only multiplies itself grows by the same factor from round to round. -/
theorem Production.Table.deriveTimes_replicate {t : Table} {c : CodePoint} {k : Nat}
    (h : t.image c = List.replicate k c) (rounds m : Nat) :
    t.deriveTimes rounds (List.replicate m c) = List.replicate (m * k ^ rounds) c := by
  induction rounds generalizing m with
  | zero => rw [deriveTimes, Nat.pow_zero, Nat.mul_one]
  | succ rounds ih =>
    have hround : t.derive (List.replicate m c) = List.replicate (m * k) c := by
      rw [derive, List.flatMap_replicate, h, List.flatten_replicate_replicate]
    rw [deriveTimes, hround, ih, Nat.pow_succ', Nat.mul_assoc]

namespace Inspection

/-! ## Reports and pillars -/

/-- What is reported on a pillar. -/
inductive Detail.IsOf (policy : Policy) (limit : Int) (p : Pillar) : Detail → Prop
  /-- Its string is beyond the limit. -/
  | skipped {lengths : List Nat} (beyond : p.exceeds limit = true) :
    IsOf policy limit p (.skipped lengths)
  /-- An L-system with its cross-section and its mesh. -/
  | walked {lengths : List Nat} {ring : List Point} {m : Mesh} (within : p.exceeds limit = false)
    (ring_eq : (p.crossSection.run policy).result = .ok ring)
    (shell_eq : ((p.shell ring).run policy).result = .ok m)
    (mesh_eq : (p.generate.run policy).result = .ok m) :
    IsOf policy limit p (.walked lengths ring.length (.of m))
  /-- A column with its mesh. -/
  | column {m : Mesh} (within : p.exceeds limit = false) (form : p.form? ≠ some .lsystem)
    (mesh_eq : (p.generate.run policy).result = .ok m) : IsOf policy limit p (.column (.of m))

end Inspection

namespace Pillar

variable {p : Pillar} {policy : Policy} {limit : Int}

/-- Everything that an inspection of a pillar can return. -/
theorem isOf_of_inspect {e : Inspection.Entry}
    (h : ((p.inspect limit).run policy).result = .ok e) :
    e.id = p.id ∧ e.label = p.label ∧ e.detail.IsOf policy limit p := by
  by_cases hform : p.form? = some .lsystem
  · rw [inspect_eq_of_lsystem hform] at h
    obtain ⟨t, ht, h⟩ := result_bind_eq_ok_iff.1 h
    obtain ⟨g, hg, h⟩ := result_bind_eq_ok_iff.1 h
    obtain ⟨detail, hdetail, h⟩ := result_bind_eq_ok_iff.1 h
    cases result_pure_eq_ok_iff.1 h
    have hguard : p.exceeds limit = outgrows (t.growth g.2 g.1) limit :=
      exceeds_eq_outgrows hform ht hg
    refine ⟨rfl, rfl, ?_⟩
    -- The program compares the limit with the growth, and the growth ends as the string does.
    split at hdetail
    · rename_i hbeyond
      cases result_pure_eq_ok_iff.1 hdetail
      exact .skipped (hguard.trans hbeyond)
    · rename_i hwithin
      obtain ⟨symbols, hsymbols, hdetail⟩ := result_bind_eq_ok_iff.1 hdetail
      obtain ⟨ring, hpoints, hdetail⟩ := result_bind_eq_ok_iff.1 hdetail
      obtain ⟨m, hshell, hdetail⟩ := result_bind_eq_ok_iff.1 hdetail
      cases result_pure_eq_ok_iff.1 hdetail
      have hring : (p.ring.run policy).result = .ok ring :=
        result_bind_eq_ok_iff.2 ⟨t, ht, result_bind_eq_ok_iff.2 ⟨symbols, hsymbols, hpoints⟩⟩
      refine .walked (hguard.trans (Bool.eq_false_iff.2 hwithin)) ?_ hshell ?_
      · rw [crossSection, hform]
        exact hring
      · rw [generate, hform]
        exact result_bind_eq_ok_iff.2 ⟨ring, hring, hshell⟩
  · rw [inspect_eq_of_not_lsystem hform] at h
    obtain ⟨m, hm, h⟩ := result_bind_eq_ok_iff.1 h
    cases result_pure_eq_ok_iff.1 h
    have hwithin : p.exceeds limit = false := by rw [exceeds, decide_eq_false hform, Bool.false_and]
    exact ⟨rfl, rfl, .column hwithin hform hm⟩

/-! ## Sizes -/

/-- A shell that can be numbered by words is not large. -/
theorem counts_of_shell {ring : List Point} {m : Mesh}
    (h : ((p.shell ring).run policy).result = .ok m) :
    ring.length ≤ 2 ^ 33 ∧ m.vertexCount ≤ 2 ^ 33 ∧ m.triangleCount ≤ 2 ^ 33 := by
  rcases shell_eq_ok h with ⟨hfew, rfl⟩ | ⟨hmany, hword, thickness, rfl⟩
  · exact ⟨by omega, Nat.zero_le _, Nat.zero_le _⟩
  · have htriangles : (Shell.mesh ring p.height thickness).triangleCount = 8 * ring.length :=
      Shell.length_triangles _
    rw [Shell.vertexCount_mesh] at hword ⊢
    omega

/-- So is a column. -/
theorem counts_of_fluted {m : Mesh} (hform : p.form? ≠ some .lsystem)
    (h : (p.generate.run policy).result = .ok m) :
    m.vertexCount ≤ 2 ^ 33 ∧ m.triangleCount ≤ 2 ^ 33 := by
  rw [generate] at h
  split at h
  · contradiction
  · obtain ⟨segments, _, _, hword, ring, hring, rfl⟩ := column_eq_ok h
    have htriangles : (Column.mesh ring p.height segments.toNat).triangleCount =
        2 * segments.toNat := Column.length_triangles _
    rw [Column.vertexCount_mesh] at hword ⊢
    omega
  · exact absurd h result_fail_ne_ok

end Pillar

namespace Inspection

variable {p : Pillar} {policy : Policy} {limit : Int}

/-- So what is counted in a report is not large. -/
theorem Detail.IsOf.counts_le {d : Detail} (h : d.IsOf policy limit p) :
    ∀ n ∈ d.counts, n ≤ 2 ^ 33 := by
  cases h with
  | skipped => exact fun n hn => absurd hn List.not_mem_nil
  | walked _ _ hshell _ =>
    obtain ⟨hring, hvertices, htriangles⟩ := Pillar.counts_of_shell hshell
    simpa [counts, MeshSummary.of] using ⟨hring, hvertices, htriangles⟩
  | column _ hform hm => simpa [counts, MeshSummary.of] using Pillar.counts_of_fluted hform hm

/-! ## Blocks of lines -/

/-- The lines on the walk of a pillar, before those on its mesh. -/
inductive IsWalk (policy : Policy) (p : Pillar) (lengths : List Nat) : List Loose → Prop
  /-- A column has none. -/
  | column (form : p.form? ≠ some .lsystem) : IsWalk policy p lengths []
  /-- An L-system has its growth and the size of its cross-section. -/
  | lsystem {ring : List Point} (ring_eq : (p.crossSection.run policy).result = .ok ring) :
    IsWalk policy p lengths
      [growthLine lengths, countLine "    " "cross_section_points" ring.length]

/-- The block of lines on a pillar.  It ends in one of three forms. -/
inductive IsBlock (policy : Policy) (limit : Int) (p : Pillar) (lengths : List Nat) :
    List Loose → Prop
  /-- The string of the pillar is beyond the limit. -/
  | skipped (beyond : p.exceeds limit = true) : IsBlock policy limit p lengths
      (openingLines p.id p.label ++ [growthLine lengths, skippedMark])
  /-- Its mesh is empty. -/
  | empty {walk : List Loose} {m : Mesh} (within : p.exceeds limit = false)
    (mesh_eq : (p.generate.run policy).result = .ok m) (empty : m.isEmpty = true)
    (walk_eq : IsWalk policy p lengths walk) : IsBlock policy limit p lengths
      (openingLines p.id p.label ++ walk ++
        [Loose.ofText "    vertex_count: 0", Loose.ofText "    triangle_count: 0",
          Loose.ofText "    empty: true"])
  /-- It has a mesh. -/
  | meshed {walk : List Loose} {m : Mesh} {b : Bounds} (within : p.exceeds limit = false)
    (mesh_eq : (p.generate.run policy).result = .ok m) (bounds : m.bounds? = some b)
    (walk_eq : IsWalk policy p lengths walk) : IsBlock policy limit p lengths
      (openingLines p.id p.label ++ walk ++
        [countLine "    " "vertex_count" m.vertexCount,
          countLine "    " "triangle_count" m.triangleCount, cornerLine "min" b.low,
          cornerLine "max" b.high])

/-- A mesh without vertices has no triangles either. -/
theorem ending_of_isEmpty {m : Mesh} (hsound : m.IsSound) (h : m.isEmpty = true) :
    (MeshSummary.of m).ending =
      [Loose.ofText "    vertex_count: 0", Loose.ofText "    triangle_count: 0",
        Loose.ofText "    empty: true"] := by
  have hvertices : m.vertexCount = 0 := by simpa [Mesh.isEmpty] using h
  have htriangles : m.triangleCount = 0 := by
    have hnone : m.indices = [] := List.eq_nil_iff_forall_not_mem.2 fun c hc =>
      absurd (hsound.corner_lt c hc) (by omega)
    have hlength := m.length_indices
    rw [hnone, List.length_nil] at hlength
    omega
  have hbounds : m.bounds? = none := by
    rw [← Option.isNone_iff_eq_none, isNone_bounds?, h]
  rw [MeshSummary.ending, MeshSummary.of, hvertices, htriangles, hbounds]
  rfl

/-- The mesh decides between the two forms without a mark. -/
theorem isBlock_of_mesh {lengths : List Nat} {walk : List Loose} {m : Mesh}
    (hwithin : p.exceeds limit = false) (hm : (p.generate.run policy).result = .ok m)
    (hwalk : IsWalk policy p lengths walk) : IsBlock policy limit p lengths
      (openingLines p.id p.label ++ walk ++ (MeshSummary.of m).ending) := by
  have hempty := isNone_bounds? m
  cases hbounds : m.bounds? with
  | none =>
    rw [hbounds] at hempty
    rw [ending_of_isEmpty (Pillar.isSound_of_generate hm) hempty.symm]
    exact .empty hwithin hm hempty.symm hwalk
  | some b =>
    have hending : (MeshSummary.of m).ending = [countLine "    " "vertex_count" m.vertexCount,
        countLine "    " "triangle_count" m.triangleCount, cornerLine "min" b.low,
        cornerLine "max" b.high] := by
      rw [MeshSummary.ending, MeshSummary.of, hbounds]
      rfl
    rw [hending]
    exact .meshed hwithin hm hbounds hwalk

/-- A report that an inspection returns becomes a block of one of the three forms. -/
theorem isBlock_of_inspect {e : Entry} (h : ((p.inspect limit).run policy).result = .ok e) :
    IsBlock policy limit p e.detail.lengths e.block := by
  obtain ⟨hid, hlabel, hdetail⟩ := Pillar.isOf_of_inspect h
  obtain ⟨id, label, detail⟩ := e
  subst hid hlabel
  cases hdetail with
  | skipped hbeyond => exact .skipped hbeyond
  | walked hwithin hring _ hm => exact isBlock_of_mesh hwithin hm (.lsystem hring)
  | column hwithin hform hm => exact isBlock_of_mesh hwithin hm (.column hform)

end Inspection

namespace Spec

variable {s : Spec} {selection : Option (List Loose)} {policy : Policy} {limit : Int}
  {i : Inspection}

/-! ## Numbers that can be written -/

/-- A report in an inspection counts no more than words can number. -/
theorem counts_le_of_mem (h : ((s.inspect selection limit).run policy).result = .ok i)
    {e : Inspection.Entry} (he : e ∈ i.entries) : ∀ n ∈ e.detail.counts, n ≤ 2 ^ 33 := by
  obtain ⟨_, _, hentries⟩ := result_inspect_eq_ok_iff.1 h
  obtain ⟨p, hp⟩ := exists_forall₂_iff.1 ⟨_, hentries.flip⟩ e he
  obtain ⟨_, _, hdetail⟩ := Pillar.isOf_of_inspect hp
  exact hdetail.counts_le

/-- The totals over no more pillars than can be held are not large. -/
theorem totals_lt (h : ((s.inspect selection limit).run policy).result = .ok i)
    (hheld : s.pillars.length < 2 ^ 64) : ∀ n ∈ i.totals, n < 2 ^ 97 := by
  obtain ⟨_, hcount, hentries⟩ := result_inspect_eq_ok_iff.1 h
  have hlength : i.entries.length < 2 ^ 64 := by
    rw [← hentries.length_eq]
    exact Nat.lt_of_le_of_lt (List.length_filter_le _ _) hheld
  have hsum (number : Inspection.MeshSummary → Nat)
      (hnumber : ∀ d : Inspection.Detail, ∀ m, d.mesh? = some m → number m ∈ d.counts) :
      ((i.entries.map fun e => (e.detail.mesh?.map number).getD 0).foldr (· + ·) 0) < 2 ^ 97 := by
    have hle := List.sum_le_card_nsmul (i.entries.map fun e => (e.detail.mesh?.map number).getD 0)
      (2 ^ 33) fun n hn => by
        obtain ⟨e, he, rfl⟩ := List.mem_map.1 hn
        cases hmesh : e.detail.mesh? with
        | none => exact Nat.zero_le _
        | some m => exact counts_le_of_mem h he _ (hnumber _ m hmesh)
    rw [List.length_map, smul_eq_mul, List.sum] at hle
    omega
  have hvertices : i.vertexTotal < 2 ^ 97 := hsum _ fun d m hd => by
    cases d <;> cases hd <;> simp [Inspection.Detail.counts]
  have htriangles : i.triangleTotal < 2 ^ 97 := hsum _ fun d m hd => by
    cases d <;> cases hd <;> simp [Inspection.Detail.counts]
  have hskipped : i.skippedTotal ≤ i.entries.length := List.countP_le_length
  intro n hn
  simp only [Inspection.totals, List.mem_cons, List.not_mem_nil, or_false] at hn
  omega

/-- Of the numbers in the text of an inspection, only those of a growth can be too large. -/
theorem isTooLarge_numbers_iff (h : ((s.inspect selection limit).run policy).result = .ok i)
    (hheld : s.pillars.length < 2 ^ 64) :
    (∀ n ∈ i.numbers, Number.isTooLarge n = false) ↔
      ∀ e ∈ i.entries, ∀ n ∈ e.detail.lengths, Number.isTooLarge n = false := by
  have hsmall (n : Nat) (hn : n < 2 ^ 97) : Number.isTooLarge n = false :=
    Number.isTooLarge_of_lt 30 (by decide) (Nat.lt_trans hn (by decide))
  constructor
  · intro hall e he n hn
    refine hall n (List.mem_append_right _ (List.mem_flatMap.2 ⟨e, he, ?_⟩))
    exact List.mem_append_left _ hn
  · intro hlengths n hn
    rcases List.mem_append.1 hn with hn | hn
    · exact hsmall n (totals_lt h hheld n hn)
    · obtain ⟨e, he, hn⟩ := List.mem_flatMap.1 hn
      rcases List.mem_append.1 hn with hn | hn
      · exact hlengths e he n hn
      · have hle := counts_le_of_mem h he n hn
        exact hsmall n (by omega)

/-! ## Rendering -/

/-- Whatever an inspection returns has all the members that its text needs, and the text can be made
exactly if the numbers in it can be written.  That is so unless a predicted length is too large.

The text has a block for every selected pillar, in order.  A block ends in one of three forms: the
pillar is beyond the limit, its mesh is empty, or its mesh has bounds.  Skipped pillars are counted
exactly if some block is of the first form. -/
theorem inspect_renders (h : ((s.inspect selection limit).run policy).result = .ok i) :
    (∀ name, Inspection.render i.toJson ≠ .error (.missing name)) ∧
    ((∃ text, Inspection.render i.toJson = .ok text) ↔
      ∀ n ∈ i.numbers, Number.isTooLarge n = false) ∧
    (s.pillars.length < 2 ^ 64 → ((∃ text, Inspection.render i.toJson = .ok text) ↔
      ∀ e ∈ i.entries, ∀ n ∈ e.detail.lengths, Number.isTooLarge n = false)) ∧
    (∀ text, Inspection.render i.toJson = .ok text →
      text = (i.textLines.map (· ++ Loose.ofText "\n")).flatten) ∧
    List.Forall₂ (fun p e => Inspection.IsBlock policy limit p e.detail.lengths e.block)
      (s.pillars.filter fun p => isSelected selection p.id) i.entries ∧
    ((∃ n, Inspection.skippedLine n ∈ i.totalLines) ↔
      ∃ e ∈ i.entries, e.block.getLast? = some Inspection.skippedMark) := by
  have htext : (∃ text, Inspection.render i.toJson = .ok text) ↔
      ∀ n ∈ i.numbers, Number.isTooLarge n = false := by
    simp only [Inspection.render_toJson, Inspection.written_eq_ok_iff, exists_eq_left']
  obtain ⟨_, _, hentries⟩ := result_inspect_eq_ok_iff.1 h
  refine ⟨fun name => ?_, htext, fun hheld => ?_, fun text hrender => ?_, ?_, ?_⟩
  · rw [Inspection.render_toJson]
    exact Inspection.written_ne_missing name
  · rw [htext, isTooLarge_numbers_iff h hheld]
  · rw [Inspection.render_toJson, Inspection.written_eq_ok_iff] at hrender
    exact hrender.1.symm
  · exact hentries.imp fun p e he => Inspection.isBlock_of_inspect he
  · exact i.exists_skippedLine_mem_iff

/-- The text for a column, a string of four symbols and a string of one, with a limit of three
symbols. -/
theorem inspect_renders_mixed :
    ∃ i text, ((inspect ⟨"1.0", none, [prism, doubled, seedling]⟩ none 3).run .permissive).result =
        .ok i ∧ Inspection.render i.toJson = .ok text ∧
      List.Forall₂ (fun p e => Inspection.IsBlock .permissive 3 p e.detail.lengths e.block)
        [prism, doubled, seedling] i.entries ∧
      ∃ n, Inspection.skippedLine n ∈ i.totalLines := by
  obtain ⟨m, hm⟩ : ∃ m, (prism.generate.run .permissive).result = .ok m := ⟨_, by rfl⟩
  have hcolumn : ((prism.inspect 3).run .permissive).result =
      .ok ⟨"c", "fluted", .column (.of m)⟩ :=
    result_bind_eq_ok_iff.2 ⟨_, result_bind_eq_ok_iff.2 ⟨m, hm, rfl⟩, rfl⟩
  have hskipped : ((doubled.inspect 3).run .permissive).result =
      .ok ⟨"a", "lsystem", .skipped [1, 2, 4]⟩ := by rfl
  obtain ⟨e, he, hlengths⟩ : ∃ e, ((seedling.inspect 3).run .permissive).result = .ok e ∧
      e.detail.lengths = [1] := ⟨_, by rfl, rfl⟩
  have hinspect : ((inspect ⟨"1.0", none, [prism, doubled, seedling]⟩ none 3).run
      .permissive).result = .ok ⟨"1.0", 3, [⟨"c", "fluted", .column (.of m)⟩,
        ⟨"a", "lsystem", .skipped [1, 2, 4]⟩, e]⟩ :=
    result_inspect_eq_ok_iff.2 ⟨rfl, rfl, .cons hcolumn (.cons hskipped (.cons he .nil))⟩
  obtain ⟨_, _, hrendered, _, hblocks, hcounted⟩ := inspect_renders hinspect
  have hsmall (n : Nat) (hn : n < 10) : Number.isTooLarge n = false :=
    Number.isTooLarge_of_lt 1 (by decide) hn
  obtain ⟨text, htext⟩ := (hrendered (by decide)).2 fun entry hentry n hn => by
    simp only [List.mem_cons, List.not_mem_nil, or_false] at hentry
    rcases hentry with rfl | rfl | rfl
    · exact absurd hn List.not_mem_nil
    · exact hsmall n (by simp [Inspection.Detail.lengths] at hn; omega)
    · exact hsmall n (by simp [hlengths] at hn; omega)
  exact ⟨_, text, hinspect, htext, hblocks,
    hcounted.2 ⟨_, List.mem_cons_of_mem _ List.mem_cons_self, rfl⟩⟩

/-- A pillar whose string becomes ten times as long in every round. -/
def towering (rounds : Nat) : Pillar :=
  { seedling with id := "t", rules := some [⟨"F", "FFFFFFFFFF"⟩], iterations := some rounds }

/-- After seven rounds it is beyond the usual limit, so only the predicted lengths are reported. -/
theorem inspect_towering (rounds : Nat) (h : 7 ≤ rounds) :
    ∃ lengths, (((towering rounds).inspect Inspection.defaultLimit).run .permissive).result =
      .ok ⟨"t", "lsystem", .skipped lengths⟩ ∧ 10 ^ rounds ∈ lengths := by
  obtain ⟨t, ht, himage⟩ : ∃ t, ((towering rounds).table.run .permissive).result = .ok t ∧
      t.image (.char 'F') = List.replicate 10 (.char 'F') := ⟨_, rfl, rfl⟩
  have hgrowth : ((towering rounds).growth.run .permissive).result = .ok (['F'], rounds) :=
    Pillar.result_growth_eq_ok_iff.2 ⟨rounds, "F", rfl, rfl, Production.roundsOf_natCast rounds, rfl⟩
  have hlast : (t.deriveTimes rounds [.char 'F']).length = 10 ^ rounds := by
    have hseed : [CodePoint.char 'F'] = List.replicate 1 (.char 'F') := rfl
    rw [hseed, Production.Table.deriveTimes_replicate himage, List.length_replicate, Nat.one_mul]
  have hbeyond : Pillar.outgrows (t.growth rounds ['F']) Inspection.defaultLimit = true := by
    have hpow : 10 ^ 7 ≤ 10 ^ rounds := Nat.pow_le_pow_right (by decide) h
    rw [Pillar.outgrows_growth, hlast]
    exact decide_eq_true (by rw [Inspection.defaultLimit]; omega)
  refine ⟨t.growth rounds ['F'], ?_, ?_⟩
  · rw [Pillar.inspect_eq_of_lsystem rfl]
    refine result_bind_eq_ok_iff.2 ⟨t, ht, result_bind_eq_ok_iff.2 ⟨_, hgrowth, ?_⟩⟩
    rw [if_pos hbeyond]
    rfl
  · rw [Production.Table.growth_eq_map_length]
    exact List.mem_map.2 ⟨rounds, List.mem_range.2 (Nat.lt_succ_self rounds), hlast⟩

/-- A predicted length of more than 4300 digits is reported, but there is no text for it. -/
theorem not_rendered_towering :
    ∃ i, ((inspect ⟨"0.2", some "meters", [towering 4300]⟩ none Inspection.defaultLimit).run
        .permissive).result = .ok i ∧ Inspection.render i.toJson = .error .tooLarge := by
  have hlarge (rounds : Nat) (h : Number.digitLimit ≤ rounds) :
      Number.isTooLarge ((10 ^ rounds : Nat) : Int) = true := by
    refine Number.isTooLarge_of_le rounds h ?_
    rw [Int.natAbs_natCast]
    exact Nat.le_refl _
  obtain ⟨lengths, htowering, hmem⟩ := inspect_towering 4300 (by decide)
  refine ⟨⟨"0.2", 1, [⟨"t", "lsystem", .skipped lengths⟩]⟩,
    result_inspect_eq_ok_iff.2 ⟨rfl, rfl, .cons htowering .nil⟩, ?_⟩
  rw [Inspection.render_toJson]
  refine Inspection.written_eq_tooLarge ?_ (hlarge 4300 (by decide))
  refine List.mem_append_right _ (List.mem_append_left _ ?_)
  exact List.mem_append_left _ hmem

end Spec

end Colonnade
