import Colonnade.Inspection.Text
import Colonnade.Proofs.Inspection.Selection

/-!
# The text of an inspection

The text of an inspection is made from its document, and the text of a document may fail in two
ways: a member is missing, or a number has more digits than can be written.  This file follows the
document of an inspection through the text, function by function.  No member is missing.  For each
part there are the lines that it becomes, and the numbers in them that have to be written
(`written`).  Put together, these are `textLines` and `numbers`, and `render_toJson` says that
there is nothing else to the text.
-/

namespace Colonnade

open Text (Loose)

namespace Inspection

/-! ## What can be written -/

/-- Something with numbers in it.  If one of them is too large then it is not written. -/
def written {α : Type} (numbers : List Nat) (a : α) : Except RenderFault α :=
  if numbers.any fun n => Number.isTooLarge n then .error .tooLarge else .ok a

section

variable {α β : Type} {numbers : List Nat} {a c : α}

theorem written_eq_ok_iff :
    written numbers a = .ok c ↔ a = c ∧ ∀ n ∈ numbers, Number.isTooLarge n = false := by
  rw [written]
  split
  · rename_i h
    obtain ⟨n, hn, hlarge⟩ := List.any_eq_true.1 h
    refine iff_of_false (fun h => nomatch h) fun ⟨_, hall⟩ => ?_
    rw [hall n hn] at hlarge
    cases hlarge
  · rename_i h
    rw [Except.ok.injEq]
    exact (and_iff_left (by simpa using h)).symm

theorem written_eq_tooLarge {n : Nat} (hn : n ∈ numbers) (h : Number.isTooLarge n = true) :
    written numbers a = .error .tooLarge := by
  have hlarge : (numbers.any fun n => Number.isTooLarge n) = true :=
    List.any_eq_true.2 ⟨n, hn, h⟩
  rw [written, if_pos hlarge]

theorem written_ne_missing (name : String) : written numbers a ≠ .error (.missing name) := by
  rw [written]
  split <;> simp

theorem ok_bind (next : α → Except RenderFault β) (a : α) :
    (Except.ok a : Except RenderFault α) >>= next = next a := rfl

theorem pure_eq_written (a : α) : (pure a : Except RenderFault α) = written [] a := rfl

theorem map_written (f : α → β) (a : α) :
    (written numbers a).map f = written numbers (f a) := by
  rw [written, written]
  split <;> rfl

/-- Two parts can be written if the numbers of both can. -/
theorem written_bind (more : List Nat) (f : α → β) :
    (written numbers a >>= fun a => written more (f a)) = written (numbers ++ more) (f a) := by
  simp only [written, List.any_append, Bool.or_eq_true]
  cases numbers.any fun n => Number.isTooLarge n <;> simp [bind, Except.bind]

end

/-! ## Single lines -/

theorem inlineText_text (s : Loose) : inlineText (.text s) = .ok s := by
  simp [inlineText, Json.toValue, Document.Value.holdsTooLarge, Document.Value.plainText]

theorem holdsTooLarge_nat (n : Nat) :
    (Json.nat n).toValue.holdsTooLarge = Number.isTooLarge n := by
  rw [Json.nat, Json.toValue, Document.Value.holdsTooLarge]

theorem plainText_nat (n : Nat) :
    (Json.nat n).toValue.plainText = Loose.ofText (toString n) := by
  simp [Json.nat, Json.toValue, Document.Value.plainText, Document.Value.shown]
  rfl

theorem inlineText_nat (n : Nat) :
    inlineText (.nat n) = written [n] (Loose.ofText (toString n)) := by
  rw [inlineText, holdsTooLarge_nat, plainText_nat, written, List.any_cons, List.any_nil,
    Bool.or_false]

theorem inlineTexts_nat (numbers : List Nat) :
    inlineTexts (numbers.map Json.nat) =
      written numbers (numbers.map fun n => Loose.ofText (toString n)) := by
  rw [inlineTexts, written, List.any_map, List.map_map]
  simp only [Function.comp_def, holdsTooLarge_nat, plainText_nat]

theorem namedLine_text (indent name : String) (s : Loose) :
    namedLine indent name (.text s) = .ok (Loose.ofText (indent ++ name ++ ": ") ++ s) := by
  rw [namedLine, inlineText_text]
  rfl

/-- A line for a number. -/
def countLine (indent name : String) (n : Nat) : Loose :=
  Loose.ofText (indent ++ name ++ ": ") ++ Loose.ofText (toString n)

theorem namedLine_nat (indent name : String) (n : Nat) :
    namedLine indent name (.nat n) = written [n] (countLine indent name n) := by
  rw [namedLine, inlineText_nat, map_written]
  rfl

theorem member_eq_ok {name : String} {j value : Json} (h : j.get? name = some value) :
    member name j = .ok value := by
  rw [member, h]

theorem memberLine_eq {name : String} {j value : Json} (h : j.get? name = some value)
    (indent : String) : memberLine indent name j = namedLine indent name value := by
  rw [memberLine, member_eq_ok h]
  rfl

/-- A line for a corner of bounds, with three components. -/
def cornerLine (name : String) (v : Vec3) : Loose :=
  Loose.ofText ("    bounds." ++ name ++ ": ") ++
    (Loose.ofText "[" ++ List.intercalate (Loose.ofText ", ")
      [Number.fixedText 6 v.x, Number.fixedText 6 v.y, Number.fixedText 6 v.z] ++ Loose.ofText "]")

theorem boundLine_eq {name : String} {entry bounds : Json} {v : Vec3}
    (hbounds : entry.get? "bounds" = some bounds)
    (hcorner : bounds.get? name = some (vectorJson v)) :
    boundLine name entry = .ok (cornerLine name v) := by
  rw [boundLine, member_eq_ok hbounds, ok_bind, member_eq_ok hcorner, ok_bind]
  rfl

/-- The line for a growth. -/
def growthLine (lengths : List Nat) : Loose :=
  Loose.ofText "    expansion_lengths: " ++
    List.intercalate (Loose.ofText " -> ") (lengths.map fun n => Loose.ofText (toString n))

theorem growthLines_eq {entry : Json} {lengths : List Nat}
    (h : entry.get? "expansion_lengths" = some (growthJson lengths)) :
    growthLines entry = written lengths [growthLine lengths] := by
  rw [growthLines, h]
  simp only [growthJson, Json.items, inlineTexts_nat, map_written]
  rfl

/-! ## Blocks of lines -/

/-- The lines that a block with a mesh ends in. -/
def MeshSummary.ending (m : MeshSummary) : List Loose :=
  [countLine "    " "vertex_count" m.vertexCount,
    countLine "    " "triangle_count" m.triangleCount] ++
    match m.bounds with
    | none => ["    empty: true"]
    | some b => [cornerLine "min" b.low, cornerLine "max" b.high]

/-- The line that stands for a mesh that was skipped. -/
def skippedMark : Loose := "    mesh_skipped: true"

namespace Detail

/-- The lines for a walk. -/
def walkLines : Detail → List Loose
  | .skipped lengths => [growthLine lengths]
  | .walked lengths points _ => [growthLine lengths, countLine "    " "cross_section_points" points]
  | .column _ => []

/-- The lines that a block ends in. -/
def ending : Detail → List Loose
  | .skipped _ => [skippedMark]
  | .walked _ _ mesh => mesh.ending
  | .column mesh => mesh.ending

/-- How much was built. -/
def counts : Detail → List Nat
  | .skipped _ => []
  | .walked _ points mesh => [points, mesh.vertexCount, mesh.triangleCount]
  | .column mesh => [mesh.vertexCount, mesh.triangleCount]

/-- The numbers in a block. -/
def numbers (d : Detail) : List Nat := d.lengths ++ d.counts

end Detail

/-- The lines that a block starts with. -/
def openingLines (id : Loose) (label : String) : List Loose :=
  [Loose.ofText "  - id: " ++ id, Loose.ofText "    type: " ++ Loose.ofText label]

/-- The block of lines on one pillar. -/
def Entry.block (e : Entry) : List Loose :=
  openingLines e.id e.label ++ e.detail.walkLines ++ e.detail.ending

/-- A document has the members for a mesh. -/
structure MeshSummary.IsIn (m : MeshSummary) (entry : Json) : Prop where
  vertexCount : entry.get? "vertex_count" = some (.nat m.vertexCount)
  triangleCount : entry.get? "triangle_count" = some (.nat m.triangleCount)
  empty : entry.get? "empty" = some (.bool m.bounds.isNone)
  bounds : entry.get? "bounds" = m.bounds.map boundsJson

theorem MeshSummary.IsIn.meshLines_eq {m : MeshSummary} {entry : Json} (h : m.IsIn entry) :
    meshLines entry = written [m.vertexCount, m.triangleCount] m.ending := by
  have hcorners := h.bounds
  rw [meshLines, MeshSummary.ending]
  simp only [memberLine_eq h.vertexCount, memberLine_eq h.triangleCount, namedLine_nat,
    member_eq_ok h.empty, ok_bind, Json.holds]
  cases hbounds : m.bounds with
  | none =>
    simp only [Option.isNone_none, if_pos, pure_eq_written, written_bind]
    rfl
  | some b =>
    rw [hbounds] at hcorners
    have hlow : boundLine "min" entry = .ok (cornerLine "min" b.low) := boundLine_eq hcorners rfl
    have hhigh : boundLine "max" entry = .ok (cornerLine "max" b.high) := boundLine_eq hcorners rfl
    simp only [hlow, hhigh, Option.isNone_some, Bool.false_eq_true, if_false, ok_bind, pure_eq_written,
      written_bind]
    rfl

/-- A report with a mesh has the members for it. -/
theorem Entry.isIn_toJson {e : Entry} {m : MeshSummary} (h : e.detail.mesh? = some m) :
    m.IsIn e.toJson := by
  obtain ⟨id, label, detail⟩ := e
  obtain ⟨vertices, triangles, bounds⟩ := m
  cases detail with
  | skipped lengths => cases h
  | walked lengths points mesh =>
    cases h
    cases bounds <;> exact ⟨rfl, rfl, rfl, rfl⟩
  | column mesh =>
    cases h
    cases bounds <;> exact ⟨rfl, rfl, rfl, rfl⟩

/-- The lines for a mesh come after those for the points of a walk. -/
theorem detailLines_eq {e : Entry} {m : MeshSummary} {points : Except RenderFault (List Loose)}
    (h : e.detail.mesh? = some m) (hpoints : pointLines e.toJson = points) :
    detailLines e.toJson = points >>= fun points =>
      written [m.vertexCount, m.triangleCount] (points ++ m.ending) := by
  -- The mark of a skipped mesh is looked for first, and a report with a mesh does not have it.
  have hmarked : (e.toJson.get? "mesh_skipped").map Json.holds ≠ some true := by
    have hbuilt : e.isMarked = false := by
      rw [e.isMarked_eq_isSkipped, Detail.isSkipped, h]
      rfl
    intro hsome
    obtain ⟨marked, hget, hholds⟩ := Option.map_eq_some_iff.1 hsome
    rw [Entry.isMarked, hget, Option.any_some, hholds] at hbuilt
    cases hbuilt
  rw [detailLines]
  split
  · rename_i hsome
    exact absurd hsome hmarked
  · rw [hpoints, (Entry.isIn_toJson h).meshLines_eq]
    simp only [pure_eq_written, written_bind, List.append_nil]

theorem entryLines_toJson (e : Entry) :
    entryLines e.toJson = written e.detail.numbers e.block := by
  obtain ⟨id, label, detail⟩ := e
  have hid : (Entry.mk id label detail).toJson.get? "id" = some (.text id) := rfl
  have hlabel : (Entry.mk id label detail).toJson.get? "type" = some (.text label) := rfl
  rw [entryLines, member_eq_ok hid]
  simp only [memberLine_eq hlabel, namedLine_text, ok_bind]
  cases detail with
  | skipped lengths =>
    have hmarked : detailLines (Entry.mk id label (.skipped lengths)).toJson =
      .ok [skippedMark] := rfl
    have hnumbers : (Detail.skipped lengths).numbers = lengths := List.append_nil lengths
    rw [growthLines_eq (show _ = some (growthJson lengths) from rfl), hmarked, hnumbers]
    simp only [ok_bind, pure_eq_written, written_bind, List.append_nil]
    rfl
  | walked lengths points mesh =>
    have hpoints : pointLines (Entry.mk id label (.walked lengths points mesh)).toJson =
        written [points] [countLine "    " "cross_section_points" points] := by
      rw [pointLines, show Json.get? "cross_section_points" _ = some (Json.nat points) from rfl]
      simp only [namedLine_nat, map_written]
    rw [growthLines_eq (show _ = some (growthJson lengths) from rfl), detailLines_eq rfl hpoints]
    simp only [pure_eq_written, written_bind, List.append_nil]
    rfl
  | column mesh =>
    have hpoints : pointLines (Entry.mk id label (.column mesh)).toJson = .ok [] := by
      obtain ⟨vertices, triangles, bounds⟩ := mesh
      cases bounds <;> rfl
    have hgrowth : growthLines (Entry.mk id label (.column mesh)).toJson = .ok [] := by
      obtain ⟨vertices, triangles, bounds⟩ := mesh
      cases bounds <;> rfl
    rw [hgrowth, detailLines_eq rfl hpoints]
    simp only [ok_bind, pure_eq_written, written_bind, List.append_nil]
    rfl

example : (Entry.mk "a" "lsystem" (.skipped [1, 2, 4])).block =
    ["  - id: a", "    type: lsystem", "    expansion_lengths: 1 -> 2 -> 4",
      "    mesh_skipped: true"].map Loose.ofText := by rfl

theorem entriesLines_toJson (entries : List Entry) :
    entriesLines (entries.map Entry.toJson) =
      written (entries.flatMap fun e => e.detail.numbers) (entries.flatMap Entry.block) := by
  induction entries with
  | nil => rfl
  | cons e rest ih =>
    rw [List.map_cons, entriesLines]
    simp only [entryLines_toJson, ih, pure_eq_written, written_bind, List.append_nil]
    rfl

/-! ### The last line of a block -/

theorem cornerLine_ne_skippedMark (name : String) (v : Vec3) : cornerLine name v ≠ skippedMark := by
  intro h
  have hfifth := congrArg (fun shown => shown[4]?) h
  simp [cornerLine, skippedMark, Loose.ofText, Loose.ofChars] at hfifth

theorem MeshSummary.getLast?_ending (m : MeshSummary) : m.ending.getLast? ≠ some skippedMark := by
  obtain ⟨vertices, triangles, bounds⟩ := m
  cases bounds with
  | none =>
    intro h
    have hmark : Loose.ofText "    empty: true" = skippedMark := Option.some.inj h
    exact absurd hmark (by decide)
  | some b => exact fun h => cornerLine_ne_skippedMark _ _ (Option.some.inj h)

/-- The last line of a block tells whether the mesh was skipped. -/
theorem Entry.getLast?_block_iff (e : Entry) :
    e.block.getLast? = some skippedMark ↔ e.detail.isSkipped = true := by
  obtain ⟨id, label, detail⟩ := e
  have hending (m : MeshSummary) (before : List Loose) :
      (before ++ m.ending).getLast? ≠ some skippedMark := by
    rw [List.getLast?_append_of_ne_nil _ (by simp [MeshSummary.ending])]
    exact m.getLast?_ending
  cases detail with
  | skipped lengths => exact iff_of_true rfl rfl
  | walked lengths points mesh => exact iff_of_false (hending mesh _) Bool.false_ne_true
  | column mesh => exact iff_of_false (hending mesh _) Bool.false_ne_true

/-! ## Totals -/

/-- The line for the number of pillars that were skipped. -/
def skippedLine (n : Nat) : Loose := countLine "  " "skipped_count" n

/-- The lines for the totals of an inspection. -/
def totalLines (i : Inspection) : List Loose :=
  [Loose.ofText "  spec_version: " ++ i.version, countLine "  " "pillar_count" i.pillarCount,
    countLine "  " "vertex_count" i.vertexTotal,
    countLine "  " "triangle_count" i.triangleTotal] ++
    if i.skippedTotal = 0 then [] else [skippedLine i.skippedTotal]

/-- The totals of an inspection. -/
def totals (i : Inspection) : List Nat :=
  [i.pillarCount, i.vertexTotal, i.triangleTotal, i.skippedTotal]

theorem skippedLines_nat (n : Nat) :
    skippedLines (.nat n) = written [n] (if n = 0 then [] else [skippedLine n]) := by
  rw [skippedLines]
  by_cases hn : n = 0
  · have hsmall : Number.isTooLarge (n : Int) = false :=
      Number.isTooLarge_of_lt 1 (by decide) (by simp [hn, Number.tenTo])
    have hholds : (Json.nat n).holds = false := by simp [Json.nat, Json.holds, hn]
    rw [if_neg (by simp [hholds]), if_pos hn, written, List.any_cons, hsmall]
    rfl
  · have hholds : (Json.nat n).holds = true := by simp [Json.nat, Json.holds, hn]
    rw [if_pos hholds, if_neg hn, namedLine_nat, map_written]
    rfl

theorem summaryLines_eq {i : Inspection} {summary : Json}
    (h : i.toJson.get? "summary" = some summary) :
    summaryLines summary = written i.totals i.totalLines := by
  have hget (name : String) : summary.get? name = i.summary? name := by
    rw [summary?, h, Option.bind_some]
  have hversion : summary.get? "spec_version" = some (.text i.version) := hget _
  have hpillars : summary.get? "pillar_count" = some (.nat i.pillarCount) := hget _
  have hvertices : summary.get? "vertex_count" = some (.nat i.vertexTotal) := hget _
  have htriangles : summary.get? "triangle_count" = some (.nat i.triangleTotal) := hget _
  have hskipped : summary.get? "skipped_count" = some (.nat i.skippedTotal) := hget _
  rw [summaryLines]
  simp only [memberLine_eq hversion, memberLine_eq hpillars, memberLine_eq hvertices,
    memberLine_eq htriangles, member_eq_ok hskipped, namedLine_text, namedLine_nat, ok_bind,
    skippedLines_nat, pure_eq_written, written_bind]
  rfl

/-- Two lines with different names differ. -/
theorem skippedLine_not_mem (i : Inspection) (n : Nat) : skippedLine n ∉
    [Loose.ofText "  spec_version: " ++ i.version, countLine "  " "pillar_count" i.pillarCount,
      countLine "  " "vertex_count" i.vertexTotal,
      countLine "  " "triangle_count" i.triangleTotal] := by
  simp [skippedLine, countLine, Loose.ofText, Loose.ofChars]

/-- Skipped pillars are counted exactly if a block says that its mesh was skipped. -/
theorem exists_skippedLine_mem_iff (i : Inspection) :
    (∃ n, skippedLine n ∈ i.totalLines) ↔ ∃ e ∈ i.entries, e.block.getLast? = some skippedMark := by
  have hcounted : (∃ n, skippedLine n ∈ i.totalLines) ↔ i.skippedTotal ≠ 0 := by
    constructor
    · rintro ⟨n, hn⟩ hzero
      rw [totalLines, if_pos hzero, List.append_nil] at hn
      exact i.skippedLine_not_mem n hn
    · intro hpos
      refine ⟨i.skippedTotal, ?_⟩
      rw [totalLines, if_neg hpos]
      exact List.mem_append_right _ (List.mem_singleton_self _)
  rw [hcounted, ← Nat.pos_iff_ne_zero, skippedTotal, List.countP_pos_iff]
  simp only [Entry.getLast?_block_iff]

/-! ## The whole text -/

/-- The lines of an inspection. -/
def textLines (i : Inspection) : List Loose :=
  [Loose.ofText "inspect_schema_version: 1", Loose.ofText "summary:"] ++ i.totalLines ++
    [Loose.ofText "pillars:"] ++ (if i.entries.isEmpty then [Loose.ofText "  (none)"] else []) ++
    i.entries.flatMap Entry.block

/-- The numbers in the text of an inspection. -/
def numbers (i : Inspection) : List Nat :=
  i.totals ++ i.entries.flatMap fun e => e.detail.numbers

/-- The document of an inspection becomes its lines. -/
theorem lines_toJson (i : Inspection) : lines i.toJson = written i.numbers i.textLines := by
  have hschema : memberLine "" "inspect_schema_version" i.toJson =
      .ok (Loose.ofText "inspect_schema_version: 1") := by
    have hsmall : Number.isTooLarge ((1 : Nat) : Int) = false :=
      Number.isTooLarge_of_lt 1 (by decide) (by decide)
    rw [memberLine_eq (show _ = some (Json.nat 1) from rfl), namedLine_nat, written, List.any_cons,
      hsmall]
    rfl
  obtain ⟨summary, hsummary⟩ : ∃ summary, i.toJson.get? "summary" = some summary := ⟨_, rfl⟩
  have hentries : ((i.toJson.get? "pillars").map Json.items).getD [] = i.entries.map Entry.toJson :=
    rfl
  rw [lines, hschema, ok_bind, member_eq_ok hsummary, ok_bind, summaryLines_eq hsummary]
  simp only [hentries, entriesLines_toJson, pure_eq_written, written_bind, List.append_nil,
    List.isEmpty_map]
  rfl

/-- The text of an inspection consists of its lines.  It can be made exactly if its numbers can be
written. -/
theorem render_toJson (i : Inspection) :
    render i.toJson = written i.numbers ((i.textLines.map (· ++ Loose.ofText "\n")).flatten) := by
  rw [render, lines_toJson, map_written]

end Inspection

end Colonnade
