import Colonnade.Inspection.Basic
import Colonnade.Proofs.Warning.Script

/-!
# Generation and inspection under a policy

Rules, ring points and rings report warnings in three places, at different depths of generation
and inspection, and other faults may come before or after them.  Still the policy decides only
what becomes of a warning, and never which warnings there are: every step is scripted
(`Report.IsScripted`), so the whole is, and it follows every policy (`Report.Follows`).

The lemmas go through the steps in their order: the table of rules, the string, the walk, the
shell, the column, and then a whole pillar.
-/

namespace Colonnade

open Text (Loose)

open Report

/-! ## The three places that warn -/

/-- Rules are added one after the other, with a warning for each that is ignored. -/
theorem Production.Table.isScripted_extend {ε : Type} (t : Table) (rules : List Rule) :
    (t.extend rules : Report ε Table).IsScripted := by
  induction rules generalizing t with
  | nil => exact isScripted_pure t
  | cons rule rest ih =>
    rw [extend]
    split
    · exact isScripted_bind (isScripted_warn _) fun _ => ih t
    · exact ih _

/-- Points on the origin are reported one after the other. -/
theorem Shell.isScripted_reportOrigins {ε : Type} (i : Nat) (ring : List Point) :
    (reportOrigins i ring : Report ε Unit).IsScripted := by
  induction ring generalizing i with
  | nil => exact isScripted_pure ()
  | cons p rest ih =>
    rw [reportOrigins]
    split
    · exact isScripted_bind (isScripted_warn _) fun _ => ih _
    · exact ih _

/-- A ring of too few points is reported and left alone; any other has its points on the origin
reported before its mesh is made. -/
theorem Shell.isScripted_extrude {ε : Type} (ring : List Point) (height thickness : Float) :
    (extrude ring height thickness : Report ε Mesh).IsScripted := by
  rw [extrude]
  split
  · exact isScripted_bind (isScripted_warn _) fun _ => isScripted_pure _
  · exact isScripted_bind (isScripted_reportOrigins 0 ring) fun _ => isScripted_pure _

namespace Pillar

/-! ## The steps of an L-system -/

theorem isScripted_need {α : Type} (use : Unset) (value : Option α) :
    (need use value).IsScripted := by
  cases value with
  | none => exact isScripted_fail _
  | some a => exact isScripted_pure a

theorem isScripted_table (p : Pillar) : p.table.IsScripted :=
  isScripted_bind (isScripted_need _ _) fun _ => Production.Table.isScripted_extend _ _

theorem isScripted_growth (p : Pillar) : p.growth.IsScripted :=
  isScripted_bind (isScripted_need _ _) fun _ =>
    isScripted_bind (isScripted_ofExcept _) fun _ =>
      isScripted_bind (isScripted_need _ _) fun _ => isScripted_pure _

theorem isScripted_symbols (p : Pillar) (t : Production.Table) : (p.symbols t).IsScripted :=
  isScripted_bind p.isScripted_growth fun _ => isScripted_pure _

theorem isScripted_brokenWalk (p : Pillar) (symbols : Loose) :
    (p.brokenWalk symbols).IsScripted := by
  refine isScripted_bind (isScripted_ofExcept _) fun points => ?_
  split
  · exact isScripted_fail _
  · exact isScripted_pure points

theorem isScripted_points (p : Pillar) (symbols : Loose) : (p.points symbols).IsScripted := by
  rw [points]
  split
  · exact isScripted_ofExcept _
  · exact p.isScripted_brokenWalk symbols

theorem isScripted_ring (p : Pillar) : p.ring.IsScripted :=
  isScripted_bind p.isScripted_table fun t =>
    isScripted_bind (p.isScripted_symbols t) fun symbols => p.isScripted_points symbols

/-- Without a thickness the shell fails, but only after the first point has been looked at. -/
theorem isScripted_shell (p : Pillar) (ring : List Point) : (p.shell ring).IsScripted := by
  rw [shell]
  split
  · exact isScripted_bind (Shell.isScripted_extrude _ _ _) fun _ => isScripted_ofExcept _
  · split
    · exact Shell.isScripted_extrude _ _ _
    · exact isScripted_bind (Shell.isScripted_reportOrigins _ _) fun _ => isScripted_fail _

/-! ## Pillars -/

/-- A column reports nothing. -/
theorem isScripted_column (p : Pillar) : p.column.IsScripted := by
  rw [column]
  split
  · exact isScripted_ofExcept _
  · exact isScripted_fail _

theorem isScripted_generate (p : Pillar) : p.generate.IsScripted := by
  rw [generate]
  split
  · exact isScripted_bind p.isScripted_ring fun ring => p.isScripted_shell ring
  · exact p.isScripted_column
  · exact isScripted_fail _

/-- Whether a pillar is skipped depends on its rules alone, which are the same for every policy. -/
theorem isScripted_inspectLSystem (p : Pillar) (limit : Int) :
    (p.inspectLSystem limit).IsScripted := by
  refine isScripted_bind p.isScripted_table fun t => isScripted_bind p.isScripted_growth fun g => ?_
  dsimp only
  split
  · exact isScripted_pure _
  · exact isScripted_bind (p.isScripted_symbols t) fun symbols =>
      isScripted_bind (p.isScripted_points symbols) fun ring =>
        isScripted_bind (p.isScripted_shell ring) fun _ => isScripted_pure _

theorem isScripted_inspect (p : Pillar) (limit : Int) : (p.inspect limit).IsScripted := by
  refine isScripted_bind ?_ fun _ => isScripted_pure _
  rw [inspectDetail]
  split
  · exact p.isScripted_inspectLSystem limit
  · exact isScripted_bind p.isScripted_generate fun _ => isScripted_pure _

end Pillar

/-! ## Specifications -/

namespace Spec

theorem isScripted_generate (s : Spec) : s.generate.IsScripted :=
  isScripted_traverse (fun p => isScripted_bind p.isScripted_generate fun _ => isScripted_pure _) _

theorem isScripted_inspect (s : Spec) (selection : Option (List Loose)) (limit : Int) :
    (s.inspect selection limit).IsScripted :=
  isScripted_bind (isScripted_traverse (fun p => p.isScripted_inspect limit) _) fun _ =>
    isScripted_pure _

/-- Generation and inspection follow every policy: they warn, succeed and fail as they do without
one, but for the warnings that are suppressed, and up to the first that is promoted. -/
theorem generate_and_inspect_follow (s : Spec) (p : Policy) (selection : Option (List Loose))
    (limit : Int) : s.generate.Follows p ∧ (s.inspect selection limit).Follows p :=
  ⟨s.isScripted_generate.follows p, (s.isScripted_inspect selection limit).follows p⟩

/-- A pillar that warns twice, of a repeated rule and then of its empty walk: suppression goes
before promotion, so the first warning is dropped and the second ends the run. -/
theorem generate_and_inspect_follow_promoted :
    let pillar : Pillar :=
      { label := "lsystem", id := "a", seed := some "", rules := some [⟨"F", "FF"⟩, ⟨"F", "F"⟩]
        iterations := some 1, angle := some 90.0, segmentLength := some 1.0
        thickness := some 0.1 }
    let s : Spec := { version := "1.0", pillars := [pillar] }
    (s.generate.run .permissive).warnings =
        [Production.Table.repeated ⟨"F", "F"⟩ "FF", Shell.degenerateWarning 0] ∧
      s.generate.run ⟨["W02", "W01"], ["W02"]⟩ =
        ⟨[], .error (.promoted (Shell.degenerateWarning 0))⟩ := by
  intro pillar s
  have hwarnings : (s.generate.run .permissive).warnings =
      [Production.Table.repeated ⟨"F", "F"⟩ "FF", Shell.degenerateWarning 0] := by decide
  refine ⟨hwarnings, ?_⟩
  have hfollows := (generate_and_inspect_follow s ⟨["W02", "W01"], ["W02"]⟩ none 0).1
  refine hfollows.ended [Production.Table.repeated ⟨"F", "F"⟩ "FF"] (Shell.degenerateWarning 0) []
    hwarnings ?_ ⟨by decide, by decide⟩
  intro w hw hescalates
  rw [List.mem_singleton.1 hw] at hescalates
  exact hescalates.2 (by decide)

end Spec

end Colonnade
