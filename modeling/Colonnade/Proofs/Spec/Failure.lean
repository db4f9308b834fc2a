import Colonnade.Cli.Run
import Colonnade.Proofs.Shape.Column
import Colonnade.Proofs.Warning.Fault

/-!
# Which pillar a failed generation names

Generation goes through the pillars in order and ends at the first one that has no mesh.  Some of
the faults that end it are reported as errors, and an error may name the pillar that it is about.

`Pillar.Refuses` lists the errors of one pillar: that its form is unknown, and that it is a column
of too few segments.  An L-system has none.  The first kind names the pillar; the second comes from
the column, which knows its dimensions but not whose they are, and names none.
`generation_error_iff` says this for a whole specification.
-/

namespace Colonnade

open Text (Loose)

open Report

/-- A fault that is not reported as an error. -/
def GenerationFault.IsSilent (fault : GenerationFault) : Prop :=
  Cli.Failure.reportsGeneration fault = false

/-! ## Steps without errors -/

/-- A table of rules is always made, unless a warning is promoted. -/
theorem Production.Table.faultsAre_extend {ε : Type} {kind : ε → Prop} (t : Table)
    (rules : List Rule) : FaultsAre kind (t.extend rules : Report ε Table) := by
  induction rules generalizing t with
  | nil => exact faultsAre_pure t
  | cons rule rest ih =>
    rw [extend]
    split
    · exact faultsAre_bind (faultsAre_warn _) fun _ => ih t
    · exact ih _

theorem Shell.faultsAre_reportOrigins {ε : Type} {kind : ε → Prop} (i : Nat) (ring : List Point) :
    FaultsAre kind (reportOrigins i ring : Report ε Unit) := by
  induction ring generalizing i with
  | nil => exact faultsAre_pure ()
  | cons p rest ih =>
    rw [reportOrigins]
    split
    · exact faultsAre_bind (faultsAre_warn _) fun _ => ih _
    · exact ih _

theorem Shell.faultsAre_extrude {ε : Type} {kind : ε → Prop} (ring : List Point)
    (height thickness : Float) :
    FaultsAre kind (extrude ring height thickness : Report ε Mesh) := by
  rw [extrude]
  split
  · exact faultsAre_bind (faultsAre_warn _) fun _ => faultsAre_pure _
  · exact faultsAre_bind (faultsAre_reportOrigins 0 ring) fun _ => faultsAre_pure _

namespace Pillar

variable {p : Pillar} {policy : Policy} {fault : GenerationFault}

theorem faultsAre_need {α : Type} (use : Unset) (value : Option α) :
    FaultsAre GenerationFault.IsSilent (need use value) := by
  cases value with
  | none => exact faultsAre_fail rfl
  | some a => exact faultsAre_pure a

theorem faultsAre_walk (symbols : Loose) (angle step : Float) :
    FaultsAre GenerationFault.IsSilent (walk symbols angle step) := by
  refine faultsAre_ofExcept fun cause hcause => ?_
  obtain ⟨_, _, rfl⟩ := mapError_eq_error_iff.1 (except_map_eq_error_iff.1 hcause)
  rfl

theorem faultsAre_points (p : Pillar) (symbols : Loose) :
    FaultsAre GenerationFault.IsSilent (p.points symbols) := by
  rw [points]
  split
  · exact faultsAre_walk _ _ _
  · refine faultsAre_bind (faultsAre_walk _ _ _) fun points => ?_
    split
    · exact faultsAre_fail rfl
    · exact faultsAre_pure points

theorem faultsAre_ring (p : Pillar) : FaultsAre GenerationFault.IsSilent p.ring := by
  have htable : FaultsAre GenerationFault.IsSilent p.table :=
    faultsAre_bind (faultsAre_need _ _) fun rules => Production.Table.faultsAre_extend _ rules
  have hgrowth : FaultsAre GenerationFault.IsSilent p.growth := by
    refine faultsAre_bind (faultsAre_need _ _) fun iterations => ?_
    refine faultsAre_bind (faultsAre_ofExcept fun cause hcause => ?_) fun _ =>
      faultsAre_bind (faultsAre_need _ _) fun _ => faultsAre_pure _
    obtain ⟨_, _, rfl⟩ := mapError_eq_error_iff.1 hcause
    rfl
  exact faultsAre_bind htable fun _ =>
    faultsAre_bind (faultsAre_bind hgrowth fun _ => faultsAre_pure _) fun symbols =>
      p.faultsAre_points symbols

theorem faultsAre_shell (p : Pillar) (ring : List Point) :
    FaultsAre GenerationFault.IsSilent (p.shell ring) := by
  rw [shell]
  split
  · refine faultsAre_bind (Shell.faultsAre_extrude _ _ _) fun mesh => ?_
    refine faultsAre_ofExcept fun cause hcause => ?_
    obtain ⟨_, _, rfl⟩ := mapError_eq_error_iff.1 hcause
    rfl
  · split
    · exact Shell.faultsAre_extrude _ _ _
    · exact faultsAre_bind (Shell.faultsAre_reportOrigins _ _) fun _ => faultsAre_fail rfl

/-! ## Columns -/

theorem isSilent_of_isOverflow {cause : Column.Fault} (h : cause.isOverflow = true) :
    GenerationFault.IsSilent (.column cause) := by
  cases cause <;> first | rfl | cases h

/-- Too few segments are the first thing that is looked at, whatever else is set. -/
theorem column_of_few {n : Int} (hsegments : p.segments = some n) (hfew : n < 3) :
    p.column = .fail (.column (Column.tooFew n)) := by
  rw [column]
  split
  · rename_i hsome _ _
    cases hsegments.symm.trans hsome
    rw [Column.build, if_pos hfew]
    rfl
  · rw [columnFault, hsegments]
    cases p.flutes <;> exact congrArg Report.fail (if_pos hfew)

/-- What a column lacks is not reported, and neither is a number of segments without a float. -/
theorem isSilent_columnFault (h : ∀ n, p.segments = some n → ¬ n < 3) :
    p.columnFault.IsSilent := by
  rw [columnFault]
  split
  · rfl
  · rename_i segments hsegments
    rw [if_neg (h segments hsegments)]
    cases hsides : Column.toFloat segments with
    | error cause => exact isSilent_of_isOverflow (Column.isOverflow_of_toFloat hsides)
    | ok sides =>
      cases p.flutes with
      | none => rfl
      | some flutes =>
        rw [Option.map_some]
        cases hmany : Column.toFloat flutes with
        | error cause => exact isSilent_of_isOverflow (Column.isOverflow_of_toFloat hmany)
        | ok many => rfl

theorem faultsAre_column (h : ∀ n, p.segments = some n → ¬ n < 3) :
    FaultsAre GenerationFault.IsSilent p.column := by
  rw [column]
  split
  · rename_i radius segments flutes depth _ hsegments _ _
    have henough : 3 ≤ segments := Int.not_lt.1 (h segments hsegments)
    refine faultsAre_ofExcept fun fault hfault => ?_
    obtain ⟨cause, hcause, rfl⟩ := mapError_eq_error_iff.1 hfault
    exact isSilent_of_isOverflow (Column.isOverflow_of_build henough hcause)
  · exact faultsAre_fail (isSilent_columnFault h)

/-! ## The errors of a pillar -/

/-- The errors of a pillar.  Its form may be unknown; or it is a column with too few segments, whose
number is part of the wording and so must not be too large to be written. -/
inductive Refuses (p : Pillar) : GenerationFault → Prop
  | unknownForm (form : p.form? = none) : Refuses p (.unknownForm p.id p.label)
  | tooFewSegments {n : Int} (form : p.form? = some .fluted) (segments : p.segments = some n)
      (few : n < 3) (writable : Number.isTooLarge n = false) :
      Refuses p (.column (.tooFewSegments n))

/-- An error names the pillar, unless the pillar is a column. -/
theorem Refuses.pillar?_eq (h : p.Refuses fault) :
    fault.pillar? = if p.form? = some .fluted then none else some p.id := by
  cases h with
  | unknownForm form =>
    rw [form]
    rfl
  | tooFewSegments form segments few writable =>
    rw [form]
    rfl

/-- A column with too few segments is refused with their number, or is silent about a number that is
too large. -/
theorem column_error_iff (hform : p.form? = some .fluted) :
    (Cli.Failure.reportsGeneration fault = true ∧
      (p.column.run policy).result = .error (.fault fault)) ↔ p.Refuses fault := by
  constructor
  · rintro ⟨hreported, hrun⟩
    by_cases hfew : ∃ n, p.segments = some n ∧ n < 3
    · obtain ⟨n, hsegments, hn⟩ := hfew
      rw [column_of_few hsegments hn] at hrun
      cases hrun
      cases hlarge : Number.isTooLarge n with
      | true =>
        rw [Column.tooFew, hlarge] at hreported
        cases hreported
      | false =>
        rw [Column.tooFew, hlarge]
        exact .tooFewSegments hform hsegments hn hlarge
    · have hsilent := faultsAre_column (fun n hn hlt => hfew ⟨n, hn, hlt⟩) policy fault hrun
      exact absurd (hsilent.symm.trans hreported) Bool.false_ne_true
  · intro h
    cases h with
    | unknownForm form => cases form.symm.trans hform
    | tooFewSegments _ segments few writable =>
      refine ⟨rfl, ?_⟩
      rw [column_of_few segments few, Column.tooFew, writable]
      rfl

/-- The errors of a pillar are those that its generation ends with. -/
theorem generate_error_iff :
    (Cli.Failure.reportsGeneration fault = true ∧
      (p.generate.run policy).result = .error (.fault fault)) ↔ p.Refuses fault := by
  rw [generate]
  split
  · rename_i hform
    constructor
    · rintro ⟨hreported, hrun⟩
      have hsilent := faultsAre_bind p.faultsAre_ring p.faultsAre_shell policy fault hrun
      exact absurd (hsilent.symm.trans hreported) Bool.false_ne_true
    · intro h
      cases h with
      | unknownForm form => cases form.symm.trans hform
      | tooFewSegments form => cases form.symm.trans hform
  · rename_i hform
    exact column_error_iff hform
  · rename_i hform
    constructor
    · rintro ⟨_, hrun⟩
      cases hrun
      exact .unknownForm hform
    · intro h
      cases h with
      | unknownForm => exact ⟨rfl, rfl⟩
      | tooFewSegments form => cases form.symm.trans hform

end Pillar

/-! ## Specifications -/

namespace Spec

/-- A specification fails as the first pillar does that has no mesh. -/
theorem generate_eq_error_iff {s : Spec} {policy : Policy} {stop : Stop GenerationFault} :
    (s.generate.run policy).result = .error stop ↔
      ∃ before p after, s.pillars = before ++ p :: after ∧
        (∀ q ∈ before, ∃ m, (q.generate.run policy).result = .ok m) ∧
        (p.generate.run policy).result = .error stop := by
  have hok (q : Pillar) : (∃ g, ((q.generate >>= fun mesh =>
      pure ⟨q, mesh⟩ : Report GenerationFault Generated).run policy).result = .ok g) ↔
        ∃ m, (q.generate.run policy).result = .ok m := by
    constructor
    · rintro ⟨g, hg⟩
      obtain ⟨m, hm, _⟩ := result_bind_eq_ok_iff.1 hg
      exact ⟨m, hm⟩
    · rintro ⟨m, hm⟩
      exact ⟨⟨q, m⟩, result_bind_eq_ok_iff.2 ⟨m, hm, rfl⟩⟩
  have herror (q : Pillar) : ((q.generate >>= fun mesh =>
      pure ⟨q, mesh⟩ : Report GenerationFault Generated).run policy).result = .error stop ↔
        (q.generate.run policy).result = .error stop := by
    rw [result_bind_eq_error_iff]
    exact or_iff_left fun ⟨_, _, h⟩ => nomatch h
  rw [generate, result_traverse_eq_error_iff]
  simp only [hok, herror]

/-- Generation ends with an error exactly if the first pillar that has no mesh refuses with it.  The
error names this pillar, unless the pillar is a fluted column: that error names none.

So an error never names another pillar than the first that fails, and it fails to name it exactly
where the number of segments of a column is to blame. -/
theorem generation_error_iff (s : Spec) (policy : Policy) (fault : GenerationFault) :
    (Cli.Failure.reportsGeneration fault = true ∧
      (s.generate.run policy).result = .error (.fault fault)) ↔
      ∃ before p after, s.pillars = before ++ p :: after ∧
        (∀ q ∈ before, ∃ m, (q.generate.run policy).result = .ok m) ∧
        (p.generate.run policy).result = .error (.fault fault) ∧ p.Refuses fault ∧
        fault.pillar? = if p.form? = some .fluted then none else some p.id := by
  constructor
  · rintro ⟨hreported, hrun⟩
    obtain ⟨before, p, after, hsplit, hbefore, hp⟩ := generate_eq_error_iff.1 hrun
    have hrefuses := Pillar.generate_error_iff.1 ⟨hreported, hp⟩
    exact ⟨before, p, after, hsplit, hbefore, hp, hrefuses, hrefuses.pillar?_eq⟩
  · rintro ⟨before, p, after, hsplit, hbefore, hp, hrefuses, _⟩
    have herror : Cli.Failure.reportsGeneration fault = true ∧
        (p.generate.run policy).result = .error (.fault fault) :=
      Pillar.generate_error_iff.2 hrefuses
    exact ⟨herror.1, generate_eq_error_iff.2 ⟨before, p, after, hsplit, hbefore, hp⟩⟩

/-- A column of two segments. -/
def twoSided : Schema.Reader.Pairs :=
  [(.text "version", .text "0.2"),
    (.text "pillars", .list [.map [(.text "id", .text "a"), (.text "type", .text "fluted"),
      (.text "segments", .int 2)]])]

/-- The only pillar fails with an error, and the error does not name it. -/
theorem error_without_pillar_twoSided :
    ∃ s p fault, readFields twoSided = .ok s ∧ s.pillars = [p] ∧ p.id = "a" ∧
      (s.generate.run .permissive).result = .error (.fault fault) ∧
      Cli.Failure.reportsGeneration fault = true ∧ fault.pillar? ≠ some p.id := by
  obtain ⟨s, p, hread, hpillars, hid, hform, hsegments⟩ :
      ∃ s p, readFields twoSided = .ok s ∧ s.pillars = [p] ∧ p.id = "a" ∧
        p.form? = some .fluted ∧ p.segments = some 2 := ⟨_, _, rfl, rfl, rfl, rfl, rfl⟩
  have hrefuses := Pillar.Refuses.tooFewSegments hform hsegments (by decide)
    (Number.isTooLarge_of_lt 1 (by decide) (by decide))
  have herror : _ ∧ (p.generate.run .permissive).result = _ := Pillar.generate_error_iff.2 hrefuses
  have hfirst : (s.generate.run .permissive).result = _ := generate_eq_error_iff.2
    ⟨[], p, [], hpillars, fun _ h => absurd h List.not_mem_nil, herror.2⟩
  exact ⟨s, p, _, hread, hpillars, hid, hfirst, herror.1, nofun⟩

end Spec

end Colonnade
