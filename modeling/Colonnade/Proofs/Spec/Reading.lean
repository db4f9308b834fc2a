import Colonnade.Proofs.Spec.Fields
import Colonnade.Spec.Check

/-!
# What reading and checking a specification establish

A pillar that is read from a document has all parameters of its form (`Pillar.IsComplete`): fields
are read first, then `Pillar.complete` fills in what is missing.  A specification that is accepted
by the semantic checks has its integers in range.  Together a pillar has what its form needs:
`Pillar.IsReady`.
-/

namespace Colonnade

open Schema

namespace Pillar

/-! ## Complete pillars -/

/-- A pillar of one of the two forms that has all parameters of its form. -/
def IsComplete (p : Pillar) : Prop :=
  match p.form? with
  | some .lsystem => p.seed.isSome ∧ p.rules.isSome ∧ p.iterations.isSome ∧ p.angle.isSome ∧
      p.segmentLength.isSome ∧ p.thickness.isSome
  | some .fluted => p.radius.isSome ∧ p.segments.isSome ∧ p.flutes.isSome ∧ p.fluteDepth.isSome
  | none => False

theorem IsOf.isComplete {form : Form} {p : Pillar} (h : IsOf form p) : p.IsComplete := by
  have hform : p.form? = some form := by
    rw [form?, h.label, Form.ofLabel?_label]
  rw [IsComplete, hform]
  cases form with
  | lsystem => exact Form.forall_lsystem_parameters.1 h.own
  | fluted => exact Form.forall_fluted_parameters.1 h.own

/-! ## Parameters in range -/

/-- A pillar that has what its form needs: all parameters, a number of rounds that is not negative,
and three or more segments. -/
inductive IsReady (p : Pillar) : Prop
  | lsystem {seed : Text.Loose} {rules : List Production.Rule} {iterations : Int}
      {angle step thickness : Float} (form : p.form? = some .lsystem) (seed_eq : p.seed = some seed)
      (rules_eq : p.rules = some rules) (iterations_eq : p.iterations = some iterations)
      (angle_eq : p.angle = some angle) (step_eq : p.segmentLength = some step)
      (thickness_eq : p.thickness = some thickness) (rounds : 0 ≤ iterations)
  | fluted {radius depth : Float} {segments flutes : Int} (form : p.form? = some .fluted)
      (radius_eq : p.radius = some radius) (segments_eq : p.segments = some segments)
      (flutes_eq : p.flutes = some flutes) (depth_eq : p.fluteDepth = some depth)
      (enough : 3 ≤ segments)

/-- A parameter without a fault is set and in range. -/
theorem outOfRange?_eq_none_iff {α : Type} {use : Unset} {isBad : α → Bool} {fault : α → SpecFault}
    {value : Option α} :
    outOfRange? use isBad fault value = none ↔ ∃ a, value = some a ∧ isBad a = false := by
  cases value with
  | none => simp [outOfRange?]
  | some a => cases h : isBad a <;> simp [outOfRange?, h]

theorem iterations_of_badLSystem? {p : Pillar} (hform : p.form? = some .lsystem)
    (h : p.badLSystem? = none) : ∃ iterations, p.iterations = some iterations ∧ 0 ≤ iterations := by
  rw [badLSystem?, hform, List.findSome?_eq_none_iff] at h
  obtain ⟨iterations, hiterations, hrange⟩ :=
    outOfRange?_eq_none_iff.1 (h _ (List.mem_cons_self))
  have hneg : ¬ iterations < 0 := of_decide_eq_false hrange
  exact ⟨iterations, hiterations, by omega⟩

theorem segments_of_badFluting? {p : Pillar} (hform : p.form? = some .fluted)
    (h : p.badFluting? = none) : ∃ segments, p.segments = some segments ∧ 3 ≤ segments := by
  rw [badFluting?, hform, List.findSome?_eq_none_iff] at h
  obtain ⟨segments, hsegments, hrange⟩ :=
    outOfRange?_eq_none_iff.1 (h _ (List.mem_cons_of_mem _ List.mem_cons_self))
  have hfew : ¬ segments < 3 := of_decide_eq_false hrange
  exact ⟨segments, hsegments, by omega⟩

/-- A complete pillar whose parameters are in range is ready. -/
theorem isReady_of_isComplete {p : Pillar} (h : p.IsComplete) (hlsystem : p.badLSystem? = none)
    (hfluting : p.badFluting? = none) : p.IsReady := by
  rw [IsComplete] at h
  split at h
  · rename_i hform
    obtain ⟨hseed, hrules, _, hangle, hstep, hthickness⟩ := h
    obtain ⟨iterations, hiterations, hrounds⟩ := iterations_of_badLSystem? hform hlsystem
    exact .lsystem hform (Option.some_get hseed).symm (Option.some_get hrules).symm hiterations
      (Option.some_get hangle).symm (Option.some_get hstep).symm (Option.some_get hthickness).symm
      hrounds
  · rename_i hform
    obtain ⟨hradius, _, hflutes, hdepth⟩ := h
    obtain ⟨segments, hsegments, henough⟩ := segments_of_badFluting? hform hfluting
    exact .fluted hform (Option.some_get hradius).symm hsegments (Option.some_get hflutes).symm
      (Option.some_get hdepth).symm henough
  · exact h.elim

end Pillar

namespace Spec

variable {s : Spec}

/-- Every pillar of a specification that is read has all parameters of its form. -/
theorem isComplete_of_readFields {pairs : Reader.Pairs} (h : readFields pairs = .ok s) :
    ∀ p ∈ s.pillars, p.IsComplete := by
  intro p hp
  obtain ⟨_, hread⟩ := (readFields_eq_ok_iff.1 h).2.1.exists_read p hp
  obtain ⟨_, hform⟩ := Pillar.exists_isOf_of_read hread
  exact hform.isComplete

/-- A specification that is accepted breaks none of the rules. -/
theorem checks_eq_none_of_validate (h : s.validate = .ok ()) : ∀ check ∈ s.checks, check = none := by
  unfold validate at h
  split at h
  · cases h
  · rename_i hnone
    rw [fault?, List.findSome?_eq_none_iff] at hnone
    exact hnone

/-- Every pillar of a specification that is read and accepted has what its form needs. -/
theorem isReady_of_validate {pairs : Reader.Pairs} (hread : readFields pairs = .ok s)
    (haccepted : s.validate = .ok ()) : ∀ p ∈ s.pillars, p.IsReady := by
  intro p hp
  have hchecks := checks_eq_none_of_validate haccepted
  have hlsystem : s.pillars.findSome? Pillar.badLSystem? = none := hchecks _ (by simp [checks])
  have hfluting : s.pillars.findSome? Pillar.badFluting? = none := hchecks _ (by simp [checks])
  exact Pillar.isReady_of_isComplete (isComplete_of_readFields hread p hp)
    (List.findSome?_eq_none_iff.1 hlsystem p hp) (List.findSome?_eq_none_iff.1 hfluting p hp)

end Spec

end Colonnade
