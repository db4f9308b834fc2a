import Colonnade.Proofs.Production.Priority
import Colonnade.Proofs.Shape.Rotation
import Colonnade.Proofs.Spec.String

/-!
# What a pillar warns of

An L-system warns at two places: when the table of its rules is made, and when the shell is pulled
up over its ring.  Nothing in between warns, neither the expansion nor the walk, and a column does
not warn at all.  So the warnings of a pillar are those for its rules, then those for its ring
(`generate_warns`).  A ring of too few points is warned of as a whole, and its points are not looked
at.
-/

namespace Colonnade

open Text (Loose)

open Report

/-! ## Rings -/

namespace Shell

variable {ε : Type} {ring : List Point} {height thickness : Float}

/-- The warnings for a ring: one if it has too few points, and otherwise one for each point on the
origin. -/
def ringWarnings (ring : List Point) : List Warning :=
  if ring.length < 3 then [degenerateWarning ring.length]
  else (originPoints ring).map originWarning

theorem warnings_extrude :
    ((extrude ring height thickness : Report ε Mesh).run .permissive).warnings =
      ringWarnings ring := by
  rw [ringWarnings]
  split
  · rename_i hfew
    rw [extrude, if_pos hfew]
    rfl
  · rw [extrude_eq_script (by omega), run_script_permissive]

/-- A ring has too few points or points on the origin, but is not warned of both. -/
theorem not_both_of_ringWarnings {v w : Warning} (hv : v ∈ ringWarnings ring)
    (hw : w ∈ ringWarnings ring) (hfew : v.code = .degenerateGeometry) : w.code ≠ .originPoint := by
  rw [ringWarnings] at hv hw
  split at hw
  · rw [List.mem_singleton.1 hw]
    show Code.degenerateGeometry ≠ .originPoint
    decide
  · rename_i henough
    rw [if_neg henough] at hv
    obtain ⟨i, _, rfl⟩ := List.mem_map.1 hv
    cases hfew

end Shell

/-! ## Pillars -/

namespace Pillar

variable {p : Pillar} {policy : Policy}

/-- A walk does not warn, also one that is broken off. -/
theorem warnings_points (p : Pillar) (symbols : Loose) :
    ((p.points symbols).run policy).warnings = [] := by
  have hwalk (symbols : Loose) (angle step : Float) :
      ((walk symbols angle step).run policy).warnings = [] := rfl
  rw [points]
  split
  · exact hwalk _ _ _
  · refine List.eq_nil_iff_forall_not_mem.2 fun w hw => ?_
    rw [brokenWalk] at hw
    rcases mem_warnings_bind hw with hw | ⟨_, hw⟩
    · rw [hwalk] at hw
      exact List.not_mem_nil hw
    · split at hw <;> exact List.not_mem_nil hw

/-- A table of rules warns of the rules that repeat a symbol. -/
theorem run_table {rules : List Production.Rule} (h : p.rules = some rules) :
    p.table.run .permissive = ⟨Production.repeatWarnings rules, .ok (Production.kept rules)⟩ := by
  rw [table, h, need, pure_bind, Production.ofRules_eq_script, run_script_permissive]

/-- The ring of a pillar comes with the warnings for its rules. -/
theorem warnings_ring {ring : List Point} (h : (p.ring.run .permissive).result = .ok ring) :
    ∃ rules, p.rules = some rules ∧
      (p.ring.run .permissive).warnings = Production.repeatWarnings rules := by
  rw [Pillar.ring] at h
  obtain ⟨t, ht, h⟩ := result_bind_eq_ok_iff.1 h
  obtain ⟨symbols, hsymbols, hpoints⟩ := result_bind_eq_ok_iff.1 h
  obtain ⟨g, hg, _⟩ := result_bind_eq_ok_iff.1 hsymbols
  obtain ⟨rules, hrules, _⟩ := result_bind_eq_ok_iff.1 ht
  have hrules := result_need_eq_ok_iff.1 hrules
  refine ⟨rules, hrules, ?_⟩
  rw [Pillar.ring, warnings_bind_of_ok ht, warnings_bind_of_ok hsymbols, symbols_eq_pure hg,
    warnings_points, run_table hrules]
  exact List.append_nil _

/-- The shell of a pillar comes with the warnings for its ring. -/
theorem warnings_shell {ring : List Point} {m : Mesh}
    (h : ((p.shell ring).run .permissive).result = .ok m) :
    ((p.shell ring).run .permissive).warnings = Shell.ringWarnings ring := by
  rw [shell] at h ⊢
  split at h
  · obtain ⟨built, hbuilt, _⟩ := result_bind_eq_ok_iff.1 h
    rw [warnings_bind_of_ok hbuilt, Shell.warnings_extrude]
    exact List.append_nil _
  · split at h
    · rename_i hfew
      rw [if_pos hfew, Shell.warnings_extrude]
    · obtain ⟨_, _, h⟩ := result_bind_eq_ok_iff.1 h
      exact absurd h result_fail_ne_ok

theorem warnings_column (p : Pillar) : (p.column.run policy).warnings = [] := by
  rw [column]
  split <;> rfl

/-- Without a policy, an L-system whose mesh is made warns of its rules that repeat a symbol, in
order, and then of its ring: of all of it if it has fewer than three points, and otherwise of each
point on the origin.  It does not warn of too few points and of a point on the origin.  A fluted
pillar does not warn, whatever the policy. -/
theorem generate_warns (p : Pillar) :
    (∀ m, p.form? = some .lsystem → (p.generate.run .permissive).result = .ok m →
      ∃ rules ring, p.rules = some rules ∧ (p.crossSection.run .permissive).result = .ok ring ∧
        (p.generate.run .permissive).warnings = Production.repeatWarnings rules ++
          (if ring.length < 3 then [Shell.degenerateWarning ring.length]
          else (Shell.originPoints ring).map Shell.originWarning) ∧
        ∀ v ∈ (p.generate.run .permissive).warnings, ∀ w ∈ (p.generate.run .permissive).warnings,
          v.code = .degenerateGeometry → w.code ≠ .originPoint) ∧
    (p.form? = some .fluted → ∀ policy, (p.generate.run policy).warnings = []) := by
  constructor
  · intro m hform h
    have hcross : p.crossSection = p.ring := by rw [crossSection, hform]
    have hgenerate : p.generate = p.ring >>= p.shell := by rw [generate, hform]
    rw [hgenerate] at h ⊢
    obtain ⟨ring, hring, hshell⟩ := result_bind_eq_ok_iff.1 h
    obtain ⟨rules, hrules, hwarnings⟩ := warnings_ring hring
    have hall : ((p.ring >>= p.shell).run .permissive).warnings =
        Production.repeatWarnings rules ++ Shell.ringWarnings ring := by
      rw [warnings_bind_of_ok hring, hwarnings, warnings_shell hshell]
    refine ⟨rules, ring, hrules, hcross ▸ hring, hall, fun v hv w hw hfew horigin => ?_⟩
    -- A repeated rule is neither of the two, so both are about the ring.
    rw [hall, List.mem_append] at hv hw
    have hother {w : Warning} (hw : w ∈ Production.repeatWarnings rules) :=
      Production.code_of_mem_repeatWarnings hw
    rcases hv with hv | hv
    · cases (hother hv).symm.trans hfew
    · rcases hw with hw | hw
      · cases (hother hw).symm.trans horigin
      · exact Shell.not_both_of_ringWarnings hv hw hfew horigin
  · intro hform policy
    rw [generate, hform]
    exact warnings_column p

/-- A pillar with two rules for one symbol and a walk of two steps. -/
def repeating : Pillar :=
  { label := "lsystem", id := "a", seed := some "F", rules := some [⟨"F", "F+F"⟩, ⟨"F", "G"⟩]
    iterations := some 1, angle := some 90.0, segmentLength := some 1.0, thickness := some 0.1 }

/-- A column of three sides. -/
def plain : Pillar :=
  { label := "fluted", id := "b", radius := some 1.0, segments := some 3, flutes := some 0
    fluteDepth := some 0.0 }

/-- Of the first pillar, the second rule is ignored, and two points are too few.  The second does
not warn under any policy. -/
theorem generate_warns_repeating :
    repeating.form? = some .lsystem ∧ (repeating.generate.run .permissive).result = .ok .empty ∧
      (repeating.generate.run .permissive).warnings.map Warning.text =
        ["[W02] Duplicate rule for symbol 'F' ignored (keeping 'F+F', dropping 'G')",
          "[W01] Cross-section has 2 point(s); at least 3 are needed to build a shell"] ∧
      plain.form? = some .fluted ∧ ∀ policy, (plain.generate.run policy).warnings = [] := by
  have hform : repeating.form? = some .lsystem := by decide
  have hrun : (repeating.generate.run .permissive).result = .ok .empty := by rfl
  have hplain : plain.form? = some .fluted := by decide
  obtain ⟨rules, ring, hrules, hring, hwarnings, _⟩ := (generate_warns repeating).1 _ hform hrun
  obtain ⟨a, b, hpoints⟩ : ∃ a b, (repeating.crossSection.run .permissive).result = .ok [a, b] :=
    ⟨_, _, by rfl⟩
  cases hpoints.symm.trans hring
  cases hrules
  have hfew : [a, b].length < 3 := Nat.lt_succ_self 2
  rw [if_pos hfew] at hwarnings
  refine ⟨hform, hrun, ?_, hplain, (generate_warns plain).2 hplain⟩
  rw [hwarnings, List.length_cons, List.length_singleton]
  decide

end Pillar

end Colonnade
