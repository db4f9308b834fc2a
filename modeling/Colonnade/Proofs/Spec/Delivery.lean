import Colonnade.Cli.Run
import Colonnade.Proofs.Spec.Counts
import Colonnade.Proofs.Spec.Reading
import Colonnade.Proofs.Warning.Hinge

/-!
# When a specification delivers its meshes

A specification delivers under a policy if its generation returns a mesh for every pillar, in
document order, or ends with a warning that the policy escalates (`Spec.Delivers`).  The schema and
the semantic checks rule out what each parameter alone can do wrong.  They do not bound how large
numbers get: the heading of a turtle may become infinite, a number of flutes may have no float or
make an angle infinite, and there may be more vertices than words to number them.

`Pillar.Fits` says that nothing of this kind happens.  Without a policy a ready pillar hinges on it
(`Pillar.hinges_generate`): it is generated if it fits, and has a fault of this kind if not, which
is none of the faults that are reported.  `Spec.delivers_iff` is the result for a specification that
was read and accepted.
-/

namespace Colonnade

open Text (Loose)

open Report

/-! ## Numbers that are too large -/

/-- Whether a fault comes from a number that is too large. -/
def GenerationFault.isOverflow : GenerationFault → Bool
  | .infiniteHeading => true
  | .column cause => cause.isOverflow
  | .wideCorner _ => true
  | _ => false

/-- A number that is too large is not reported as an error. -/
theorem GenerationFault.not_reported_of_isOverflow {fault : GenerationFault}
    (h : fault.isOverflow = true) : Cli.Failure.reportsGeneration fault = false := by
  cases fault with
  | column cause => cases cause <;> first | rfl | cases h
  | infiniteHeading => rfl
  | wideCorner cause => rfl
  | negativeRounds cause => cases h
  | noLSystem id label => cases h
  | unknownForm id label => cases h
  | unset use => cases h

namespace Pillar

variable {p : Pillar}

/-- A pillar whose numbers do not get too large.  The turtle of an L-system has a direction at every
step, the radius of a column swings with angles that are not infinite, and the vertices of both can
be numbered by words. -/
def Fits (p : Pillar) : Prop :=
  match p.form? with
  | some .lsystem => ∃ symbols angle, p.string? = some symbols ∧ p.angle = some angle ∧
      (∀ heading ∈ Turtle.headings angle {} symbols, Turtle.HasDirection heading) ∧
      4 * symbols.count (.char 'F') ≤ 2 ^ 32
  | some .fluted => ∃ segments flutes, p.segments = some segments ∧ p.flutes = some flutes ∧
      (∀ i ≤ segments.toNat, ∃ swing,
        Column.swing? segments flutes i = some swing ∧ swing.isInf = false) ∧
      2 * (segments.toNat + 1) ≤ 2 ^ 32
  | none => False

/-! ## Steps -/

/-- A walk hinges on the directions of its steps. -/
theorem hinges_walk (symbols : Loose) (angle step : Float) :
    (walk symbols angle step).Hinges
      (∀ heading ∈ Turtle.headings angle {} symbols, Turtle.HasDirection heading)
      (fun fault => fault.isOverflow = true) := by
  refine hinges_ofExcept ?_ ?_
  · refine (Turtle.exists_walk_eq_ok_iff symbols angle step).symm.trans ⟨?_, ?_⟩
    · rintro ⟨points, h⟩
      exact ⟨_, except_map_eq_ok_iff.2 ⟨points, mapError_eq_ok_iff.2 h, rfl⟩⟩
    · rintro ⟨ring, h⟩
      obtain ⟨points, hpoints, _⟩ := except_map_eq_ok_iff.1 h
      exact ⟨points, mapError_eq_ok_iff.1 hpoints⟩
  · intro cause hcause
    obtain ⟨_, _, rfl⟩ := mapError_eq_error_iff.1 (except_map_eq_error_iff.1 hcause)
    rfl

/-- A shell of known thickness hinges on the number of its vertices. -/
theorem hinges_shell {thickness : Float} (hthickness : p.thickness = some thickness)
    (ring : List Point) :
    (p.shell ring).Hinges (4 * ring.length ≤ 2 ^ 32) (fun fault => fault.isOverflow = true) := by
  have hshell : p.shell ring = Shell.extrude ring p.height thickness >>= fun mesh =>
      .ofExcept (mesh.stored.mapError .wideCorner) := by
    rw [shell, hthickness]
  have hextrude := result_extrude_permissive ring p.height thickness
  rw [← exists_shell_eq_ok_iff hthickness, hshell]
  refine Hinges.after hextrude (hinges_ofExcept ?_ ?_)
  · simp only [result_bind_of_ok hextrude, result_ofExcept_eq_ok_iff]
  · intro cause hcause
    obtain ⟨_, _, rfl⟩ := mapError_eq_error_iff.1 hcause
    rfl

/-! ## Pillars -/

theorem hinges_generate_of_lsystem {seed : Loose} {rules : List Production.Rule} {iterations : Int}
    {angle step thickness : Float} (hform : p.form? = some .lsystem) (hseed : p.seed = some seed)
    (hrules : p.rules = some rules) (hiterations : p.iterations = some iterations)
    (hangle : p.angle = some angle) (hstep : p.segmentLength = some step)
    (hthickness : p.thickness = some thickness) (hrounds : 0 ≤ iterations) :
    p.generate.Hinges p.Fits (fun fault => fault.isOverflow = true) := by
  obtain ⟨t, ht⟩ := Production.Table.exists_extend_eq_ok (ε := GenerationFault) .empty rules
  have htable : (p.table.run .permissive).result = .ok t := by
    rw [table, hrules]
    exact ht
  have hgrowth : (p.growth.run .permissive).result = .ok (seed, iterations.toNat) :=
    result_growth_eq_ok_iff.2 ⟨iterations, seed, hiterations, hseed,
      if_neg (Int.not_lt.2 hrounds), rfl⟩
  generalize hsymbols : t.deriveTimes iterations.toNat seed = symbols
  have hstring : p.string? = some symbols := hsymbols ▸ string?_eq_some htable hgrowth
  have hfits : p.Fits ↔
      (∀ heading ∈ Turtle.headings angle {} symbols, Turtle.HasDirection heading) ∧
        4 * symbols.count (.char 'F') ≤ 2 ^ 32 := by
    rw [Fits, hform]
    constructor
    · rintro ⟨symbols', angle', hstring', hangle', h⟩
      cases hstring.symm.trans hstring'
      cases hangle.symm.trans hangle'
      exact h
    · exact fun h => ⟨symbols, angle, hstring, hangle, h⟩
  have hgenerate : p.generate = p.table >>= fun t => p.symbols t >>= fun symbols =>
      p.points symbols >>= p.shell := by
    rw [generate, hform]
    simp only [ring, bind_assoc]
  have hpoints : p.points symbols = walk symbols angle step := by
    rw [points, hangle, hstep]
  -- The table and the string are always there, so only the walk and the shell are left to fail.
  rw [hfits, hgenerate]
  refine Hinges.after htable (Hinges.after (a := symbols) ?_ ?_)
  · rw [symbols_eq_pure hgrowth, hsymbols]
    rfl
  · rw [hpoints]
    refine (hinges_walk symbols angle step).bind fun ring hring => ?_
    rw [← points_eq_ok (hpoints ▸ hring)]
    exact hinges_shell hthickness ring

theorem hinges_generate_of_fluted {radius depth : Float} {segments flutes : Int}
    (hform : p.form? = some .fluted) (hradius : p.radius = some radius)
    (hsegments : p.segments = some segments) (hflutes : p.flutes = some flutes)
    (hdepth : p.fluteDepth = some depth) (henough : 3 ≤ segments) :
    p.generate.Hinges p.Fits (fun fault => fault.isOverflow = true) := by
  have hbuild := Column.exists_build_eq_ok_iff (d := ⟨p.height, radius, segments, flutes, depth⟩)
    henough
  have hfits : p.Fits ↔ ∃ m, Column.build ⟨p.height, radius, segments, flutes, depth⟩ = .ok m := by
    rw [hbuild, Fits, hform]
    constructor
    · rintro ⟨segments', flutes', hsegments', hflutes', h⟩
      cases hsegments.symm.trans hsegments'
      cases hflutes.symm.trans hflutes'
      exact h
    · exact fun h => ⟨segments, flutes, hsegments, hflutes, h⟩
  have hgenerate : p.generate = .ofExcept
      ((Column.build ⟨p.height, radius, segments, flutes, depth⟩).mapError .column) := by
    rw [generate, hform]
    show p.column = _
    rw [column, hradius, hsegments, hflutes, hdepth]
  rw [hgenerate, hfits]
  refine hinges_ofExcept ?_ ?_
  · simp only [mapError_eq_ok_iff]
  · intro cause hcause
    obtain ⟨fault, hfault, rfl⟩ := mapError_eq_error_iff.1 hcause
    exact Column.isOverflow_of_build henough hfault

/-- Without a policy a ready pillar is generated if it fits, and has a number that is too large if
not. -/
theorem hinges_generate (h : p.IsReady) :
    p.generate.Hinges p.Fits (fun fault => fault.isOverflow = true) := by
  cases h with
  | lsystem form seed_eq rules_eq iterations_eq angle_eq step_eq thickness_eq rounds =>
    exact hinges_generate_of_lsystem form seed_eq rules_eq iterations_eq angle_eq step_eq
      thickness_eq rounds
  | fluted form radius_eq segments_eq flutes_eq depth_eq enough =>
    exact hinges_generate_of_fluted form radius_eq segments_eq flutes_eq depth_eq enough

end Pillar

/-! ## Specifications -/

namespace Spec

variable {s : Spec}

/-- Generation gives a mesh for every pillar in document order, or ends with a warning that the
policy escalates. -/
def Delivers (s : Spec) (policy : Policy) : Prop :=
  (∃ gs, (s.generate.run policy).result = .ok gs ∧ gs.map Generated.pillar = s.pillars) ∨
    ∃ w, (s.generate.run policy).result = .error (.promoted w) ∧ policy.Escalates w

theorem hinges_generate (h : ∀ p ∈ s.pillars, p.IsReady) :
    s.generate.Hinges (∀ p ∈ s.pillars, p.Fits) (fun fault => fault.isOverflow = true) := by
  refine hinges_traverse fun p hp => ?_
  have hpillar := Pillar.hinges_generate (h p hp)
  rw [← and_true p.Fits]
  exact hpillar.bind fun m _ => hinges_pure _ _

/-- A specification whose generation has a fault does not deliver. -/
theorem not_delivers_of_fault {policy : Policy} {fault : GenerationFault}
    (h : (s.generate.run policy).result = .error (.fault fault)) : ¬ s.Delivers policy := by
  rintro (⟨gs, hgs, _⟩ | ⟨w, hw, _⟩)
  · rw [h] at hgs
    cases hgs
  · rw [h] at hw
    cases hw

theorem map_pillar_of_generate {policy : Policy} {gs : List Generated}
    (h : (s.generate.run policy).result = .ok gs) : gs.map Generated.pillar = s.pillars := by
  have hall := forall₂_of_generate h
  generalize s.pillars = ps at hall
  clear h
  induction hall with
  | nil => rfl
  | cons hfirst _ ih => rw [List.map_cons, hfirst.1, ih]

/-- A specification that was read and accepted delivers under a policy exactly if all pillars fit,
or the policy escalates a warning that comes before the first one that does not.  If it does not
deliver, then a number is too large, which is not reported as an error. -/
theorem delivers_iff {pairs : Schema.Reader.Pairs} (hread : readFields pairs = .ok s)
    (haccepted : s.validate = .ok ()) (policy : Policy) :
    (s.Delivers policy ↔ (∀ p ∈ s.pillars, p.Fits) ∨
      ∃ w ∈ (s.generate.run .permissive).warnings, policy.Escalates w) ∧
    (¬ s.Delivers policy → ∃ fault, (s.generate.run policy).result = .error (.fault fault) ∧
      fault.isOverflow = true ∧ Cli.Failure.reportsGeneration fault = false) := by
  have hhinges := hinges_generate (isReady_of_validate hread haccepted)
  -- A policy ends generation at a warning, or leaves the ending as it is without a policy.
  rcases s.isScripted_generate.cases_policy policy with
    ⟨hescalates, hpromoted⟩ | ⟨hnone, hsame⟩
  · have hdelivers : s.Delivers policy := .inr hpromoted
    exact ⟨⟨fun _ => .inr hescalates, fun _ => hdelivers⟩, fun h => absurd hdelivers h⟩
  · by_cases hfits : ∀ p ∈ s.pillars, p.Fits
    · obtain ⟨gs, hgs⟩ := hhinges.returns hfits
      have hrun := hsame.trans hgs
      have hdelivers : s.Delivers policy := .inl ⟨gs, hrun, map_pillar_of_generate hrun⟩
      exact ⟨⟨fun _ => .inl hfits, fun _ => hdelivers⟩, fun h => absurd hdelivers h⟩
    · obtain ⟨fault, hfault, hoverflow⟩ := hhinges.faults hfits
      have hrun := hsame.trans hfault
      have hfails := not_delivers_of_fault hrun
      refine ⟨⟨fun h => absurd h hfails, fun h => ?_⟩, fun _ => ⟨fault, hrun, hoverflow, ?_⟩⟩
      · exact h.elim (fun h => absurd h hfits) fun h => absurd h hnone
      · exact GenerationFault.not_reported_of_isOverflow hoverflow

/-- A walk of two steps, with a rule that is repeated. -/
def stepping : Schema.Reader.Pairs :=
  [(.text "version", .text "0.2"),
    (.text "pillars", .list [.map [(.text "id", .text "a"), (.text "type", .text "lsystem"),
      (.text "axiom", .text "F+F"), (.text "iterations", .int 0),
      (.text "rules", .list [.map [(.text "symbol", .text "F")],
        .map [(.text "symbol", .text "F")]])]])]

/-- The walk fits, so it is delivered, whether the warning of the repeated rule is promoted or
not. -/
theorem delivers_iff_stepping :
    ∃ s, readFields stepping = .ok s ∧ s.validate = .ok () ∧ s.Delivers .permissive ∧
      s.Delivers ⟨["W02"], []⟩ := by
  obtain ⟨s, p, hread, haccepted, hpillars, hform, hangle, hstring, hwarnings⟩ :
      ∃ s p, readFields stepping = .ok s ∧ s.validate = .ok () ∧ s.pillars = [p] ∧
        p.form? = some .lsystem ∧ p.angle = some 90.0 ∧ p.string? = some (Loose.ofText "F+F") ∧
        (s.generate.run .permissive).warnings =
          [Production.Table.repeated ⟨"F", ""⟩ "", Shell.degenerateWarning 2] :=
    ⟨_, _, by rfl, by rfl, by rfl, by rfl, by rfl, by rfl, by rfl⟩
  refine ⟨s, hread, haccepted, ?_, ?_⟩
  · refine (delivers_iff hread haccepted _).1.2 (.inl ?_)
    rw [hpillars]
    intro q hq
    cases List.mem_singleton.1 hq
    rw [Pillar.Fits, hform]
    exact ⟨_, _, hstring, hangle, by decide, by decide⟩
  · refine (delivers_iff hread haccepted _).1.2 (.inr ?_)
    rw [hwarnings]
    exact ⟨_, List.mem_cons_self, by decide, by decide⟩

/-- A column without depth whose number of flutes has no float. -/
def boundless : Schema.Reader.Pairs :=
  [(.text "version", .text "0.2"),
    (.text "pillars", .list [.map [(.text "id", .text "a"), (.text "type", .text "fluted"),
      (.text "segments", .int 3), (.text "flutes", .int (10 ^ 200 * 10 ^ 200)),
      (.text "flute_depth", .float 0.0)]])]

/-- The column is read and accepted, but nothing is delivered, although no warning is promoted. -/
theorem not_delivers_boundless :
    ∃ s, readFields boundless = .ok s ∧ s.validate = .ok () ∧ ¬ s.Delivers .permissive ∧
      (s.generate.run .permissive).result = .error (.fault (.column .integerTooLarge)) := by
  have hflutes : (Number.floatOfInt? (10 ^ 200 * 10 ^ 200)).isNone = true := by decide +kernel
  obtain ⟨s, p, d, hread, haccepted, hpillars, hgenerate, hsegments, hmany⟩ :
      ∃ s p d, readFields boundless = .ok s ∧ s.validate = .ok () ∧ s.pillars = [p] ∧
        p.generate = .ofExcept ((Column.build d).mapError .column) ∧ d.segments = 3 ∧
        d.flutes = 10 ^ 200 * 10 ^ 200 :=
    ⟨_, _, _, by rfl, by rfl, by rfl, by rfl, by rfl, by rfl⟩
  have haround : Number.floatOfInt? d.segments = some 3.0 := by
    rw [hsegments]
    rfl
  have hbuild : Column.build d = .error .integerTooLarge := by
    refine Column.build_eq_error_of_flutes (by omega) haround ?_
    rw [hmany]
    exact Option.isNone_iff_eq_none.1 hflutes
  have hrun : (s.generate.run .permissive).result =
      .error (.fault (.column .integerTooLarge)) := by
    rw [generate, hpillars]
    refine result_bind_of_error (result_bind_of_error ?_)
    rw [hgenerate, hbuild]
    rfl
  exact ⟨s, hread, haccepted, not_delivers_of_fault hrun, hrun⟩

end Spec

end Colonnade
