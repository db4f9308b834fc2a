import Colonnade.Proofs.Number.Order
import Colonnade.Proofs.Spec.Version
import Mathlib.Data.List.Induction
import Mathlib.Data.List.Nodup

/-!
# Which specifications are accepted

`Spec.IsValid` says what an accepted specification is like, and `Spec.validate_reports_first` that
these are the ones that are accepted.  Of any other, the first check that it fails is reported, for
the first pillar that fails it.

The checks are looked at one by one.  Each of them goes through the pillars in order and says of a
pillar and those before it whether it suits (`Spec.Suits`); a check that finds what it should is one
of which `Finds` holds.  Most checks look at one pillar at a time (`finds_findSome?`), and the
checks of ranges at one parameter at a time (`Judges.next`).

Ranges of floats are checked as if all floats were ordered.  They are, because the check for numbers
that are not finite comes first.

An integer that is out of range is part of the report, and when it is too large to be written
another fault takes the place of the report: `SpecFault.written`.
-/

namespace Colonnade

open Document (Value)
open Schema (Reader)

/-! ## Valid specifications -/

namespace Pillar

/-- The numbers of a pillar: its height, the parameters that are set, and the components of its
offset. -/
def HasNumber (p : Pillar) (x : Float) : Prop :=
  p.height = x ∨ p.angle = some x ∨ p.segmentLength = some x ∨ p.thickness = some x ∨
    p.radius = some x ∨ p.fluteDepth = some x ∨
    ∃ v, p.offset? = some v ∧ (v.x = x ∨ v.y = x ∨ v.z = x)

/-- The parameters of an L-system are set and in range. -/
def IsLSystemInRange (p : Pillar) : Prop :=
  ∃ iterations step thickness, p.iterations = some iterations ∧ p.segmentLength = some step ∧
    p.thickness = some thickness ∧ 0 ≤ iterations ∧ 0.0 < step ∧ 0.0 ≤ thickness

/-- The parameters of a fluted column are set and in range. -/
def IsFlutingInRange (p : Pillar) : Prop :=
  ∃ radius segments flutes, p.radius = some radius ∧ p.segments = some segments ∧
    p.flutes = some flutes ∧ 0.0 < radius ∧ 3 ≤ segments ∧ 0 ≤ flutes

end Pillar

/-- A specification that breaks no rule. -/
structure Spec.IsValid (s : Spec) : Prop where
  gate : (∀ p ∈ s.pillars, p.form? ≠ some .fluted) ∨
    toLex (0, 2) ≤ toLex (s.versionNumber.major, s.versionNumber.minor)
  ids : (s.pillars.map Pillar.id).Nodup
  finite : ∀ p ∈ s.pillars, ∀ x, p.HasNumber x → x.isFinite
  heights : ∀ p ∈ s.pillars, 0.0 < p.height
  symbols : ∀ p ∈ s.pillars, ∀ rules, p.rules = some rules → ∀ rule ∈ rules, rule.symbol.length = 1
  lsystem : ∀ p ∈ s.pillars, p.form? = some .lsystem → p.IsLSystemInRange
  fluting : ∀ p ∈ s.pillars, p.form? = some .fluted → p.IsFlutingInRange

/-! ## Checks -/

/-- The checks of a specification. -/
inductive Check where
  /-- Fluted pillars need a late enough version. -/
  | gate
  | ids
  /-- All numbers are finite. -/
  | finite
  | heights
  | symbols
  /-- The parameters of L-systems are in range. -/
  | lsystem
  /-- The parameters of fluted columns are in range. -/
  | fluting
  deriving DecidableEq

namespace Check

/-- The checks, in order. -/
def all : List Check := [.gate, .ids, .finite, .heights, .symbols, .lsystem, .fluting]

/-- The place of a check in the order. -/
def rank : Check → Nat
  | .gate => 0
  | .ids => 1
  | .finite => 2
  | .heights => 3
  | .symbols => 4
  | .lsystem => 5
  | .fluting => 6

theorem mem_all (c : Check) : c ∈ all := by
  cases c <;> decide

/-- Of the checks that find something, there is a first one. -/
theorem exists_first_of_findSome? {α : Type} {find : Check → Option α} {a : α}
    (h : all.findSome? find = some a) :
    ∃ c, find c = some a ∧ ∀ d : Check, d.rank < c.rank → find d = none := by
  obtain ⟨before, c, after, hall, hfound, hbefore⟩ := List.findSome?_eq_some_iff.1 h
  have hsorted : all.Pairwise fun c d => c.rank < d.rank := by decide
  rw [hall, List.pairwise_append, List.pairwise_cons] at hsorted
  refine ⟨c, hfound, fun d hd => hbefore d ?_⟩
  have hmem := d.mem_all
  rw [hall, List.mem_append, List.mem_cons] at hmem
  rcases hmem with hmem | rfl | hmem
  · exact hmem
  · omega
  · have hlater := hsorted.2.1.1 d hmem
    omega

end Check

namespace Spec

variable {s : Spec}

/-- A pillar suits a check, given the pillars before it. -/
def Suits (s : Spec) (before : List Pillar) (p : Pillar) : Check → Prop
  | .gate => p.form? = some .fluted →
    toLex (0, 2) ≤ toLex (s.versionNumber.major, s.versionNumber.minor)
  | .ids => ∀ q ∈ before, q.id ≠ p.id
  | .finite => ∀ x, p.HasNumber x → x.isFinite
  | .heights => 0.0 < p.height
  | .symbols => ∀ rules, p.rules = some rules → ∀ rule ∈ rules, rule.symbol.length = 1
  | .lsystem => p.form? = some .lsystem → p.IsLSystemInRange
  | .fluting => p.form? = some .fluted → p.IsFlutingInRange

/-- All pillars of a list suit a check. -/
def AllSuit (s : Spec) (c : Check) (ps : List Pillar) : Prop :=
  ∀ before p after, ps = before ++ p :: after → s.Suits before p c

end Spec

/-- The faults that report a pillar for a check. -/
inductive SpecFault.Reports (s : Spec) (p : Pillar) : Check → SpecFault → Prop
  | gate : Reports s p .gate (.tooEarly p.id s.version)
  | ids : Reports s p .ids (.repeatedId p.id)
  | finite {field : String} {x : Float} (named : (field, x) ∈ p.floats ++ p.offsetFloats)
    (infinite : x.isFinite = false) : Reports s p .finite (.notFinite p.id field x)
  | heights : Reports s p .heights (.height p.id p.height)
  | symbols {rules : List Production.Rule} {rule : Production.Rule}
    (rules_eq : p.rules = some rules) (mem : rule ∈ rules) (long : rule.symbol.length ≠ 1) :
    Reports s p .symbols (.ruleSymbol p.id rule.symbol)
  | iterations {n : Int} (iterations_eq : p.iterations = some n) (negative : ¬0 ≤ n) :
    Reports s p .lsystem (.iterations p.id n)
  | segmentLength {x : Float} (step_eq : p.segmentLength = some x) (low : ¬0.0 < x) :
    Reports s p .lsystem (.segmentLength p.id x)
  | thickness {x : Float} (thickness_eq : p.thickness = some x) (negative : ¬0.0 ≤ x) :
    Reports s p .lsystem (.thickness p.id x)
  | radius {x : Float} (radius_eq : p.radius = some x) (low : ¬0.0 < x) :
    Reports s p .fluting (.radius p.id x)
  | segments {n : Int} (segments_eq : p.segments = some n) (few : ¬3 ≤ n) :
    Reports s p .fluting (.segments p.id n)
  | flutes {n : Int} (flutes_eq : p.flutes = some n) (negative : ¬0 ≤ n) :
    Reports s p .fluting (.flutes p.id n)

namespace SpecFault

/-- The integer that a fault names. -/
def integer? : SpecFault → Option Int
  | .iterations _ n => some n
  | .segments _ n => some n
  | .flutes _ n => some n
  | _ => none

/-- A fault as it is reported: if an integer in it is too large to be written, this is a fault of
its own. -/
def written (fault : SpecFault) : SpecFault :=
  if fault.integer?.any Number.isTooLarge then .unwritable else fault

/-- A fault that reports a pillar is reported as a broken rule unless it names an integer that is
too large. -/
theorem Reports.reportsSpec_written_iff {s : Spec} {p : Pillar} {c : Check} {cause : SpecFault}
    (h : cause.Reports s p c) : Cli.Failure.reportsSpec cause.written = true ↔
      ∀ n, cause.integer? = some n → Number.isTooLarge n = false := by
  have hown : Cli.Failure.reportsSpec cause = true := by cases h <;> rfl
  rw [written]
  cases hinteger : cause.integer? with
  | none => exact iff_of_true hown fun n hn => nomatch hn
  | some n =>
    rw [Option.any_some]
    cases hlarge : Number.isTooLarge n with
    | true =>
      refine iff_of_false Bool.false_ne_true fun h => ?_
      rw [h n rfl] at hlarge
      cases hlarge
    | false =>
      refine iff_of_true hown fun m hm => ?_
      cases hm
      exact hlarge

end SpecFault

theorem Pillar.integerFault_eq_written {fault : Int → SpecFault} {n : Int}
    (h : (fault n).integer? = some n) : integerFault fault n = (fault n).written := by
  rw [integerFault, SpecFault.written, h, Option.any_some]

/-- What is found is nothing if a condition holds, and otherwise a fault that reports this. -/
inductive Judges (holds : Prop) (reports : SpecFault → Prop) : Option SpecFault → Prop
  | accepted (h : holds) : Judges holds reports none
  | refused (cause : SpecFault) (h : ¬holds) (reported : reports cause) :
    Judges holds reports (some cause.written)

namespace Judges

variable {P Q : Prop} {R : SpecFault → Prop} {found : Option SpecFault}

theorem congr (h : Judges P R found) (hiff : P ↔ Q) : Judges Q R found := by
  cases h with
  | accepted h => exact .accepted (hiff.1 h)
  | refused cause h reported => exact .refused cause (mt hiff.2 h) reported

theorem holds_of_none (h : Judges P R none) : P := by
  cases h
  assumption

/-- Two conditions are looked at one after the other. -/
theorem next {rest : List (Option SpecFault)} (h : Judges P R found)
    (hrest : Judges Q R (rest.findSome? fun fault => fault)) :
    Judges (P ∧ Q) R ((found :: rest).findSome? fun fault => fault) := by
  cases h with
  | accepted hP => exact hrest.congr (and_iff_right hP).symm
  | refused cause hP reported => exact .refused cause (fun h => hP h.1) reported

theorem last : Judges True R (List.findSome? (fun fault => fault) []) := .accepted trivial

/-- A parameter that is set is in range or not. -/
theorem range {α : Type} {use : Unset} {isBad : α → Bool} {fault : α → SpecFault}
    {cause : SpecFault} {a : α} (hbad : isBad a = true ↔ ¬P) (hfault : fault a = cause.written)
    (reported : ¬P → R cause) : Judges P R (Pillar.outOfRange? use isBad fault (some a)) := by
  rw [Pillar.outOfRange?]
  split
  · rename_i h
    rw [hfault]
    exact .refused cause (hbad.1 h) (reported (hbad.1 h))
  · rename_i h
    exact .accepted (not_not.1 (mt hbad.2 h))

end Judges

/-! ## One pillar -/

namespace Pillar

variable {s : Spec} {p : Pillar}

theorem hasNumber_iff {x : Float} :
    p.HasNumber x ↔ ∃ field ∈ p.floats ++ p.offsetFloats, field.2 = x := by
  have hoffset : (∃ field ∈ p.offsetFloats, field.2 = x) ↔
      ∃ v, p.offset? = some v ∧ (v.x = x ∨ v.y = x ∨ v.z = x) := by
    rw [offsetFloats]
    cases p.offset? <;> simp
  have hfloats : (∃ field ∈ p.floats, field.2 = x) ↔ p.height = x ∨ p.angle = some x ∨
      p.segmentLength = some x ∨ p.thickness = some x ∨ p.radius = some x ∨
      p.fluteDepth = some x := by
    simp [floats, exists_or]
  simp only [List.mem_append, or_and_right, exists_or, hoffset, hfloats, HasNumber, or_assoc]

/-- The check for numbers that are not finite finds one if there is one. -/
theorem judges_notFinite? :
    Judges (∀ x, p.HasNumber x → x.isFinite) (·.Reports s p .finite) p.notFinite? := by
  rw [notFinite?]
  cases h : (p.floats ++ p.offsetFloats).find? fun field => !field.2.isFinite with
  | none =>
    refine .accepted fun x hx => ?_
    obtain ⟨field, hfield, rfl⟩ := hasNumber_iff.1 hx
    simpa using List.find?_eq_none.1 h field hfield
  | some field =>
    have hnamed : field ∈ p.floats ++ p.offsetFloats := List.mem_of_find?_eq_some h
    have hinfinite : field.2.isFinite = false := by simpa using List.find?_some h
    refine .refused (.notFinite p.id field.1 field.2) (fun hall => ?_) (.finite hnamed hinfinite)
    rw [hall _ (hasNumber_iff.2 ⟨field, hnamed, rfl⟩)] at hinfinite
    cases hinfinite

theorem judges_badHeight? (hfinite : ∀ x, p.HasNumber x → x.isFinite) :
    Judges (0.0 < p.height) (·.Reports s p .heights) p.badHeight? := by
  have hiff := Number.not_le_zero_iff (hfinite p.height (.inl rfl))
  rw [badHeight?]
  split
  · rename_i hlow
    exact .refused (.height p.id p.height) (fun h => hiff.2 h hlow) .heights
  · rename_i hlow
    exact .accepted (hiff.1 hlow)

theorem judges_badSymbol? :
    Judges (∀ rules, p.rules = some rules → ∀ rule ∈ rules, rule.symbol.length = 1)
      (·.Reports s p .symbols) p.badSymbol? := by
  rw [badSymbol?]
  cases hrules : p.rules with
  | none => exact .accepted fun rules h => by cases h
  | some rules =>
    rw [Option.getD_some]
    cases h : rules.find? fun rule => rule.symbol.length != 1 with
    | none =>
      refine .accepted fun _ hsame rule hrule => ?_
      cases hsame
      simpa using List.find?_eq_none.1 h rule hrule
    | some rule =>
      have hmem := List.mem_of_find?_eq_some h
      have hlong : rule.symbol.length ≠ 1 := by simpa using List.find?_some h
      exact .refused (.ruleSymbol p.id rule.symbol) (fun hall => hlong (hall rules rfl rule hmem))
        (.symbols hrules hmem hlong)

theorem judges_badLSystem? (hcomplete : p.IsComplete) (hfinite : ∀ x, p.HasNumber x → x.isFinite) :
    Judges (p.form? = some .lsystem → p.IsLSystemInRange) (·.Reports s p .lsystem)
      p.badLSystem? := by
  rw [badLSystem?]
  split
  · rename_i hform
    rw [IsComplete, hform] at hcomplete
    obtain ⟨_, _, hiterations, _, hstep, hthickness⟩ := hcomplete
    obtain ⟨iterations, hiterations⟩ := Option.isSome_iff_exists.1 hiterations
    obtain ⟨step, hstep⟩ := Option.isSome_iff_exists.1 hstep
    obtain ⟨thickness, hthickness⟩ := Option.isSome_iff_exists.1 hthickness
    have hstepSign := Number.not_le_zero_iff (hfinite step (.inr (.inr (.inl hstep))))
    have hthicknessSign :=
      Number.not_lt_zero_iff (hfinite thickness (.inr (.inr (.inr (.inl hthickness)))))
    have hiterationsRange : Judges (0 ≤ iterations) (·.Reports s p .lsystem) (outOfRange? .less
        (· < 0) (integerFault (.iterations p.id)) (some iterations)) :=
      .range (by rw [decide_eq_true_iff, Int.not_le]) (integerFault_eq_written rfl)
        (.iterations hiterations)
    have hstepRange : Judges (0.0 < step) (·.Reports s p .lsystem) (outOfRange? .atMost
        (· ≤ 0.0) (.segmentLength p.id) (some step)) :=
      .range (by rw [decide_eq_true_iff, ← hstepSign, not_not]) rfl (.segmentLength hstep)
    have hthicknessRange : Judges (0.0 ≤ thickness) (·.Reports s p .lsystem) (outOfRange? .less
        (· < 0.0) (.thickness p.id) (some thickness)) :=
      .range (by rw [decide_eq_true_iff, ← hthicknessSign, not_not]) rfl (.thickness hthickness)
    rw [hiterations, hstep, hthickness]
    refine (hiterationsRange.next (hstepRange.next (hthicknessRange.next .last))).congr ⟨?_, ?_⟩
    · rintro ⟨hrounds, hlong, hthick, _⟩ _
      exact ⟨_, _, _, hiterations, hstep, hthickness, hrounds, hlong, hthick⟩
    · intro hrange
      obtain ⟨_, _, _, hi, hs, ht, hrounds, hlong, hthick⟩ := hrange hform
      cases hiterations.symm.trans hi
      cases hstep.symm.trans hs
      cases hthickness.symm.trans ht
      exact ⟨hrounds, hlong, hthick, trivial⟩
  · rename_i hother
    exact .accepted fun hform => absurd hform hother

theorem judges_badFluting? (hcomplete : p.IsComplete) (hfinite : ∀ x, p.HasNumber x → x.isFinite) :
    Judges (p.form? = some .fluted → p.IsFlutingInRange) (·.Reports s p .fluting)
      p.badFluting? := by
  rw [badFluting?]
  split
  · rename_i hform
    rw [IsComplete, hform] at hcomplete
    obtain ⟨hradius, hsegments, hflutes, _⟩ := hcomplete
    obtain ⟨radius, hradius⟩ := Option.isSome_iff_exists.1 hradius
    obtain ⟨segments, hsegments⟩ := Option.isSome_iff_exists.1 hsegments
    obtain ⟨flutes, hflutes⟩ := Option.isSome_iff_exists.1 hflutes
    have hradiusSign :=
      Number.not_le_zero_iff (hfinite radius (.inr (.inr (.inr (.inr (.inl hradius))))))
    have hradiusRange : Judges (0.0 < radius) (·.Reports s p .fluting) (outOfRange? .atMost
        (· ≤ 0.0) (.radius p.id) (some radius)) :=
      .range (by rw [decide_eq_true_iff, ← hradiusSign, not_not]) rfl (.radius hradius)
    have hsegmentsRange : Judges (3 ≤ segments) (·.Reports s p .fluting) (outOfRange? .less
        (· < 3) (integerFault (.segments p.id)) (some segments)) :=
      .range (by rw [decide_eq_true_iff, Int.not_le]) (integerFault_eq_written rfl)
        (.segments hsegments)
    have hflutesRange : Judges (0 ≤ flutes) (·.Reports s p .fluting) (outOfRange? .less
        (· < 0) (integerFault (.flutes p.id)) (some flutes)) :=
      .range (by rw [decide_eq_true_iff, Int.not_le]) (integerFault_eq_written rfl)
        (.flutes hflutes)
    rw [hradius, hsegments, hflutes]
    refine (hradiusRange.next (hsegmentsRange.next (hflutesRange.next .last))).congr ⟨?_, ?_⟩
    · rintro ⟨hwide, henough, hcount, _⟩ _
      exact ⟨_, _, _, hradius, hsegments, hflutes, hwide, henough, hcount⟩
    · intro hrange
      obtain ⟨_, _, _, hr, hs, hf, hwide, henough, hcount⟩ := hrange hform
      cases hradius.symm.trans hr
      cases hsegments.symm.trans hs
      cases hflutes.symm.trans hf
      exact ⟨hwide, henough, hcount, trivial⟩
  · rename_i hother
    exact .accepted fun hform => absurd hform hother

end Pillar

/-! ## All pillars -/

namespace Spec

variable {s : Spec} {c : Check}

/-- What a check finds: nothing if all pillars suit it, and otherwise a fault that reports the first
one that does not. -/
inductive Finds (s : Spec) (c : Check) : Option SpecFault → Prop
  | nothing (h : s.AllSuit c s.pillars) : Finds s c none
  | first {before after : List Pillar} {p : Pillar} (cause : SpecFault)
    (split : s.pillars = before ++ p :: after) (earlier : s.AllSuit c before)
    (here : ¬s.Suits before p c) (reported : cause.Reports s p c) : Finds s c (some cause.written)

theorem allSuit_of_finds_none (h : s.Finds c none) : s.AllSuit c s.pillars := by
  cases h
  assumption

/-- A check that looks at every pillar by itself finds the first one that does not suit. -/
theorem finds_findSome? {check : Pillar → Option SpecFault}
    (h : ∀ p ∈ s.pillars, ∀ before, Judges (s.Suits before p c) (·.Reports s p c) (check p)) :
    s.Finds c (s.pillars.findSome? check) := by
  have hsuits {ps : List Pillar} (hps : ∀ p ∈ ps, p ∈ s.pillars)
      (hnone : ∀ p ∈ ps, check p = none) : s.AllSuit c ps := by
    rintro before p after rfl
    have hp : p ∈ before ++ p :: after := List.mem_append_right _ List.mem_cons_self
    have hjudged := h p (hps p hp) before
    rw [hnone p hp] at hjudged
    exact hjudged.holds_of_none
  cases hfound : s.pillars.findSome? check with
  | none => exact .nothing (hsuits (fun _ hp => hp) (List.findSome?_eq_none_iff.1 hfound))
  | some fault =>
    obtain ⟨before, p, after, hsplit, hp, hbefore⟩ := List.findSome?_eq_some_iff.1 hfound
    have hmem : p ∈ s.pillars := hsplit ▸ List.mem_append_right _ List.mem_cons_self
    have hearlier : ∀ q ∈ before, q ∈ s.pillars := fun q hq => hsplit ▸ List.mem_append_left _ hq
    have hjudged := h p hmem before
    rw [hp] at hjudged
    cases hjudged with
    | refused cause hnot reported =>
      exact .first cause hsplit (hsuits hearlier hbefore) hnot reported

/-! ## The version gate -/

theorem le_iff_not_before (v : Version) :
    toLex (0, 2) ≤ toLex (v.major, v.minor) ↔ ¬v.before ⟨0, 2⟩ = true := by
  rw [Version.before_iff, Prod.Lex.toLex_le_toLex]
  dsimp only
  omega

/-- The gate closes for the first fluted pillar, if there is one and the version is too early. -/
theorem finds_tooEarly? : s.Finds .gate s.tooEarly? := by
  rw [tooEarly?]
  by_cases hbefore : s.versionNumber.before ⟨0, 2⟩ = true
  · rw [if_pos hbefore, ← List.findSome?_guard, List.map_findSome?]
    refine finds_findSome? fun p _ before => ?_
    by_cases hfluted : p.form? = some .fluted
    · have hguard : p.isFluted = true := beq_iff_eq.2 hfluted
      simp only [Function.comp_apply, Option.guard, hguard, if_true, Option.map_some]
      exact .refused (.tooEarly p.id s.version)
        (fun h => (le_iff_not_before _).1 (h hfluted) hbefore) .gate
    · have hguard : p.isFluted = false := beq_eq_false_iff_ne.2 hfluted
      simp only [Function.comp_apply, Option.guard, hguard]
      exact .accepted fun h => absurd h hfluted
  · rw [if_neg hbefore]
    exact .nothing fun _ _ _ _ _ => (le_iff_not_before _).2 hbefore

/-! ## Ids -/

/-- One more pillar has to suit after the others. -/
theorem allSuit_concat {ps : List Pillar} {p : Pillar} :
    s.AllSuit c (ps ++ [p]) ↔ s.AllSuit c ps ∧ s.Suits ps p c := by
  constructor
  · intro h
    refine ⟨fun before q after hsplit => h before q (after ++ [p]) ?_, h ps p [] rfl⟩
    rw [hsplit, List.append_assoc, List.cons_append]
  · rintro ⟨hall, hlast⟩ before q after hsplit
    rcases after.eq_nil_or_concat with rfl | ⟨most, last, rfl⟩
    · obtain ⟨rfl, hp⟩ := List.append_inj' hsplit rfl
      cases hp
      exact hlast
    · rw [List.concat_eq_append, ← List.cons_append, ← List.append_assoc] at hsplit
      exact hall before q most (List.append_inj' hsplit rfl).1

theorem allSuit_ids_iff (ps : List Pillar) : s.AllSuit .ids ps ↔ (ps.map Pillar.id).Nodup := by
  induction ps using List.reverseRecOn with
  | nil =>
    refine iff_of_true (fun before p after h => ?_) List.nodup_nil
    exact absurd h.symm (List.append_ne_nil_of_right_ne_nil before (List.cons_ne_nil p after))
  | append_singleton ps p ih =>
    rw [allSuit_concat, ih, List.map_append, List.map_singleton, ← List.concat_eq_append,
      List.nodup_concat, and_comm]
    refine and_congr_left' ?_
    simp only [Suits, List.mem_map, not_exists, not_and, ne_eq]

/-- The first id that is found is one that occurred before, and none did before it. -/
theorem exists_of_repeatedId?_eq_some {seen ids : List Text.Loose} {id : Text.Loose}
    (h : repeatedId? seen ids = some id) :
    ∃ before after, ids = before ++ id :: after ∧ repeatedId? seen before = none ∧
      (id ∈ seen ∨ id ∈ before) := by
  induction ids generalizing seen with
  | nil => cases h
  | cons next rest ih =>
    rw [repeatedId?] at h
    split at h
    · rename_i hseen
      cases h
      exact ⟨[], rest, rfl, rfl, .inl (List.contains_iff_mem.1 hseen)⟩
    · rename_i hseen
      obtain ⟨before, after, rfl, hbefore, hid⟩ := ih h
      refine ⟨next :: before, after, rfl, ?_, ?_⟩
      · rw [repeatedId?, if_neg hseen, hbefore]
      · rw [List.mem_cons] at hid ⊢
        tauto

theorem finds_repeatedId? :
    s.Finds .ids ((repeatedId? [] (s.pillars.map Pillar.id)).map .repeatedId) := by
  cases h : repeatedId? [] (s.pillars.map Pillar.id) with
  | none =>
    exact .nothing ((allSuit_ids_iff _).2 ((repeatedId?_eq_none_iff _ _).1 h).1)
  | some id =>
    obtain ⟨_, _, hids, hearlier, hid⟩ := exists_of_repeatedId?_eq_some h
    obtain ⟨before, rest, hsplit, rfl, hrest⟩ := List.map_eq_append_iff.1 hids
    obtain ⟨p, after, rfl, rfl, _⟩ := List.map_eq_cons_iff.1 hrest
    refine .first (.repeatedId p.id) hsplit
      ((allSuit_ids_iff _).2 ((repeatedId?_eq_none_iff _ _).1 hearlier).1) (fun hdiffer => ?_) .ids
    obtain ⟨q, hq, hsame⟩ := List.mem_map.1 (hid.resolve_left List.not_mem_nil)
    exact hdiffer q hq hsame

/-! ## All checks -/

/-- What a check finds. -/
def finding (s : Spec) : Check → Option SpecFault
  | .gate => s.tooEarly?
  | .ids => (repeatedId? [] (s.pillars.map Pillar.id)).map .repeatedId
  | .finite => s.pillars.findSome? Pillar.notFinite?
  | .heights => s.pillars.findSome? Pillar.badHeight?
  | .symbols => s.pillars.findSome? Pillar.badSymbol?
  | .lsystem => s.pillars.findSome? Pillar.badLSystem?
  | .fluting => s.pillars.findSome? Pillar.badFluting?

theorem fault?_eq (s : Spec) : s.fault? = Check.all.findSome? s.finding := by
  show (Check.all.map s.finding).findSome? (fun fault => fault) = _
  rw [List.findSome?_map]
  rfl

theorem finds_finite : s.Finds .finite (s.finding .finite) :=
  finds_findSome? fun _ _ _ => Pillar.judges_notFinite?

/-- A check finds what it should, after those before it have found nothing. -/
theorem finds_finding (hcomplete : ∀ p ∈ s.pillars, p.IsComplete)
    (h : ∀ d : Check, d.rank < c.rank → s.finding d = none) : s.Finds c (s.finding c) := by
  have hfinite (hlate : Check.finite.rank < c.rank) :
      ∀ p ∈ s.pillars, ∀ x, p.HasNumber x → x.isFinite := by
    intro p hp
    have hfound := finds_finite (s := s)
    rw [h .finite hlate] at hfound
    obtain ⟨before, after, hsplit⟩ := List.append_of_mem hp
    exact allSuit_of_finds_none hfound before p after hsplit
  cases c with
  | gate => exact finds_tooEarly?
  | ids => exact finds_repeatedId?
  | finite => exact finds_finite
  | heights => exact finds_findSome? fun p hp _ => p.judges_badHeight? (hfinite (by decide) p hp)
  | symbols => exact finds_findSome? fun p _ _ => p.judges_badSymbol?
  | lsystem =>
    exact finds_findSome? fun p hp _ =>
      p.judges_badLSystem? (hcomplete p hp) (hfinite (by decide) p hp)
  | fluting =>
    exact finds_findSome? fun p hp _ =>
      p.judges_badFluting? (hcomplete p hp) (hfinite (by decide) p hp)

/-! ## Acceptance -/

theorem allSuit_iff {P : Pillar → Prop} {ps : List Pillar}
    (h : ∀ before p, s.Suits before p c ↔ P p) : s.AllSuit c ps ↔ ∀ p ∈ ps, P p := by
  constructor
  · intro hall p hp
    obtain ⟨before, after, hsplit⟩ := List.append_of_mem hp
    exact (h before p).1 (hall before p after hsplit)
  · rintro hall before p after rfl
    exact (h before p).2 (hall p (List.mem_append_right _ List.mem_cons_self))

/-- A specification is valid if all its pillars suit all checks. -/
theorem isValid_iff : s.IsValid ↔ ∀ c, s.AllSuit c s.pillars := by
  have hgate : s.AllSuit .gate s.pillars ↔ ((∀ p ∈ s.pillars, p.form? ≠ some .fluted) ∨
      toLex (0, 2) ≤ toLex (s.versionNumber.major, s.versionNumber.minor)) := by
    rw [allSuit_iff fun _ _ => Iff.rfl]
    constructor
    · intro h
      by_cases hlate : toLex (0, 2) ≤ toLex (s.versionNumber.major, s.versionNumber.minor)
      · exact .inr hlate
      · exact .inl fun p hp hfluted => hlate (h p hp hfluted)
    · rintro (hnone | hlate) p hp hfluted
      · exact absurd hfluted (hnone p hp)
      · exact hlate
  constructor
  · intro h c
    cases c with
    | gate => exact hgate.2 h.gate
    | ids => exact (allSuit_ids_iff _).2 h.ids
    | finite => exact (allSuit_iff fun _ _ => Iff.rfl).2 h.finite
    | heights => exact (allSuit_iff fun _ _ => Iff.rfl).2 h.heights
    | symbols => exact (allSuit_iff fun _ _ => Iff.rfl).2 h.symbols
    | lsystem => exact (allSuit_iff fun _ _ => Iff.rfl).2 h.lsystem
    | fluting => exact (allSuit_iff fun _ _ => Iff.rfl).2 h.fluting
  · intro h
    exact {
      gate := hgate.1 (h .gate)
      ids := (allSuit_ids_iff _).1 (h .ids)
      finite := (allSuit_iff fun _ _ => Iff.rfl).1 (h .finite)
      heights := (allSuit_iff fun _ _ => Iff.rfl).1 (h .heights)
      symbols := (allSuit_iff fun _ _ => Iff.rfl).1 (h .symbols)
      lsystem := (allSuit_iff fun _ _ => Iff.rfl).1 (h .lsystem)
      fluting := (allSuit_iff fun _ _ => Iff.rfl).1 (h .fluting) }

/-- The order of the pillars does not matter for validity. -/
theorem IsValid.of_perm {ps : List Pillar} (h : s.IsValid) (hperm : ps.Perm s.pillars) :
    ({ s with pillars := ps } : Spec).IsValid where
  gate := h.gate.imp_left fun hnone p hp => hnone p (hperm.mem_iff.1 hp)
  ids := (hperm.map Pillar.id).nodup_iff.2 h.ids
  finite := fun p hp => h.finite p (hperm.mem_iff.1 hp)
  heights := fun p hp => h.heights p (hperm.mem_iff.1 hp)
  symbols := fun p hp => h.symbols p (hperm.mem_iff.1 hp)
  lsystem := fun p hp => h.lsystem p (hperm.mem_iff.1 hp)
  fluting := fun p hp => h.fluting p (hperm.mem_iff.1 hp)

/-- A specification that is not accepted fails a first check. -/
theorem finds_of_validate (hcomplete : ∀ p ∈ s.pillars, p.IsComplete) :
    (s.validate = .ok () ∧ s.IsValid) ∨ ∃ c fault, s.validate = .error fault ∧
      s.Finds c (some fault) ∧ ∀ d : Check, d.rank < c.rank → s.AllSuit d s.pillars := by
  unfold validate
  rw [fault?_eq]
  cases h : Check.all.findSome? s.finding with
  | none =>
    have hnone (d : Check) : s.finding d = none := List.findSome?_eq_none_iff.1 h d d.mem_all
    refine .inl ⟨rfl, isValid_iff.2 fun c => allSuit_of_finds_none ?_⟩
    rw [← hnone c]
    exact finds_finding hcomplete fun d _ => hnone d
  | some fault =>
    obtain ⟨c, hfound, hearlier⟩ := Check.exists_first_of_findSome? h
    refine .inr ⟨c, fault, rfl, hfound ▸ finds_finding hcomplete hearlier, fun d hd => ?_⟩
    refine allSuit_of_finds_none ?_
    rw [← hearlier d hd]
    exact finds_finding hcomplete fun e he => hearlier e (by omega)

theorem validate_eq_ok_iff (hcomplete : ∀ p ∈ s.pillars, p.IsComplete) :
    s.validate = .ok () ↔ s.IsValid := by
  rcases finds_of_validate hcomplete with ⟨hok, hvalid⟩ | ⟨c, fault, herror, hfinds, _⟩
  · exact iff_of_true hok hvalid
  · refine iff_of_false (fun hok => ?_) (fun hvalid => ?_)
    · rw [herror] at hok
      cases hok
    · cases hfinds with
      | first cause hsplit _ hnot _ => exact hnot (isValid_iff.1 hvalid c _ _ _ hsplit)

/-- Every specification that is read is judged by its rules.  It is accepted exactly if it is valid,
and the order of its pillars makes no difference to this.  If it is not valid, there is a first
check that it fails and a first pillar that fails the check, and the fault that is raised reports
this pillar for this check.  It is reported as a broken rule if it can be written: unless it names
an integer that is too large. -/
theorem validate_reports_first {pairs : Reader.Pairs} (hread : readFields pairs = .ok s) :
    (s.validate = .ok () ↔ s.IsValid) ∧
    (¬s.IsValid → ∃ c before p after, ∃ cause : SpecFault, s.pillars = before ++ p :: after ∧
      (∀ d : Check, d.rank < c.rank → s.AllSuit d s.pillars) ∧ s.AllSuit c before ∧
      ¬s.Suits before p c ∧ cause.Reports s p c ∧ s.validate = .error cause.written ∧
      (Cli.Failure.reportsSpec cause.written = true ↔
        ∀ n, cause.integer? = some n → Number.isTooLarge n = false)) ∧
    ∀ ps, ps.Perm s.pillars →
      (({ s with pillars := ps } : Spec).validate = .ok () ↔ s.validate = .ok ()) := by
  have hcomplete := isComplete_of_readFields hread
  refine ⟨validate_eq_ok_iff hcomplete, fun hinvalid => ?_, fun ps hperm => ?_⟩
  · rcases finds_of_validate hcomplete with ⟨_, hvalid⟩ | ⟨c, fault, herror, hfinds, hearlier⟩
    · exact absurd hvalid hinvalid
    · cases hfinds with
      | @first before after p cause hsplit hbefore hnot reported =>
        exact ⟨c, before, p, after, cause, hsplit, hearlier, hbefore, hnot, reported, herror,
          reported.reportsSpec_written_iff⟩
  · rw [validate_eq_ok_iff hcomplete,
      validate_eq_ok_iff fun p hp => hcomplete p (hperm.mem_iff.1 hp)]
    exact ⟨fun hvalid => hvalid.of_perm hperm.symm, fun hvalid => hvalid.of_perm hperm⟩

/-- The fields of a specification with given pillars, each a map of its fields. -/
def writtenFields (version : String) (pillars : List (List (Value × Value))) : Reader.Pairs :=
  [(.text "version", .text version), (.text "pillars", .list (pillars.map Value.map))]

/-- A column after an L-system. -/
def mixedFields (version : String) : Reader.Pairs :=
  writtenFields version [[(.text "type", .text "lsystem"), (.text "id", .text "a")],
    [(.text "type", .text "fluted"), (.text "id", .text "b")]]

/-- With its defaults it is accepted, in either order, but not in a version without columns. -/
theorem validate_reports_first_mixed :
    (∃ s, readFields (mixedFields "0.2") = .ok s ∧ s.IsValid ∧
      ({ s with pillars := s.pillars.reverse } : Spec).validate = .ok ()) ∧
    ∃ s, readFields (mixedFields "0.1") = .ok s ∧ ¬s.IsValid ∧
      ∃ c p, ∃ cause : SpecFault, p ∈ s.pillars ∧ cause.Reports s p c ∧
        s.validate = .error cause.written := by
  constructor
  · refine ⟨_, rfl, ?_⟩
    obtain ⟨hiff, _, hperm⟩ :=
      validate_reports_first (show readFields (mixedFields "0.2") = .ok _ from rfl)
    have hok := hiff.1 rfl
    exact ⟨hok, (hperm _ (List.reverse_perm _)).2 rfl⟩
  · refine ⟨_, rfl, ?_⟩
    obtain ⟨hiff, hreports, _⟩ :=
      validate_reports_first (show readFields (mixedFields "0.1") = .ok _ from rfl)
    have hinvalid := mt hiff.2 (fun h => nomatch h)
    obtain ⟨c, before, p, after, cause, hsplit, _, _, _, hreported, herror, _⟩ := hreports hinvalid
    refine ⟨hinvalid, c, p, cause, ?_, hreported, herror⟩
    rw [hsplit]
    exact List.mem_append_right _ List.mem_cons_self

/-- A column with a number of flutes, and its defaults. -/
def columnOf (flutes : Int) : Pillar :=
  { label := "fluted", id := "p", radius := some 1.0, segments := some 32, flutes := some flutes
    fluteDepth := some 0.1 }

/-- The specification of one column. -/
def fluted (flutes : Int) : Spec := { version := "0.2", pillars := [columnOf flutes] }

/-- Only the last check looks at the flutes. -/
theorem finding_fluted (flutes : Int) (h : c ≠ .fluting) : (fluted flutes).finding c = none := by
  have hsame : (fluted flutes).finding c = (fluted 0).finding c := by
    cases c with
    | gate | ids | symbols | lsystem => rfl
    | finite =>
      simp only [finding, fluted, List.findSome?_singleton, Pillar.notFinite?]
      rfl
    | heights =>
      simp only [finding, fluted, List.findSome?_singleton, Pillar.badHeight?]
      rfl
    | fluting => exact absurd rfl h
  have hnone : (fluted 0).fault? = none := rfl
  rw [fault?_eq, List.findSome?_eq_none_iff] at hnone
  rw [hsame, hnone c c.mem_all]

/-- A negative number of flutes is out of range. -/
theorem validate_fluted {flutes : Int} (h : flutes < 0) :
    (fluted flutes).validate = .error (Pillar.integerFault (.flutes "p") flutes) := by
  have hradius : Pillar.outOfRange? .atMost (· ≤ 0.0) (.radius "p") (some 1.0) = none := rfl
  have hflutes : Pillar.outOfRange? .less (· < 0) (Pillar.integerFault (.flutes "p"))
      (some flutes) = some (Pillar.integerFault (.flutes "p") flutes) := by
    rw [Pillar.outOfRange?, if_pos (decide_eq_true h)]
  have hbad : (fluted flutes).finding .fluting =
      some (Pillar.integerFault (.flutes "p") flutes) := by
    simp only [finding, fluted, List.findSome?_singleton, Pillar.badFluting?]
    show [Pillar.outOfRange? .atMost (· ≤ 0.0) (.radius "p") (some 1.0), none,
      Pillar.outOfRange? .less (· < 0) (Pillar.integerFault (.flutes "p"))
        (some flutes)].findSome? (fun fault => fault) = _
    rw [hradius, hflutes]
    rfl
  have hfault : (fluted flutes).fault? = some (Pillar.integerFault (.flutes "p") flutes) := by
    rw [fault?_eq]
    refine List.findSome?_eq_some_iff.2
      ⟨Check.all.dropLast, .fluting, [], rfl, hbad, fun d hd => ?_⟩
    exact finding_fluted flutes (ne_of_mem_of_not_mem hd (by decide))
  unfold validate
  rw [hfault]

/-- A negative number of flutes that is too large to be written is refused, but not reported as a
broken rule. -/
theorem not_reported_tooLarge :
    ∃ pairs s, readFields pairs = .ok s ∧
      s.pillars = [columnOf (-(Number.tenTo Number.digitLimit : Int))] ∧ ¬s.IsValid ∧
      s.validate = .error .unwritable ∧ Cli.Failure.reportsSpec .unwritable = false := by
  have hread (flutes : Int) :
      readFields (writtenFields "0.2" [[(.text "type", .text "fluted"), (.text "id", .text "p"),
        (.text "flutes", .int flutes)]]) = .ok (fluted flutes) := rfl
  have hneg : -(Number.tenTo Number.digitLimit : Int) < 0 :=
    Int.neg_neg_of_pos (Int.natCast_pos.2 (Number.tenTo_pos _))
  have hlarge : Number.isTooLarge (-(Number.tenTo Number.digitLimit : Int)) = true := by
    rw [Number.isTooLarge, Int.natAbs_neg, Int.natAbs_natCast]
    exact decide_eq_true (Nat.le_refl _)
  refine ⟨_, _, hread _, rfl, fun hvalid => ?_, ?_, rfl⟩
  · obtain ⟨_, _, n, _, _, hflutes, _, _, hcount⟩ := hvalid.fluting _ List.mem_cons_self rfl
    rw [← Option.some.inj hflutes] at hcount
    exact absurd hcount (Int.not_le.2 hneg)
  · rw [validate_fluted hneg, Pillar.integerFault, if_pos hlarge]

end Spec

end Colonnade
