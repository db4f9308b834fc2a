import Colonnade.Proofs.Schema.Reader
import Colonnade.Spec.Reading
import Mathlib.Data.List.Nodup

/-!
# The fields of a pillar and of a specification

A pillar is read in two steps.  First every field is read by itself, and `Pillar.IsReadFrom` says
what is known of each of them then.  After that the pillar is completed: a parameter of the other
form is refused, and a parameter of the own form that is not set gets its default.

The ten parameters are alike but for their fields, readers and defaults, so they are listed once for
each form in `Form.parameters`, and a fact about parameters is stated for the members of this list.
What comes out is a pillar of its form: all parameters of the form are set, and none of the other
form is (`Pillar.IsOf`).
-/

namespace Colonnade

open Schema Schema.Checked

/-- A parameter of pillars: the field it is written in, how the field is read, what the parameter is
when nothing is written, and where a pillar keeps it. -/
structure Parameter where
  {α : Type}
  name : String
  read : Reader α
  default : α
  get : Pillar → Option α

namespace Form

/-- The form that a form is not. -/
def other : Form → Form
  | .lsystem => .fluted
  | .fluted => .lsystem

theorem eq_or_eq_other (own form : Form) : own = form ∨ own = form.other := by
  cases own <;> cases form <;> simp [other]

/-- The parameters of a form. -/
def parameters : Form → List Parameter
  | .lsystem =>
    [⟨"axiom", Reader.text, "F", Pillar.seed⟩,
      ⟨"rules", Production.Rule.readAll, [], Pillar.rules⟩,
      ⟨"iterations", Reader.integer, 3, Pillar.iterations⟩,
      ⟨"angle", Reader.float, 90.0, Pillar.angle⟩,
      ⟨"segment_length", Reader.float, 1.0, Pillar.segmentLength⟩,
      ⟨"thickness", Reader.float, 0.1, Pillar.thickness⟩]
  | .fluted =>
    [⟨"radius", Reader.float, 1.0, Pillar.radius⟩,
      ⟨"segments", Reader.integer, 32, Pillar.segments⟩,
      ⟨"flutes", Reader.integer, 8, Pillar.flutes⟩,
      ⟨"flute_depth", Reader.float, 0.1, Pillar.fluteDepth⟩]

/-- What is said of all parameters of an L-system is said of each of the six. -/
theorem forall_lsystem_parameters {P : Parameter → Prop} :
    (∀ parameter ∈ lsystem.parameters, P parameter) ↔
      P ⟨"axiom", Reader.text, "F", Pillar.seed⟩ ∧
      P ⟨"rules", Production.Rule.readAll, [], Pillar.rules⟩ ∧
      P ⟨"iterations", Reader.integer, 3, Pillar.iterations⟩ ∧
      P ⟨"angle", Reader.float, 90.0, Pillar.angle⟩ ∧
      P ⟨"segment_length", Reader.float, 1.0, Pillar.segmentLength⟩ ∧
      P ⟨"thickness", Reader.float, 0.1, Pillar.thickness⟩ := by
  simp [parameters]

/-- What is said of all parameters of a fluted column is said of each of the four. -/
theorem forall_fluted_parameters {P : Parameter → Prop} :
    (∀ parameter ∈ fluted.parameters, P parameter) ↔
      P ⟨"radius", Reader.float, 1.0, Pillar.radius⟩ ∧
      P ⟨"segments", Reader.integer, 32, Pillar.segments⟩ ∧
      P ⟨"flutes", Reader.integer, 8, Pillar.flutes⟩ ∧
      P ⟨"flute_depth", Reader.float, 0.1, Pillar.fluteDepth⟩ := by
  simp [parameters]

/-- No two parameters have the same name. -/
theorem eq_of_name_eq {form other : Form} {a b : Parameter} (ha : a ∈ form.parameters)
    (hb : b ∈ other.parameters) (h : a.name = b.name) : a = b := by
  have hall {form : Form} {parameter : Parameter} (hmem : parameter ∈ form.parameters) :
      parameter ∈ lsystem.parameters ++ fluted.parameters := by
    cases form <;> simp [hmem]
  have hnames : ((lsystem.parameters ++ fluted.parameters).map Parameter.name).Nodup := by decide
  exact List.inj_on_of_nodup_map hnames (hall ha) (hall hb) h

/-- No parameter belongs to both forms. -/
theorem not_mem_other (form : Form) :
    ∀ parameter ∈ form.parameters, parameter ∉ form.other.parameters := by
  cases form <;> simp [parameters, other]

/-- The names of parameters are names of fields. -/
theorem name_mem_fieldNames (form : Form) :
    ∀ parameter ∈ form.parameters, parameter.name ∈ Pillar.fieldNames := by
  cases form <;> simp [parameters, Pillar.fieldNames]

/-- The names of parameters are not those of the fields that both forms have. -/
theorem name_not_mem_common (form : Form) : ∀ parameter ∈ form.parameters,
    parameter.name ∉ ["type", "id", "name", "height", "transform"] := by
  cases form <;> simp [parameters]

end Form

namespace Pillar

variable {form : Form} {parameter : Parameter} {pairs : Reader.Pairs} {p q : Pillar}

/-! ## Pillars with the same fields -/

/-- Two pillars with the same fields of those that both forms have. -/
structure SameCommon (p q : Pillar) : Prop where
  label : p.label = q.label
  id : p.id = q.id
  name : p.name = q.name
  height : p.height = q.height
  transform : p.transform = q.transform

theorem SameCommon.symm (h : SameCommon p q) : SameCommon q p :=
  ⟨h.label.symm, h.id.symm, h.name.symm, h.height.symm, h.transform.symm⟩

theorem SameCommon.trans {r : Pillar} (h : SameCommon p q) (h' : SameCommon q r) :
    SameCommon p r :=
  ⟨h.label.trans h'.label, h.id.trans h'.id, h.name.trans h'.name, h.height.trans h'.height,
    h.transform.trans h'.transform⟩

/-- A pillar is determined by the fields that both forms have and by all parameters. -/
theorem ext_of_parameters (h : SameCommon p q)
    (hparameters : ∀ form : Form, ∀ parameter ∈ form.parameters,
      parameter.get p = parameter.get q) : p = q := by
  obtain ⟨hseed, hrules, hiterations, hangle, hstep, hthickness⟩ :=
    Form.forall_lsystem_parameters.1 (hparameters .lsystem)
  obtain ⟨hradius, hsegments, hflutes, hdepth⟩ :=
    Form.forall_fluted_parameters.1 (hparameters .fluted)
  cases p
  cases q
  rw [mk.injEq]
  exact ⟨h.label, h.id, h.name, h.height, h.transform, hseed, hrules, hiterations, hangle, hstep,
    hthickness, hradius, hsegments, hflutes, hdepth⟩

/-! ## Reading fields -/

/-- Every field of a pillar is what is read in its place. -/
structure IsReadFrom (p : Pillar) (pairs : Reader.Pairs) : Prop where
  label : Reader.required "type" (Reader.oneOf [("lsystem", "lsystem"), ("fluted", "fluted")])
    pairs = .ok p.label
  id : Reader.required "id" Reader.text pairs = .ok p.id
  name : Reader.absent? "name" Reader.text pairs = .ok p.name
  height : Reader.defaulted "height" 5.0 Reader.float pairs = .ok p.height
  transform : Reader.absent? "transform" Transform.read pairs = .ok p.transform
  parameters : ∀ form : Form, ∀ parameter ∈ form.parameters,
    Reader.absent? parameter.name parameter.read pairs = .ok (parameter.get p)

theorem isReadFrom_of_readFields (h : readFields pairs = .ok p) : p.IsReadFrom pairs := by
  rw [readFields] at h
  -- The last field stands outermost.
  obtain ⟨_, _, h₁, hdepth, rfl⟩ := seq_eq_ok_iff.1 h
  obtain ⟨_, _, h₂, hflutes, rfl⟩ := seq_eq_ok_iff.1 h₁
  obtain ⟨_, _, h₃, hsegments, rfl⟩ := seq_eq_ok_iff.1 h₂
  obtain ⟨_, _, h₄, hradius, rfl⟩ := seq_eq_ok_iff.1 h₃
  obtain ⟨_, _, h₅, hthickness, rfl⟩ := seq_eq_ok_iff.1 h₄
  obtain ⟨_, _, h₆, hstep, rfl⟩ := seq_eq_ok_iff.1 h₅
  obtain ⟨_, _, h₇, hangle, rfl⟩ := seq_eq_ok_iff.1 h₆
  obtain ⟨_, _, h₈, hiterations, rfl⟩ := seq_eq_ok_iff.1 h₇
  obtain ⟨_, _, h₉, hrules, rfl⟩ := seq_eq_ok_iff.1 h₈
  obtain ⟨_, _, h₁₀, hseed, rfl⟩ := seq_eq_ok_iff.1 h₉
  obtain ⟨_, _, h₁₁, htransform, rfl⟩ := seq_eq_ok_iff.1 h₁₀
  obtain ⟨_, _, h₁₂, hheight, rfl⟩ := seq_eq_ok_iff.1 h₁₁
  obtain ⟨_, _, h₁₃, hname, rfl⟩ := seq_eq_ok_iff.1 h₁₂
  obtain ⟨_, _, h₁₄, hid, rfl⟩ := seq_eq_ok_iff.1 h₁₃
  obtain ⟨_, hlabel, rfl⟩ := map_eq_ok_iff.1 h₁₄
  refine ⟨hlabel, hid, hname, hheight, htransform, fun form => ?_⟩
  cases form with
  | lsystem =>
    rw [Form.forall_lsystem_parameters]
    exact ⟨hseed, hrules, hiterations, hangle, hstep, hthickness⟩
  | fluted =>
    rw [Form.forall_fluted_parameters]
    exact ⟨hradius, hsegments, hflutes, hdepth⟩

theorem IsReadFrom.readFields_eq (h : p.IsReadFrom pairs) : readFields pairs = .ok p := by
  obtain ⟨hseed, hrules, hiterations, hangle, hstep, hthickness⟩ :=
    Form.forall_lsystem_parameters.1 (h.parameters .lsystem)
  obtain ⟨hradius, hsegments, hflutes, hdepth⟩ :=
    Form.forall_fluted_parameters.1 (h.parameters .fluted)
  rw [readFields, h.label, h.id, h.name, h.height, h.transform, hseed, hrules, hiterations, hangle,
    hstep, hthickness, hradius, hsegments, hflutes, hdepth]
  rfl

/-- A pillar is read field by field. -/
theorem readFields_eq_ok_iff : readFields pairs = .ok p ↔ p.IsReadFrom pairs :=
  ⟨isReadFrom_of_readFields, IsReadFrom.readFields_eq⟩

/-- The label that is read is the name of a form, as it is written. -/
theorem IsReadFrom.exists_label (h : p.IsReadFrom pairs) :
    ∃ form : Form, Reader.field? "type" pairs = some (.text form.label) ∧ p.label = form.label := by
  obtain ⟨_, hvalue, hread⟩ := Reader.required_eq_ok_iff.1 h.label
  obtain ⟨s, rfl, hmem⟩ := Reader.exists_mem_of_oneOf hread
  simp only [List.mem_cons, Prod.mk.injEq, List.not_mem_nil, or_false] at hmem
  rcases hmem with ⟨rfl, hlabel⟩ | ⟨rfl, hlabel⟩
  · exact ⟨.lsystem, hvalue, hlabel⟩
  · exact ⟨.fluted, hvalue, hlabel⟩

theorem IsReadFrom.label_eq (h : p.IsReadFrom pairs)
    (htype : Reader.field? "type" pairs = some (.text form.label)) : p.label = form.label := by
  obtain ⟨other, hother, hlabel⟩ := h.exists_label
  rw [htype, Option.some.injEq, Document.Value.text.injEq, Text.Loose.ofText_inj] at hother
  rw [hlabel, hother]

/-! ## Completion -/

/-- A pillar of a form: all parameters of the form are set, and none of the other form is. -/
structure IsOf (form : Form) (p : Pillar) : Prop where
  label : p.label = form.label
  own : ∀ parameter ∈ form.parameters, (parameter.get p).isSome
  other : ∀ parameter ∈ form.other.parameters, parameter.get p = none

/-- A pillar with every parameter of a form. -/
def filled (form : Form) (p : Pillar) : Pillar :=
  match form with
  | .lsystem => p.withLSystem
  | .fluted => p.withFluting

theorem filled_common (form : Form) (p : Pillar) : SameCommon (filled form p) p := by
  cases form <;> exact ⟨rfl, rfl, rfl, rfl, rfl⟩

/-- A parameter that is filled in is what it was, or its default. -/
theorem get_filled (p : Pillar) : ∀ parameter ∈ form.parameters,
    parameter.get (filled form p) = some ((parameter.get p).getD parameter.default) := by
  cases form <;> simp [Form.parameters, filled, withLSystem, withFluting]

theorem get_filled_other (p : Pillar) : ∀ parameter ∈ form.other.parameters,
    parameter.get (filled form p) = parameter.get p := by
  cases form <;> simp [Form.parameters, Form.other, filled, withLSystem, withFluting]

/-- Nothing is left to be filled in if all parameters are set. -/
theorem filled_eq_self (h : ∀ parameter ∈ form.parameters, (parameter.get p).isSome) :
    filled form p = p := by
  refine ext_of_parameters (filled_common form p) fun own parameter hparameter => ?_
  rcases Form.eq_or_eq_other own form with rfl | rfl
  · obtain ⟨value, hvalue⟩ := Option.isSome_iff_exists.1 (h parameter hparameter)
    rw [get_filled p parameter hparameter, hvalue]
    rfl
  · exact get_filled_other p parameter hparameter

/-- The names of the parameters of the other form that are set, taken from the list of these
parameters. -/
theorem foreignNames_of_label (h : p.label = form.label) :
    p.foreignNames = form.other.parameters.filterMap fun parameter =>
      if (parameter.get p).isSome then some parameter.name else none := by
  rw [foreignNames, h]
  cases form <;> rfl

/-- No parameter of the other form is named exactly if none is set. -/
theorem foreignNames_eq_nil_iff (h : p.label = form.label) :
    p.foreignNames = [] ↔ ∀ parameter ∈ form.other.parameters, parameter.get p = none := by
  rw [foreignNames_of_label h, List.filterMap_eq_nil_iff]
  simp

theorem complete_of_label (h : p.label = form.label) :
    p.complete = match p.foreignNames with
      | name :: _ => .fail (.foreignField form.label name)
      | [] => pure (filled form p) := by
  rw [complete, h]
  cases form <;> rfl

theorem complete_eq_ok_iff (h : p.label = form.label) :
    p.complete = .ok q ↔
      (∀ parameter ∈ form.other.parameters, parameter.get p = none) ∧ filled form p = q := by
  rw [← foreignNames_eq_nil_iff h, complete_of_label h]
  cases p.foreignNames with
  | nil => exact ⟨fun hp => ⟨rfl, Except.ok.inj hp⟩, fun hp => congrArg Except.ok hp.2⟩
  | cons name rest => exact iff_of_false (fun hp => nomatch hp) fun hp => nomatch hp.1

/-- A pillar that is completed is a pillar of the form that its label names. -/
theorem isOf_of_complete (h : p.label = form.label) (hcomplete : p.complete = .ok q) :
    IsOf form q := by
  obtain ⟨hother, rfl⟩ := (complete_eq_ok_iff h).1 hcomplete
  refine ⟨(filled_common form p).label.trans h, fun parameter hparameter => ?_,
    fun parameter hparameter => ?_⟩
  · rw [get_filled p parameter hparameter]
    rfl
  · rw [get_filled_other p parameter hparameter]
    exact hother parameter hparameter

/-- A pillar of a form is complete. -/
theorem IsOf.complete_eq (h : IsOf form p) : p.complete = .ok p :=
  (complete_eq_ok_iff h.label).2 ⟨h.other, filled_eq_self h.own⟩

/-- A pillar is read if its keys are the names of fields, every field is read, and the pillar of
these fields can be completed. -/
theorem read_eq_ok_iff {value : Document.Value} :
    read value = .ok q ↔
      ∃ (pairs : Reader.Pairs) (p : Pillar), value.pairs? = some pairs ∧
        Reader.hasLooseKey pairs = false ∧ p.IsReadFrom pairs ∧
        Reader.strays fieldNames pairs = .ok () ∧ p.complete = .ok q := by
  rw [read, andThen_eq_ok_iff]
  simp only [Reader.model_eq_ok_iff, Reader.fields_eq_ok_iff, readFields_eq_ok_iff]
  constructor
  · rintro ⟨p, ⟨pairs, hpairs, hkeys, hfields, hstrays⟩, hcomplete⟩
    exact ⟨pairs, p, hpairs, hkeys, hfields, hstrays, hcomplete⟩
  · rintro ⟨pairs, p, hpairs, hkeys, hfields, hstrays, hcomplete⟩
    exact ⟨p, ⟨pairs, hpairs, hkeys, hfields, hstrays⟩, hcomplete⟩

/-- Every pillar that is read is a pillar of its form. -/
theorem exists_isOf_of_read {value : Document.Value} (h : read value = .ok p) :
    ∃ form, IsOf form p := by
  obtain ⟨_, _, _, _, hfields, _, hcomplete⟩ := read_eq_ok_iff.1 h
  obtain ⟨form, _, hlabel⟩ := hfields.exists_label
  exact ⟨form, isOf_of_complete hlabel hcomplete⟩

end Pillar

/-! ## Specifications -/

namespace Spec

variable {pairs : Reader.Pairs} {s : Spec}

/-- Every field of a specification is what is read in its place. -/
structure IsReadFrom (s : Spec) (pairs : Reader.Pairs) : Prop where
  version : Reader.required "version" Reader.text pairs = .ok s.version
  units : Reader.defaulted "units" (some "meters") (Reader.oneOf [("meters", some "meters")])
    pairs = .ok s.units
  pillars : Reader.defaulted "pillars" [] (Reader.list Pillar.read) pairs = .ok s.pillars

theorem readFields_eq_ok_iff :
    readFields pairs = .ok s ↔ Reader.hasLooseKey pairs = false ∧ s.IsReadFrom pairs ∧
      Reader.strays ["version", "units", "pillars"] pairs = .ok () := by
  rw [readFields, Reader.fields_eq_ok_iff]
  refine and_congr_right fun _ => and_congr_left fun _ => ⟨fun h => ?_, fun h => ?_⟩
  · obtain ⟨_, _, h₂, hpillars, rfl⟩ := seq_eq_ok_iff.1 h
    obtain ⟨_, _, h₁, hunits, rfl⟩ := seq_eq_ok_iff.1 h₂
    obtain ⟨_, hversion, rfl⟩ := map_eq_ok_iff.1 h₁
    exact ⟨hversion, hunits, hpillars⟩
  · rw [h.version, h.units, h.pillars]
    rfl

/-- Every pillar of a specification that is read is read from some value. -/
theorem IsReadFrom.exists_read (h : s.IsReadFrom pairs) :
    ∀ p ∈ s.pillars, ∃ value, Pillar.read value = .ok p := by
  intro p hp
  obtain ⟨_, hnone⟩ | ⟨value, _, hlist⟩ := Reader.defaulted_eq_ok_iff.1 h.pillars
  · rw [← hnone] at hp
    cases hp
  · exact Reader.exists_of_mem_list hlist p hp

end Spec

end Colonnade
