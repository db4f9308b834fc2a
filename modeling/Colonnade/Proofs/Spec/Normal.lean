import Colonnade.Proofs.Schema.Relation
import Colonnade.Proofs.Spec.Fields
import Colonnade.Spec.Writing

/-!
# Pillars in normal form

A pillar that is read is in normal form: it has every parameter of its form and none of the other
one.  Written out with all its fields, those without a value as null, it is read as itself again
(`Pillar.IsOf.read_toValue`), and so is a specification (`Spec.readFields_fields`).

A parameter of the own form may be left out, be null, or be written as its default.  The two
readings find the same problems or have the same pillar (`Pillar.read_insert`): the fields that were
touched agree up to the default, the others are the same, and completing a pillar removes the
difference.  A parameter of the other form may only be left out or be null
(`Pillar.field?_other_of_read`).
-/

namespace Colonnade

open Document (Value)
open Schema Schema.Checked

/-! ## Reading what is written -/

/-- An optional field that is written is read as what it was. -/
theorem Schema.Reader.absent?_of_written {α : Type} {name : String} {reader : Reader α}
    {pairs : Reader.Pairs} {write : α → Value} {a : Option α}
    (hfield : field? name pairs = some (.ofOption write a)) (hnull : ∀ value, write value ≠ .null)
    (hread : ∀ value, reader (write value) = .ok value) : absent? name reader pairs = .ok a := by
  cases a with
  | none => exact absent?_eq_none_iff.2 (.inr hfield)
  | some value => exact absent?_eq_some_iff.2 ⟨write value, hfield, hnull value, hread value⟩

/-- Rules that are written are read as they were. -/
theorem Production.Rule.readAll_list (rules : List Rule) :
    readAll (.list (rules.map toValue)) = .ok rules := by
  have hread : ∀ rule ∈ rules, read rule.toValue = .ok rule := fun _ _ => rfl
  exact Reader.all_itemsFrom_map hread 0

/-- A transform that is written is read as it was. -/
theorem Transform.read_toValue (t : Transform) : read t.toValue = .ok t := by
  obtain ⟨_ | ⟨x, y, z⟩⟩ := t <;> rfl

/-- The name of a form is one of the names that a type may be. -/
theorem Form.oneOf_label (form : Form) :
    Reader.oneOf [("lsystem", "lsystem"), ("fluted", "fluted")] (.text form.label) =
      .ok form.label := by
  cases form <;> rfl

/-- Two values of a parameter that are the same up to the default if it belongs to a form, and are
the same if it belongs to the other one. -/
def Parameter.Agree (form : Form) (parameter : Parameter) (x y : Option parameter.α) : Prop :=
  x.getD parameter.default = y.getD parameter.default ∧
    (parameter ∈ form.other.parameters → x = y)

namespace Pillar

variable {form : Form} {p q : Pillar} {pairs others : Reader.Pairs}

/-- Every field of a pillar that is written is read as it was. -/
theorem IsOf.isReadFrom_fields (h : IsOf form p) : p.IsReadFrom p.fields where
  label := by
    refine Reader.required_eq_ok_iff.2 ⟨.text p.label, rfl, ?_⟩
    rw [h.label, Form.oneOf_label]
  id := Reader.required_eq_ok_iff.2 ⟨.text p.id, rfl, rfl⟩
  name := Reader.absent?_of_written rfl nofun fun _ => rfl
  height := Reader.defaulted_eq_ok_iff.2 (.inr ⟨.float p.height, rfl, rfl⟩)
  transform := Reader.absent?_of_written rfl nofun Transform.read_toValue
  parameters
    | .lsystem => Form.forall_lsystem_parameters.2
      ⟨Reader.absent?_of_written rfl nofun fun _ => rfl,
        Reader.absent?_of_written rfl nofun Production.Rule.readAll_list,
        Reader.absent?_of_written rfl nofun fun _ => rfl,
        Reader.absent?_of_written rfl nofun fun _ => rfl,
        Reader.absent?_of_written rfl nofun fun _ => rfl,
        Reader.absent?_of_written rfl nofun fun _ => rfl⟩
    | .fluted => Form.forall_fluted_parameters.2
      ⟨Reader.absent?_of_written rfl nofun fun _ => rfl,
        Reader.absent?_of_written rfl nofun fun _ => rfl,
        Reader.absent?_of_written rfl nofun fun _ => rfl,
        Reader.absent?_of_written rfl nofun fun _ => rfl⟩

/-- A pillar of a form is read as itself when it is written out. -/
theorem IsOf.read_toValue (h : IsOf form p) : read p.toValue = .ok p :=
  read_eq_ok_iff.2 ⟨p.fields, p, rfl, rfl, h.isReadFrom_fields, rfl, h.complete_eq⟩

/-! ## Parameters of the other form -/

/-- A parameter of the other form is left out or null in whatever a pillar is read from. -/
theorem field?_other_of_read {value : Value} (h : read value = .ok p)
    (hpairs : value.pairs? = some pairs)
    (htype : Reader.field? "type" pairs = some (.text form.label)) :
    ∀ parameter ∈ form.other.parameters,
      Reader.field? parameter.name pairs = none ∨
        Reader.field? parameter.name pairs = some .null := by
  intro parameter hparameter
  obtain ⟨own, q, hown, _, hfields, _, hcomplete⟩ := read_eq_ok_iff.1 h
  cases hpairs.symm.trans hown
  have hnone := ((complete_eq_ok_iff (hfields.label_eq htype)).1 hcomplete).1 parameter hparameter
  have hread := hfields.parameters form.other parameter hparameter
  rw [hnone] at hread
  exact Reader.absent?_eq_none_iff.1 hread

/-! ## Defaults -/

/-- Two pillars of a form that differ at most in whether a parameter of the form is its default or
is not set. -/
structure Alike (form : Form) (p q : Pillar) : Prop where
  label : p.label = form.label
  common : SameCommon p q
  parameters : ∀ own : Form, ∀ parameter ∈ own.parameters,
    parameter.Agree form (parameter.get p) (parameter.get q)

theorem Alike.own (h : Alike form p q) : ∀ parameter ∈ form.parameters,
    (parameter.get p).getD parameter.default = (parameter.get q).getD parameter.default :=
  fun parameter hparameter => (h.parameters form parameter hparameter).1

theorem Alike.other (h : Alike form p q) : ∀ parameter ∈ form.other.parameters,
    parameter.get p = parameter.get q :=
  fun parameter hparameter => (h.parameters form.other parameter hparameter).2 hparameter

/-- Completing pillars removes what they differ in. -/
theorem Alike.filled_eq (h : Alike form p q) : filled form p = filled form q := by
  refine ext_of_parameters ?_ fun own parameter hparameter => ?_
  · exact ((filled_common form p).trans h.common).trans (filled_common form q).symm
  · rcases Form.eq_or_eq_other own form with rfl | rfl
    · rw [get_filled p parameter hparameter, get_filled q parameter hparameter,
        h.own parameter hparameter]
    · rw [get_filled_other p parameter hparameter, get_filled_other q parameter hparameter,
        h.other parameter hparameter]

theorem Alike.foreignNames_eq (h : Alike form p q) : p.foreignNames = q.foreignNames := by
  rw [foreignNames_of_label h.label, foreignNames_of_label (h.common.label.symm.trans h.label)]
  refine List.filterMap_congr fun parameter hparameter => ?_
  rw [h.other parameter hparameter]

theorem Alike.complete_eq (h : Alike form p q) : p.complete = q.complete := by
  rw [complete_of_label h.label, complete_of_label (h.common.label.symm.trans h.label),
    h.foreignNames_eq, h.filled_eq]

/-- Two maps whose fields agree are read as pillars that are alike, or have the same problems. -/
theorem relates_readFields (htype : Reader.field? "type" pairs = some (.text form.label))
    (hcommon : ∀ name ∈ ["type", "id", "name", "height", "transform"],
      Reader.field? name pairs = Reader.field? name others)
    (hparameters : ∀ own : Form, ∀ parameter ∈ own.parameters,
      Relates (parameter.Agree form) (Reader.absent? parameter.name parameter.read pairs)
        (Reader.absent? parameter.name parameter.read others)) :
    Relates (Alike form) (readFields pairs) (readFields others) := by
  obtain ⟨hseed, hrules, hiterations, hangle, hstep, hthickness⟩ :=
    Form.forall_lsystem_parameters.1 (hparameters .lsystem)
  obtain ⟨hradius, hsegments, hflutes, hdepth⟩ :=
    Form.forall_fluted_parameters.1 (hparameters .fluted)
  have hlabel {pairs : Reader.Pairs} (h : Reader.field? "type" pairs = some (.text form.label)) :
      Reader.required "type" (Reader.oneOf [("lsystem", "lsystem"), ("fluted", "fluted")]) pairs =
        .ok form.label :=
    Reader.required_eq_ok_iff.2 ⟨_, h, form.oneOf_label⟩
  rw [readFields, readFields, hlabel htype, hlabel ((hcommon "type" (by simp)).symm.trans htype)]
  -- The last field stands outermost.
  refine relates_seq hdepth <| relates_seq hflutes <| relates_seq hsegments <|
    relates_seq hradius <| relates_seq hthickness <| relates_seq hstep <| relates_seq hangle <|
    relates_seq hiterations <| relates_seq hrules <| relates_seq hseed <|
    relates_seq (relates_of_eq (Reader.absent?_congr (hcommon "transform" (by simp)))) <|
    relates_seq (relates_of_eq (Reader.defaulted_congr (hcommon "height" (by simp)))) <|
    relates_seq (relates_of_eq (Reader.absent?_congr (hcommon "name" (by simp)))) <|
    relates_seq (relates_of_eq (Reader.required_congr (hcommon "id" (by simp)))) <|
    relates_map (.ok ?_)
  intro _ _ hid _ _ hname _ _ hheight _ _ htransform _ _ hseed _ _ hrules _ _ hiterations _ _ hangle
    _ _ hstep _ _ hthickness _ _ hradius _ _ hsegments _ _ hflutes _ _ hdepth
  refine ⟨rfl, ⟨rfl, hid, hname, hheight, htransform⟩, fun own => ?_⟩
  cases own with
  | lsystem =>
    exact Form.forall_lsystem_parameters.2
      ⟨hseed, hrules, hiterations, hangle, hstep, hthickness⟩
  | fluted => exact Form.forall_fluted_parameters.2 ⟨hradius, hsegments, hflutes, hdepth⟩

variable {parameter : Parameter} {value spelled given : Value} {before after : Reader.Pairs}

/-- A parameter that is null or its default is read as one that is left out. -/
theorem relates_absent?_insert (hparameter : parameter ∈ form.parameters)
    (habsent : Reader.field? parameter.name (before ++ after) = none)
    (hgiven : given = .null ∨ parameter.read given = .ok parameter.default) :
    Relates (parameter.Agree form) (Reader.absent? parameter.name parameter.read (before ++ after))
      (Reader.absent? parameter.name parameter.read
        (before ++ (.text parameter.name, given) :: after)) := by
  have hfound : Reader.field? parameter.name (before ++ (.text parameter.name, given) :: after) =
      some given := Reader.field?_insert habsent
  have hother := form.not_mem_other parameter hparameter
  rw [Reader.absent?_eq_none_iff.2 (.inl habsent)]
  by_cases hnull : given = .null
  · rw [hnull] at hfound ⊢
    rw [Reader.absent?_eq_none_iff.2 (.inr hfound)]
    exact .ok ⟨rfl, fun h => absurd h hother⟩
  · rw [Reader.absent?_eq_some_iff.2 ⟨given, hfound, hnull, hgiven.resolve_left hnull⟩]
    exact .ok ⟨rfl, fun h => absurd h hother⟩

/-- It makes no difference whether a parameter of the form is left out, is null, or is written as
its default. -/
theorem read_insert (hparameter : parameter ∈ form.parameters)
    (hvalue : value.pairs? = some (before ++ after))
    (hspelled : spelled.pairs? = some (before ++ (.text parameter.name, given) :: after))
    (htype : Reader.field? "type" (before ++ after) = some (.text form.label))
    (habsent : Reader.field? parameter.name (before ++ after) = none)
    (hgiven : given = .null ∨ parameter.read given = .ok parameter.default) :
    read spelled = read value := by
  have hfields : Relates (Alike form) (readFields (before ++ after))
      (readFields (before ++ (.text parameter.name, given) :: after)) := by
    refine relates_readFields htype (fun name hname => ?_) fun own other hown => ?_
    · refine (Reader.field?_insert_of_ne ?_).symm
      rintro rfl
      exact form.name_not_mem_common parameter hparameter hname
    · by_cases hname : other.name = parameter.name
      · rw [Form.eq_of_name_eq hown hparameter hname]
        exact relates_absent?_insert hparameter habsent hgiven
      · refine (relates_of_eq (Reader.absent?_congr ?_)).mono ?_
        · exact (Reader.field?_insert_of_ne hname).symm
        · rintro x _ rfl
          exact ⟨rfl, fun _ => rfl⟩
  rw [read, read, Reader.model, Reader.model, hvalue, hspelled]
  simp only [Reader.fields, Reader.hasLooseKey_insert,
    Reader.strays_insert (form.name_mem_fieldNames parameter hparameter)]
  split
  · rfl
  · exact ((relates_seqLeft hfields _).andThen_eq fun _ _ h => h.complete_eq).symm

/-- A parameter of the form that is left out has its default. -/
theorem get_of_read_of_absent (hparameter : parameter ∈ form.parameters)
    (hvalue : value.pairs? = some pairs)
    (htype : Reader.field? "type" pairs = some (.text form.label))
    (habsent : Reader.field? parameter.name pairs = none) (h : read value = .ok p) :
    parameter.get p = some parameter.default := by
  obtain ⟨own, q, hown, _, hfields, _, hcomplete⟩ := read_eq_ok_iff.1 h
  cases hvalue.symm.trans hown
  obtain ⟨_, rfl⟩ := (complete_eq_ok_iff (hfields.label_eq htype)).1 hcomplete
  have hread := hfields.parameters form parameter hparameter
  rw [Reader.absent?_eq_none_iff.2 (.inl habsent)] at hread
  rw [get_filled q parameter hparameter, ← Except.ok.inj hread]
  rfl

end Pillar

/-! ## Specifications -/

/-- A specification is read as itself when it is written out. -/
theorem Spec.readFields_fields {pairs : Reader.Pairs} {s : Spec} (h : readFields pairs = .ok s) :
    readFields s.fields = .ok s := by
  obtain ⟨_, hfields, _⟩ := readFields_eq_ok_iff.1 h
  refine readFields_eq_ok_iff.2 ⟨rfl, ⟨?_, ?_, ?_⟩, rfl⟩
  · exact Reader.required_eq_ok_iff.2 ⟨.text s.version, rfl, rfl⟩
  · have hunits : s.units = some "meters" := by
      obtain ⟨_, hmeters⟩ | ⟨_, _, hread⟩ := Reader.defaulted_eq_ok_iff.1 hfields.units
      · exact hmeters.symm
      · obtain ⟨_, _, hmem⟩ := Reader.exists_mem_of_oneOf hread
        exact (Prod.mk.inj (List.mem_singleton.1 hmem)).2
    refine Reader.defaulted_eq_ok_iff.2 (.inr ⟨_, rfl, ?_⟩)
    rw [hunits]
    rfl
  · refine Reader.defaulted_eq_ok_iff.2 (.inr ⟨.list (s.pillars.map Pillar.toValue), rfl, ?_⟩)
    refine Reader.all_itemsFrom_map (fun p hp => ?_) 0
    obtain ⟨value, hread⟩ := hfields.exists_read p hp
    obtain ⟨form, hform⟩ := Pillar.exists_isOf_of_read hread
    exact hform.read_toValue

namespace Pillar

/-- Pillars that are read are in normal form.

A pillar that is read has all parameters of its form and none of the other one.  Written out with
all fields, it is read as itself, and so is a specification.  An object with a parameter of its form
left out is read just as the one where the parameter is null or its default, with the same pillar or
the same problems, and the parameter is the default then.  An object with a parameter of the other
form that is not null is never read. -/
theorem read_in_normal_form :
    (∀ value p, read value = .ok p → (∃ form, IsOf form p) ∧ read p.toValue = .ok p) ∧
    (∀ pairs s, Spec.readFields pairs = .ok s → Spec.readFields s.fields = .ok s) ∧
    (∀ form : Form, ∀ parameter ∈ form.parameters, ∀ value before after,
      value.pairs? = some (before ++ after) →
      Reader.field? "type" (before ++ after) = some (.text form.label) →
      Reader.field? parameter.name (before ++ after) = none →
      (∀ spelled given,
        spelled.pairs? = some (before ++ (.text parameter.name, given) :: after) →
        given = .null ∨ parameter.read given = .ok parameter.default →
        read spelled = read value) ∧
      ∀ p, read value = .ok p → parameter.get p = some parameter.default) ∧
    (∀ form : Form, ∀ parameter ∈ form.other.parameters, ∀ value pairs given,
      value.pairs? = some pairs → Reader.field? "type" pairs = some (.text form.label) →
      Reader.field? parameter.name pairs = some given → given ≠ .null →
      ∀ p, read value ≠ .ok p) := by
  refine ⟨fun value p hread => ?_, fun _ _ => Spec.readFields_fields, ?_, ?_⟩
  · obtain ⟨form, hform⟩ := exists_isOf_of_read hread
    exact ⟨⟨form, hform⟩, hform.read_toValue⟩
  · intro form parameter hparameter value before after hvalue htype habsent
    exact ⟨fun spelled given hspelled => read_insert hparameter hvalue hspelled htype habsent,
      fun p => get_of_read_of_absent hparameter hvalue htype habsent⟩
  · intro form parameter hparameter value pairs given hvalue htype hgiven hnull p hread
    rcases field?_other_of_read hread hvalue htype parameter hparameter with hnone | hsome
    · exact nomatch hgiven.symm.trans hnone
    · exact hnull (Option.some.inj (hgiven.symm.trans hsome))

/-- A fluted column with further fields between its type and its id. -/
def columnWith (further : Reader.Pairs) : Value :=
  .map ((.text "type", .text "fluted") :: further ++ [(.text "id", .text "c")])

/-- A column without parameters is read as one with thirty-two segments, and so it is with segments
that are null or thirty-two; an axiom makes it no pillar. -/
theorem read_in_normal_form_column :
    ∃ p, read (columnWith []) = .ok p ∧ (∃ form, IsOf form p) ∧ read p.toValue = .ok p ∧
      p.segments = some 32 ∧
      read (columnWith [(.text "segments", .null)]) = .ok p ∧
      read (columnWith [(.text "segments", .int 32)]) = .ok p ∧
      (∀ q, read (columnWith [(.text "axiom", .text "F")]) ≠ .ok q) ∧
      Spec.readFields (Spec.fields ⟨"0.2", some "meters", [p]⟩) =
        .ok ⟨"0.2", some "meters", [p]⟩ := by
  obtain ⟨hread, hspec, hown, hother⟩ := read_in_normal_form
  obtain ⟨hsame, hdefault⟩ := hown .fluted ⟨"segments", Reader.integer, 32, Pillar.segments⟩
    (by simp [Form.parameters]) (columnWith []) [(.text "type", .text "fluted")]
    [(.text "id", .text "c")] rfl rfl rfl
  have hplain : ∃ p, read (columnWith []) = .ok p ∧
      Spec.readFields [(.text "version", .text "0.2"),
        (.text "pillars", .list [columnWith []])] = .ok ⟨"0.2", some "meters", [p]⟩ :=
    ⟨_, rfl, rfl⟩
  obtain ⟨p, hp, hpillars⟩ := hplain
  obtain ⟨hform, hwritten⟩ := hread _ p hp
  exact ⟨p, hp, hform, hwritten, hdefault p hp, (hsame _ .null rfl (.inl rfl)).trans hp,
    (hsame _ (.int 32) rfl (.inr rfl)).trans hp,
    hother .fluted ⟨"axiom", Reader.text, "F", Pillar.seed⟩ (by simp [Form.parameters, Form.other])
      _ _ (.text "F") rfl rfl rfl (by simp),
    hspec _ _ hpillars⟩

end Pillar

end Colonnade
