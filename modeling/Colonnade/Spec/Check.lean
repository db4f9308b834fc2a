import Colonnade.Number.Shortest
import Colonnade.Spec.Basic
import Colonnade.Spec.Version

/-!
# Semantic checks

What the schema cannot say about a specification.  The checks run one after the other over all
pillars, and the first pillar that fails the first failing check is reported: fluted pillars need
a late enough version, ids differ, numbers are finite, heights are positive, rule symbols are
single characters, and the parameters of each form are in range.
-/

namespace Colonnade

open Text (Loose)

/-- A broken semantic rule. -/
inductive SpecFault where
  | tooEarly (id version : Loose)
  | repeatedId (id : Loose)
  | notFinite (id : Loose) (field : String) (value : Float)
  | height (id : Loose) (value : Float)
  | ruleSymbol (id symbol : Loose)
  | iterations (id : Loose) (value : Int)
  | segmentLength (id : Loose) (value : Float)
  | thickness (id : Loose) (value : Float)
  | radius (id : Loose) (value : Float)
  | segments (id : Loose) (value : Int)
  | flutes (id : Loose) (value : Int)
  /-- An integer out of range is too large to be written. -/
  | unwritable
  /-- A parameter is not set. -/
  | unset (use : Unset)

namespace SpecFault

/-- The opening words of a message about a pillar. -/
def subject (id : Loose) : String := "Pillar " ++ id.quoted

/-- The wording of a broken rule. -/
def message : SpecFault → String
  | .tooEarly id version =>
    subject id ++ " uses type 'fluted' which requires version >= 0.2, " ++
      "but spec declares version " ++ version.quoted
  | .repeatedId id => "Duplicate pillar id: " ++ id.quoted
  | .notFinite id field value =>
    "Non-finite value " ++ Number.floatText value ++ " in pillar " ++ id.quoted ++ " " ++ field
  | .height id value => subject id ++ " has non-positive height=" ++ Number.floatText value
  | .ruleSymbol id symbol =>
    subject id ++ ": rule symbol must be a single character, got " ++ symbol.quoted
  | .iterations id value => subject id ++ " has negative iterations=" ++ toString value
  | .segmentLength id value =>
    subject id ++ " has non-positive segment_length=" ++ Number.floatText value
  | .thickness id value => subject id ++ " has negative thickness=" ++ Number.floatText value
  | .radius id value => subject id ++ " has non-positive radius=" ++ Number.floatText value
  | .segments id value =>
    subject id ++ " needs at least 3 segments, got " ++ toString value
  | .flutes id value => subject id ++ " has negative flutes=" ++ toString value
  | .unwritable => Number.IntegerFault.message .tooLarge
  | .unset use => use.message

end SpecFault

namespace Pillar

/-- The float fields of a pillar that are set, by name. -/
def floats (p : Pillar) : List (String × Float) :=
  [("height", some p.height), ("angle", p.angle), ("segment_length", p.segmentLength),
    ("thickness", p.thickness), ("radius", p.radius), ("flute_depth", p.fluteDepth)].filterMap
      fun (name, value) => value.map (name, ·)

/-- The components of a pillar's offset, by name. -/
def offsetFloats (p : Pillar) : List (String × Float) :=
  match p.offset? with
  | some v => [("translation", v.x), ("translation", v.y), ("translation", v.z)]
  | none => []

/-- The first number of a pillar that is not finite. -/
def notFinite? (p : Pillar) : Option SpecFault :=
  ((p.floats ++ p.offsetFloats).find? fun field => !field.2.isFinite).map fun field =>
    .notFinite p.id field.1 field.2

/-- A height that is not positive. -/
def badHeight? (p : Pillar) : Option SpecFault :=
  if p.height ≤ 0.0 then some (.height p.id p.height) else none

/-- The first rule whose symbol is not a single character. -/
def badSymbol? (p : Pillar) : Option SpecFault :=
  ((p.rules.getD []).find? fun rule => rule.symbol.length != 1).map fun rule =>
    .ruleSymbol p.id rule.symbol

/-- The fault of a parameter that is not set, or out of range. -/
def outOfRange? {α : Type} (use : Unset) (isBad : α → Bool) (fault : α → SpecFault) :
    Option α → Option SpecFault
  | none => some (.unset use)
  | some a => if isBad a then some (fault a) else none

/-- The fault of an integer, which is written if it can be. -/
def integerFault (fault : Int → SpecFault) (value : Int) : SpecFault :=
  if Number.isTooLarge value then .unwritable else fault value

/-- The first parameter of an L-system that is out of range. -/
def badLSystem? (p : Pillar) : Option SpecFault :=
  match p.form? with
  | some .lsystem =>
    [outOfRange? .less (· < 0) (integerFault (.iterations p.id)) p.iterations,
      outOfRange? .atMost (· ≤ 0.0) (.segmentLength p.id) p.segmentLength,
      outOfRange? .less (· < 0.0) (.thickness p.id) p.thickness].findSome? fun fault => fault
  | _ => none

/-- The first parameter of a fluted column that is out of range. -/
def badFluting? (p : Pillar) : Option SpecFault :=
  match p.form? with
  | some .fluted =>
    [outOfRange? .atMost (· ≤ 0.0) (.radius p.id) p.radius,
      outOfRange? .less (· < 3) (integerFault (.segments p.id)) p.segments,
      outOfRange? .less (· < 0) (integerFault (.flutes p.id)) p.flutes].findSome? fun fault => fault
  | _ => none

/-- Whether a pillar is of the fluted form. -/
def isFluted (p : Pillar) : Bool := p.form? == some .fluted

end Pillar

/-- The first id in a list that occurred before. -/
def repeatedId? (seen : List Loose) : List Loose → Option Loose
  | [] => none
  | id :: rest => if seen.contains id then some id else repeatedId? (id :: seen) rest

theorem repeatedId?_eq_none_iff (seen ids : List Loose) :
    repeatedId? seen ids = none ↔ ids.Nodup ∧ ∀ id ∈ ids, id ∉ seen := by
  induction ids generalizing seen with
  | nil => simp [repeatedId?]
  | cons id rest ih =>
    unfold repeatedId?
    by_cases h : id ∈ seen
    · simp [h]
    · simp only [List.contains_iff_mem, h, if_false, ih, List.nodup_cons, List.mem_cons,
        forall_eq_or_imp, not_or]
      constructor
      · rintro ⟨hnodup, hall⟩
        exact ⟨⟨fun hmem => (hall id hmem).1 rfl, hnodup⟩, not_false,
          fun a ha => (hall a ha).2⟩
      · rintro ⟨⟨hmem, hnodup⟩, _, hall⟩
        exact ⟨hnodup, fun a ha => ⟨fun heq => hmem (heq ▸ ha), hall a ha⟩⟩

namespace Spec

/-- The version that decides which forms a specification may use. -/
def versionNumber (s : Spec) : Version := .ofTextOrEarliest s.version

/-- A fluted pillar in a specification of a version that does not have them. -/
def tooEarly? (s : Spec) : Option SpecFault :=
  if s.versionNumber.before ⟨0, 2⟩ then
    (s.pillars.find? Pillar.isFluted).map fun p => .tooEarly p.id s.version
  else none

/-- The checks, in order. -/
def checks (s : Spec) : List (Option SpecFault) :=
  [s.tooEarly?,
    (repeatedId? [] (s.pillars.map Pillar.id)).map .repeatedId,
    s.pillars.findSome? Pillar.notFinite?,
    s.pillars.findSome? Pillar.badHeight?,
    s.pillars.findSome? Pillar.badSymbol?,
    s.pillars.findSome? Pillar.badLSystem?,
    s.pillars.findSome? Pillar.badFluting?]

/-- The first broken rule of a specification. -/
def fault? (s : Spec) : Option SpecFault :=
  s.checks.findSome? fun fault => fault

/-- Accepts a specification that breaks no rule. -/
def validate (s : Spec) : Except SpecFault Unit :=
  match s.fault? with
  | some fault => .error fault
  | none => .ok ()

end Spec

end Colonnade
