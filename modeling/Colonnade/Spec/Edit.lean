import Colonnade.Spec.Basic

/-!
# Editing specifications

A loaded specification can be changed field by field, without any checks.
-/

namespace Colonnade

/-- A change of one field of a pillar. -/
inductive PillarEdit where
  | label (value : String)
  | id (value : Text.Loose)
  | name (value : Option Text.Loose)
  | height (value : Float)
  | transform (value : Option Transform)
  | seed (value : Option Text.Loose)
  | rules (value : Option (List Production.Rule))
  | iterations (value : Option Int)
  | angle (value : Option Float)
  | segmentLength (value : Option Float)
  | thickness (value : Option Float)
  | radius (value : Option Float)
  | segments (value : Option Int)
  | flutes (value : Option Int)
  | fluteDepth (value : Option Float)

/-- A change of one field of a specification. -/
inductive Edit where
  | version (value : Text.Loose)
  | units (value : Option String)
  | pillars (value : List Pillar)
  | pillar (position : Nat) (change : PillarEdit)

/-- A pillar after a change. -/
def Pillar.edit (p : Pillar) : PillarEdit → Pillar
  | .label value => { p with label := value }
  | .id value => { p with id := value }
  | .name value => { p with name := value }
  | .height value => { p with height := value }
  | .transform value => { p with transform := value }
  | .seed value => { p with seed := value }
  | .rules value => { p with rules := value }
  | .iterations value => { p with iterations := value }
  | .angle value => { p with angle := value }
  | .segmentLength value => { p with segmentLength := value }
  | .thickness value => { p with thickness := value }
  | .radius value => { p with radius := value }
  | .segments value => { p with segments := value }
  | .flutes value => { p with flutes := value }
  | .fluteDepth value => { p with fluteDepth := value }

/-- A specification after a change. -/
def Spec.edit (s : Spec) : Edit → Spec
  | .version value => { s with version := value }
  | .units value => { s with units := value }
  | .pillars value => { s with pillars := value }
  | .pillar position change =>
    { s with pillars := s.pillars.modify position (·.edit change) }

/-- A place in a list of some length, counted from the front, or from the end by a negative
number. -/
def placeAt? (length : Nat) (position : Int) : Option Nat :=
  let place := if position < 0 then position + length else position
  if 0 ≤ place ∧ place < length then some place.toNat else none

/-- A field that is missing, in words. -/
def noFieldMessage (model field : String) : String :=
  "\"" ++ model ++ "\" object has no field \"" ++ field ++ "\""

end Colonnade
