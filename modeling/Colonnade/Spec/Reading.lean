import Colonnade.Schema.Reader
import Colonnade.Spec.Basic

/-!
# Reading specifications

The schema of a specification.  A pillar is written as one flat map with the fields of both
forms.  Every field is read by itself; then a parameter of the other form must be left out or
null, and a missing parameter of the own form gets its default.  Rules are a list of rules or, for
short, a map from symbols to replacements.
-/

namespace Colonnade

open Document (Value)
open Schema (Checked Problem Reader)

namespace Production.Rule

/-- The schema of a rule. -/
def read : Reader Rule :=
  Reader.model "Rule" ["symbol", "replacement"] fun pairs =>
    Rule.mk <$> Reader.required "symbol" Reader.text pairs <*>
      Reader.defaulted "replacement" [] Reader.text pairs

/-- A pair of a rule map as a rule. -/
def ofPair (pair : Value × Value) : Value :=
  .map [(.text "symbol", pair.1), (.text "replacement", pair.2)]

/-- A map of rules as a list of them. -/
def spelledOut (value : Value) : Value :=
  match value.pairs? with
  | some pairs => .list (pairs.map ofPair)
  | none => value

/-- The schema of the rules of a pillar. -/
def readAll (value : Value) : Checked (List Rule) :=
  Reader.list read (spelledOut value)

end Production.Rule

/-- The schema of a transform. -/
def Transform.read : Reader Transform :=
  Reader.model "Transform" ["translation"] fun pairs =>
    (fun offset => ⟨offset.map fun (x, y, z) => ⟨x, y, z⟩⟩) <$>
      Reader.absent? "translation" (Reader.tuple3 Reader.float) pairs

namespace Pillar

/-- The names of all fields. -/
def fieldNames : List String :=
  ["type", "id", "name", "height", "transform", "axiom", "rules", "iterations", "angle",
    "segment_length", "thickness", "radius", "segments", "flutes", "flute_depth"]

/-- Reads every field by itself. -/
def readFields (pairs : Reader.Pairs) : Checked Pillar :=
  Pillar.mk
    <$> Reader.required "type" (Reader.oneOf [("lsystem", "lsystem"), ("fluted", "fluted")]) pairs
    <*> Reader.required "id" Reader.text pairs
    <*> Reader.absent? "name" Reader.text pairs
    <*> Reader.defaulted "height" 5.0 Reader.float pairs
    <*> Reader.absent? "transform" Transform.read pairs
    <*> Reader.absent? "axiom" Reader.text pairs
    <*> Reader.absent? "rules" Production.Rule.readAll pairs
    <*> Reader.absent? "iterations" Reader.integer pairs
    <*> Reader.absent? "angle" Reader.float pairs
    <*> Reader.absent? "segment_length" Reader.float pairs
    <*> Reader.absent? "thickness" Reader.float pairs
    <*> Reader.absent? "radius" Reader.float pairs
    <*> Reader.absent? "segments" Reader.integer pairs
    <*> Reader.absent? "flutes" Reader.integer pairs
    <*> Reader.absent? "flute_depth" Reader.float pairs

/-- The names of the parameters of an L-system that are set. -/
def lsystemNames (p : Pillar) : List String :=
  [("axiom", p.seed.isSome), ("rules", p.rules.isSome), ("iterations", p.iterations.isSome),
    ("angle", p.angle.isSome), ("segment_length", p.segmentLength.isSome),
    ("thickness", p.thickness.isSome)].filterMap
      fun (name, isSet) => if isSet then some name else none

/-- The names of the parameters of a fluted column that are set. -/
def flutedNames (p : Pillar) : List String :=
  [("radius", p.radius.isSome), ("segments", p.segments.isSome), ("flutes", p.flutes.isSome),
    ("flute_depth", p.fluteDepth.isSome)].filterMap fun (name, isSet) =>
      if isSet then some name else none

/-- The names of the parameters of the other form that are set. -/
def foreignNames (p : Pillar) : List String :=
  if p.label = Form.lsystem.label then p.flutedNames else p.lsystemNames

/-- A pillar with every parameter of an L-system. -/
def withLSystem (p : Pillar) : Pillar :=
  { p with
    seed := some (p.seed.getD "F")
    rules := some (p.rules.getD [])
    iterations := some (p.iterations.getD 3)
    angle := some (p.angle.getD 90.0)
    segmentLength := some (p.segmentLength.getD 1.0)
    thickness := some (p.thickness.getD 0.1) }

/-- A pillar with every parameter of a fluted column. -/
def withFluting (p : Pillar) : Pillar :=
  { p with
    radius := some (p.radius.getD 1.0)
    segments := some (p.segments.getD 32)
    flutes := some (p.flutes.getD 8)
    fluteDepth := some (p.fluteDepth.getD 0.1) }

/-- A pillar with every parameter of its form; the first one of the other form that is set is a
problem. -/
def complete (p : Pillar) : Checked Pillar :=
  match p.foreignNames with
  | name :: _ => .fail (.foreignField p.label name)
  | [] => pure (if p.label = Form.lsystem.label then p.withLSystem else p.withFluting)

/-- The schema of a pillar. -/
def read (value : Value) : Checked Pillar :=
  (Reader.model "Pillar" fieldNames readFields value).andThen complete

end Pillar

/-- The schema of a specification, given its fields. -/
def Spec.readFields : Reader.Pairs → Checked Spec :=
  Reader.fields ["version", "units", "pillars"] fun pairs =>
    Spec.mk <$> Reader.required "version" Reader.text pairs
      <*> Reader.defaulted "units" (some "meters") (Reader.oneOf [("meters", some "meters")]) pairs
      <*> Reader.defaulted "pillars" [] (Reader.list Pillar.read) pairs

end Colonnade
