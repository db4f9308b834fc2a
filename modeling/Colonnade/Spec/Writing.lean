import Colonnade.Spec.Reading

/-!
# Specifications as document values

The whole of a specification as it would stand in a document: every field of a pillar is written,
those of both forms, and a field that is not set is written as null.
-/

namespace Colonnade

open Document (Value)
open Schema (Reader)

/-- An optional value: null when there is none. -/
def Document.Value.ofOption {α : Type} (write : α → Value) : Option α → Value
  | none => .null
  | some a => write a

/-- A rule as a value. -/
def Production.Rule.toValue (rule : Rule) : Value :=
  ofPair (.text rule.symbol, .text rule.replacement)

/-- A vector as a value. -/
def Vec3.toValue (v : Vec3) : Value :=
  .tuple [.float v.x, .float v.y, .float v.z]

/-- A transform as a value. -/
def Transform.toValue (t : Transform) : Value :=
  .map [(.text "translation", .ofOption Vec3.toValue t.offset)]

namespace Pillar

/-- The fields of a pillar, each with its value. -/
def fields (p : Pillar) : Reader.Pairs :=
  [(.text "type", .text p.label),
    (.text "id", .text p.id),
    (.text "name", .ofOption .text p.name),
    (.text "height", .float p.height),
    (.text "transform", .ofOption Transform.toValue p.transform),
    (.text "axiom", .ofOption .text p.seed),
    (.text "rules", .ofOption (fun rules => .list (rules.map Production.Rule.toValue)) p.rules),
    (.text "iterations", .ofOption .int p.iterations),
    (.text "angle", .ofOption .float p.angle),
    (.text "segment_length", .ofOption .float p.segmentLength),
    (.text "thickness", .ofOption .float p.thickness),
    (.text "radius", .ofOption .float p.radius),
    (.text "segments", .ofOption .int p.segments),
    (.text "flutes", .ofOption .int p.flutes),
    (.text "flute_depth", .ofOption .float p.fluteDepth)]

/-- A pillar as a value. -/
def toValue (p : Pillar) : Value := .map p.fields

end Pillar

/-- The fields of a specification, each with its value. -/
def Spec.fields (s : Spec) : Reader.Pairs :=
  [(.text "version", .text s.version),
    (.text "units", .ofOption (fun units : String => .text units) s.units),
    (.text "pillars", .list (s.pillars.map Pillar.toValue))]

end Colonnade
