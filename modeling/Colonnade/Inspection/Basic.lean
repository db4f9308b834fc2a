import Colonnade.Json.Basic
import Colonnade.Mesh.Bounds
import Colonnade.Spec.Generation

/-!
# Inspection

An inspection reports how an L-system grows and what mesh each pillar has, without keeping the
meshes.  The growth is predicted from symbol counts; an L-system whose string would be longer
than a limit is reported by its growth alone and nothing of it is built.
-/

namespace Colonnade

namespace Inspection

/-- What is reported about a mesh.  An empty mesh has no bounds. -/
structure MeshSummary where
  vertexCount : Nat
  triangleCount : Nat
  bounds : Option Bounds

/-- The summary of a mesh. -/
def MeshSummary.of (m : Mesh) : MeshSummary :=
  ⟨m.vertexCount, m.triangleCount, m.bounds?⟩

/-- What is reported about the geometry of a pillar. -/
inductive Detail where
  /-- An L-system that grows beyond the limit. -/
  | skipped (lengths : List Nat)
  /-- An L-system: its growth, how many points its walk has, and its mesh. -/
  | walked (lengths : List Nat) (points : Nat) (mesh : MeshSummary)
  /-- A fluted column. -/
  | column (mesh : MeshSummary)

/-- The report on one pillar. -/
structure Entry where
  id : Text.Loose
  label : String
  detail : Detail

namespace Detail

/-- The summary of the mesh, if there is one. -/
def mesh? : Detail → Option MeshSummary
  | .skipped _ => none
  | .walked _ _ mesh => some mesh
  | .column mesh => some mesh

/-- The growth, if there is one. -/
def lengths : Detail → List Nat
  | .skipped lengths => lengths
  | .walked lengths _ _ => lengths
  | .column _ => []

/-- Whether nothing was built. -/
def isSkipped (d : Detail) : Bool := d.mesh?.isNone

end Detail

end Inspection

/-- The report on a specification: its version, how many pillars it has, and the reports on the
selected ones. -/
structure Inspection where
  version : Text.Loose
  pillarCount : Nat
  entries : List Inspection.Entry

namespace Inspection

/-- Longer strings are not built unless asked for. -/
def defaultLimit : Int := 1000000

/-- How many vertices the reported meshes have. -/
def vertexTotal (i : Inspection) : Nat :=
  (i.entries.map fun e => (e.detail.mesh?.map MeshSummary.vertexCount).getD 0).foldr (· + ·) 0

/-- How many triangles the reported meshes have. -/
def triangleTotal (i : Inspection) : Nat :=
  (i.entries.map fun e => (e.detail.mesh?.map MeshSummary.triangleCount).getD 0).foldr (· + ·) 0

/-- How many of the reported pillars were skipped. -/
def skippedTotal (i : Inspection) : Nat :=
  i.entries.countP fun e => e.detail.isSkipped

end Inspection

namespace Pillar

/-- Whether a growth ends beyond a limit. -/
def outgrows (lengths : List Nat) (limit : Int) : Bool :=
  limit < (lengths.getLast?.getD 0 : Nat)

/-- The report on the geometry of an L-system. -/
def inspectLSystem (p : Pillar) (limit : Int) : Report GenerationFault Inspection.Detail := do
  let table ← p.table
  let (seed, rounds) ← p.growth
  let lengths := table.growth rounds seed
  if outgrows lengths limit then pure (.skipped lengths)
  else do
    let symbols ← p.symbols table
    let ring ← p.points symbols
    let mesh ← p.shell ring
    pure (.walked lengths ring.length (.of mesh))

/-- The report on the geometry of a pillar. -/
def inspectDetail (p : Pillar) (limit : Int) : Report GenerationFault Inspection.Detail :=
  match p.form? with
  | some .lsystem => p.inspectLSystem limit
  | _ => do
    let mesh ← p.generate
    pure (.column (.of mesh))

/-- The report on a pillar. -/
def inspect (p : Pillar) (limit : Int) : Report GenerationFault Inspection.Entry := do
  let detail ← p.inspectDetail limit
  pure ⟨p.id, p.label, detail⟩

end Pillar

namespace Spec

/-- Whether an id is selected; without a selection every id is. -/
def isSelected (selection : Option (List Text.Loose)) (id : Text.Loose) : Bool :=
  match selection with
  | none => true
  | some ids => ids.contains id

/-- The report on the selected pillars of a specification. -/
def inspect (s : Spec) (selection : Option (List Text.Loose)) (limit : Int) :
    Report GenerationFault Inspection := do
  let entries ← Report.traverse (fun p => p.inspect limit)
    (s.pillars.filter fun p => isSelected selection p.id)
  pure ⟨s.version, s.pillars.length, entries⟩

/-- Texts in rising order, each once. -/
def sortedDistinct (ids : List String) : List String :=
  (ids.mergeSort fun a b => decide (a ≤ b)).foldr
    (fun id rest => if rest.head? = some id then rest else id :: rest) []

/-- The selected ids that no pillar has, in rising order. -/
def unknownIds (s : Spec) (selected : List String) : List String :=
  sortedDistinct (selected.filter fun id => !(s.pillars.map Pillar.id).contains ↑id)

end Spec

/-! ## As a document -/

namespace Inspection

/-- A vector as a list of coordinates. -/
def vectorJson (v : Vec3) : Json :=
  .list [.float v.x, .float v.y, .float v.z]

/-- The members for a mesh. -/
def MeshSummary.members (m : MeshSummary) : List (String × Json) :=
  [("vertex_count", .nat m.vertexCount), ("triangle_count", .nat m.triangleCount),
    ("empty", .bool m.bounds.isNone)] ++
    match m.bounds with
    | none => []
    | some b => [("bounds", .object [("min", vectorJson b.low), ("max", vectorJson b.high)])]

/-- A growth as a list of numbers. -/
def growthJson (lengths : List Nat) : Json :=
  .list (lengths.map Json.nat)

/-- The members for the geometry of a pillar. -/
def Detail.members : Detail → List (String × Json)
  | .skipped lengths =>
    [("expansion_lengths", growthJson lengths), ("mesh_skipped", .bool true)]
  | .walked lengths points mesh =>
    [("expansion_lengths", growthJson lengths), ("cross_section_points", .nat points)] ++
      mesh.members
  | .column mesh => mesh.members

/-- The report on one pillar as a document. -/
def Entry.toJson (e : Entry) : Json :=
  .object ([("id", .text e.id), ("type", .text e.label)] ++ e.detail.members)

/-- An inspection as a document. -/
def toJson (i : Inspection) : Json :=
  .object [
    ("inspect_schema_version", .int 1),
    ("summary", .object [
      ("spec_version", .text i.version),
      ("pillar_count", .nat i.pillarCount),
      ("vertex_count", .nat i.vertexTotal),
      ("triangle_count", .nat i.triangleTotal),
      ("skipped_count", .nat i.skippedTotal)]),
    ("pillars", .list (i.entries.map Entry.toJson))]

end Inspection

end Colonnade
