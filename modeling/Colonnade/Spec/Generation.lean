import Colonnade.Production.Expansion
import Colonnade.Shape.Column
import Colonnade.Shape.Shell
import Colonnade.Spec.Basic

/-!
# Generation of meshes

An L-system pillar is built in three steps: its rules expand the seed, a turtle walks the
resulting string, and the points of the walk are the ring of a shell.  A fluted pillar is a
column.  Every pillar of a specification is built on its own, in document order.  A parameter
that is not set is a fault from the first step on that needs it.
-/

namespace Colonnade

open Text (CodePoint Loose)

/-- Why a pillar cannot be built. -/
inductive GenerationFault where
  | negativeRounds (cause : Production.NegativeRounds)
  | infiniteHeading
  | column (cause : Column.Fault)
  | wideCorner (cause : Mesh.WideCorner)
  | noLSystem (id : Loose) (label : String)
  | unknownForm (id : Loose) (label : String)
  | unset (use : Unset)
  deriving DecidableEq, Repr

/-- The wording of a fault. -/
def GenerationFault.message : GenerationFault → String
  | .negativeRounds cause => cause.message
  | .infiniteHeading => Turtle.InfiniteHeading.message ⟨⟩
  | .column cause => cause.message
  | .wideCorner cause => cause.message
  | .noLSystem id label =>
    "Pillar " ++ id.quoted ++ " of type " ++ Text.quoted label ++ " has no L-system"
  | .unknownForm _ label => "Unknown pillar type: " ++ Text.quoted label
  | .unset use => use.message

/-- The pillar that a fault names. -/
def GenerationFault.pillar? : GenerationFault → Option Loose
  | .noLSystem id _ => some id
  | .unknownForm id _ => some id
  | _ => none

namespace Pillar

/-- A parameter that must be set. -/
def need {α : Type} (use : Unset) : Option α → Report GenerationFault α
  | some a => pure a
  | none => .fail (.unset use)

/-! ## L-systems -/

/-- The table of a pillar's rules. -/
def table (p : Pillar) : Report GenerationFault Production.Table := do
  let rules ← need .members p.rules
  Production.Table.ofRules rules

/-- The string that a pillar's strings grow from, and the number of rounds. -/
def growth (p : Pillar) : Report GenerationFault (Loose × Nat) := do
  let iterations ← need .less p.iterations
  let rounds ← .ofExcept ((Production.roundsOf iterations).mapError .negativeRounds)
  let seed ← need .members p.seed
  pure (seed, rounds)

/-- The string of a pillar under a table. -/
def symbols (p : Pillar) (t : Production.Table) : Report GenerationFault Loose := do
  let (seed, rounds) ← p.growth
  pure (t.deriveTimes rounds seed)

/-- The points that a turtle records along a string. -/
def walk (symbols : Loose) (angle step : Float) : Report GenerationFault (List Point) :=
  .ofExcept (((Turtle.walk symbols angle step).mapError fun _ => .infiniteHeading).map
    Array.toList)

/-- What a symbol of a walk asks of a parameter that is not set. -/
def unsetAt? (p : Pillar) (symbol : CodePoint) : Option Unset :=
  match symbol with
  | .char 'F' => if p.segmentLength.isNone then some .product else none
  | .char '+' => if p.angle.isNone then some .opposite else none
  | .char '-' => if p.angle.isNone then some .addend else none
  | _ => none

/-- A walk that ends where it needs a parameter that is not set.  The direction of a step is
found before its length is asked for. -/
def brokenWalk (p : Pillar) (symbols : Loose) : Report GenerationFault (List Point) := do
  let reach := symbols.takeWhile fun c => (p.unsetAt? c).isNone
  let next := symbols[reach.length]?
  let points ← walk (if next = some (.char 'F') then reach ++ [.char 'F'] else reach)
    (p.angle.getD 0.0) (p.segmentLength.getD 0.0)
  match next.bind p.unsetAt? with
  | some use => .fail (.unset use)
  | none => pure points

/-- The points along a string of a pillar. -/
def points (p : Pillar) (symbols : Loose) : Report GenerationFault (List Point) :=
  match p.angle, p.segmentLength with
  | some angle, some step => walk symbols angle step
  | _, _ => p.brokenWalk symbols

/-- The ring of a pillar that is an L-system. -/
def ring (p : Pillar) : Report GenerationFault (List Point) := do
  let table ← p.table
  let symbols ← p.symbols table
  p.points symbols

/-- The ring of a pillar, which must be an L-system. -/
def crossSection (p : Pillar) : Report GenerationFault (List Point) :=
  match p.form? with
  | some .lsystem => p.ring
  | _ => .fail (.noLSystem p.id p.label)

/-- The shell over a ring of a pillar.  The thickness is asked for after the first point is looked
at, and corners are stored after all points have been looked at. -/
def shell (p : Pillar) (ring : List Point) : Report GenerationFault Mesh :=
  match p.thickness with
  | some thickness => do
    let mesh ← Shell.extrude ring p.height thickness
    .ofExcept (mesh.stored.mapError .wideCorner)
  | none =>
    if ring.length < 3 then Shell.extrude ring p.height 0.0
    else do
      Shell.reportOrigins 0 (ring.take 1)
      .fail (.unset .product)

/-! ## Fluted columns -/

/-- Why a column cannot be built when some parameter of it is not set. -/
def columnFault (p : Pillar) : GenerationFault :=
  match p.segments, p.flutes with
  | none, _ => .unset .less
  | some segments, flutes =>
    if segments < 3 then .column (Column.tooFew segments)
    else
      match Column.toFloat segments, flutes.map Column.toFloat with
      | .error fault, _ => .column fault
      | .ok _, none => .unset .product
      | .ok _, some (.error fault) => .column fault
      | .ok _, some (.ok _) => .unset (if p.fluteDepth.isNone then .product else .sum)

/-- The column of a pillar. -/
def column (p : Pillar) : Report GenerationFault Mesh :=
  match p.radius, p.segments, p.flutes, p.fluteDepth with
  | some radius, some segments, some flutes, some depth =>
    .ofExcept ((Column.build ⟨p.height, radius, segments, flutes, depth⟩).mapError .column)
  | _, _, _, _ => .fail p.columnFault

/-! ## Meshes -/

/-- The mesh of a pillar. -/
def generate (p : Pillar) : Report GenerationFault Mesh :=
  match p.form? with
  | some .lsystem => do
    let ring ← p.ring
    p.shell ring
  | some .fluted => p.column
  | none => .fail (.unknownForm p.id p.label)

end Pillar

/-- A pillar with its mesh. -/
structure Generated where
  pillar : Pillar
  mesh : Mesh

/-- The meshes of all pillars, in document order. -/
def Spec.generate (s : Spec) : Report GenerationFault (List Generated) :=
  Report.traverse (fun p => do
    let mesh ← p.generate
    pure ⟨p, mesh⟩) s.pillars

end Colonnade
