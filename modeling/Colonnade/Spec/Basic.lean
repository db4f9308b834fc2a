import Colonnade.Mesh.Basic
import Colonnade.Production.Table

/-!
# Pillar specifications

A specification lists pillars.  A pillar is of one of two forms: an L-system whose walk is the
ring of a hollow shell, or a fluted column.  A pillar has a place for the parameters of both
forms.  One that is read from a document has exactly those of its own form; one that is edited
later may lack some of them, which shows when they are asked for.
-/

namespace Colonnade

/-- The forms of pillars. -/
inductive Form where
  | lsystem
  | fluted
  deriving DecidableEq, Repr

/-- The name of a form. -/
def Form.label : Form → String
  | .lsystem => "lsystem"
  | .fluted => "fluted"

/-- The form with a name. -/
def Form.ofLabel? (label : String) : Option Form :=
  [Form.lsystem, Form.fluted].find? fun form => form.label == label

@[simp] theorem Form.ofLabel?_label (form : Form) : Form.ofLabel? form.label = some form := by
  cases form <;> decide

/-- Where a pillar is put. -/
structure Transform where
  offset : Option Vec3 := none

/-- A pillar.  The label is the name of its form; any other text is no form. -/
structure Pillar where
  label : String
  id : Text.Loose
  name : Option Text.Loose := none
  height : Float := 5.0
  transform : Option Transform := none
  seed : Option Text.Loose := none
  rules : Option (List Production.Rule) := none
  iterations : Option Int := none
  angle : Option Float := none
  segmentLength : Option Float := none
  thickness : Option Float := none
  radius : Option Float := none
  segments : Option Int := none
  flutes : Option Int := none
  fluteDepth : Option Float := none

/-- A specification. -/
structure Spec where
  version : Text.Loose
  units : Option String := some "meters"
  pillars : List Pillar := []

namespace Pillar

/-- The form of a pillar. -/
def form? (p : Pillar) : Option Form := Form.ofLabel? p.label

/-- The name a pillar has in a scene: its name, or its id when it has none. -/
def displayName (p : Pillar) : Text.Loose :=
  match p.name with
  | some name => if name = [] then p.id else name
  | none => p.id

/-- The offset of a pillar, if it has one. -/
def offset? (p : Pillar) : Option Vec3 :=
  p.transform.bind Transform.offset

end Pillar

/-- What is asked of a parameter that is not set. -/
inductive Unset where
  /-- Whether it is less than a bound. -/
  | less
  /-- Whether it is a bound at most. -/
  | atMost
  /-- What its members are. -/
  | members
  /-- A product with it. -/
  | product
  /-- The sum of it and a number. -/
  | sum
  /-- The sum of a number and it. -/
  | addend
  /-- The opposite of it. -/
  | opposite
  deriving DecidableEq, Repr

/-- The wording of what cannot be had of a parameter that is not set. -/
def Unset.message : Unset → String
  | .less => "'<' not supported between instances of 'NoneType' and 'int'"
  | .atMost => "'<=' not supported between instances of 'NoneType' and 'int'"
  | .members => "'NoneType' object is not iterable"
  | .product => "unsupported operand type(s) for *: 'float' and 'NoneType'"
  | .sum => "unsupported operand type(s) for +: 'NoneType' and 'float'"
  | .addend => "unsupported operand type(s) for +: 'float' and 'NoneType'"
  | .opposite => "bad operand type for unary -: 'NoneType'"

end Colonnade
