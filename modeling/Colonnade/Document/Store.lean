import Colonnade.Document.Value

/-!
# Stores of collections

A document may refer to one collection from several places, and a collection may even hold itself.
So the collections of a document are kept in a store, by number, and what holds a collection
holds its number only.

`Content.unrolled` and `Content.written` turn what a store holds into values: the first follows
every number down to a given depth, the second stops where a collection turns up inside itself.
`sameKey` says when two members are the same key, and `unhashable?` which members are no keys.
-/

namespace Colonnade.Document

/-- A member of a collection: a scalar and where it comes from, a tuple, or a collection that the
store holds under a number. -/
inductive Member where
  | scalar (origin : Nat) (value : Value)
  | tuple (members : List Member)
  | object (number : Nat)

/-- A collection of a store. -/
inductive Object where
  | list (members : List Member)
  | set (members : List Member)
  | map (isOrdered : Bool) (pairs : List (Member × Member))

namespace Object

/-- The shape of a collection. -/
def shape : Object → Shape
  | .list _ => .list
  | .set _ => .set
  | .map false _ => .map
  | .map true _ => .orderedMap

/-- An empty collection. -/
def empty : Shape → Object
  | .list => .list []
  | .set => .set []
  | .map => .map false []
  | .orderedMap => .map true []

/-- The name of a shape, for messages about keys. -/
def kindName (o : Object) : String :=
  match o.shape with
  | .list => "list"
  | .set => "set"
  | .map => "dict"
  | .orderedMap => "ordereddict"

end Object

/-- The collections of a document, by number. -/
abbrev Store := Array Object

/-- What a document holds. -/
structure Content where
  store : Store
  root : Member

namespace Store

/-- The collection with a number. -/
def get (s : Store) (number : Nat) : Object := s.getD number (.list [])

end Store

namespace Member

/-! ## Keys -/

/-- Whether a scalar is a float that is not a number. -/
def isNaN : Value → Bool
  | .float x => x.isNaN
  | _ => false

mutual

/-- Whether two members are the same key.  What is not a number is the same key only if it comes
from the same place. -/
def sameKey : Member → Member → Bool
  | .scalar p a, .scalar q b => a.sameScalar b || (p == q && isNaN a && isNaN b)
  | .tuple a, .tuple b => sameKeys a b
  | .object p, .object q => p == q
  | _, _ => false

/-- Whether two lists hold the same keys in the same order. -/
def sameKeys : List Member → List Member → Bool
  | [], [] => true
  | a :: as, b :: bs => sameKey a b && sameKeys as bs
  | _, _ => false

end

mutual

/-- The first collection in a member, which cannot be part of a key. -/
def unhashable? (s : Store) : Member → Option Object
  | .scalar _ _ => none
  | .tuple members => firstUnhashable? s members
  | .object number => some (s.get number)

/-- The first collection in some members. -/
def firstUnhashable? (s : Store) : List Member → Option Object
  | [] => none
  | member :: rest => (unhashable? s member).or (firstUnhashable? s rest)

end

/-- The value of a key among pairs, the first one from the front. -/
def lookup? (key : Member) (pairs : List (Member × Member)) : Option Member :=
  (pairs.find? fun pair => pair.1.sameKey key).map Prod.snd

/-- Pairs with a value put at a key: in the place of an older value, or at the end. -/
def insert (key value : Member) : List (Member × Member) → List (Member × Member)
  | [] => [(key, value)]
  | pair :: rest =>
    if pair.1.sameKey key then (pair.1, value) :: rest else pair :: insert key value rest

mutual

/-- A member as a value, with a value for every collection. -/
def toValue (ofNumber : Nat → Value) : Member → Value
  | .scalar _ value => value
  | .tuple members => .tuple (toValues ofNumber members)
  | .object number => ofNumber number

/-- Members as values. -/
def toValues (ofNumber : Nat → Value) : List Member → List Value
  | [] => []
  | member :: rest => toValue ofNumber member :: toValues ofNumber rest

end

end Member

/-- A collection as a value, with a value for every collection in it. -/
def Object.toValue (ofNumber : Nat → Value) : Object → Value
  | .list members => .list (Member.toValues ofNumber members)
  | .set members => .set (Member.toValues ofNumber members)
  | .map isOrdered pairs =>
    let pairs := pairs.map fun (key, value) =>
      (Member.toValue ofNumber key, Member.toValue ofNumber value)
    if isOrdered then .orderedMap pairs else .map pairs

namespace Store

/-- The values of all collections down to a depth; below it collections are empty. -/
def valuesTo (s : Store) : Nat → Array Value
  | 0 => s.map fun o => (Object.empty o.shape).toValue fun _ => .null
  | depth + 1 =>
    let below := valuesTo s depth
    s.map (Object.toValue fun number => below.getD number .null)

/-- The value of a collection, with a mark where a collection turns up inside itself.  `path`
lists the collections around it. -/
def writtenFrom (s : Store) : Nat → List Nat → Nat → Value
  | 0, _, number => .again (s.get number).shape
  | fuel + 1, path, number =>
    if path.contains number then .again (s.get number).shape
    else (s.get number).toValue (writtenFrom s fuel (number :: path))

end Store

namespace Content

/-- The value of a member down to a depth. -/
def unrolled (c : Content) (depth : Nat) : Value :=
  let values := c.store.valuesTo depth
  c.root.toValue fun number => values.getD number .null

/-- The value of a member as it is written.  No path inside a document is longer than the number
of its collections without meeting one of them twice. -/
def written (c : Content) (m : Member) : Value :=
  m.toValue (c.store.writtenFrom (c.store.size + 1) [])

/-- The pairs of a document that is a map. -/
def pairs? (c : Content) : Option (List (Member × Member)) :=
  match c.root with
  | .object number =>
    match c.store.get number with
    | .map _ pairs => some pairs
    | _ => none
  | _ => none

end Content

end Colonnade.Document
