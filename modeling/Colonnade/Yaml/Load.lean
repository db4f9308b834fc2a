import Colonnade.Document.SetOrder
import Colonnade.Yaml.Graph
import Colonnade.Yaml.Typed

/-!
# From text to content

The values of the nodes of a graph.  Mappings may take in the pairs of others through merge keys;
a key that occurs twice is refused, but own pairs may override those taken in.

A collection is stored empty first and filled later, so that it can be referred to from inside.
Collections are filled in rounds: those that one round meets are filled in the next.  Only what a
key holds is filled at once, for a key has to be complete; a key that is met before its round is
taken as far as it is filled.
-/

namespace Colonnade.Yaml

open Document (Content Member Object Shape Store Value)

/-- How far the value of a node is known.  While it is made, the node counts as null. -/
inductive Progress where
  | untouched
  | begun
  | known (m : Member)

/-- How far the values of a graph are made. -/
structure Making where
  legacy : Bool
  nodes : Array Node
  progress : Array Progress
  store : Store := #[]
  /-- The nodes whose collections are still to be filled, each with the number of its collection,
  the last one first. -/
  waiting : List (Nat × Nat) := []
  /-- More steps than merging takes. -/
  mergeBound : Nat

/-- More steps than merging takes.  A mapping that takes in itself has its pairs twice after it,
and every merge key is taken out once. -/
def Making.boundFor (nodes : Array Node) : Nat :=
  let pairs := nodes.foldl (fun count n => count + n.pairs.size) 0
  let isMerge (pair : Nat × Nat) : Bool := (nodes[pair.1]?.map Node.tag) == some .merge
  let merges := nodes.foldl (fun count n => count + n.pairs.toList.countP isMerge) 0
  4 * (pairs + 1) * Number.twoTo (2 * merges + 2)

/-- Nothing is made yet. -/
def Making.start (g : Graph) : Making where
  legacy := g.legacy
  nodes := g.nodes
  progress := Array.replicate g.nodes.size .untouched
  mergeBound := boundFor g.nodes

/-- A step that makes values. -/
abbrev Make (α : Type) : Type := StateT Making (Except Fault) α

namespace Make

/-- A value that does not fit its tag. -/
def misfit {α : Type} : Make α := throw (.malformed .value)

/-- The node with a number. -/
def node (number : Nat) : Make Node := do
  let s ← get
  pure (s.nodes.getD number (.scalar .null []))

/-- Changes a node. -/
def setNode (number : Nat) (n : Node) : Make Unit :=
  modify fun s => { s with nodes := s.nodes.setIfInBounds number n }

/-- Notes how far the value of a node is known. -/
def note (number : Nat) (p : Progress) : Make Unit :=
  modify fun s => { s with progress := s.progress.setIfInBounds number p }

/-- Stores an empty collection. -/
def allocate (shape : Shape) : Make Nat :=
  modifyGet fun s => (s.store.size, { s with store := s.store.push (.empty shape) })

/-- Changes what a collection holds. -/
def setObject (number : Nat) (o : Object) : Make Unit :=
  modify fun s => { s with store := s.store.setIfInBounds number o }

/-- Leaves a collection for the next round. -/
def postpone (node object : Nat) : Make Unit :=
  modify fun s => { s with waiting := (node, object) :: s.waiting }

/-- The collections that are left for this round. -/
def takeWaiting : Make (List (Nat × Nat)) :=
  modifyGet fun s => (s.waiting.reverse, { s with waiting := [] })

/-! ## Merge keys -/

mutual

/-- Takes out the merge keys of a mapping from a position on, and gives the pairs that they take
in.  A second merge key is refused once something is taken in.  A key that is an equals sign
becomes a text. -/
def takeOut (fuel mapping position : Nat) (taken : Array (Nat × Nat)) :
    Make (Array (Nat × Nat)) := do
  match fuel with
  | 0 => pure taken
  | fuel + 1 =>
    let pairs := (← node mapping).pairs
    match pairs[position]? with
    | none => pure taken
    | some (key, value) =>
      let keyNode ← node key
      match keyNode.tag with
      | .merge =>
        if taken.isEmpty then
          setNode mapping (.mapping (← node mapping).tag (← node mapping).hasTaken
            (pairs.eraseIdxIfInBounds position))
          let found ← takenFrom fuel value
          takeOut fuel mapping position found
        else throw (.malformed .repeatedKey)
      | .value =>
        setNode key (keyNode.retag .string)
        takeOut fuel mapping (position + 1) taken
      | _ => takeOut fuel mapping (position + 1) taken

/-- Puts the pairs that a mapping takes in before its own. -/
def merge (fuel mapping : Nat) : Make Unit := do
  match fuel with
  | 0 => pure ()
  | fuel + 1 =>
    let taken ← takeOut fuel mapping 0 #[]
    if taken.isEmpty then pure ()
    else
      let n ← node mapping
      setNode mapping (.mapping n.tag true (taken ++ n.pairs))

/-- The pairs that the value of a merge key gives: those of a mapping, or those of a sequence of
mappings, the last one first. -/
def takenFrom (fuel value : Nat) : Make (Array (Nat × Nat)) := do
  match fuel with
  | 0 => misfit
  | fuel + 1 =>
    match ← node value with
    | .mapping _ _ _ => mergedPairs fuel value
    | .sequence _ items =>
      let lists ← items.mapM fun item => do
        match ← node item with
        | .mapping _ _ _ => mergedPairs fuel item
        | _ => misfit
      pure (lists.reverse.foldl (· ++ ·) #[])
    | .scalar _ _ => misfit

/-- The pairs of a mapping once it has taken in all that it takes in. -/
def mergedPairs (fuel mapping : Nat) : Make (Array (Nat × Nat)) := do
  match fuel with
  | 0 => misfit
  | fuel + 1 =>
    merge fuel mapping
    pure (← node mapping).pairs

end

/-! ## Filling collections -/

/-- Gives the value of a node.  The flag says whether collections are filled at once. -/
abbrev Visit : Type := Bool → Nat → Make Member

/-- A value as the key of a mapping: a list becomes a tuple of what it holds by now; maps cannot
be keys. -/
def asKey (m : Member) : Make Member := do
  match m with
  | .object number =>
    match (← get).store.get number with
    | .list members => pure (.tuple members)
    | _ => misfit
  | m => pure m

/-- Refuses a key that holds a collection. -/
def checkHashable (key : Member) : Make Unit := do
  match key.unhashable? (← get).store with
  | some o => throw (.unhashable o.kindName)
  | none => pure ()

/-- Refuses a key that is there already.  The report writes the key and both values. -/
def refuseRepeated (key value : Member) (pairs : List (Member × Member)) : Make Unit := do
  match Member.lookup? key pairs with
  | none => pure ()
  | some older =>
    let content : Content := ⟨(← get).store, key⟩
    if [key, value, older].any fun m => (content.written m).holdsTooLarge then
      throw (.integer .tooLarge)
    else throw (.malformed .repeatedKey)

/-- The pairs of a mapping.  Without taken pairs every key must be new. -/
def pairsOf (visit : Visit) (atOnce hasTaken : Bool) :
    List (Nat × Nat) → List (Member × Member) → Make (List (Member × Member))
  | [], before => pure before
  | (keyNode, valueNode) :: rest, before => do
    let key ← asKey (← visit true keyNode)
    let value ← visit atOnce valueNode
    checkHashable key
    if !hasTaken then refuseRepeated key value before
    pairsOf visit atOnce hasTaken rest (Member.insert key value before)

/-- Fills an ordered map with the pairs of a sequence of mappings of one pair each.  Keys must be
new and must not hold collections. -/
def fillOrdered (visit : Visit) (atOnce : Bool) (object : Nat) :
    List Nat → List (Member × Member) → Make Unit
  | [], _ => pure ()
  | item :: rest, before => do
    match (← node item).pairs with
    | #[(keyNode, valueNode)] =>
      let key ← visit atOnce keyNode
      checkHashable key
      if (Member.lookup? key before).isSome then throw .repeatedPair
      let value ← visit atOnce valueNode
      let pairs := before ++ [(key, value)]
      setObject object (.map true pairs)
      fillOrdered visit atOnce object rest pairs
    | _ => misfit

/-- Fills a list with the pairs of a sequence of mappings of one pair each. -/
def fillPairs (visit : Visit) (atOnce : Bool) (object : Nat) :
    List Nat → List Member → Make Unit
  | [], _ => pure ()
  | item :: rest, before => do
    match (← node item).pairs with
    | #[(keyNode, valueNode)] =>
      let key ← visit atOnce keyNode
      let value ← visit atOnce valueNode
      let members := before ++ [.tuple [key, value]]
      setObject object (.list members)
      fillPairs visit atOnce object rest members
    | _ => misfit

/-- The pairs of a mapping, after merging. -/
def mappingPairs (visit : Visit) (atOnce : Bool) (number : Nat) :
    Make (List (Member × Member)) := do
  merge (← get).mergeBound number
  let n ← node number
  pairsOf visit atOnce n.hasTaken n.pairs.toList []

/-- Fills the collection of a node.  A set is written as a mapping from its members. -/
def fill (visit : Visit) (atOnce : Bool) (number object : Nat) : Make Unit := do
  match (← node number).tag, ← node number with
  | .sequence, .sequence _ items =>
    let members ← items.mapM (visit atOnce)
    setObject object (.list members)
  | .pairs, .sequence _ items => fillPairs visit atOnce object items []
  | .mapping, .mapping _ _ _ =>
    let pairs ← mappingPairs visit atOnce number
    setObject object (.map false pairs)
  | .set, .mapping _ _ _ =>
    let pairs ← mappingPairs visit atOnce number
    setObject object (.set (Document.SetOrder.visited (pairs.map Prod.fst)))
  | .orderedMapping, .sequence _ items => fillOrdered visit atOnce object items []
  | _, _ => misfit

/-! ## Scalars -/

/-- The text that stands for a node under a scalar tag; for a mapping it is that of its key that
is an equals sign. -/
def scalarText? (nodes : Array Node) : Nat → Node → Option Text.Loose
  | 0, _ => none
  | fuel + 1, n =>
    match n with
    | .scalar _ text => some text
    | .sequence _ _ => none
    | .mapping _ _ pairs =>
      let isValue (pair : Nat × Nat) : Bool := (nodes[pair.1]?.map Node.tag) == some .value
      (pairs.find? isValue).bind fun pair => nodes[pair.2]?.bind (scalarText? nodes fuel)

/-- The text of a node under a tag; a time stamp is a scalar itself. -/
def textUnder? (nodes : Array Node) (n : Node) : Option Text.Loose :=
  match n.tag, n with
  | .timestamp, .scalar _ text => some text
  | .timestamp, _ => none
  | _, n => scalarText? nodes (nodes.size + 1) n

/-- The value of a node under a scalar tag. -/
def scalar (number : Nat) : Make Member := do
  let s ← get
  let n ← node number
  match textUnder? s.nodes n with
  | none => misfit
  | some text =>
    let value ← liftM (Typed.scalar s.legacy n.tag text)
    let origin := if Typed.isSharedNaN text then 0 else number + 1
    pure (.scalar origin value)

/-! ## All values -/

/-- The shape of the collections under a tag. -/
def shape? : Tag → Option Shape
  | .sequence => some .list
  | .pairs => some .list
  | .mapping => some .map
  | .set => some .set
  | .orderedMapping => some .orderedMap
  | _ => none

/-- Gives the value of a node, which is made once.  No path inside a document is longer than the
number of its nodes without meeting one of them twice. -/
def visit : Nat → Visit
  | 0, _, _ => misfit
  | fuel + 1, atOnce, number => do
    match (← get).progress.getD number .untouched with
    | .known m => pure m
    | .begun => pure (.scalar 0 .null)
    | .untouched =>
      note number .begun
      let m ← match shape? (← node number).tag with
        | none => scalar number
        | some shape =>
          let object ← allocate shape
          if atOnce then fill (visit fuel) true number object else postpone number object
          pure (.object object)
      note number (.known m)
      pure m

/-- Fills collections round by round. -/
def rounds (fuel : Nat) : Nat → Make Unit
  | 0 => pure ()
  | more + 1 => do
    let waiting ← takeWaiting
    if waiting.isEmpty then pure ()
    else
      waiting.forM fun (number, object) => fill (visit fuel) false number object
      rounds fuel more

/-- The value of a node with everything that it holds. -/
def root (number : Nat) : Make Member := do
  let bound := (← get).nodes.size + 1
  let m ← visit bound false number
  rounds bound bound
  pure m

end Make

/-- What a graph holds; a text without a document holds null. -/
def Graph.content (g : Graph) : Except Fault Content :=
  match g.root with
  | none => .ok ⟨#[], .scalar 0 .null⟩
  | some number => do
    let (m, s) ← (Make.root number).run (.start g)
    pure ⟨s.store, m⟩

/-- What a text holds. -/
def load (text : List Char) : Except Fault Content := do
  let graph ← Graph.ofText text
  graph.content

end Colonnade.Yaml
