import Colonnade.Yaml.Resolution
import Colonnade.Yaml.Token

/-!
# Graphs of nodes

The tokens of a text form a graph of scalars, sequences and mappings.  Nodes have numbers, and an
alias is the number of the node that its anchor names; since an anchor is set before the members
of its node are read, a node may be a member of itself.  Every node has its tag.  A text holds one
document at most.
-/

namespace Colonnade.Yaml

/-- A node of a document; its members are given by their numbers.  A mapping may have taken in
pairs of others. -/
inductive Node where
  | scalar (tag : Tag) (text : Text.Loose)
  | sequence (tag : Tag) (items : List Nat)
  | mapping (tag : Tag) (hasTaken : Bool) (pairs : Array (Nat × Nat))

namespace Node

/-- The tag of a node. -/
def tag : Node → Tag
  | .scalar tag _ => tag
  | .sequence tag _ => tag
  | .mapping tag _ _ => tag

/-- A node with another tag. -/
def retag (tag : Tag) : Node → Node
  | .scalar _ text => .scalar tag text
  | .sequence _ items => .sequence tag items
  | .mapping _ hasTaken pairs => .mapping tag hasTaken pairs

/-- Whether a mapping has taken in pairs. -/
def hasTaken : Node → Bool
  | .mapping _ hasTaken _ => hasTaken
  | _ => false

/-- The pairs of a mapping; nothing else has any. -/
def pairs : Node → Array (Nat × Nat)
  | .mapping _ _ pairs => pairs
  | _ => #[]

end Node

/-- The nodes of a document by number, its root if it has one, and whether older rules hold. -/
structure Graph where
  nodes : Array Node
  root : Option Nat
  legacy : Bool

namespace Graph

/-- How far a graph is built: the tokens that are left and the fault after them, the nodes so far,
the anchors that are set, what the handles of tags stand for, and the version of the rules. -/
structure State where
  tokens : List Placed
  fault : Option Fault
  nodes : Array Node := #[]
  anchors : List (String × Nat) := []
  handles : List (String × String) := []
  version : Nat × Nat := (1, 2)

/-- A step that takes tokens. -/
abbrev Build (α : Type) : Type := StateT State (Except Fault) α

/-- Tokens that form no graph. -/
def misplaced {α : Type} : Build α := throw (.malformed .tree)

/-- The next token with its line. -/
def peekPlaced : Build Placed := do
  let s ← get
  match s.tokens, s.fault with
  | t :: _, _ => pure t
  | [], some fault => throw fault
  | [], none => pure ⟨.streamEnd, 0⟩

/-- The next token. -/
def peek : Build Token := do
  let t ← peekPlaced
  pure t.token

/-- Takes the next token. -/
def drop : Build Unit :=
  modify fun s => { s with tokens := s.tokens.drop 1 }

/-- Whether the older rules hold. -/
def isLegacy : Build Bool := do
  let s ← get
  pure (s.version == (1, 1))

/-- What the handles stand for when no directive says otherwise. -/
def defaultHandles : List (String × String) := [("!", "!"), ("!!", Tag.family)]

/-! ## Properties -/

/-- The properties of a node. -/
structure Properties where
  anchor : Option String := none
  tag : Option TagText := none

/-- An anchor at the cursor, if there is one. -/
def anchor? : Build (Option String) := do
  match ← peek with
  | .anchor name => drop; pure (some name)
  | _ => pure none

/-- A tag at the cursor, if there is one. -/
def tag? : Build (Option TagText) := do
  match ← peek with
  | .tag t => drop; pure (some t)
  | _ => pure none

/-- The properties of a node: an anchor and a tag in either order. -/
def properties : Build Properties := do
  match ← anchor? with
  | some name =>
    let tag ← tag?
    pure ⟨some name, tag⟩
  | none =>
    match ← tag? with
    | some t =>
      let anchor ← anchor?
      pure ⟨anchor, some t⟩
    | none => pure {}

/-- The full name of a tag.  The exclamation mark alone leaves the tag open. -/
def tagName? (t : Option TagText) : Build (Option String) := do
  match t with
  | none => pure none
  | some t =>
    let s ← get
    let stands ← match t.handle with
      | none => pure ""
      | some handle =>
        match s.handles.lookup handle with
        | some stands => pure stands
        | none => misplaced
    let suffix ← liftM (Property.unescaped t.suffix.toList)
    pure (some (stands ++ String.ofList suffix))

/-- Adds a node, under an anchor if it has one. -/
def add (anchor : Option String) (n : Node) : Build Nat :=
  modifyGet fun s =>
    let number := s.nodes.size
    (number, { s with
      nodes := s.nodes.push n
      anchors := (anchor.map fun name => (name, number)).toList ++ s.anchors })

/-- Puts another node in the place of one. -/
def put (number : Nat) (n : Node) : Build Unit :=
  modify fun s => { s with nodes := s.nodes.setIfInBounds number n }

/-- The tag of a scalar. -/
def scalarTag (name : Option String) (isPlain : Bool) (text : Text.Loose) : Build Tag := do
  let legacy ← isLegacy
  match name with
  | none => pure (if isPlain then .resolve legacy text else .string)
  | some "!" => pure (.resolve legacy text)
  | some name => pure (.ofName name)

/-- The tag of a collection. -/
def collectionTag (name : Option String) (default : Tag) : Tag :=
  match name with
  | none => default
  | some "!" => default
  | some name => .ofName name

/-- Adds a scalar. -/
def addScalar (anchor name : Option String) (isPlain : Bool) (text : Text.Loose) : Build Nat := do
  let tag ← scalarTag name isPlain text
  add anchor (.scalar tag text)

/-- Adds a sequence and reads its items. -/
def addSequence (anchor name : Option String) (items : Build (List Nat)) : Build Nat := do
  let tag := collectionTag name .sequence
  let number ← add anchor (.sequence tag [])
  let items ← items
  put number (.sequence tag items)
  pure number

/-- Adds a mapping and reads its pairs. -/
def addMapping (anchor name : Option String) (pairs : Build (List (Nat × Nat))) : Build Nat := do
  let tag := collectionTag name .mapping
  let number ← add anchor (.mapping tag false #[])
  let pairs ← pairs
  put number (.mapping tag false pairs.toArray)
  pure number

/-- Adds a scalar that is left out. -/
def emptyScalar : Build Nat := addScalar none none true []

/-! ## Nodes -/

mutual

/-- A node.  In block layout it may be a block collection, and as the value of a key also a
sequence that is not indented. -/
def node (fuel : Nat) (inBlock unindented : Bool) : Build Nat := do
  match fuel with
  | 0 => misplaced
  | fuel + 1 =>
    match ← peek with
    | .alias name =>
      drop
      let s ← get
      match s.anchors.lookup name with
      | some number => pure number
      | none => throw (.malformed .reference)
    | _ =>
      let props ← properties
      let name ← tagName? props.tag
      let token ← peek
      match token, inBlock, unindented with
      | .blockEntry, _, true => addSequence props.anchor name (unindentedItems fuel)
      | .scalar text isPlain, _, _ =>
        drop
        addScalar props.anchor name isPlain text
      | .flowSequenceStart, _, _ =>
        drop
        addSequence props.anchor name (flowItems fuel true)
      | .flowMappingStart, _, _ =>
        drop
        addMapping props.anchor name (flowPairs fuel true)
      | .blockSequenceStart, true, _ =>
        drop
        addSequence props.anchor name (blockItems fuel)
      | .blockMappingStart, true, _ =>
        drop
        addMapping props.anchor name (blockPairs fuel)
      | _, _, _ =>
        if props.anchor.isSome || props.tag.isSome then addScalar props.anchor name true []
        else misplaced

/-- The items of a block sequence. -/
def blockItems (fuel : Nat) : Build (List Nat) := do
  match fuel with
  | 0 => misplaced
  | fuel + 1 =>
    match ← peek with
    | .blockEntry =>
      drop
      let item ← match ← peek with
        | .blockEntry => emptyScalar
        | .blockEnd => emptyScalar
        | _ => node fuel true false
      let rest ← blockItems fuel
      pure (item :: rest)
    | .blockEnd => drop; pure []
    | _ => misplaced

/-- The items of a sequence that is not indented. -/
def unindentedItems (fuel : Nat) : Build (List Nat) := do
  match fuel with
  | 0 => misplaced
  | fuel + 1 =>
    match ← peek with
    | .blockEntry =>
      drop
      let item ← match ← peek with
        | .blockEntry => emptyScalar
        | .key => emptyScalar
        | .value => emptyScalar
        | .blockEnd => emptyScalar
        | _ => node fuel true false
      let rest ← unindentedItems fuel
      pure (item :: rest)
    | _ => pure []

/-- A part of a pair of a block mapping: nothing before the next sign or the end. -/
def blockPart (fuel : Nat) : Build Nat := do
  match fuel with
  | 0 => misplaced
  | fuel + 1 =>
    match ← peek with
    | .key => emptyScalar
    | .value => emptyScalar
    | .blockEnd => emptyScalar
    | _ => node fuel true true

/-- The value of a pair of a block mapping. -/
def blockValue (fuel : Nat) : Build Nat := do
  match fuel with
  | 0 => misplaced
  | fuel + 1 =>
    match ← peek with
    | .value => drop; blockPart fuel
    | _ => emptyScalar

/-- The pairs of a block mapping. -/
def blockPairs (fuel : Nat) : Build (List (Nat × Nat)) := do
  match fuel with
  | 0 => misplaced
  | fuel + 1 =>
    let legacy ← isLegacy
    match ← peek, legacy with
    | .key, _ =>
      drop
      let key ← blockPart fuel
      let value ← blockValue fuel
      let rest ← blockPairs fuel
      pure ((key, value) :: rest)
    | .value, false =>
      let key ← emptyScalar
      let value ← blockValue fuel
      let rest ← blockPairs fuel
      pure ((key, value) :: rest)
    | .blockEnd, _ => drop; pure []
    | _, _ => misplaced

/-- A part of a pair inside brackets: nothing before the next comma or the closing bracket. -/
def flowPart (fuel : Nat) (closing : Token) (beforeValue : Bool) : Build Nat := do
  match fuel with
  | 0 => misplaced
  | fuel + 1 =>
    let token ← peek
    if token = .flowEntry || token = closing || (beforeValue && token = .value) then emptyScalar
    else node fuel false false

/-- The value of a pair inside brackets. -/
def flowValue (fuel : Nat) (closing : Token) : Build Nat := do
  match fuel with
  | 0 => misplaced
  | fuel + 1 =>
    match ← peek with
    | .value => drop; flowPart fuel closing false
    | _ => emptyScalar

/-- The only pair of a mapping among the items of a flow sequence. -/
def flowPair (fuel : Nat) : Build (List (Nat × Nat)) := do
  match fuel with
  | 0 => misplaced
  | fuel + 1 =>
    let key ← flowPart fuel .flowSequenceEnd true
    let value ← flowValue fuel .flowSequenceEnd
    pure [(key, value)]

/-- The items of a flow sequence after its opening bracket; a pair among them is a mapping. -/
def flowItems (fuel : Nat) (isFirst : Bool) : Build (List Nat) := do
  match fuel with
  | 0 => misplaced
  | fuel + 1 =>
    if (← peek) = .flowSequenceEnd then
      drop
      pure []
    else
      if !isFirst then
        if (← peek) = .flowEntry then drop else misplaced
      match ← peek with
      | .key =>
        drop
        let item ← addMapping none none (flowPair fuel)
        let rest ← flowItems fuel false
        pure (item :: rest)
      | .flowSequenceEnd => drop; pure []
      | _ =>
        let item ← node fuel false false
        let rest ← flowItems fuel false
        pure (item :: rest)

/-- The pairs of a flow mapping after its opening bracket; what has no colon is a key without a
value. -/
def flowPairs (fuel : Nat) (isFirst : Bool) : Build (List (Nat × Nat)) := do
  match fuel with
  | 0 => misplaced
  | fuel + 1 =>
    if (← peek) = .flowMappingEnd then
      drop
      pure []
    else
      if !isFirst then
        if (← peek) = .flowEntry then drop else misplaced
      let legacy ← isLegacy
      match ← peek, legacy with
      | .key, _ =>
        drop
        let key ← flowPart fuel .flowMappingEnd true
        let value ← flowValue fuel .flowMappingEnd
        let rest ← flowPairs fuel false
        pure ((key, value) :: rest)
      | .value, false =>
        let key ← emptyScalar
        let value ← flowValue fuel .flowMappingEnd
        let rest ← flowPairs fuel false
        pure ((key, value) :: rest)
      | .flowMappingEnd, _ => drop; pure []
      | _, _ =>
        let key ← node fuel false false
        let value ← emptyScalar
        let rest ← flowPairs fuel false
        pure ((key, value) :: rest)

end

/-! ## Documents -/

/-- Takes the directives of a document: one version at most, of the first generation, and every
handle once. -/
def directives : Nat → Bool → List (String × String) → Build (List (String × String))
  | 0, _, handles => pure handles
  | fuel + 1, hasVersion, handles => do
    match ← peek with
    | .directive (.version major minor) =>
      drop
      if hasVersion || major ≠ 1 then misplaced
      else
        modify fun s => { s with version := (major, minor) }
        directives fuel true handles
    | .directive (.handle name stands) =>
      drop
      if (handles.lookup name).isSome then misplaced
      else directives fuel hasVersion ((name, stands) :: handles)
    | .directive .other => drop; directives fuel hasVersion handles
    | _ => pure handles

/-- Refuses a version that there are no rules for. -/
def checkVersion : Build Unit := do
  let (major, minor) := (← get).version
  if minor = 1 ∨ minor = 2 then pure () else throw (.version major minor)

/-- Takes marks of the ends of documents. -/
def skipEnds : Nat → Build Unit
  | 0 => pure ()
  | fuel + 1 => do
    match ← peek with
    | .documentEnd => drop; skipEnds fuel
    | _ => pure ()

/-- Takes the mark of the start of a document and the directives before it; says whether there
is a document. -/
def documentStart (fuel : Nat) : Build Bool := do
  skipEnds fuel
  match ← peek with
  | .streamEnd => pure false
  | _ =>
    let handles ← directives fuel false []
    modify fun s => { s with handles := handles ++ defaultHandles }
    checkVersion
    match ← peek with
    | .documentStart => drop; pure true
    | _ => misplaced

/-- The body of a document after its mark. -/
def body (fuel : Nat) : Build Nat := do
  match ← peek with
  | .directive _ => emptyScalar
  | .documentStart => emptyScalar
  | .documentEnd => emptyScalar
  | .streamEnd => emptyScalar
  | _ => node fuel true false

/-- The end of a document; says whether it has a mark, which must be alone on its line. -/
def documentEnd : Build Bool := do
  let t ← peekPlaced
  match t.token with
  | .documentEnd =>
    drop
    let after ← peekPlaced
    if after.token ≠ .streamEnd && after.line = t.line then misplaced else pure true
  | _ => pure false

/-- Refuses a second document. -/
def endOfText (fuel : Nat) (hasMark : Bool) : Build Unit := do
  let another : Build Unit := throw (.malformed .reference)
  let legacy ← isLegacy
  let mustHaveStart ← match ← peek with
    | .directive _ => pure true
    | .documentStart => pure true
    | .streamEnd => pure true
    | _ => pure (legacy || !hasMark)
  if mustHaveStart then
    if ← documentStart fuel then another else pure ()
  else another

/-- The only document of a text; it may have no mark at its start. -/
def document (fuel : Nat) : Build (Option Nat) := do
  let isMarked ← match ← peek with
    | .directive _ => pure true
    | .documentStart => pure true
    | .streamEnd => pure true
    | _ => pure false
  if isMarked then
    if ← documentStart fuel then
      let root ← body fuel
      endOfText fuel (← documentEnd)
      pure (some root)
    else pure none
  else do
    modify fun s => { s with handles := defaultHandles }
    let root ← node fuel true false
    endOfText fuel (← documentEnd)
    pure (some root)

/-- The graph of a text. -/
def ofText (text : List Char) : Except Fault Graph :=
  if text.any fun c => !Cursor.isAllowed c then malformed .character
  else do
    let row := Token.scan text
    let (root, s) ←
      (document (5 * row.tokens.length + 16)).run { tokens := row.tokens, fault := row.fault }
    pure ⟨s.nodes, root, s.version == (1, 1)⟩

end Graph

end Colonnade.Yaml
