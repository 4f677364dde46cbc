import DialUp.Yaml.Lexer
import DialUp.Yaml.Tag

/-!
# From tokens to nodes

A document is a graph of nodes: scalars, sequences and mappings, each with its tag. An anchor names
a node from its start on, and an alias stands for the node that has the anchor; so a collection can
be a part of itself.

* `Graph.ofTokens`: the nodes of the one document that the tokens make up.
-/

namespace DialUp.Yaml

/-- The place of a node among the nodes of a document. -/
abbrev NodeId := Nat

/-- A node of a document. -/
inductive Node
  | scalar (tag : Tag) (text : String)
  | sequence (tag : Tag) (items : List NodeId)
  | mapping (tag : Tag) (pairs : List (NodeId × NodeId))
  deriving Repr, Inhabited

namespace Node

/-- The tag of a node. -/
def tag : Node → Tag
  | .scalar tag _ | .sequence tag _ | .mapping tag _ => tag

/-- An empty scalar without tag. -/
def empty : Node := .scalar .null ""

end Node

/-- The nodes of a document. There is no root in an empty stream. -/
structure Graph where
  nodes : Array Node
  root : Option NodeId

/-- What is left to read, and what was read. -/
structure Reader where
  tokens : List Token
  /-- Why there are no tokens beyond the last. -/
  fault : Fault
  nodes : Array Node := #[]
  anchors : List (String × NodeId) := []
  /-- How many collections are being read inside one another. -/
  depth : Nat := 0
  /-- What the handles of tags stand for. -/
  handles : List (String × String) := []

/-- A step that reads tokens. -/
abbrev Read := EStateM Fault Reader

namespace Read

/-- Fails because the document is malformed. -/
def fail {α : Type} : Read α := throw .malformed

/-- The next token. -/
def peek : Read Token := do
  let r ← get
  match r.tokens with
  | t :: _ => return t
  | [] => throw r.fault

/-- Moves over the next token. -/
def skip : Read Unit := modify fun r => { r with tokens := r.tokens.drop 1 }

/-- Whether the next token is one of the given. -/
def atAny (ts : List Token) : Read Bool := return ts.contains (← peek)

/-- Moves over the next token if it is the given one. -/
def accept (t : Token) : Read Bool := do
  if (← peek) == t then
    skip
    return true
  else return false

/-- Requires the next token to be the given one and moves over it. -/
def expect (t : Token) : Read Unit := do
  if !(← accept t) then fail

/-! ## Nodes -/

/-- Adds a node. -/
def add (n : Node) : Read NodeId := do
  let id := (← get).nodes.size
  modify fun r => { r with nodes := r.nodes.push n }
  return id

/-- Adds a node under an anchor, if it has one. No two nodes have the same anchor. -/
def addAnchored (anchor : Option String) (n : Node) : Read NodeId := do
  let id ← add n
  if let some name := anchor then
    let r ← get
    if (r.anchors.lookup name).isSome then fail
    set { r with anchors := (name, id) :: r.anchors }
  return id

/-- Puts a node in the place of another. -/
def replace (id : NodeId) (n : Node) : Read Unit :=
  modify fun r => { r with nodes := r.nodes.set! id n }

/-- How many collections may stand inside one another. -/
def depthLimit : Nat := 488

/-- Adds a collection, the parts of which come next. -/
def enterCollection (anchor : Option String) (n : Node) : Read NodeId := do
  let id ← addAnchored anchor n
  let r ← get
  if depthLimit ≤ r.depth then throw (.valueless .tooDeep)
  set { r with depth := r.depth + 1 }
  return id

/-- Puts a collection with its parts in the place that was kept for it. -/
def leaveCollection (id : NodeId) (n : Node) : Read NodeId := do
  replace id n
  modify fun r => { r with depth := r.depth - 1 }
  return id

/-- The full name of a tag. -/
def fullName (name : TagName) : Read String :=
  match name.handle with
  | none => return name.suffix
  | some handle => do
    match (← get).handles.lookup handle with
    | some start => return start ++ name.suffix
    | none => fail

/-- Reads the anchor of a node. -/
def anchor? : Read (Option String) := do
  match ← peek with
  | .anchor name =>
    skip
    return some name
  | _ => return none

/-- Reads the tag of a node. -/
def tag? : Read (Option TagName) := do
  match ← peek with
  | .tag name =>
    skip
    return some name
  | _ => return none

/-- Reads the anchor and the tag of a node, in either order. The tag gets its full name when both
are read. -/
def properties : Read (Option String × Option String) := do
  let anchor ← anchor?
  match ← tag? with
  | none => return (anchor, none)
  | some tag =>
    let anchor ← if anchor.isNone then anchor? else pure anchor
    return (anchor, some (← fullName tag))

/-- The given tag, or one that goes by the node if none is given. -/
def tagOr (given : Option String) (otherwise : Tag) : Tag :=
  match given with
  | none => otherwise
  | some name => if name == "!" then otherwise else Tag.ofName name

/-- The tag of a scalar. A text in quotes without a tag is a text. -/
def scalarTag (given : Option String) (text : String) (plain : Bool) : Tag :=
  if given.isNone && !plain then .str else tagOr given (Form.tagOf text)

mutual

/-- Reads a node. Block collections are read only where the node may be one, a sequence that is
not indented only as a part of a block mapping. -/
def node (block indentless : Bool) : (fuel : Nat) → Read NodeId
  | 0 => fail
  | fuel + 1 => do
    if let .alias name ← peek then
      skip
      match (← get).anchors.lookup name with
      | some id => return id
      | none => fail
    let (anchor, tag) ← properties
    let startSequence : Read NodeId := enterCollection anchor (.sequence (tagOr tag .seq) [])
    let startMapping : Read NodeId := enterCollection anchor (.mapping (tagOr tag .map) [])
    let finishSequence (id : NodeId) (items : List NodeId) : Read NodeId :=
      leaveCollection id (.sequence (tagOr tag .seq) items)
    let finishMapping (id : NodeId) (pairs : List (NodeId × NodeId)) : Read NodeId :=
      leaveCollection id (.mapping (tagOr tag .map) pairs)
    let t ← peek
    if indentless && t == .blockEntry then
      let id ← startSequence
      finishSequence id (← blockItems false fuel)
    else if t == .flowSequenceStart then
      skip
      let id ← startSequence
      finishSequence id (← flowItems true fuel)
    else if t == .flowMappingStart then
      skip
      let id ← startMapping
      finishMapping id (← flowPairs true fuel)
    else if block && t == .blockSequenceStart then
      skip
      let id ← startSequence
      finishSequence id (← blockItems true fuel)
    else if block && t == .blockMappingStart then
      skip
      let id ← startMapping
      finishMapping id (← blockPairs fuel)
    else if let .scalar text plain := t then
      skip
      addAnchored anchor (.scalar (scalarTag tag text plain) text)
    else if anchor.isSome || tag.isSome then
      addAnchored anchor (.scalar (tagOr tag .null) "")
    else fail

/-- Reads the items of a block sequence; one that is indented has an end. -/
def blockItems (indented : Bool) : (fuel : Nat) → Read (List NodeId)
  | 0 => fail
  | fuel + 1 => do
    if ← accept .blockEntry then
      let ends := if indented then [.blockEntry, .blockEnd]
        else [.blockEntry, .key, .value, .blockEnd]
      let id ← if ← atAny ends then add .empty else node true false fuel
      return id :: (← blockItems indented fuel)
    else
      if indented then expect .blockEnd
      return []

/-- Reads the pairs of a block mapping and its end. -/
def blockPairs : (fuel : Nat) → Read (List (NodeId × NodeId))
  | 0 => fail
  | fuel + 1 => do
    if ← accept .key then
      let ends := [.key, .value, .blockEnd]
      let key ← if ← atAny ends then add .empty else node true true fuel
      let value ←
        if ← accept .value then
          if ← atAny ends then add .empty else node true true fuel
        else add .empty
      return (key, value) :: (← blockPairs fuel)
    else
      expect .blockEnd
      return []

/-- Reads key and value in a flow collection, after the mark of the key. -/
def flowPair (last : Token) : (fuel : Nat) → Read (NodeId × NodeId)
  | 0 => fail
  | fuel + 1 => do
    let key ← if ← atAny [.value, .flowEntry, last] then add .empty else node false false fuel
    let value ←
      if ← accept .value then
        if ← atAny [.flowEntry, last] then add .empty else node false false fuel
      else add .empty
    return (key, value)

/-- Reads the items of a flow sequence and its end. A pair among them is a mapping of its own. -/
def flowItems (first : Bool) : (fuel : Nat) → Read (List NodeId)
  | 0 => fail
  | fuel + 1 => do
    if ← accept .flowSequenceEnd then return []
    if !first then expect .flowEntry
    if ← accept .key then
      let id ← enterCollection none (.mapping .map [])
      let id ← leaveCollection id (.mapping .map [← flowPair .flowSequenceEnd fuel])
      return id :: (← flowItems false fuel)
    else if ← accept .flowSequenceEnd then return []
    else
      let id ← node false false fuel
      return id :: (← flowItems false fuel)

/-- Reads the pairs of a flow mapping and its end. A node without the mark of a key has no
value. -/
def flowPairs (first : Bool) : (fuel : Nat) → Read (List (NodeId × NodeId))
  | 0 => fail
  | fuel + 1 => do
    if ← accept .flowMappingEnd then return []
    if !first then expect .flowEntry
    if ← accept .key then
      let pair ← flowPair .flowMappingEnd fuel
      return pair :: (← flowPairs false fuel)
    else if ← accept .flowMappingEnd then return []
    else
      let key ← node false false fuel
      let value ← add .empty
      return (key, value) :: (← flowPairs false fuel)

end

/-! ## Documents -/

/-- What handles stand for unless a directive says otherwise. -/
def defaultHandles : List (String × String) := [("!", "!"), ("!!", Tag.start)]

/-- Reads directives. There is at most one of a version, which is 1, and at most one of each
handle. -/
def directives (hasVersion : Bool) : (fuel : Nat) → Read Unit
  | 0 => fail
  | fuel + 1 => do
    match ← peek with
    | .directive d =>
      skip
      match d with
      | .version major =>
        if hasVersion || major != 1 then fail
        directives true fuel
      | .tag handle start =>
        let r ← get
        if (r.handles.lookup handle).isSome then fail
        set { r with handles := (handle, start) :: r.handles }
        directives hasVersion fuel
      | .unknown => directives hasVersion fuel
    | _ => modify fun r => { r with handles := r.handles ++ defaultHandles }

/-- Moves over marks of a document's end. -/
def skipEnds : (fuel : Nat) → Read Unit
  | 0 => fail
  | fuel + 1 => do
    if ← accept .documentEnd then skipEnds fuel

/-- Reads the only document. Directives of a second one are read before it is refused. -/
def document (fuel : Nat) : Read (Option NodeId) := do
  let t ← peek
  if t == .streamEnd then return none
  let explicit := t matches .directive _ | .documentStart
  directives false fuel
  if explicit then expect .documentStart
  let root ←
    match explicit, ← peek with
    | true, .directive _ | true, .documentStart | true, .documentEnd | true, .streamEnd =>
      add .empty
    | _, _ => node true false fuel
  skipEnds fuel
  if (← peek) != .streamEnd then
    modify fun r => { r with handles := [] }
    directives false fuel
    fail
  return some root

end Read

/-- The nodes of the one document that the tokens make up. Tokens that end without the end of the
stream end with the given fault. -/
def Graph.ofTokens (tokens : List Token) (fault : Fault) : Except Fault Graph :=
  match Read.document (8 * (tokens.length + 2)) { tokens, fault } with
  | .ok root r => .ok ⟨r.nodes, root⟩
  | .error fault _ => .error fault

end DialUp.Yaml
