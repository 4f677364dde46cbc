import DialUp.Document.Basic
import DialUp.Document.Members
import DialUp.Yaml.Node
import DialUp.Yaml.Scalar

/-!
# From nodes to documents

Every node that the root leads to gets a value: a scalar its own, and a collection one whose parts
are the values of its nodes, where a collection is told by its place. Collections get theirs in the
order in which they are met, those on the same depth one after the other, and the first fault on
the way counts.

* `Graph.document`: the document that nodes stand for.
-/

namespace DialUp.Yaml

open Document (Mishap Value)

/-! ## Merged mappings -/

namespace Graph

/-- A step that changes nodes. -/
abbrev Change := EStateM Fault (Array Node)

/-- The pairs of a mapping. -/
def pairsOf (nodes : Array Node) (id : NodeId) : List (NodeId × NodeId) :=
  match nodes[id]? with
  | some (.mapping _ pairs) => pairs
  | _ => []

/-- The tag of a node. -/
def tagAt (nodes : Array Node) (id : NodeId) : Tag :=
  match nodes[id]? with
  | some n => n.tag
  | none => .unknown

/-- Gives a mapping other pairs. -/
def setPairs (nodes : Array Node) (id : NodeId) (pairs : List (NodeId × NodeId)) : Array Node :=
  nodes.modify id fun n =>
    match n with
    | .mapping tag _ => .mapping tag pairs
    | n => n

/-- A value key becomes a text. -/
def retag : Node → Node
  | .scalar .value text => .scalar .str text
  | n => n

/-- Takes the first merge key and its value out of pairs. -/
def takeMerge (nodes : Array Node) :
    List (NodeId × NodeId) → Option (NodeId × List (NodeId × NodeId))
  | [] => none
  | (key, value) :: rest =>
    if tagAt nodes key == .merge then some (value, rest)
    else (takeMerge nodes rest).map fun (merged, others) => (merged, (key, value) :: others)

mutual

/-- Replaces the merge keys of a mapping by the pairs of the mappings that they name. Pairs that
come by merging stand before the mapping's own. -/
def merge (id : NodeId) : (fuel : Nat) → Change Unit
  | 0 => throw .malformed
  | fuel + 1 => do
    let merged ← mergedPairs id [] fuel
    modify fun nodes =>
      let pairs := merged ++ pairsOf nodes id
      (setPairs nodes id pairs) |> pairs.foldl fun nodes (key, _) => nodes.modify key retag

/-- Takes the merge keys out of a mapping, and adds the pairs that they stand for. -/
def mergedPairs (id : NodeId) (sofar : List (NodeId × NodeId)) :
    (fuel : Nat) → Change (List (NodeId × NodeId))
  | 0 => throw .malformed
  | fuel + 1 => do
    let nodes ← get
    match takeMerge nodes (pairsOf nodes id) with
    | none => return sofar
    | some (value, others) =>
      set (setPairs nodes id others)
      match nodes[value]? with
      | some (.mapping _ _) =>
        merge value fuel
        mergedPairs id (sofar ++ pairsOf (← get) value) fuel
      | some (.sequence _ items) =>
        let lists ← mergedLists items fuel
        mergedPairs id (sofar ++ lists.reverse.flatten) fuel
      | _ => throw .malformed

/-- The pairs of each of the mappings. -/
def mergedLists (items : List NodeId) : (fuel : Nat) → Change (List (List (NodeId × NodeId)))
  | 0 => throw .malformed
  | fuel + 1 => do
    match items with
    | [] => return []
    | id :: rest =>
      match (← get)[id]? with
      | some (.mapping _ _) =>
        merge id fuel
        let pairs := pairsOf (← get) id
        return pairs :: (← mergedLists rest fuel)
      | _ => throw .malformed

end

/-! ## Values -/

/-- Nodes, the values of those that were met, and collections that were met and not yet gone into.
Until it is gone into a collection counts as empty. -/
structure Building where
  nodes : Array Node
  values : Array (Option Value)
  queue : List NodeId := []

/-- A step that gives nodes their values. -/
abbrev Build := EStateM Fault Building

/-- Whether the values of a tag have parts. -/
def isCollectionTag : Tag → Bool
  | .omap | .pairs | .set | .seq | .map => true
  | _ => false

/-- The text of a node that stands for a scalar. A mapping stands for the scalar under its value
key; one that leads back to itself stands for none. -/
def textOf (nodes : Array Node) (id : NodeId) : (fuel : Nat) → Except Fault String
  | 0 => .error (.valueless .tooDeep)
  | fuel + 1 =>
    match nodes[id]? with
    | some (.scalar _ text) => .ok text
    | some (.mapping _ pairs) =>
      match pairs.find? fun (key, _) => tagAt nodes key == .value with
      | some (_, value) => textOf nodes value fuel
      | none => .error .malformed
    | _ => .error .malformed

/-- The value of a node whose tag is that of a scalar. -/
def scalarAt (nodes : Array Node) (id : NodeId) : Except Fault Value := do
  let tag := tagAt nodes id
  if tag == .omap || tag == .unknown || tag == .merge || tag == .value then throw .malformed
  let text ← textOf nodes id (nodes.size + 1)
  match tag, nodes[id]? with
  | .timestamp, some (.mapping _ _) => throw (.valueless .badKind)
  | _, _ => Scalar.value tag text

/-- Meets a node: a scalar gets its value, a collection is put off and told by its place. -/
def meet (id : NodeId) : Build Value := do
  let st ← get
  match isCollectionTag (tagAt st.nodes id), st.values[id]? with
  | true, some (some _) => return .part id
  | true, _ =>
    set { st with
      values := st.values.setIfInBounds id (some (.list [])), queue := st.queue ++ [id] }
    return .part id
  | false, some (some v) => return v
  | false, _ =>
    match scalarAt st.nodes id with
    | .ok v =>
      set { st with values := st.values.setIfInBounds id (some v) }
      return v
    | .error fault => throw fault

/-- Meets the key and the value of a pair. -/
def meetPair (pair : NodeId × NodeId) : Build (Value × Value) := do
  return (← meet pair.1, ← meet pair.2)

/-- Meets the key and the value of each pair of a mapping. A key is no collection. -/
def meetPairs : List (NodeId × NodeId) → Build (List (Value × Value))
  | [] => return []
  | (key, value) :: rest => do
    let key ← meet key
    if key matches .part _ then throw .malformed
    let value ← meet value
    return (key, value) :: (← meetPairs rest)

/-- Meets the key and the value of each of mappings of one pair. -/
def meetSingles : List NodeId → Build (List Value)
  | [] => return []
  | id :: rest => do
    match (← get).nodes[id]? with
    | some (.mapping _ [pair]) =>
      let (first, second) ← meetPair pair
      return .pair first second :: (← meetSingles rest)
    | _ => throw .malformed

/-- A bound on the steps of merging: more than all parts of all nodes, squared. -/
def mergeBound (nodes : Array Node) : Nat :=
  let parts := nodes.foldl (fun n node =>
    match node with
    | .sequence _ items => n + items.length + 1
    | .mapping _ pairs => n + pairs.length + 1
    | .scalar _ _ => n + 1) 4
  parts * parts

/-- Replaces the merge keys of a mapping; the result is its pairs. -/
def mergeAt (id : NodeId) : Build (List (NodeId × NodeId)) := do
  let st ← get
  match merge id (mergeBound st.nodes) st.nodes with
  | .ok _ nodes =>
    set { st with nodes }
    return pairsOf nodes id
  | .error fault _ => throw fault

/-- Goes into a collection: meets its parts. -/
def enter (id : NodeId) : Build Value := do
  let st ← get
  match tagAt st.nodes id, st.nodes[id]? with
  | .seq, some (.sequence _ items) => return .list (← items.mapM meet)
  | .map, some (.mapping _ _) =>
    let pairs ← meetPairs (← mergeAt id)
    return .map (pairs.foldl (fun sofar (key, value) => Value.insert key value sofar) [])
  | .set, some (.mapping _ _) =>
    let pairs ← meetPairs (← mergeAt id)
    let members := pairs.foldl (fun sofar (member, _) => Value.addMember member sofar) []
    return .set (Document.Members.arranged members)
  | .omap, some (.sequence _ items) | .pairs, some (.sequence _ items) =>
    return .list (← meetSingles items)
  | _, _ => throw .malformed

/-- Goes into the collections that were met, and those met on the way. -/
def enterAll : (fuel : Nat) → Build Unit
  | 0 => pure ()
  | fuel + 1 => do
    match (← get).queue with
    | [] => pure ()
    | id :: queue =>
      modify fun st => { st with queue }
      let v ← enter id
      modify fun st => { st with values := st.values.setIfInBounds id (some v) }
      enterAll fuel

/-- The document that nodes stand for; the place of a collection is that of its node. An empty
stream stands for null. -/
def document (g : Graph) : Except Fault Document :=
  match g.root with
  | none => .ok { root := .null }
  | some root =>
    let build : Build Value := do
      let v ← meet root
      enterAll (g.nodes.size + 1)
      return v
    match build { nodes := g.nodes, values := Array.replicate g.nodes.size none } with
    | .ok v st => .ok { root := v, parts := st.values.map (·.getD .null) }
    | .error fault _ => .error fault

end Graph

end DialUp.Yaml
