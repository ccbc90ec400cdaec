import ClassQuota.Value.Shared
import ClassQuota.Yaml.Node
import ClassQuota.Yaml.Node.Scalar

/-!
# The values of nodes

A node becomes a value by its tag, once: all places of the node then hold that value. A scalar is
read at once. A collection is an object, which is filled later, when those are filled that were
met before. So of several faults the least deep one is met first, and among those the first in
the order of the text.

A mapping is rewritten before it is filled. The entries of the mappings that it merges come before
its own, and a key for a default value becomes a text. Where the same mapping or key stands in
another place, that place sees the change. A later entry replaces the value of an earlier one with
an equal key.

## Main definitions

* `Yaml.Builder` — nodes, and what has been made of them
* `Yaml.Builder.flatten` — merging the entries of other mappings into a mapping
* `Yaml.Builder.make`, `Yaml.Builder.fill` — the value of a node, and the contents of an object
* `Yaml.NodeGraph.build` — the value of a graph
-/

namespace ClassQuota

namespace Yaml

namespace Node

/-- The tag of a node. -/
def tag : Node → Tag
  | .scalar tag _ => tag
  | .sequence tag _ => tag
  | .mapping tag _ => tag

/-- A node with another tag. -/
def withTag (tag : Tag) : Node → Node
  | .scalar _ text => .scalar tag text
  | .sequence _ items => .sequence tag items
  | .mapping _ entries => .mapping tag entries

/-- The entries of a mapping. -/
def entries? : Node → Option (List (Nat × Nat))
  | .mapping _ entries => some entries
  | _ => none

end Node

/-- The object that a node with a tag becomes, before it is filled. -/
def Tag.object? : Tag → Option Object
  | .mapping => some (.table [])
  | .set => some (.set [])
  | .sequence | .orderedMapping | .pairs => some (.list [])
  | _ => none

/-- What is not a number equals nothing, but is the same key where it comes from one place. The
number of that place is zero for all that are written as a word. -/
structure Key where
  value : Value
  birth : Nat

/-- Whether two keys are the same. -/
def Key.same (k l : Key) : Bool :=
  k.value.same l.value || (k.value == .float .nan && l.value == .float .nan && k.birth == l.birth)

/-- Nodes, and what has been made of them. -/
structure Builder where
  nodes : Array Node
  /-- What the nodes were made into, with the place that it comes from. -/
  made : Array (Option (Ref × Nat))
  /-- The nodes whose objects are still to be filled, the latest one first. -/
  waiting : List Nat := []
  /-- The object of a node has the number of the node. -/
  objects : Objects

/-- A step of building. -/
abbrev BuildStep (α : Type) := StateT Builder (Except Fault) α

namespace Builder

/-- End with a fault. -/
def fail {α : Type} (fault : Fault) : BuildStep α := fun _ => .error fault

/-- The node with a number. -/
def node (id : Nat) : BuildStep Node := do
  return (← get).nodes.getD id .empty

/-- Change the node with a number. -/
def replace (id : Nat) (node : Node) : BuildStep Unit :=
  modify fun b => { b with nodes := b.nodes.setIfInBounds id node }

/-! ### Merging -/

/-- The node under the first key with a tag, and the entries without that one. -/
def takeTagged? (nodes : Array Node) (tag : Tag) :
    List (Nat × Nat) → Option (Nat × List (Nat × Nat))
  | [] => none
  | (key, value) :: entries =>
    if (nodes.getD key .empty).tag = tag then some (value, entries)
    else (takeTagged? nodes tag entries).map fun r => (r.1, (key, value) :: r.2)

/-- The entries of a mapping that is merged, once it is flat itself. -/
def mergedMapping (flatten : Nat → BuildStep Unit) (id : Nat) : BuildStep (List (Nat × Nat)) := do
  match (← node id).entries? with
  | none => fail .malformedRegistry
  | some _ =>
    flatten id
    return ((← node id).entries?).getD []

/-- The entries that a merged node gives: those of a mapping, or of mappings in a sequence, the
last one first. -/
def merged (flatten : Nat → BuildStep Unit) (id : Nat) : BuildStep (List (Nat × Nat)) := do
  match ← node id with
  | .sequence _ items => return (← items.mapM (mergedMapping flatten)).reverse.flatten
  | _ => mergedMapping flatten id

/-- Make texts of the keys for default values. -/
def settleKeys (entries : List (Nat × Nat)) : BuildStep Unit :=
  entries.forM fun e => do
    let key ← node e.1
    if key.tag = .default then replace e.1 (key.withTag .text)

/-- Merge the entries of other mappings into a mapping, after those merged before. Each step takes
away a key for merging, so their number bounds the steps. -/
def flattenWith : (fuel : Nat) → (before : List (Nat × Nat)) → Nat → BuildStep Unit
  | 0, _, _ => fail .tooDeep
  | fuel + 1, before, id => do
    match ← node id with
    | .mapping tag entries =>
      match takeTagged? (← get).nodes .merge entries with
      | some (value, others) =>
        replace id (.mapping tag others)
        let more ← merged (flattenWith fuel []) value
        flattenWith fuel (before ++ more) id
      | none =>
        settleKeys entries
        replace id (.mapping tag (before ++ entries))
    | _ => return ()

/-- The number of entries of all mappings. -/
def entryCount (nodes : Array Node) : Nat :=
  nodes.foldl (fun n node => n + (node.entries?.getD []).length) 0

/-- Merge the entries of other mappings into a mapping. -/
def flatten (id : Nat) : BuildStep Unit := do
  flattenWith (entryCount (← get).nodes + 1) [] id

/-! ### Values -/

/-- The text of a node that is read as a scalar: of a mapping, that of its entry for the default
value. The entry must not lead back to the mapping. -/
def scalarText (nodes : Array Node) : (fuel : Nat) → Nat → Except Fault (List Nat)
  | 0, _ => .error .tooDeep
  | fuel + 1, id =>
    match nodes.getD id .empty with
    | .scalar _ text => .ok text
    | .sequence _ _ => malformed
    | .mapping _ entries =>
      match takeTagged? nodes .default entries with
      | some (value, _) => scalarText nodes fuel value
      | none => malformed

/-- The value of a node with a tag for scalars, and the place it comes from. The text of a
timestamp has to be written as such. -/
def scalar (nodes : Array Node) (id : Nat) : Except Fault (Value × Nat) := do
  let node := nodes.getD id .empty
  match node.tag with
  | .unknown | .merge | .default => malformed
  | tag =>
    let text ← scalarText nodes (nodes.size + 1) id
    match tag, node with
    | .timestamp, .mapping _ _ => .error .notText
    | _, _ =>
      let birth := if isNanWord (floatParts text).2 then 0 else id + 1
      .ok (← readScalar tag text, birth)

/-- Remember what a node was made into. -/
def remember (id : Nat) (ref : Ref) (birth : Nat) : BuildStep (Ref × Nat) := do
  modify fun b => { b with made := b.made.setIfInBounds id (some (ref, birth)) }
  return (ref, birth)

/-- The value of a node, which is made when it is first asked for, and the place it comes from. -/
def make (id : Nat) : BuildStep (Ref × Nat) := do
  match (← get).made.getD id none with
  | some made => return made
  | none =>
    match (← node id).tag.object? with
    | some object =>
      modify fun b =>
        { b with waiting := id :: b.waiting, objects := b.objects.setIfInBounds id object }
      remember id (.object id) id
    | none =>
      let (value, birth) ← scalar (← get).nodes id
      remember id (.value value) birth

/-- What is made of a node for a place. -/
def part (id : Nat) : BuildStep Ref := do
  return (← make id).1

/-- The key that is made of a node. A collection cannot be one. -/
def key (id : Nat) : BuildStep Key := do
  match ← make id with
  | (.value v, birth) => return ⟨v, birth⟩
  | _ => fail .malformedRegistry

/-- The fields with a value stored under a key: in the place of the field whose key is the same,
or at the end. -/
def addField (key : Key) (ref : Ref) : List (Key × Ref) → List (Key × Ref)
  | [] => [(key, ref)]
  | (k, r) :: rest => if k.same key then (k, ref) :: rest else (k, r) :: addField key ref rest

/-- The fields that entries give. -/
def fields (entries : List (Nat × Nat)) : BuildStep Fields := do
  let found ← entries.foldlM (fun found e => do
    let key ← key e.1
    return addField key (← part e.2) found) []
  return found.map fun f => (f.1.value, f.2)

/-- The pair that an item with a single entry gives. -/
def pair (id : Nat) : BuildStep Ref := do
  match ← node id with
  | .mapping _ [entry] => return .pair (← part entry.1) (← part entry.2)
  | _ => fail .malformedRegistry

/-- The contents of the object of a node. -/
def contents (id : Nat) : BuildStep Object := do
  match (← node id).tag, ← node id with
  | .sequence, .sequence _ items => return .list (← items.mapM part)
  | .orderedMapping, .sequence _ items => return .list (← items.mapM pair)
  | .pairs, .sequence _ items => return .list (← items.mapM pair)
  | tag, .mapping _ _ =>
    if tag = .mapping ∨ tag = .set then
      flatten id
      let fields ← fields ((← node id).entries?.getD [])
      return if tag = .set then .set (fields.map Prod.fst) else .table fields
    else fail .malformedRegistry
  | _, _ => fail .malformedRegistry

/-- Fill the object of a node. -/
def fill (id : Nat) : BuildStep Unit := do
  let object ← contents id
  modify fun b => { b with objects := b.objects.setIfInBounds id object }

/-- Fill all objects, those first that were met first. The fuel bounds their depth. -/
def fillAll : (fuel : Nat) → BuildStep Unit
  | 0 => return ()
  | fuel + 1 => do
    match (← get).waiting with
    | [] => return ()
    | ids =>
      modify fun b => { b with waiting := [] }
      ids.reverse.forM fill
      fillAll fuel

end Builder

/-- The value of a graph, and the objects that it refers to. -/
def NodeGraph.build (g : NodeGraph) : Except Fault (Objects × Ref) := do
  let start : Builder :=
    { nodes := g.nodes
      made := Array.replicate g.nodes.size none
      objects := Array.replicate g.nodes.size (.list []) }
  let build : BuildStep Ref := do
    let root ← Builder.part g.root
    Builder.fillAll (g.nodes.size + 1)
    return root
  let (root, b) ← build.run start
  .ok (b.objects, root)

end Yaml

end ClassQuota
