import ClassQuota.Yaml.Cursor
import ClassQuota.Yaml.Tag
import ClassQuota.Yaml.Token.Lexer

/-!
# Nodes of YAML

The tokens of a text form a graph of nodes. A node has a number, and a sequence or mapping names
its parts by their numbers. An alias is the number of the node with its anchor. That node need not
be complete, so a node may be part of itself. An anchor may be given once.

Tokens are asked for one by one. A fault that lies among the tokens ahead is met only by asking
for them, so a graph that is malformed before is refused for that.

## Main definitions

* `Yaml.Node` — nodes with their tags
* `Yaml.NodeGraph` — the nodes of a text
* `Yaml.TokenReader` — what reading nodes depends on: the tokens left, anchors and tag handles
* `Yaml.TokenReader.node` — reading one node
* `Yaml.NodeGraph.ofTokens` — the graph of a text, if it has one
-/

namespace ClassQuota

namespace Yaml

/-- A node with its tag. Its parts are given by their numbers. -/
inductive Node where
  | scalar (tag : Tag) (text : List Nat)
  | sequence (tag : Tag) (items : List Nat)
  | mapping (tag : Tag) (entries : List (Nat × Nat))
  deriving Repr

/-- The node where nothing is written. -/
def Node.empty : Node := .scalar .null []

/-- The nodes of a text by their numbers, and the number of the outermost one. -/
structure NodeGraph where
  nodes : Array Node
  root : Nat
  deriving Repr

/-- What is left to be read, and what is known about it. -/
structure TokenReader where
  tokens : List Token
  /-- The fault that is met after the tokens. -/
  stop : Option Fault
  /-- The nodes of the anchors so far. -/
  anchors : List (String × Nat) := []
  /-- What the handles of tags stand for. -/
  handles : List (String × String)
  nodes : Array Node := #[]

/-- A step of reading, which takes tokens away and adds nodes. -/
abbrev TokenStep (α : Type) := StateT TokenReader (Except Fault) α

/-- The handles of tags that need no directive. -/
def usualHandles : List (String × String) :=
  [("!", "!"), ("!!", tagBeginning)]

namespace TokenReader

/-- The next token, or nothing at the end of the text. -/
def peek : TokenStep (Option Token) := fun r =>
  match r.tokens, r.stop with
  | t :: _, _ => .ok (some t, r)
  | [], some fault => .error fault
  | [], none => .ok (none, r)

/-- Go past the next token. -/
def advance : TokenStep Unit :=
  modify fun r => { r with tokens := r.tokens.tail }

/-- A malformed text. -/
def refuse {α : Type} : TokenStep α := fun _ => malformed

/-- Whether one of some tokens comes next. -/
def atAny (ts : List Token) : TokenStep Bool := do
  return (← peek).any ts.contains

/-- Go past a token if it comes next, and tell whether it did. -/
def skip (t : Token) : TokenStep Bool := do
  if (← peek) = some t then
    advance
    return true
  else return false

/-- Add a node, and give its number. -/
def add (node : Node) : TokenStep Nat := fun r =>
  .ok (r.nodes.size, { r with nodes := r.nodes.push node })

/-- Change the node with a number. -/
def replace (id : Nat) (node : Node) : TokenStep Unit :=
  modify fun r => { r with nodes := r.nodes.setIfInBounds id node }

/-- What is written before a node: its anchor, and the name of its tag. -/
structure Properties where
  anchor : Option String := none
  tag : Option String := none

/-- The name of a tag that is written with or without a handle. -/
def tagName (handle : Option String) (suffix : String) : TokenStep String := do
  match handle with
  | none => return suffix
  | some handle =>
    match (← get).handles.lookup handle with
    | some beginning => return beginning ++ suffix
    | none => refuse

/-- The properties of a node: an anchor and a tag, in either order, or one of them or none. -/
def properties : TokenStep Properties := do
  match ← peek with
  | some (.anchor name) =>
    advance
    match ← peek with
    | some (.tag handle suffix) =>
      advance
      return ⟨some name, some (← tagName handle suffix)⟩
    | _ => return ⟨some name, none⟩
  | some (.tag handle suffix) =>
    advance
    match ← peek with
    | some (.anchor name) =>
      advance
      return ⟨some name, some (← tagName handle suffix)⟩
    | _ => return ⟨none, some (← tagName handle suffix)⟩
  | _ => return {}

/-- The tag that is asked for, where one is. An exclamation mark alone asks for the usual one. -/
def Properties.asked (p : Properties) : Option Tag :=
  (p.tag.filter (· != "!")).map Tag.ofName

/-- The tag of a scalar. No pattern of a plain scalar has a place for half of a surrogate pair. -/
def Properties.scalarTag (p : Properties) (text : List Nat) (plain : Bool) : Tag :=
  p.asked.getD
    (if plain || p.tag == some "!" then Tag.ofText (text.map Text.charD) else .text)

/-- Add a node with its anchor, which must be a new one, and give its number. -/
def define (p : Properties) (node : Node) : TokenStep Nat := do
  match p.anchor with
  | none => add node
  | some name =>
    if ((← get).anchors.lookup name).isSome then refuse
    else
      let id ← add node
      modify fun r => { r with anchors := (name, id) :: r.anchors }
      return id

/-- A sequence whose items are read once it can be referred to. -/
def sequenceOf (p : Properties) (items : TokenStep (List Nat)) : TokenStep Nat := do
  let tag := p.asked.getD .sequence
  let id ← define p (.sequence tag [])
  replace id (.sequence tag (← items))
  return id

/-- A mapping whose entries are read once it can be referred to. -/
def mappingOf (p : Properties) (entries : TokenStep (List (Nat × Nat))) : TokenStep Nat := do
  let tag := p.asked.getD .mapping
  let id ← define p (.mapping tag [])
  replace id (.mapping tag (← entries))
  return id

/-- A node of which nothing but its properties is written. -/
def absent (p : Properties) : TokenStep Nat :=
  if p.anchor.isNone ∧ p.tag.isNone then refuse
  else define p (.scalar (p.asked.getD .null) [])

/-- Read a node, or nothing before any of some tokens. -/
def orEmpty (ends : List Token) (read : TokenStep Nat) : TokenStep Nat := do
  if ← atAny ends then add .empty else read

/-- The tokens that end the key or the value of an entry outside of brackets. -/
def entryEnds : List Token := [.key, .value, .blockEnd]

/-- Where a node may stand. -/
inductive Place where
  /-- Within brackets. -/
  | flow
  /-- On lines of its own. -/
  | block
  /-- In a mapping of lines, where a sequence need not be indented. -/
  | entry
  deriving DecidableEq

mutual

/-- Read a node. The fuel bounds the number of nodes and entries. -/
def node : (fuel : Nat) → Place → TokenStep Nat
  | 0, _ => refuse
  | fuel + 1, place => do
    match ← peek with
    | some (.alias name) =>
      advance
      match (← get).anchors.lookup name with
      | some id => return id
      | none => refuse
    | _ =>
      let p ← properties
      match ← peek with
      | some (.scalar text plain) =>
        advance
        define p (.scalar (p.scalarTag text plain) text)
      | some .flowSequenceStart => sequenceOf p (do advance; flowItems fuel true)
      | some .flowMappingStart => mappingOf p (do advance; flowEntries fuel true)
      | some .blockEntry =>
        if place = .entry then sequenceOf p (looseItems fuel) else absent p
      | some .blockSequenceStart =>
        if place = .flow then absent p else sequenceOf p (do advance; blockItems fuel)
      | some .blockMappingStart =>
        if place = .flow then absent p else mappingOf p (do advance; blockEntries fuel)
      | _ => absent p

/-- The items of a sequence of lines, up to its end. -/
def blockItems : (fuel : Nat) → TokenStep (List Nat)
  | 0 => refuse
  | fuel + 1 => do
    if ← skip .blockEntry then
      let item ← orEmpty [.blockEntry, .blockEnd] (node fuel .block)
      return item :: (← blockItems fuel)
    else if ← skip .blockEnd then return []
    else refuse

/-- The items of a sequence of lines that is not indented. -/
def looseItems : (fuel : Nat) → TokenStep (List Nat)
  | 0 => refuse
  | fuel + 1 => do
    if ← skip .blockEntry then
      let item ← orEmpty (.blockEntry :: entryEnds) (node fuel .block)
      return item :: (← looseItems fuel)
    else return []

/-- The entries of a mapping of lines, up to its end. -/
def blockEntries : (fuel : Nat) → TokenStep (List (Nat × Nat))
  | 0 => refuse
  | fuel + 1 => do
    if ← skip .key then
      let key ← orEmpty entryEnds (node fuel .entry)
      let value ← if ← skip .value then orEmpty entryEnds (node fuel .entry) else add .empty
      return (key, value) :: (← blockEntries fuel)
    else if ← skip .blockEnd then return []
    else refuse

/-- An entry within brackets, after the token that its key begins with. -/
def flowEntry (ends : List Token) : (fuel : Nat) → TokenStep (Nat × Nat)
  | 0 => refuse
  | fuel + 1 => do
    let key ← orEmpty (.value :: ends) (node fuel .flow)
    if ← skip .value then return (key, ← orEmpty ends (node fuel .flow))
    else return (key, ← add .empty)

/-- The items of a sequence in brackets, up to its end. -/
def flowItems : (fuel : Nat) → (first : Bool) → TokenStep (List Nat)
  | 0, _ => refuse
  | fuel + 1, first => do
    if ← skip .flowSequenceEnd then return []
    unless first do
      unless ← skip .flowEntry do refuse
      if ← skip .flowSequenceEnd then return []
    let item ← if ← atAny [.key] then
        mappingOf {} (do
          advance
          return [← flowEntry [.flowEntry, .flowSequenceEnd] fuel])
      else node fuel .flow
    return item :: (← flowItems fuel false)

/-- The entries of a mapping in brackets, up to its end. -/
def flowEntries : (fuel : Nat) → (first : Bool) → TokenStep (List (Nat × Nat))
  | 0, _ => refuse
  | fuel + 1, first => do
    if ← skip .flowMappingEnd then return []
    unless first do
      unless ← skip .flowEntry do refuse
      if ← skip .flowMappingEnd then return []
    let entry ← if ← skip .key then flowEntry [.flowEntry, .flowMappingEnd] fuel
      else do
        let key ← node fuel .flow
        pure (key, ← add .empty)
    return entry :: (← flowEntries fuel false)

end

/-! ### Documents -/

/-- Make the handles of tags known that directives introduce. The version may be given once, and
its first number is one. -/
def directives : (fuel : Nat) → (versioned : Bool) → TokenStep Unit
  | 0, _ => refuse
  | fuel + 1, versioned => do
    match ← peek with
    | some (.directive (.version major _)) =>
      advance
      if versioned ∨ major ≠ 1 then refuse else directives fuel true
    | some (.directive (.tagHandle handle beginning)) =>
      advance
      if ((← get).handles.lookup handle).isSome then refuse
      else
        modify fun r => { r with handles := (handle, beginning) :: r.handles }
        directives fuel versioned
    | some (.directive .other) =>
      advance
      directives fuel versioned
    | _ => return ()

/-- Whether a document that was begun ends before any node. -/
def isBlankDocument : Option Token → Bool
  | none => true
  | some (.directive _) => true
  | some .documentStart => true
  | some .documentEnd => true
  | _ => false

/-- A document after its directives: its mark, and the node that follows. -/
def markedDocument (fuel : Nat) : TokenStep Nat := do
  directives fuel false
  if ← skip .documentStart then
    modify fun r => { r with handles := r.handles ++ usualHandles }
    if isBlankDocument (← peek) then add .empty else node fuel .block
  else refuse

/-- The end of the text, after marks that end documents. Another document must not follow. -/
def finish : (fuel : Nat) → TokenStep Unit
  | 0 => refuse
  | fuel + 1 => do
    match ← peek with
    | none => return ()
    | some .documentEnd =>
      advance
      finish fuel
    | some (.directive _) =>
      modify fun r => { r with handles := [] }
      directives fuel false
      refuse
    | _ => refuse

/-- The outermost node of the only document, if there is a document. -/
def document (fuel : Nat) : TokenStep (Option Nat) := do
  match ← peek with
  | none => return none
  | some (.directive _) | some .documentStart =>
    let root ← markedDocument fuel
    finish fuel
    return some root
  | _ =>
    modify fun r => { r with handles := usualHandles }
    let root ← node fuel .block
    finish fuel
    return some root

end TokenReader

/-- The graph of the only document of some tokens, if there is a document. -/
def NodeGraph.ofTokens (run : TokenRun) : Except Fault (Option NodeGraph) := do
  let fuel := 4 * run.tokens.length + 4
  let (root?, r) ← (TokenReader.document fuel).run
    { tokens := run.tokens, stop := run.stop, handles := [] }
  .ok (root?.map fun root => ⟨r.nodes, root⟩)

end Yaml

end ClassQuota
