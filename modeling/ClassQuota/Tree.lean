import ClassQuota.Text.Quoted

/-!
# Syntax trees

A syntax tree is seen here as far as the linter looks: each node has a kind, the name that nodes
of its kind carry, and its children in source order. What else a node holds plays no part. A type
alias and the handler of an exception have no name of their own but a node in its position, which
is among the children.

## Main definitions

* `Kind`, `Node` — nodes
* `Node.classDef`, `Node.tryStmt`, `Node.typeAlias`, … — nodes of each shape
* `Node.ownName?`, `Node.label` — the name of a node
-/

namespace ClassQuota

/-- What a node of a syntax tree is. -/
inductive Kind where
  | file
  | classDef
  | functionDef
  | asyncFunctionDef
  | ifStmt
  | forStmt
  | asyncForStmt
  | whileStmt
  | withStmt
  | asyncWithStmt
  | tryStmt
  | tryStarStmt
  | exceptHandler
  | matchStmt
  | matchCase
  | typeAlias
  | name
  | assignName
  | const
  | call
  | expr
  | assign
  | importStmt
  | pass
  /-- Any other node, with whether nodes of its kind carry a name. -/
  | other (named : Bool)
  deriving DecidableEq, Repr

/-- Whether nodes of a kind carry a name. -/
def Kind.isNamed : Kind → Bool
  | .file | .classDef | .functionDef | .asyncFunctionDef | .name | .assignName => true
  | .other named => named
  | _ => false

/-- Whether nodes of a kind may have a node in the position of their name. -/
def Kind.isTitled : Kind → Bool
  | .exceptHandler | .typeAlias => true
  | _ => false

/-- A node with its children in source order. The name of a kind that carries one may still be
absent. -/
inductive Node where
  | mk (kind : Kind) (name : Option String) (children : List Node)
  deriving BEq, Repr

namespace Node

/-- What a node is. -/
def kind : Node → Kind
  | .mk kind _ _ => kind

/-- The children of a node, in source order. -/
def children : Node → List Node
  | .mk _ _ children => children

/-- The name that a node itself carries. -/
def ownName? : Node → Option String
  | .mk kind name _ => if kind.isNamed then name else none

/-- The text of a name that is assigned to, as it is shown in the position of a name. -/
def title? : Node → Option String
  | .mk .assignName none _ => some "AssignName(name=None)"
  | .mk .assignName (some name) _ =>
    let own := if name = "" then "" else "." ++ name
    some ("AssignName" ++ own ++ "(name=" ++ String.ofList (Text.quoted name.toList) ++ ")")
  | _ => none

/-- How a node is named in log records: by its name, or by the node in the position of the name. -/
def label : Node → String
  | .mk kind name children =>
    if kind.isNamed then name.getD "None"
    else if kind.isTitled then (children.findSome? title?).getD "None"
    else "?"

/-! ### The shapes of nodes -/

/-- A node without a name whose children are the nodes of its parts, one part after another. -/
def compound (kind : Kind) (parts : List (List Node)) : Node :=
  .mk kind none parts.flatten

/-- A source file. -/
def file (name : Option String) (body : List Node) : Node :=
  .mk .file name body

/-- A class: its decorators, its bases and its body. -/
def classDef (name : Option String) (decorators bases body : List Node) : Node :=
  .mk .classDef name (decorators ++ bases ++ body)

/-- A function: its decorators and its body. -/
def functionDef (name : Option String) (decorators body : List Node) : Node :=
  .mk .functionDef name (decorators ++ body)

/-- An asynchronous function: its decorators and its body. -/
def asyncFunctionDef (name : Option String) (decorators body : List Node) : Node :=
  .mk .asyncFunctionDef name (decorators ++ body)

/-- A conditional or a loop with an alternative. -/
def branching (kind : Kind) (body orelse : List Node) : Node :=
  compound kind [body, orelse]

/-- A statement or clause with a body only. -/
def block (kind : Kind) (body : List Node) : Node :=
  compound kind [body]

/-- A guarded statement with its handlers, its alternative and its final part. -/
def guarded (kind : Kind) (body handlers orelse final : List Node) : Node :=
  compound kind [body, handlers, orelse, final]

/-- A choice by pattern. -/
def matchStmt (cases : List Node) : Node :=
  compound .matchStmt [cases]

/-- A type alias, whose first child is the node in the position of its name. -/
def typeAlias (target : Node) : Node :=
  compound .typeAlias [[target]]

/-- The use of a name. -/
def nameUse (name : Option String) : Node :=
  .mk .name name []

/-- A name that is assigned to. -/
def assignName (name : Option String) : Node :=
  .mk .assignName name []

/-- A call: the function and its arguments. -/
def call (func : Node) (args : List Node) : Node :=
  compound .call [[func], args]

/-- An expression as a statement. -/
def expr (value : Node) : Node :=
  compound .expr [[value]]

/-- An assignment of a value to a name. -/
def assign (name : Option String) (value : Node) : Node :=
  compound .assign [[assignName name, value]]

/-- A node without children. -/
def leaf (kind : Kind) : Node :=
  compound kind []

/-- An alias is named by the node that it assigns to. -/
example : (typeAlias (assignName (some "X"))).label = "AssignName.X(name='X')" := by decide

end Node

end ClassQuota
