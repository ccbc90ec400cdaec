import ClassQuota.Tree
import ClassQuota.Text.Upper

/-!
# Public declarations

A class or a type alias declares a name. The name is public when its first character is its own
upper-case form; the absent and the empty name are not. The declarations of a tree are counted
in one walk over all its nodes, nested scopes included.

## Main definitions

* `Node.declaredName?` — the name that a node declares
* `isPublicName` — whether a name is public
* `Node.preorder` — the nodes of a tree, each before its children
* `Node.publicCount` — the number of public declarations, by recursion on the tree
* `Counter` — a running count, with `visit` for one node and `count` for a tree

## Main results

* `Node.walk_eq` — the walk over a list of pending nodes visits them in preorder
* `Counter.current_count` — a walk adds `publicCount` to the running count
-/

namespace ClassQuota

namespace Node

/-- The name that a class or a type alias declares. An alias declares the name of the node in
the position of its name. -/
def declaredName? : Node → Option String
  | .mk .classDef name _ => name
  | .mk .typeAlias _ (target :: _) => target.ownName?
  | _ => none

end Node

/-- Whether a name is public. -/
def isPublicName : Option String → Bool
  | none => false
  | some name =>
    match name.toList with
    | [] => false
    | c :: _ => Text.isOwnUpper c

namespace Node

/-- Whether a node is a public declaration. -/
def isPublic (n : Node) : Bool :=
  isPublicName n.declaredName?

mutual

/-- The nodes of a tree, each before its children. -/
def preorder : Node → List Node
  | .mk kind name children => .mk kind name children :: preorderAll children

/-- The nodes of a sequence of trees, one tree after another. -/
def preorderAll : List Node → List Node
  | [] => []
  | n :: ns => n.preorder ++ preorderAll ns

end

mutual

/-- The number of public declarations in a tree. -/
def publicCount : Node → Nat
  | .mk kind name children =>
    (if (Node.mk kind name children).isPublic then 1 else 0) + publicCountAll children

/-- The number of public declarations in a sequence of trees. -/
def publicCountAll : List Node → Nat
  | [] => 0
  | n :: ns => n.publicCount + publicCountAll ns

end

mutual

/-- The number of nodes of a tree. -/
def size : Node → Nat
  | .mk _ _ children => sizeAll children + 1

/-- The number of nodes of a sequence of trees. -/
def sizeAll : List Node → Nat
  | [] => 0
  | n :: ns => n.size + sizeAll ns

end

theorem sizeAll_append (ns ms : List Node) : sizeAll (ns ++ ms) = sizeAll ns + sizeAll ms := by
  induction ns with
  | nil => simp [sizeAll]
  | cons n ns ih => simp [sizeAll, ih, Nat.add_assoc]

theorem size_eq (n : Node) : n.size = sizeAll n.children + 1 := by
  cases n
  simp [size, children]

theorem preorder_eq (n : Node) : n.preorder = n :: preorderAll n.children := by
  cases n
  simp [preorder, children]

theorem preorderAll_append (ns ms : List Node) :
    preorderAll (ns ++ ms) = preorderAll ns ++ preorderAll ms := by
  induction ns with
  | nil => simp [preorderAll]
  | cons n ns ih => simp [preorderAll, ih]

/-- The nodes that a walk passes: the first pending node, then its children before the other
pending nodes. -/
def walk : List Node → List Node
  | [] => []
  | n :: pending => n :: walk (n.children ++ pending)
termination_by pending => sizeAll pending
decreasing_by
  simp only [sizeAll, sizeAll_append, size_eq]
  omega

/-- A walk passes the pending trees one after another, each in preorder. -/
theorem walk_eq (pending : List Node) : walk pending = preorderAll pending := by
  induction pending using walk.induct with
  | case1 => simp [walk, preorderAll]
  | case2 n pending ih =>
    rw [walk, ih, preorderAll_append]
    simp [preorderAll, preorder_eq]

mutual

/-- The public declarations are the public nodes of the preorder. -/
theorem publicCount_eq : ∀ n : Node, n.publicCount = n.preorder.countP isPublic
  | .mk kind name children => by
    simp only [publicCount, preorder, List.countP_cons, publicCountAll_eq children]
    omega

theorem publicCountAll_eq : ∀ ns : List Node, publicCountAll ns = (preorderAll ns).countP isPublic
  | [] => by simp [publicCountAll, preorderAll]
  | n :: ns => by
    simp only [publicCountAll, preorderAll, List.countP_append, publicCount_eq n,
      publicCountAll_eq ns]

end

end Node

/-- A running count of public declarations. -/
structure Counter where
  current : Int := 0
  deriving DecidableEq, Repr

namespace Counter

/-- Count one node, without its children. -/
def visit (c : Counter) (n : Node) : Counter :=
  if n.isPublic then ⟨c.current + 1⟩ else c

/-- Count all nodes of a tree. -/
def count (c : Counter) (tree : Node) : Counter :=
  (Node.walk [tree]).foldl visit c

theorem current_foldl_visit (c : Counter) (ns : List Node) :
    (ns.foldl visit c).current = c.current + (ns.countP Node.isPublic : Nat) := by
  induction ns generalizing c with
  | nil => simp
  | cons n ns ih =>
    simp only [List.foldl_cons, List.countP_cons, ih, visit]
    split
    · simp
      omega
    · simp

/-- A walk adds the number of public declarations of the tree. -/
theorem current_count (c : Counter) (tree : Node) :
    (c.count tree).current = c.current + (tree.publicCount : Nat) := by
  simp [count, current_foldl_visit, Node.walk_eq, Node.preorderAll, Node.publicCount_eq]

end Counter

end ClassQuota
