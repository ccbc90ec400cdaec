import ClassQuota.Declaration
import Mathlib.Algebra.GroupWithZero.Nat

/-!
# The walk over a tree

A walk keeps a stack of pending nodes. It takes the last one, visits it, and puts the children of
that node on the stack in reverse, so that the first child is the next to be taken. What is still
to come is then the preorder of the pending trees, from the last to the first, and every step
takes one node off it. So a walk ends after as many steps as the tree has nodes, and it has passed
them in preorder.

To say that each node is passed once, nodes are told apart by their addresses: the positions of
the children on the way from the root. Preorder is the ascending order of addresses.

## Main definitions

* `Node.DeclaresPublic` — the public declarations, without reference to the counter
* `Node.at?`, `Node.addresses` — the node at an address, and the addresses of a tree in order
* `Walk`, `Walk.step`, `Walk.run` — a walk with its stack, one step, and several
* `Walk.Follows` — what every state of a walk has in common
* `Counter.Call`, `Counter.perform` — what is done with a counter

## Main results

* `Node.isPublic_iff` — the nodes that are counted are the public declarations
* `Node.map_at?_addresses`, `Node.mem_addresses_iff`, `Node.pairwise_addresses` — preorder passes
  every address once, in ascending order
* `Walk.Follows.step`, `Walk.Follows.run` — the invariant of walks
* `Walk.run_visits_preorder` — a walk ends, visits the tree in preorder, and counts it
-/

namespace ClassQuota

namespace Node

/-- A public declaration is a class or a type alias that declares a name whose first character is
its own upper-case form. -/
def DeclaresPublic (n : Node) : Prop :=
  (n.kind = .classDef ∨ n.kind = .typeAlias) ∧
    ∃ name first rest, n.declaredName? = some name ∧ name.toList = first :: rest ∧
      Text.upper first = [first]

theorem isPublic_iff (n : Node) : n.isPublic = true ↔ n.DeclaresPublic := by
  have hpublic : n.isPublic = true ↔ ∃ name first rest,
      n.declaredName? = some name ∧ name.toList = first :: rest ∧ Text.upper first = [first] := by
    rw [isPublic]
    rcases n.declaredName? with _ | name
    · simp [isPublicName]
    · rcases hname : name.toList with _ | ⟨first, rest⟩
      · simp [isPublicName, hname]
      · simp [isPublicName, hname, Text.isOwnUpper_iff]
  rw [hpublic]
  refine ⟨fun h => ⟨?_, h⟩, fun h => h.2⟩
  obtain ⟨name, -, -, hname, -, -⟩ := h
  obtain ⟨kind, ownName, children⟩ := n
  cases kind <;> simp [declaredName?, Node.kind] at hname ⊢

/-! ### Addresses -/

/-- The node at an address, the positions of the children on the way to it. -/
def at? : Node → List Nat → Option Node
  | n, [] => some n
  | n, i :: rest => n.children[i]?.bind fun child => child.at? rest

mutual

/-- The addresses of the nodes of a tree, each before those below it. -/
def addresses : Node → List (List Nat)
  | .mk _ _ children => [] :: addressesFrom 0 children

/-- The addresses of the nodes of a sequence of trees whose positions begin with the given one. -/
def addressesFrom : Nat → List Node → List (List Nat)
  | _, [] => []
  | i, n :: ns => n.addresses.map (i :: ·) ++ addressesFrom (i + 1) ns

end

theorem addresses_eq (n : Node) : n.addresses = [] :: addressesFrom 0 n.children := by
  cases n
  simp [addresses, children]

mutual

/-- The nodes at the addresses of a tree are its preorder. -/
theorem map_at?_addresses : ∀ n : Node, n.addresses.map n.at? = n.preorder.map some
  | .mk kind name children => by
    have hbelow := map_at?_addressesFrom (.mk kind name children) [] children rfl
    rw [List.length_nil] at hbelow
    rw [addresses, preorder, List.map_cons, List.map_cons, hbelow]
    rfl

theorem map_at?_addressesFrom (parent : Node) : ∀ before ns : List Node,
    parent.children = before ++ ns →
      (addressesFrom before.length ns).map parent.at? = (preorderAll ns).map some
  | _, [], _ => by simp [addressesFrom, preorderAll]
  | before, n :: ns, h => by
    have hn : parent.children[before.length]? = some n := by simp [h]
    have hhere : (n.addresses.map (before.length :: ·)).map parent.at? = n.preorder.map some := by
      rw [List.map_map, ← map_at?_addresses n]
      refine List.map_congr_left fun a _ => ?_
      simp [at?, hn]
    have hrest := map_at?_addressesFrom parent (before ++ [n]) ns (by simp [h])
    rw [List.length_append, List.length_singleton] at hrest
    rw [addressesFrom, preorderAll, List.map_append, List.map_append, hhere, hrest]

end

theorem mem_addressesFrom_iff {a : List Nat} {i : Nat} {ns : List Node} :
    a ∈ addressesFrom i ns ↔
      ∃ j rest n, a = (i + j) :: rest ∧ ns[j]? = some n ∧ rest ∈ n.addresses := by
  induction ns generalizing i with
  | nil => simp [addressesFrom]
  | cons n ns ih =>
    rw [addressesFrom, List.mem_append, ih]
    constructor
    · rintro (h | ⟨j, rest, m, rfl, hm, hrest⟩)
      · obtain ⟨rest, hrest, rfl⟩ := List.mem_map.mp h
        exact ⟨0, rest, n, rfl, rfl, hrest⟩
      · exact ⟨j + 1, rest, m, by rw [Nat.add_assoc, Nat.add_comm 1], hm, hrest⟩
    · rintro ⟨j, rest, m, rfl, hm, hrest⟩
      cases j with
      | zero =>
        obtain rfl : n = m := Option.some.inj hm
        exact .inl (List.mem_map.mpr ⟨rest, hrest, rfl⟩)
      | succ j => exact .inr ⟨j, rest, m, by rw [Nat.add_assoc, Nat.add_comm 1], hm, hrest⟩

/-- The addresses of a tree are those at which a node stands. -/
theorem mem_addresses_iff {n : Node} {a : List Nat} :
    a ∈ n.addresses ↔ (n.at? a).isSome = true := by
  induction a generalizing n with
  | nil => simp [addresses_eq, at?]
  | cons i rest ih =>
    rw [addresses_eq, List.mem_cons, mem_addressesFrom_iff, at?]
    constructor
    · rintro (h | ⟨j, rest', child, h, hchild, hrest⟩)
      · cases h
      · obtain ⟨hi, rfl⟩ := List.cons.inj h
        rw [hi, Nat.zero_add, hchild]
        exact ih.mp hrest
    · intro h
      rcases hchild : n.children[i]? with _ | child
      · simp [hchild] at h
      · rw [hchild] at h
        exact .inr ⟨i, rest, child, by rw [Nat.zero_add], hchild, ih.mpr h⟩

mutual

/-- The addresses of a tree ascend: a node comes before what is below it, and one child with all
that is below it before the next child. -/
theorem pairwise_addresses : ∀ n : Node, n.addresses.Pairwise (· < ·)
  | .mk _ _ children => by
    rw [addresses, List.pairwise_cons]
    refine ⟨fun a ha => ?_, pairwise_addressesFrom 0 children⟩
    obtain ⟨j, rest, -, rfl, -⟩ := mem_addressesFrom_iff.mp ha
    exact .nil

theorem pairwise_addressesFrom : ∀ (i : Nat) (ns : List Node),
    (addressesFrom i ns).Pairwise (· < ·)
  | _, [] => by simp [addressesFrom]
  | i, n :: ns => by
    rw [addressesFrom, List.pairwise_append]
    refine ⟨?_, pairwise_addressesFrom (i + 1) ns, fun a ha b hb => ?_⟩
    · exact List.pairwise_map.mpr ((pairwise_addresses n).imp fun h => .cons h)
    · obtain ⟨rest, -, rfl⟩ := List.mem_map.mp ha
      obtain ⟨j, rest', -, rfl, -⟩ := mem_addressesFrom_iff.mp hb
      exact .rel (by omega)

end

end Node

/-! ### The walk with its stack -/

/-- Where a walk has got to: the pending nodes, of which the last is the next, the nodes visited
so far, and the counter that has visited them. -/
structure Walk where
  stack : List Node
  visited : List Node
  counter : Counter

namespace Walk

/-- The beginning of a walk over a tree. -/
def start (c : Counter) (tree : Node) : Walk where
  stack := [tree]
  visited := []
  counter := c

/-- Visit the last pending node and put its children in its place, in reverse. -/
def step (w : Walk) : Option Walk :=
  match w.stack.getLast? with
  | none => none
  | some n => some {
      stack := w.stack.dropLast ++ n.children.reverse
      visited := w.visited ++ [n]
      counter := w.counter.visit n }

/-- So many steps, or fewer if the stack is empty before. -/
def run : Nat → Walk → Walk
  | 0, w => w
  | k + 1, w =>
    match w.step with
    | none => w
    | some w' => run k w'

/-- What every state of a walk over a tree has in common: what was visited and what is still to
come make up the preorder of the tree, and the counter has visited what was visited. -/
structure Follows (c : Counter) (tree : Node) (w : Walk) : Prop where
  order : w.visited ++ Node.preorderAll w.stack.reverse = tree.preorder
  counter : w.counter = w.visited.foldl Counter.visit c

variable {c : Counter} {tree : Node} {w : Walk}

theorem follows_start (c : Counter) (tree : Node) : Follows c tree (start c tree) where
  order := by simp [start, Node.preorderAll]
  counter := rfl

/-- A walk whose stack is empty has ended. -/
theorem step_of_empty (h : w.stack = []) : w.step = none := by
  rw [step, h]
  rfl

/-- Any other walk takes its last node. -/
theorem step_of_append {pending : List Node} {n : Node} (h : w.stack = pending ++ [n]) :
    w.step = some ⟨pending ++ n.children.reverse, w.visited ++ [n], w.counter.visit n⟩ := by
  rw [step, h, List.getLast?_concat, List.dropLast_concat]

/-- A step keeps the invariant: the node taken is the next of the preorder, and its children come
before what was pending below it. -/
theorem Follows.step (h : Follows c tree w) {pending : List Node} {n : Node}
    (hstack : w.stack = pending ++ [n]) :
    Follows c tree ⟨pending ++ n.children.reverse, w.visited ++ [n], w.counter.visit n⟩ where
  order := by
    rw [← h.order, hstack]
    simp [Node.preorderAll_append, Node.preorderAll, Node.preorder_eq]
  counter := by
    rw [h.counter, List.foldl_append]
    rfl

/-- A step takes one node off what is still to come. -/
theorem size_step (pending : List Node) (n : Node) :
    Node.sizeAll (pending ++ n.children.reverse).reverse + 1 =
      Node.sizeAll (pending ++ [n]).reverse := by
  simp only [List.reverse_append, List.reverse_reverse, List.reverse_singleton,
    List.singleton_append, Node.sizeAll_append, Node.sizeAll, Node.size_eq]
  omega

/-- Several steps keep the invariant, and each takes one node off what is still to come. -/
theorem Follows.run (k : Nat) (h : Follows c tree w) :
    Follows c tree (w.run k) ∧
      Node.sizeAll (w.run k).stack.reverse = Node.sizeAll w.stack.reverse - k := by
  induction k generalizing w with
  | zero => exact ⟨h, rfl⟩
  | succ k ih =>
    rcases List.eq_nil_or_concat w.stack with hstack | ⟨pending, n, hconcat⟩
    · rw [Walk.run, step_of_empty hstack, hstack]
      exact ⟨h, by simp [Node.sizeAll]⟩
    · have hstack : w.stack = pending ++ [n] := by rw [hconcat, List.concat_eq_append]
      obtain ⟨hfollows, hsize⟩ := ih (h.step hstack)
      rw [Walk.run, step_of_append hstack, hstack]
      refine ⟨hfollows, hsize.trans ?_⟩
      rw [← size_step pending n, Nat.add_sub_add_right]

theorem sizeAll_eq_zero_iff {ns : List Node} : Node.sizeAll ns = 0 ↔ ns = [] := by
  cases ns with
  | nil => simp [Node.sizeAll]
  | cons n ns => simp [Node.sizeAll, Node.size_eq]

/-- A walk has ended exactly when it has made as many steps as the tree has nodes. -/
theorem stack_run_start_iff (c : Counter) (tree : Node) (k : Nat) :
    ((start c tree).run k).stack = [] ↔ tree.size ≤ k := by
  have hsize := ((follows_start c tree).run k).2
  rw [show Node.sizeAll (start c tree).stack.reverse = tree.size by simp [start, Node.sizeAll]]
    at hsize
  rw [← List.reverse_eq_nil_iff, ← sizeAll_eq_zero_iff, hsize]
  omega

/-- A walk that has ended has visited the tree in preorder, and its counter is that of the
tree. -/
theorem Follows.of_empty (h : Follows c tree w) (hstack : w.stack = []) :
    w.visited = tree.preorder ∧ w.counter = c.count tree := by
  have hvisited : w.visited = tree.preorder := by
    rw [← h.order, hstack]
    simp [Node.preorderAll]
  refine ⟨hvisited, ?_⟩
  rw [h.counter, hvisited, Counter.count, Node.walk_eq]
  simp [Node.preorderAll]

end Walk

/-! ### Counters in use -/

namespace Counter

/-- What is done with a counter. -/
inductive Call where
  /-- Count all nodes of a tree. -/
  | count (tree : Node)
  /-- Count one node. -/
  | visit (node : Node)

/-- How many public declarations a call counts. -/
def Call.contribution : Call → Nat
  | .count tree => tree.publicCount
  | .visit node => if node.isPublic then 1 else 0

/-- One call. -/
def perform (c : Counter) : Call → Counter
  | .count tree => c.count tree
  | .visit node => c.visit node

theorem current_perform (c : Counter) (call : Call) :
    (c.perform call).current = c.current + (call.contribution : Nat) := by
  cases call with
  | count tree => exact current_count c tree
  | visit node =>
    simp only [perform, visit, Call.contribution]
    split <;> simp

/-- The contributions of calls add up. -/
theorem current_foldl_perform (c : Counter) (calls : List Call) :
    (calls.foldl perform c).current = c.current + ((calls.map Call.contribution).sum : Nat) := by
  induction calls generalizing c with
  | nil => simp
  | cons call rest ih =>
    rw [List.foldl_cons, ih, current_perform, List.map_cons, List.sum_cons]
    omega

end Counter

namespace Walk

/-- **A walk visits its tree in preorder and counts it.** From any counter, a walk over a tree
ends after as many steps as the tree has nodes. By then it has visited the nodes in preorder, which
are the nodes at all addresses of the tree, each once and in ascending order. Its counter is that
of the tree, and its value has grown by the number of public declarations, so values accumulate
over any sequence of calls. -/
theorem run_visits_preorder (c : Counter) (tree : Node) :
    (∀ k, ((start c tree).run k).stack = [] ↔ tree.size ≤ k) ∧
      (∀ k, tree.size ≤ k →
        ((start c tree).run k).visited = tree.preorder ∧
          ((start c tree).run k).counter = c.count tree ∧
          ((start c tree).run k).counter.current = c.current + (tree.publicCount : Nat)) ∧
      (tree.preorder.map some = tree.addresses.map tree.at? ∧
        tree.addresses.Pairwise (· < ·) ∧
        ∀ a, a ∈ tree.addresses ↔ (tree.at? a).isSome = true) ∧
      (∀ n : Node, n.isPublic = true ↔ n.DeclaresPublic) ∧
      ∀ calls : List Counter.Call,
        (calls.foldl Counter.perform c).current =
          c.current + ((calls.map Counter.Call.contribution).sum : Nat) := by
  refine ⟨stack_run_start_iff c tree, fun k hk => ?_, ?_, Node.isPublic_iff,
    Counter.current_foldl_perform c⟩
  · have hstack := (stack_run_start_iff c tree k).mpr hk
    obtain ⟨hvisited, hcounter⟩ := ((follows_start c tree).run k).1.of_empty hstack
    refine ⟨hvisited, hcounter, ?_⟩
    rw [hcounter, Counter.current_count]
  · exact ⟨tree.map_at?_addresses.symm, tree.pairwise_addresses, fun _ => Node.mem_addresses_iff⟩

/-- A type alias counts, and so does a declaration in place of its name. -/
example : (Node.typeAlias (.classDef (some "A") [] [] [])).publicCount = 2 := by decide

end Walk

end ClassQuota
