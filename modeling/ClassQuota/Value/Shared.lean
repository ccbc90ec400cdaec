import ClassQuota.Value

/-!
# Values that share parts

A value that is read from a file may hold one list or table in several places, and even inside
itself. Such a list or table is an object: it has a number, and the places that hold it refer to
that number. What changes in an object changes in all of these places.

Where no object is held twice, the references may be replaced by what they stand for, and a plain
value is left.

## Main definitions

* `Ref` — what stands in one place
* `Object` — a list, a set or a table whose places are references
* `Ref.fields?` — the fields of a table
* `Ref.outline` — the value that a reference stands for
* `Ref.tree?` — that value, where no object is held twice
-/

namespace ClassQuota

/-- What stands in one place: a value that is held nowhere else, a pair, or the object with a
number. -/
inductive Ref where
  | value (v : Value)
  | pair (first second : Ref)
  | object (id : Nat)
  deriving BEq, Repr

instance : Inhabited Ref := ⟨.value .null⟩

/-- The entries of a table whose places are references. -/
abbrev Fields := List (Value × Ref)

/-- What can be held in several places. -/
inductive Object where
  | list (items : List Ref)
  | set (items : List Value)
  | table (fields : Fields)
  deriving BEq, Repr

/-- Objects by their numbers. -/
abbrev Objects := Array Object

namespace Object

/-- Whether an object holds nothing. -/
def isEmpty : Object → Bool
  | .list items => items.isEmpty
  | .set items => items.isEmpty
  | .table fields => fields.isEmpty

/-- What stands for an object inside itself. -/
def recurrence : Object → Value
  | .table _ => .recurrence true
  | _ => .recurrence false

end Object

namespace Ref

/-- The fields of a table, and nothing for any other value. -/
def fields? (objects : Objects) : Ref → Option Fields
  | .value (.table entries) => some (entries.map fun e => (e.1, .value e.2))
  | .object id =>
    match objects[id]? with
    | some (.table fields) => some fields
    | _ => none
  | _ => none

/-- Whether a value counts as present. -/
def isTrue (objects : Objects) : Ref → Bool
  | .value v => v.isTrue
  | .pair _ _ => true
  | .object id => (objects[id]?).any fun object => !object.isEmpty

/-- How deep references can lead without coming back to an object they passed. Each object and
each pair in one is a step. -/
def depthBound (objects : Objects) : Nat :=
  2 * objects.size + 2

/-- The value of a reference from inside some objects. The fuel bounds how deep it leads. -/
def outlineFrom (objects : Objects) : (fuel : Nat) → (within : List Nat) → Ref → Value
  | 0, _, _ => .null
  | _ + 1, _, .value v => v
  | fuel + 1, within, .pair first second =>
    .tuple [outlineFrom objects fuel within first, outlineFrom objects fuel within second]
  | fuel + 1, within, .object id =>
    match objects[id]? with
    | none => .null
    | some found =>
      if within.contains id then found.recurrence
      else
        let part := outlineFrom objects fuel (id :: within)
        match found with
        | .list items => .list (items.map part)
        | .set items => .set items
        | .table fields => .table (fields.map fun e => (e.1, part e.2))

/-- The value that a reference stands for, with the places marked where an object stands inside
itself. -/
def outline (objects : Objects) (ref : Ref) : Value :=
  outlineFrom objects (depthBound objects) [] ref

/-- The value that a reference stands for, unless it holds an object twice. The flags tell which
objects were met. -/
def treeFrom (objects : Objects) : (fuel : Nat) → Ref → StateT (Array Bool) Option Value
  | 0, _ => fun _ => none
  | _ + 1, .value v => pure v
  | fuel + 1, .pair first second => do
    let first ← treeFrom objects fuel first
    let second ← treeFrom objects fuel second
    pure (.tuple [first, second])
  | fuel + 1, .object id => do
    if (← get).getD id true then fun _ => none
    else
      modify (·.setIfInBounds id true)
      match objects[id]? with
      | none => fun _ => none
      | some (.list items) => do pure (.list (← items.mapM (treeFrom objects fuel)))
      | some (.set items) => pure (.set items)
      | some (.table fields) => do
        pure (.table (← fields.mapM fun e => do pure (e.1, ← treeFrom objects fuel e.2)))

/-- The value that a reference stands for, unless it holds an object twice. -/
def tree? (objects : Objects) (ref : Ref) : Option Value :=
  (treeFrom objects (depthBound objects) ref (Array.replicate objects.size false)).map Prod.fst

/-- A value that is held nowhere else stands for itself. -/
@[simp] theorem outline_value (objects : Objects) (v : Value) :
    outline objects (.value v) = v := rfl

/-- The outline of a list that holds itself marks the place. -/
example : outline #[.list [.object 0]] (.object 0) = .list [.recurrence false] := rfl

end Ref

end ClassQuota
