import ClassQuota.Calendar
import ClassQuota.Number.Binary64
import ClassQuota.Text.Surrogate

/-!
# Values

Configuration and the message registry are read from files whose entries may hold anything. A
value is such an entry: a scalar, a sequence, or a table that keeps its entries in the order in
which their keys were first put in.

## Main definitions

* `Value` — the values
* `Value.ofCodes` — the text with given code points
* `Value.isTrue` — whether a value counts as present in a choice between values
* `Value.same` — equality of values; numbers are compared by value across their types
* `Value.find?`, `Value.insert` — looking up and storing entries of a table
-/

namespace ClassQuota

/-- A dynamically typed value. -/
inductive Value where
  | null
  | bool (b : Bool)
  | int (n : Int)
  | float (x : Binary64)
  | text (s : String)
  /-- A text that holds halves of surrogate pairs, by its code points. -/
  | brokenText (codes : List Nat)
  | bytes (bs : List UInt8)
  | list (xs : List Value)
  | tuple (xs : List Value)
  /-- Items of which none comes twice, as they were put in. -/
  | set (xs : List Value)
  | table (entries : List (Value × Value))
  /-- The place inside a list or table where the same list or table stands again. -/
  | recurrence (ofTable : Bool)
  | date (d : Date)
  | dateTime (d : DateTime)
  | time (t : TimeOfDay)
  deriving BEq, Repr

instance : Inhabited Value := ⟨.null⟩

/-- The entries of a table. -/
abbrev Entries := List (Value × Value)

namespace Value

/-- The text with given code points. -/
def ofCodes (codes : List Nat) : Value :=
  match Text.chars? codes with
  | some cs => .text (String.ofList cs)
  | none => .brokenText codes

/-- Whether a value counts as present: nothing, false, zeros and empty values do not. -/
def isTrue : Value → Bool
  | .null => false
  | .bool b => b
  | .int n => n != 0
  | .float x => !x.isZero
  | .text s => s != ""
  | .brokenText codes => !codes.isEmpty
  | .bytes bs => !bs.isEmpty
  | .list xs => !xs.isEmpty
  | .tuple xs => !xs.isEmpty
  | .set xs => !xs.isEmpty
  | .table entries => !entries.isEmpty
  | .recurrence _ => true
  | .date _ => true
  | .dateTime _ => true
  | .time _ => true

/-- The integer that a truth value or integer stands for in a comparison. -/
def asInt? : Value → Option Int
  | .bool b => some (if b then 1 else 0)
  | .int n => some n
  | _ => none

mutual

/-- Whether two values are equal. Truth values and numbers are compared by value. -/
def same : Value → Value → Bool
  | .null, .null => true
  | .text s, .text t => s == t
  | .brokenText cs, .brokenText ds => cs == ds
  | .bytes bs, .bytes cs => bs == cs
  | .list xs, .list ys => sameItems xs ys
  | .tuple xs, .tuple ys => sameItems xs ys
  | .set xs, .set ys => xs.length == ys.length && sameMembers xs ys
  | .table es, .table fs => es.length == fs.length && sameEntries es fs
  | .date d, .date e => d.same e
  | .dateTime d, .dateTime e => d.same e
  | .time t, .time u => t.same u
  | .float x, .float y => x.same y
  | .float x, y => (asInt? y).any x.equalsInt
  | x, .float y => (asInt? x).any y.equalsInt
  | x, y =>
    match asInt? x, asInt? y with
    | some m, some n => m == n
    | _, _ => false

/-- Whether two sequences have equal items. -/
def sameItems : List Value → List Value → Bool
  | [], [] => true
  | x :: xs, y :: ys => x.same y && sameItems xs ys
  | _, _ => false

/-- Whether every item of the first set is in the second. -/
def sameMembers : List Value → List Value → Bool
  | [], _ => true
  | x :: xs, ys => ys.any x.same && sameMembers xs ys

/-- Whether every entry of the first table is in the second. -/
def sameEntries : Entries → Entries → Bool
  | [], _ => true
  | (k, v) :: es, fs => (fs.any fun f => k.same f.1 && v.same f.2) && sameEntries es fs

end

variable {α : Type}

/-- What stands under a name. -/
def find? (name : String) : List (Value × α) → Option α
  | [] => none
  | (.text key, v) :: rest => if key = name then some v else find? name rest
  | _ :: rest => find? name rest

/-- What stands under a key that equals the given one. -/
def lookup? (key : Value) : List (Value × α) → Option α
  | [] => none
  | (k, v) :: rest => if k.same key then some v else lookup? key rest

/-- The entries with something stored under a key: in the place of the entry whose key equals it,
or at the end. -/
def insert (key : Value) (value : α) : List (Value × α) → List (Value × α)
  | [] => [(key, value)]
  | (k, v) :: rest =>
    if k.same key then (k, value) :: rest else (k, v) :: insert key value rest

/-- The table of a sequence of entries, of which a later one replaces an earlier one with an
equal key. -/
def ofEntries (entries : Entries) : Entries :=
  entries.foldl (fun table e => insert e.1 e.2 table) []

/-- Whether a value is a table. -/
def isTable : Value → Bool
  | .table _ => true
  | _ => false

/-- The name of a value's type in messages. -/
def typeName : Value → String
  | .null => "NoneType"
  | .bool _ => "bool"
  | .int _ => "int"
  | .float _ => "float"
  | .text _ => "str"
  | .brokenText _ => "str"
  | .bytes _ => "bytes"
  | .list _ => "list"
  | .tuple _ => "tuple"
  | .set _ => "set"
  | .table _ => "dict"
  | .recurrence ofTable => if ofTable then "dict" else "list"
  | .date _ => "date"
  | .dateTime _ => "datetime"
  | .time _ => "time"

/-- Text keys are equal only if they are the same text. -/
@[simp] theorem same_text (s t : String) : same (.text s) (.text t) = (s == t) := by
  simp [same]

/-- Looking a name up is looking up the text. -/
theorem lookup?_text (name : String) (entries : List (Value × α)) :
    lookup? (.text name) entries = find? name entries := by
  induction entries with
  | nil => rfl
  | cons e rest ih =>
    obtain ⟨k, v⟩ := e
    cases k <;> simp [lookup?, find?, same, asInt?, ih]

end Value

end ClassQuota
