import ClassQuota.Log
import ClassQuota.Registry.Packaged
import ClassQuota.Yaml.Document

/-!
# The registry store

A store holds the registry of a file. Its callers get copies. The copy of the whole registry is
new only in its outermost table, and its entries are those of the store: setting a field of such
an entry changes the store. The copy of a single entry is new, so setting a field there does not.

The tables that may be changed are objects: the registry, its entries, and the copies. A file may
name one entry in several places. The field is then set in all of them.

## Main definitions

* `Registry.Store` — a store
* `Registry.Store.ofEntries`, `Registry.Store.load` — the store of plain entries, and of a file
* `Registry.Call`, `Registry.Answer` — what callers do, and what they get
* `Registry.Store.perform`, `Registry.Store.performAll` — one call, and calls in sequence
-/

namespace ClassQuota

namespace Registry

/-- The registry of a file, with the objects that it refers to. -/
structure Store where
  objects : Objects := #[]
  /-- The number of the table that is the registry. -/
  registry : Nat
  /-- The numbers of the tables that callers got as copies, the latest one first. -/
  copies : List Nat := []
  deriving BEq, Repr

/-- What a caller does with a store. -/
inductive Call where
  /-- Get the registry. -/
  | registry
  /-- Get the entry of a code or symbol. -/
  | entry (code : String)
  /-- Get the messages of some codes from a copy of the registry. -/
  | messages (codes : List String)
  /-- Empty a copy of the registry. -/
  | clear
  /-- Store a value under a key of a copy of the registry. -/
  | put (key : String) (value : Value)
  /-- Set a field of an entry that is reached through a copy of the registry. -/
  | setField (key field : String) (value : Value)
  /-- Set a field of a copy of an entry. -/
  | setEntryField (code field : String) (value : Value)
  /-- Empty a copy that was got before. The copies are counted back from the latest one. -/
  | clearCopy (back : Nat)
  /-- Store a value under a key of a copy that was got before. -/
  | putCopy (back : Nat) (key : String) (value : Value)
  deriving Repr

/-- What a caller gets. -/
inductive Answer where
  | registry (entries : Entries)
  | entry (fields : Option Entries)
  | messages (found : List (String × MessageText))
  | done
  deriving BEq, Repr

/-- A value that stands in one place, after some objects. A table becomes an object, so that it can
be changed there. -/
def box (objects : Objects) : Value → Objects × Ref
  | .table entries => (objects.push (.table (fieldsOf entries)), .object objects.size)
  | v => (objects, .value v)

/-- Entries whose tables become objects. -/
def boxAll (objects : Objects) : Entries → Objects × Fields
  | [] => (objects, [])
  | (key, v) :: rest =>
    let boxed := box objects v
    let others := boxAll boxed.1 rest
    (others.1, (key, boxed.2) :: others.2)

namespace Store

/-! ### The store of a file -/

/-- The store of plain entries. -/
def ofEntries (entries : Entries) : Store :=
  let boxed := boxAll #[] entries
  { objects := boxed.1.push (.table boxed.2), registry := boxed.1.size }

/-- The store of a value that may share objects. What is no table counts as an empty one. -/
def ofShared (objects : Objects) (ref : Ref) : Store :=
  match ref.fields? objects, ref.tree? objects, ref with
  | none, _, _ => ofEntries []
  | some _, some (.table entries), _ => ofEntries entries
  | some _, _, .object id => { objects := objects, registry := id }
  | some _, _, _ => ofEntries []

/-- The store of a file with the given bytes. A file that is missing is warned about. How the bytes
are read is left to the caller. -/
def load (path : String) (file : Option (List UInt8))
    (read : List UInt8 → Except Fault (Objects × Ref) := Yaml.read) : Attempt Store :=
  match file with
  | none => do
    .record (.registryMissing path)
    pure (ofEntries [])
  | some bytes => .ofExcept ((read bytes).map fun (objects, ref) => ofShared objects ref)

/-- The store of the packaged registry. -/
def packaged : Store := ofEntries Registry.packaged

/-! ### What a store holds -/

/-- How the registry is read. -/
def reader (s : Store) : Reader Ref := .shared s.objects

/-- The fields of the table with a number. -/
def fieldsAt (s : Store) (id : Nat) : Fields :=
  ((Ref.object id).fields? s.objects).getD []

/-- The values of fields. Where an object stands inside itself, the place is marked. -/
def entriesOf (s : Store) (fields : Fields) : Entries :=
  fields.map fun e => (e.1, e.2.outline s.objects)

/-- Plain fields hold their own values. -/
@[simp] theorem entriesOf_fieldsOf (s : Store) (entries : Entries) :
    s.entriesOf (fieldsOf entries) = entries := by
  simp [entriesOf, fieldsOf, Function.comp_def]

/-- The entries of the registry. -/
def entries (s : Store) : Entries :=
  s.entriesOf (s.fieldsAt s.registry)

/-- The entry of a code or symbol. -/
def find (s : Store) (code : String) : Except Fault (Option Fields) :=
  findBy s.reader (.object s.registry) code

/-! ### Copies and changes -/

/-- Hand out a new table with given fields. Its number is the one after those of all objects. -/
def handOut (s : Store) (fields : Fields) : Store :=
  { s with objects := s.objects.push (.table fields), copies := s.objects.size :: s.copies }

/-- Hand out a copy of the registry. -/
def copy (s : Store) : Store :=
  s.handOut (s.fieldsAt s.registry)

/-- Empty a table. -/
def clearAt (s : Store) (id : Nat) : Store :=
  { s with objects := s.objects.setIfInBounds id (.table []) }

/-- Store a value under a key of a table. A table that comes into the registry itself is an entry
from then on, which can be changed like any other. -/
def putAt (s : Store) (id : Nat) (key : String) (new : Value) : Store :=
  let boxed := if id = s.registry then box s.objects new else (s.objects, .value new)
  let changed := Value.insert (.text key) boxed.2 (s.fieldsAt id)
  { s with objects := boxed.1.setIfInBounds id (.table changed) }

/-- Set a field of the entry under a key of a table, if it has fields. -/
def assignAt (s : Store) (id : Nat) (key field : String) (new : Value) : Except Fault Store :=
  match Value.lookup? (.text key) (s.fieldsAt id) with
  | none => .error .missingKey
  | some (.object inner) =>
    match s.objects[inner]? with
    | some (.table _) => .ok (s.putAt inner field new)
    | _ => .error .notAssignable
  | some _ => .error .notAssignable

/-! ### Calls -/

/-- One call. -/
def perform (s : Store) : Call → Store × Except Fault Answer
  | .registry => (s.copy, .ok (.registry (s.copy.entriesOf (s.copy.fieldsAt s.objects.size))))
  | .entry code =>
    match s.find code with
    | .ok (some fields) =>
      let handed := s.handOut fields
      (handed, .ok (.entry (some (handed.entriesOf (handed.fieldsAt s.objects.size)))))
    | .ok none => (s, .ok (.entry none))
    | .error fault => (s, .error fault)
  | .messages codes =>
    (s.copy, (messagesBy s.copy.reader (.object s.objects.size) codes).map .messages)
  | .clear => (s.copy.clearAt s.objects.size, .ok .done)
  | .put key new => (s.copy.putAt s.objects.size key new, .ok .done)
  | .setField key field new =>
    match s.copy.assignAt s.objects.size key field new with
    | .ok changed => (changed, .ok .done)
    | .error fault => (s.copy, .error fault)
  | .setEntryField code field new =>
    match s.find code with
    | .ok (some fields) => ((s.handOut fields).putAt s.objects.size field new, .ok .done)
    | .ok none => (s, .error .notAssignable)
    | .error fault => (s, .error fault)
  | .clearCopy back =>
    match s.copies[back]? with
    | some id => (s.clearAt id, .ok .done)
    | none => (s, .error .missingKey)
  | .putCopy back key new =>
    match s.copies[back]? with
    | some id => (s.putAt id key new, .ok .done)
    | none => (s, .error .missingKey)

/-- Calls one after another. A fault ends its own call only. -/
def performAll (s : Store) : List Call → Store × List (Except Fault Answer)
  | [] => (s, [])
  | call :: rest =>
    let first := s.perform call
    let others := first.1.performAll rest
    (others.1, first.2 :: others.2)

end Store

end Registry

end ClassQuota
