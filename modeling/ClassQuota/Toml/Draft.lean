import ClassQuota.Value

/-!
# Tables under construction

A document is built entry by entry. Some names are closed on the way: a table that has been
opened by a header cannot be opened again, and an array or inline table given as a value cannot
be extended, nor anything inside it.

## Main definitions

* `Toml.updateTable?` — changing the table at the end of a path
* `Toml.Draft` — a document under construction
* `Toml.Draft.openTable?`, `Toml.Draft.openItem?`, `Toml.Draft.assign?` — its statements
-/

namespace ClassQuota

namespace Toml

/-- The names that lead to a table. -/
abbrev Path := List String

/-- The entries with one entry changed or, where it is absent, added. -/
def alter? (name : String) (f : Option Value → Option Value) : Entries → Option Entries
  | [] => (f none).map fun v => [(.text name, v)]
  | (k, v) :: rest =>
    if k.same (.text name) then (f (some v)).map fun w => (k, w) :: rest
    else (alter? name f rest).map ((k, v) :: ·)

/-- The last item of a list that is a table, and the items before it. -/
def lastTable? (xs : List Value) : Option (List Value × Entries) :=
  match xs.getLast? with
  | some (.table entries) => some (xs.dropLast, entries)
  | _ => none

/-- A change of the table at the end of a path. Tables that are missing on the way are made; of a
list of tables the last is entered, where `throughLists` allows it. -/
def updateTable? (throughLists : Bool) :
    Path → (Entries → Option Entries) → Entries → Option Entries
  | [], f, entries => f entries
  | name :: path, f, entries =>
    alter? name (fun
      | none => (updateTable? throughLists path f []).map .table
      | some (.table inner) => (updateTable? throughLists path f inner).map .table
      | some (.list xs) =>
        if throughLists then do
          let (before, inner) ← lastTable? xs
          let changed ← updateTable? throughLists path f inner
          some (.list (before ++ [.table changed]))
        else none
      | some _ => none) entries

/-- A new entry; a name that is taken is refused. -/
def addNew? (name : String) (value : Value) (entries : Entries) : Option Entries :=
  match Value.find? name entries with
  | some _ => none
  | none => some (entries ++ [(.text name, value)])

/-- A new table at the end of a list of tables, which is made where it is missing. -/
def addItem? (name : String) (entries : Entries) : Option Entries :=
  alter? name (fun
    | none => some (.list [.table []])
    | some (.list xs) => some (.list (xs ++ [.table []]))
    | some _ => none) entries

/-- Whether one of the paths leads to a table or to something around it. -/
def isWithin (paths : List Path) (path : Path) : Bool :=
  paths.any (·.isPrefixOf path)

/-- A document under construction. -/
structure Draft where
  entries : Entries := []
  /-- The tables that have been opened and cannot be opened again. -/
  opened : List Path := []
  /-- The tables that the current section has opened by dotted names. -/
  pending : List Path := []
  /-- The values that cannot be extended. -/
  closed : List Path := []
  /-- The table that entries are added to. -/
  header : Path := []

namespace Draft

/-- Tables opened by dotted names cannot be opened again once their section has ended. -/
def endSection (d : Draft) : Draft :=
  { d with opened := d.opened ++ d.pending, pending := [] }

/-- Open a table. -/
def openTable? (d : Draft) (path : Path) : Option Draft :=
  if d.opened.contains path || isWithin d.closed path then none
  else do
    let entries ← updateTable? true path some d.entries
    some { d with entries := entries, opened := path :: d.opened, header := path }

/-- Open a new table at the end of a list of tables. What was opened inside the table before it
can be opened again. -/
def openItem? (d : Draft) (path : Path) : Option Draft :=
  if isWithin d.closed path then none
  else do
    let name ← path.getLast?
    let entries ← updateTable? true path.dropLast (addItem? name) d.entries
    let outside (p : Path) : Bool := !path.isPrefixOf p
    some { d with
      entries := entries
      opened := path :: d.opened.filter outside
      closed := d.closed.filter outside
      header := path }

/-- The tables that a dotted name passes through, below the current header. -/
def passed (d : Draft) (key : Path) : List Path :=
  (List.range (key.length - 1)).map fun n => d.header ++ key.take (n + 1)

/-- Whether a value cannot be extended once it is assigned. -/
def closes : Value → Bool
  | .list _ => true
  | .table _ => true
  | _ => false

/-- Assign a value to a dotted name in the current table. -/
def assign? (d : Draft) (key : Path) (value : Value) : Option Draft :=
  let path := d.header ++ key
  if (d.passed key).any d.opened.contains || isWithin d.closed path.dropLast then none
  else do
    let name ← key.getLast?
    let entries ← updateTable? true path.dropLast (addNew? name value) d.entries
    some { d with
      entries := entries
      pending := d.pending ++ d.passed key
      closed := if closes value then path :: d.closed else d.closed }

end Draft

/-- An inline table under construction, with the values in it that cannot be extended. -/
structure InlineDraft where
  entries : Entries := []
  closed : List Path := []

/-- Assign a value to a dotted name in an inline table. -/
def InlineDraft.assign? (d : InlineDraft) (key : Path) (value : Value) : Option InlineDraft :=
  if isWithin d.closed key then none
  else do
    let name ← key.getLast?
    let entries ← updateTable? false key.dropLast (addNew? name value) d.entries
    some ⟨entries, if Draft.closes value then key :: d.closed else d.closed⟩

end Toml

end ClassQuota
