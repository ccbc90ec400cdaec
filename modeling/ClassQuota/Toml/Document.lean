import ClassQuota.Text.Utf8
import ClassQuota.Toml.Draft
import ClassQuota.Toml.Quotation
import ClassQuota.Toml.Scalar

/-!
# TOML documents

A document is a sequence of lines, each with a header or an assignment or nothing, and each
with a comment or none.

## Main definitions

* `Toml.key` — a dotted name
* `Toml.value` — a value
* `Toml.document` — the table of a document
* `Toml.read` — the table of a file
-/

namespace ClassQuota

namespace Toml

/-- A character of a name that is written without quotes. -/
def isBare (c : Char) : Bool :=
  c.isAlphanum || c == '-' || c == '_'

/-- One part of a dotted name. -/
def keyPart (cs : List Char) : Reading String :=
  match cs with
  | [] => malformed
  | c :: rest =>
    if isBare c then .ok (String.ofList (cs.takeWhile isBare), cs.dropWhile isBare)
    else if c = '"' ∨ c = '\x27' then
      (lineBody c rest).map fun r => (String.ofList r.1, r.2)
    else malformed

/-- A dotted name and the blanks after it. -/
def key : (fuel : Nat) → List Char → Except Flaw (Path × List Char)
  | 0, _ => malformed
  | fuel + 1, cs => do
    let (part, rest) ← keyPart cs
    match skipBlanks rest with
    | '.' :: rest =>
      let (parts, rest) ← key fuel (skipBlanks rest)
      .ok (part :: parts, rest)
    | rest => .ok ([part], rest)

/-- The dotted name at the front of a text. -/
def keyAt (cs : List Char) : Except Flaw (Path × List Char) :=
  key cs.length cs

/-- A step that can be refused. -/
def accept {α : Type} : Option α → Except Flaw α
  | some a => .ok a
  | none => malformed

/-- A dotted name and the text after the equals sign. -/
def keyAndEquals (cs : List Char) : Except Flaw (Path × List Char) := do
  let (key, rest) ← keyAt cs
  match rest with
  | '=' :: rest => .ok (key, skipBlanks rest)
  | _ => malformed

/-- The room for arrays and inline tables that stand inside each other. -/
def nestingRoom : Nat := 981

/-- The room that an array takes. -/
def arrayRoom : Nat := 2

/-- The room that an inline table takes. -/
def tableRoom : Nat := 3

mutual

/-- A value, with so much room for what stands inside it. The fuel bounds the number of values,
items and entries. -/
def value : (fuel room : Nat) → List Char → Except Flaw (Value × List Char)
  | 0, _, _ => malformed
  | fuel + 1, room, cs =>
    match cs with
    | '[' :: rest => do
      match ← skipFiller rest.length rest with
      | ']' :: rest => .ok (.list [], rest)
      | rest =>
        if room < arrayRoom then .error .tooDeep
        else
          let (items, rest) ← arrayItems fuel (room - arrayRoom) rest
          .ok (.list items, rest)
    | '\x7b' :: rest =>
      match skipBlanks rest with
      | '\x7d' :: rest => .ok (.table [], rest)
      | rest =>
        if room < tableRoom then .error .tooDeep
        else inlineEntries fuel (room - tableRoom) {} rest
    | c :: rest =>
      if c = '"' ∨ c = '\x27' then
        (quotation c rest).map fun r => (.text (String.ofList r.1), r.2)
      else scalar cs
    | [] => malformed

/-- The items of an array up to its closing bracket. -/
def arrayItems : (fuel room : Nat) → List Char → Except Flaw (List Value × List Char)
  | 0, _, _ => malformed
  | fuel + 1, room, cs => do
    let (item, rest) ← value fuel room cs
    match ← skipFiller rest.length rest with
    | ']' :: rest => .ok ([item], rest)
    | ',' :: rest =>
      match ← skipFiller rest.length rest with
      | ']' :: rest => .ok ([item], rest)
      | rest =>
        let (items, rest) ← arrayItems fuel room rest
        .ok (item :: items, rest)
    | _ => malformed

/-- The entries of an inline table up to its closing brace. -/
def inlineEntries :
    (fuel room : Nat) → InlineDraft → List Char → Except Flaw (Value × List Char)
  | 0, _, _, _ => malformed
  | fuel + 1, room, draft, cs => do
    let (key, rest) ← keyAndEquals cs
    let (item, rest) ← value fuel room rest
    let draft ← accept (draft.assign? key item)
    match skipBlanks rest with
    | '\x7d' :: rest => .ok (.table draft.entries, rest)
    | ',' :: rest => inlineEntries fuel room draft (skipBlanks rest)
    | _ => malformed

end

/-- An assignment. -/
def assignment (draft : Draft) (cs : List Char) : Except Flaw (Draft × List Char) := do
  let (key, rest) ← keyAndEquals cs
  let (item, rest) ← value (rest.length + 1) nestingRoom rest
  let draft ← accept (draft.assign? key item)
  .ok (draft, rest)

/-- The header of a table, after its first bracket. -/
def header (draft : Draft) (cs : List Char) : Except Flaw (Draft × List Char) := do
  match cs with
  | '[' :: rest =>
    let (path, rest) ← keyAt (skipBlanks rest)
    let draft ← accept (draft.endSection.openItem? path)
    match rest with
    | ']' :: ']' :: rest => .ok (draft, rest)
    | _ => malformed
  | _ =>
    let (path, rest) ← keyAt (skipBlanks cs)
    let draft ← accept (draft.endSection.openTable? path)
    match rest with
    | ']' :: rest => .ok (draft, rest)
    | _ => malformed

/-- What stands on a line before its comment. -/
def statement (draft : Draft) (cs : List Char) : Except Flaw (Draft × List Char) :=
  match cs with
  | [] => .ok (draft, cs)
  | '[' :: rest => header draft rest
  | c :: _ =>
    if c = '\n' ∨ c = '#' then .ok (draft, cs)
    else if isBare c ∨ c = '"' ∨ c = '\x27' then assignment draft cs
    else malformed

/-- The lines of a document. -/
def lines : (fuel : Nat) → Draft → List Char → Except Flaw Draft
  | 0, _, _ => malformed
  | fuel + 1, draft, cs => do
    let (draft, rest) ← statement draft (skipBlanks cs)
    match ← skipComment (skipBlanks rest) with
    | [] => .ok draft
    | '\n' :: rest => lines fuel draft rest
    | _ => malformed

/-- The text with each carriage return before a line feed left out. -/
def unixLines : List Char → List Char
  | [] => []
  | '\r' :: '\n' :: cs => '\n' :: unixLines cs
  | c :: cs => c :: unixLines cs

/-- The table of a document. -/
def document (cs : List Char) : Except Flaw Entries :=
  let cs := unixLines cs
  (lines (cs.length + 1) {} cs).map Draft.entries

/-- Why a file is no document. -/
inductive FileFlaw where
  | notUtf8
  | text (flaw : Flaw)
  deriving DecidableEq, Repr

/-- The table of a file. -/
def read (bytes : List UInt8) : Except FileFlaw Entries :=
  match Text.decodeUtf8 bytes with
  | none => .error .notUtf8
  | some cs => (document cs).mapError .text

end Toml

end ClassQuota
