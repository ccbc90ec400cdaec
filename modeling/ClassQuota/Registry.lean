import ClassQuota.Fault
import ClassQuota.Value.Literal
import ClassQuota.Value.Shared

/-!
# The message registry

The registry is a table from message keys to entries. The key of a message is its code after a
common beginning. An entry is found by its code or, failing that, by its symbol: the entries are
then searched in order, and the search stops with a fault at a key that is no text.

A registry may be a plain value, or one whose entries are held in several places. What a look-up
needs to know of either kind is a `Reader`.

## Main definitions

* `MessageText` — template, symbol and description of a message
* `Registry.Reader` — how the values of a registry are read
* `Registry.findBy`, `Registry.messagesBy` — the entry of a code or symbol, and the messages of
  several codes in order of first occurrence
* `Registry.find`, `Registry.message?`, `Registry.messages` — the same in a plain value
-/

namespace ClassQuota

/-- The beginning of the keys of the registry. -/
def keyBeginning : String := "public-types."

/-- The code of the message about too many public declarations. -/
def excessCode : String := "C9501"

/-- The code of the message about a configuration error. -/
def configErrorCode : String := "E9502"

/-- The template, the symbol and the description of a message. -/
structure MessageText where
  template : String
  symbol : String
  description : String
  deriving DecidableEq, Repr

namespace Registry

/-- How the values of a registry are read. -/
structure Reader (α : Type) where
  /-- The fields of a table. -/
  fields? : α → Option (List (Value × α))
  /-- The text that a value is. -/
  text? : α → Option String
  /-- Whether a value counts as present. -/
  isTrue : α → Bool
  /-- The plain text of a value. -/
  plain? : α → Option String

/-- Plain values. -/
def Reader.plain : Reader Value where
  fields?
    | .table entries => some entries
    | _ => none
  text?
    | .text s => some s
    | _ => none
  isTrue := Value.isTrue
  plain? := Value.plain?

/-- Values that share objects. A text never is one. -/
def Reader.shared (objects : Objects) : Reader Ref where
  fields? := Ref.fields? objects
  text?
    | .value (.text s) => some s
    | _ => none
  isTrue := Ref.isTrue objects
  plain? ref := (ref.outline objects).plain?

/-- Whether a key begins as the keys of the registry do. -/
def isMessageKey (key : String) : Bool :=
  keyBeginning.toList.isPrefixOf key.toList

/-- Whether a key of any kind begins as the keys of the registry do, which is asked of texts
only. -/
def beginsAsMessageKey : Value → Except Fault Bool
  | .text key => .ok (isMessageKey key)
  | .brokenText codes => .ok ((Text.codes keyBeginning.toList).isPrefixOf codes)
  | .bytes _ => .error .keyIsBytes
  | _ => .error .keyNotText

section Reading

variable {α : Type} (reader : Reader α)

/-- Whether an entry has the given symbol. -/
def hasSymbol (symbol : String) (fields : List (Value × α)) : Bool :=
  ((Value.find? "symbol" fields).bind reader.text?).any (· == symbol)

/-- The first entry with a symbol. A key that is no text ends the search. -/
def findSymbol? (symbol : String) :
    List (Value × α) → Except Fault (Option (List (Value × α)))
  | [] => .ok none
  | (key, value) :: rest => do
    let isMarked ← beginsAsMessageKey key
    match reader.fields? value with
    | some fields =>
      if isMarked && hasSymbol reader symbol fields then .ok (some fields)
      else findSymbol? symbol rest
    | none => findSymbol? symbol rest

/-- The entry of a code or symbol. A value under the key of the code that is no entry does not
count. -/
def findBy (registry : α) (code : String) : Except Fault (Option (List (Value × α))) :=
  match reader.fields? registry with
  | some entries =>
    match (Value.find? (keyBeginning ++ code) entries).bind reader.fields? with
    | some fields => .ok (some fields)
    | none => findSymbol? reader code entries
  | none => .error .notTable

/-- The plain text of a value. -/
def plainText (value : α) : Except Fault String :=
  match reader.plain? value with
  | some text => .ok text
  | none => .error (.tooManyDigits none)

/-- A field, if it is there and counts as present. -/
def field? (name : String) (fields : List (Value × α)) : Option α :=
  (Value.find? name fields).filter reader.isTrue

/-- The plain text of the first field that there is, or else the code. -/
def textOr (code : String) : Option α → Except Fault String
  | some value => plainText reader value
  | none => .ok code

/-- The message that an entry gives for a code, if it has a template. A missing symbol or
description is replaced by what comes nearest to it. -/
def messageBy? (code : String) (fields : List (Value × α)) :
    Except Fault (Option MessageText) :=
  match field? reader "message_template" fields with
  | none => .ok none
  | some template => do
    let symbol := field? reader "symbol" fields
    let description :=
      field? reader "short_description" fields <|> field? reader "display_name" fields
    .ok (some ⟨← plainText reader template, ← textOr reader code symbol,
      ← textOr reader code description⟩)

end Reading

/-- A list of pairs with a value stored under a key: in the place of the pair with that key, or
at the end. -/
def store {α : Type} (key : String) (value : α) : List (String × α) → List (String × α)
  | [] => [(key, value)]
  | (k, v) :: rest => if k = key then (k, value) :: rest else (k, v) :: store key value rest

/-- The messages found for some codes, added to those found before. -/
def addMessages {α : Type} (reader : Reader α) (registry : α) :
    List (String × MessageText) → List String → Except Fault (List (String × MessageText))
  | found, [] => .ok found
  | found, code :: codes => do
    match ← findBy reader registry code with
    | none => addMessages reader registry found codes
    | some fields =>
      match ← messageBy? reader code fields with
      | none => addMessages reader registry found codes
      | some message => addMessages reader registry (store code message found) codes

/-- The messages of some codes. Codes without a message are left out. -/
def messagesBy {α : Type} (reader : Reader α) (registry : α) (codes : List String) :
    Except Fault (List (String × MessageText)) :=
  addMessages reader registry [] codes

/-- The entry of a code or symbol in a plain value. -/
def find (registry : Value) (code : String) : Except Fault (Option Entries) :=
  findBy .plain registry code

/-- The message that a plain entry gives for a code. -/
def message? (code : String) (fields : Entries) : Except Fault (Option MessageText) :=
  messageBy? .plain code fields

/-- The messages of some codes in a plain value. -/
def messages (registry : Value) (codes : List String) :
    Except Fault (List (String × MessageText)) :=
  messagesBy .plain registry codes

/-! ### A value that shares nothing is read alike in both ways -/

/-- The fields of a table that is held nowhere else. -/
def fieldsOf (entries : Entries) : Fields :=
  entries.map fun e => (e.1, .value e.2)

@[simp] theorem fields?_shared_value (objects : Objects) (v : Value) :
    (Reader.shared objects).fields? (.value v) = (Reader.plain.fields? v).map fieldsOf := by
  cases v <;> rfl

@[simp] theorem find?_fieldsOf (name : String) (entries : Entries) :
    Value.find? name (fieldsOf entries) = (Value.find? name entries).map .value := by
  induction entries with
  | nil => rfl
  | cons e rest ih =>
    obtain ⟨k, v⟩ := e
    simp only [fieldsOf, List.map_cons] at ih ⊢
    cases k <;> simp only [Value.find?, ih]
    split <;> rfl

@[simp] theorem hasSymbol_fieldsOf (objects : Objects) (symbol : String) (entries : Entries) :
    hasSymbol (.shared objects) symbol (fieldsOf entries) =
      hasSymbol .plain symbol entries := by
  simp only [hasSymbol, find?_fieldsOf]
  cases Value.find? "symbol" entries with
  | none => rfl
  | some v => cases v <;> rfl

end Registry

end ClassQuota
