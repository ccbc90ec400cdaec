import ClassQuota.Value
import ClassQuota.Number.Numeral
import ClassQuota.Number.Shortest
import ClassQuota.Text.Quoted

/-!
# Values in messages

A value is shown in a message by its literal, which tells its type: texts and bytes are quoted,
sequences are bracketed, dates and times name the call that builds them. Where a value itself is
the message it is shown plain, which differs from the literal for texts, dates and times only.
A list or table that stands inside itself is shown there by an ellipsis in its brackets.
A set of integers is shown in an order of its own. A value that holds an integer with too many
digits cannot be shown.

## Main definitions

* `Value.literal?` — the literal of a value
* `Value.plain?` — the plain text of a value
-/

namespace ClassQuota

/-- Items separated by a comma and a space. -/
def commaSeparated : List (List Char) → List Char
  | [] => []
  | [item] => item
  | item :: rest => item ++ ',' :: ' ' :: commaSeparated rest

namespace Offset

/-- A length of time as whole days, which may be negative, and the seconds left over. -/
def lengthLiteral (seconds : Int) : String :=
  let days := seconds / 86400
  let rest := seconds % 86400
  let parts := (if days = 0 then [] else ["days=" ++ toString days]) ++
    (if rest = 0 then [] else ["seconds=" ++ toString rest])
  "datetime.timedelta(" ++ (if parts.isEmpty then "0" else ", ".intercalate parts) ++ ")"

/-- The literal of an offset. -/
def literal (seconds : Int) : String :=
  if seconds = 0 then "datetime.timezone.utc"
  else "datetime.timezone(" ++ lengthLiteral seconds ++ ")"

/-- The last argument of a literal with an offset. -/
def argument : Option Int → String
  | none => ""
  | some seconds => ", tzinfo=" ++ literal seconds

end Offset

/-- The arguments of a time: seconds and microseconds are left out where they are zero. -/
def TimeOfDay.arguments (t : TimeOfDay) : List Nat :=
  [t.hour, t.minute] ++
    (if t.micro ≠ 0 then [t.second, t.micro] else if t.second ≠ 0 then [t.second] else [])

/-- Numbers separated by a comma and a space. -/
def numberList (ns : List Nat) : String :=
  ", ".intercalate (ns.map toString)

def Date.literal (d : Date) : String :=
  "datetime.date(" ++ numberList [d.year, d.month, d.day] ++ ")"

def TimeOfDay.literal (t : TimeOfDay) : String :=
  "datetime.time(" ++ numberList t.arguments ++ Offset.argument t.offset ++ ")"

def DateTime.literal (d : DateTime) : String :=
  let parts := [d.date.year, d.date.month, d.date.day] ++ d.time.arguments
  "datetime.datetime(" ++ numberList parts ++ Offset.argument d.time.offset ++ ")"

namespace Value

/-! ### The order of a set -/

/-- How many places a set with so many items has. It is a power of two, for all but the smallest
sets the first one above twice the number of items. -/
def placeCount (items : Nat) : Nat :=
  if items < 5 then 8 else 1 <<< ((2 * items).log2 + 1)

/-- The place of an item among so many: that of an integer is its remainder. -/
def place? (places : Nat) : Value → Option Nat
  | .int n => some (n % places).toNat
  | _ => none

/-- Parts of the items of a set as they are shown: in the order of their places if all items are
integers, else as they were put in. -/
def inPlaces {α : Type} (items : List Value) (parts : List α) : List α :=
  match items.mapM (place? (placeCount items.length)) with
  | some places =>
    ((places.zip parts).mergeSort fun a b => a.1 ≤ b.1).map Prod.snd
  | none => parts

mutual

/-- The characters of a value's literal. -/
def literalChars? : Value → Option (List Char)
  | .null => some "None".toList
  | .bool b => some (if b then "True".toList else "False".toList)
  | .int n => (Numeral.write n).map String.toList
  | .float x => some x.text.toList
  | .text s => some (Text.quoted s.toList)
  | .brokenText codes => some (Text.quotedCodes codes)
  | .bytes bs => some (Text.quotedBytes bs)
  | .list xs => (itemLiterals? xs).map fun items => '[' :: commaSeparated items ++ [']']
  | .tuple xs => (itemLiterals? xs).map fun items =>
      '(' :: commaSeparated items ++ (if items.length = 1 then [',', ')'] else [')'])
  | .set xs => (itemLiterals? xs).map fun items =>
      if items.isEmpty then "set()".toList
      else '\x7b' :: commaSeparated (inPlaces xs items) ++ ['\x7d']
  | .table entries => (entryLiterals? entries).map fun items =>
      '\x7b' :: commaSeparated items ++ ['\x7d']
  | .recurrence true => some "\x7b...\x7d".toList
  | .recurrence false => some "[...]".toList
  | .date d => some d.literal.toList
  | .dateTime d => some d.literal.toList
  | .time t => some t.literal.toList

/-- The literals of the items of a sequence. -/
def itemLiterals? : List Value → Option (List (List Char))
  | [] => some []
  | x :: xs =>
    match literalChars? x, itemLiterals? xs with
    | some item, some items => some (item :: items)
    | _, _ => none

/-- The literals of the entries of a table: key, colon and value. -/
def entryLiterals? : Entries → Option (List (List Char))
  | [] => some []
  | (k, v) :: es =>
    match literalChars? k, literalChars? v, entryLiterals? es with
    | some key, some value, some items => some ((key ++ ':' :: ' ' :: value) :: items)
    | _, _, _ => none

end

/-- The literal of a value, unless it holds an integer with too many digits. -/
def literal? (v : Value) : Option String :=
  v.literalChars?.map String.ofList

/-- The plain text of a value. -/
def plain? : Value → Option String
  | .text s => some s
  | .brokenText codes => some (String.ofList (Text.joined codes))
  | .date d => some d.iso
  | .dateTime d => some (d.iso " ")
  | .time t => some t.iso
  | v => v.literal?

end Value

end ClassQuota
