import ClassQuota.Text.Fields

/-!
# Tags of YAML

A tag says what a node stands for. A node may name its tag; a plain scalar that names none has
the tag of the first pattern that its text fits, and is text if it fits none. The patterns are
those of YAML 1.1 in its customary restriction: an exponent needs a sign, and numbers may be
written in base sixty.

## Main definitions

* `Yaml.Tag` — the tags that are known
* `Yaml.Tag.ofName` — the tag of a name
* `Yaml.Tag.ofText` — the tag that the text of a plain scalar has
-/

namespace ClassQuota

namespace Yaml

/-- What a node stands for. -/
inductive Tag where
  | null
  | bool
  | int
  | float
  | binary
  | timestamp
  | text
  | sequence
  | mapping
  | orderedMapping
  | pairs
  | set
  /-- The key of entries that are merged into a mapping. -/
  | merge
  /-- The key of the entry that a mapping stands for. -/
  | default
  | unknown
  deriving DecidableEq, Repr

/-- The beginning of the names of all known tags. -/
def tagBeginning : String := "tag:yaml.org,2002:"

namespace Tag

/-- The known tags after the beginning that they have in common. -/
def names : List (String × Tag) := [
  ("null", .null),
  ("bool", .bool),
  ("int", .int),
  ("float", .float),
  ("binary", .binary),
  ("timestamp", .timestamp),
  ("str", .text),
  ("seq", .sequence),
  ("map", .mapping),
  ("omap", .orderedMapping),
  ("pairs", .pairs),
  ("set", .set),
  ("merge", .merge),
  ("value", .default)]

/-- The tag of a full name. -/
def ofName (name : String) : Tag :=
  ((names.find? fun entry => tagBeginning ++ entry.1 == name).map Prod.snd).getD .unknown

/-! ### The texts of plain scalars -/

/-- The text after a sign, if there is one. -/
def unsigned : List Char → List Char
  | '-' :: cs => cs
  | '+' :: cs => cs
  | cs => cs

/-- A digit or an underscore. -/
def isDigitLike (c : Char) : Bool :=
  c.isDigit || c == '_'

/-- A digit and then digits and underscores. -/
def isDigits : List Char → Bool
  | c :: cs => c.isDigit && cs.all isDigitLike
  | [] => false

/-- Digits as above, but not with a leading zero. -/
def isCounting (cs : List Char) : Bool :=
  isDigits cs && cs.head? != some '0'

/-- A place of a number in base sixty after its first. -/
def isSixtieth : List Char → Bool
  | [c] => c.isDigit
  | [c, d] => c.isDigit && c.toNat ≤ '5'.toNat && d.isDigit
  | _ => false

/-- A number in base sixty of two or more places. -/
def isSexagesimal (isFirst : List Char → Bool) (cs : List Char) : Bool :=
  match Text.fields ':' cs with
  | first :: second :: others => isFirst first && (second :: others).all isSixtieth
  | _ => false

/-- Nothing, or an exponent with its sign. -/
def isExponent : List Char → Bool
  | [] => true
  | c :: d :: cs =>
    (c == 'e' || c == 'E') && (d == '-' || d == '+') && !cs.isEmpty && cs.all Char.isDigit
  | _ => false

/-- A truth value. -/
def isBool (s : String) : Bool :=
  ["yes", "Yes", "YES", "no", "No", "NO", "true", "True", "TRUE", "false", "False", "FALSE",
    "on", "On", "ON", "off", "Off", "OFF"].contains s

/-- Nothing at all. -/
def isNull (s : String) : Bool :=
  ["~", "null", "Null", "NULL", ""].contains s

/-- A floating-point number. -/
def isFloat (cs : List Char) : Bool :=
  let word := String.ofList (unsigned cs)
  let whole := (unsigned cs).takeWhile (· != '.')
  match (unsigned cs).dropWhile (· != '.') with
  | '.' :: rest =>
    let exponent := rest.dropWhile isDigitLike
    (isDigits whole && isExponent exponent) ||
      (isSexagesimal isDigits whole && exponent.isEmpty) ||
      (cs.head? == some '.' && isDigits (rest.takeWhile isDigitLike) && isExponent exponent) ||
      [".inf", ".Inf", ".INF"].contains word ||
      (cs.head? == some '.' && [".nan", ".NaN", ".NAN"].contains word)
  | _ => false

/-- A digit of base two or an underscore. -/
def isBinaryDigit (c : Char) : Bool :=
  c == '0' || c == '1' || c == '_'

/-- A digit of base eight or an underscore. -/
def isOctalDigit (c : Char) : Bool :=
  ('0'.toNat ≤ c.toNat && c.toNat ≤ '7'.toNat) || c == '_'

/-- A digit of base sixteen or an underscore. -/
def isHexDigit (c : Char) : Bool :=
  isDigitLike c || ('a'.toNat ≤ c.toNat && c.toNat ≤ 'f'.toNat) ||
    ('A'.toNat ≤ c.toNat && c.toNat ≤ 'F'.toNat)

/-- An integer. -/
def isInt (cs : List Char) : Bool :=
  match unsigned cs with
  | ['0'] => true
  | '0' :: 'b' :: rest => !rest.isEmpty && rest.all isBinaryDigit
  | '0' :: 'x' :: rest => !rest.isEmpty && rest.all isHexDigit
  | '0' :: rest => rest.all isOctalDigit
  | rest => isCounting rest || isSexagesimal isCounting rest

/-- One or two digits at the front of a text, and what follows them. -/
def shortNumber? : List Char → Option (List Char × List Char)
  | c :: d :: rest =>
    if c.isDigit then
      if d.isDigit then some ([c, d], rest) else some ([c], d :: rest)
    else none
  | [c] => if c.isDigit then some ([c], []) else none
  | [] => none

/-- Exactly so many digits at the front of a text, and what follows them. -/
def exactNumber? (count : Nat) (cs : List Char) : Option (List Char × List Char) :=
  if (cs.take count).length = count ∧ (cs.take count).all Char.isDigit then
    some (cs.take count, cs.drop count)
  else none

/-- The text after a character that must stand at its front. -/
def after? (c : Char) : List Char → Option (List Char)
  | d :: rest => if c = d then some rest else none
  | [] => none

end Tag

/-- The parts of a date, with those of a time of day where there is one, as they are written. -/
structure Timestamp where
  year : List Char
  month : List Char
  day : List Char
  time : Option (List Char × List Char × List Char) := none
  fraction : List Char := []
  /-- The offset from universal time: whether it is behind, its hours and its minutes. -/
  offset : Option (Bool × List Char × List Char) := none
  deriving Repr

namespace Timestamp

open Tag

/-- A blank between a date and a time. -/
def isBlank (c : Char) : Bool :=
  c == ' ' || c == '\t'

/-- The text after what separates a date from a time. -/
def afterSeparator? : List Char → Option (List Char)
  | c :: rest =>
    if c = 'T' ∨ c = 't' then some rest
    else if isBlank c then some (rest.dropWhile isBlank)
    else none
  | [] => none

/-- The offset that a text is, if it is one. -/
def offset? : List Char → Option (Option (Bool × List Char × List Char))
  | [] => some none
  | cs =>
    match cs.dropWhile isBlank with
    | ['Z'] => some (some (false, [], []))
    | sign :: rest =>
      if sign = '-' ∨ sign = '+' then
        match shortNumber? rest with
        | some (hours, []) => some (some (sign == '-', hours, []))
        | some (hours, ':' :: rest) =>
          match exactNumber? 2 rest with
          | some (minutes, []) => some (some (sign == '-', hours, minutes))
          | _ => none
        | _ => none
      else none
    | [] => none

/-- The timestamp that a text is, if it is one. -/
def ofChars? (cs : List Char) : Option Timestamp := do
  let (year, rest) ← exactNumber? 4 cs
  let (month, rest) ← shortNumber? (← after? '-' rest)
  let (day, rest) ← shortNumber? (← after? '-' rest)
  if rest = [] then some { year := year, month := month, day := day }
  else
    let (hour, rest) ← shortNumber? (← afterSeparator? rest)
    let (minute, rest) ← exactNumber? 2 (← after? ':' rest)
    let (second, rest) ← exactNumber? 2 (← after? ':' rest)
    let (fraction, rest) := match rest with
      | '.' :: rest => (rest.takeWhile Char.isDigit, rest.dropWhile Char.isDigit)
      | _ => ([], rest)
    let offset ← offset? rest
    some ⟨year, month, day, some (hour, minute, second), fraction, offset⟩

/-- Whether a plain scalar with such a text is a timestamp. A date alone has two digits each for
its month and its day. -/
def isPlain (t : Timestamp) : Bool :=
  t.time.isSome || (t.month.length == 2 && t.day.length == 2)

end Timestamp

namespace Tag

/-- A text without the line feed that it ends with, if it does. -/
def dropFinalBreak (cs : List Char) : List Char :=
  if cs.getLast? = some '\n' then cs.dropLast else cs

/-- The tag of a text that is not empty and ends with no line feed. -/
def ofLine (cs : List Char) : Tag :=
  let s := String.ofList cs
  if isBool s then .bool
  else if isFloat cs then .float
  else if isInt cs then .int
  else if s = "<<" then .merge
  else if isNull s then .null
  else if (Timestamp.ofChars? cs).any Timestamp.isPlain then .timestamp
  else if s = "=" then .default
  else if ["!", "&", "*"].contains s then .unknown
  else .text

/-- The tag that the text of a plain scalar has. A line feed at the end does not count. -/
def ofText (cs : List Char) : Tag :=
  match cs with
  | [] => .null
  | '\n' :: _ => .text
  | _ => ofLine (dropFinalBreak cs)

end Tag

end Yaml

end ClassQuota
