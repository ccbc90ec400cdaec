import ClassQuota.Number.Numeral

/-!
# Reading a TOML text

Readers take characters from the front of a text and leave the rest. All malformed texts fail
alike; an integer with too many digits and arrays that stand inside each other too deep are
failures of their own.

## Main definitions

* `Toml.Flaw` — why a text is no document
* `Toml.Reading` — what a reader returns
* `Toml.skipBlanks`, `Toml.skipComment` — skipping what carries no meaning
-/

namespace ClassQuota

namespace Toml

/-- Why a text is no document. -/
inductive Flaw where
  | malformed
  | tooManyDigits (digits : Nat)
  /-- Arrays and tables stand inside each other too deep. -/
  | tooDeep
  deriving DecidableEq, Repr

/-- What was read from the front of a text, and the rest of the text. -/
abbrev Reading (α : Type) := Except Flaw (α × List Char)

/-- A text that is no document. -/
def malformed {α : Type} : Except Flaw α :=
  .error .malformed

/-- A space or a tab. -/
def isBlank (c : Char) : Bool :=
  c == ' ' || c == '\t'

/-- A control character, which may not stand in a text. -/
def isControl (c : Char) : Bool :=
  c.toNat < 0x20 || c.toNat == 0x7f

/-- A control character other than the tab. -/
def isForbidden (c : Char) : Bool :=
  isControl c && c != '\t'

/-- The text after its leading spaces and tabs. -/
def skipBlanks (cs : List Char) : List Char :=
  cs.dropWhile isBlank

/-- The rest of the line, without forbidden characters, and what follows from the line break
on. -/
def commentBody : List Char → Except Flaw (List Char)
  | [] => .ok []
  | c :: cs =>
    if c = '\n' then .ok (c :: cs)
    else if isForbidden c then malformed
    else commentBody cs

/-- The text after a comment, if it begins with one. -/
def skipComment : List Char → Except Flaw (List Char)
  | '#' :: cs => commentBody cs
  | cs => .ok cs

/-- The text after blanks, line breaks and comments. -/
def skipFiller : (fuel : Nat) → List Char → Except Flaw (List Char)
  | 0, cs => .ok cs
  | fuel + 1, cs => do
    let after ← skipComment (cs.dropWhile fun c => isBlank c || c == '\n')
    if after.length = cs.length then .ok after else skipFiller fuel after

/-- Exactly `count` ASCII digits, as a number. -/
def fixedDigits? (count : Nat) (cs : List Char) : Option (Nat × List Char) :=
  let ds := (cs.take count).filterMap (baseDigit? 10)
  if ds.length = count then some (ofDigits 10 ds, cs.drop count) else none

/-- Exactly `count` ASCII digits whose number lies in a range. -/
def fixedNumber? (count first last : Nat) (cs : List Char) : Option (Nat × List Char) :=
  (fixedDigits? count cs).filter fun r => first ≤ r.1 && r.1 ≤ last

/-- The text after a given character. -/
def after? (c : Char) : List Char → Option (List Char)
  | d :: cs => if d = c then some cs else none
  | [] => none

end Toml

end ClassQuota
