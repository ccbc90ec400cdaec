import ClassQuota.Fault

/-!
# A place in a YAML text

The lexer reads a text from front to back and keeps track of the line and the column it has
reached. Line breaks are the line feed, the next line, the line separator and the paragraph
separator. Reading past the end gives the character zero, which no text holds.

## Main definitions

* `Yaml.Cursor` — a place in a text
* `Yaml.Refusal` — why a text is refused, and where
* `Yaml.Cursor.lineBreak?` — reading a line break
* `Yaml.isBreak`, `Yaml.isBlankEnd`, … — classes of characters
-/

namespace ClassQuota

namespace Yaml

/-- What stands after the last character of a text. -/
def endMark : Char := '\x00'

/-- A line break. -/
def isBreak (c : Char) : Bool :=
  c == '\n' || c == '\u0085' || c == '\u2028' || c == '\u2029'

/-- A line break or the end. -/
def isLineEnd (c : Char) : Bool :=
  c == endMark || isBreak c

/-- A space, a line break or the end. -/
def isSpaceEnd (c : Char) : Bool :=
  c == ' ' || isLineEnd c

/-- A space, a tab, a line break or the end. -/
def isBlankEnd (c : Char) : Bool :=
  c == '\t' || isSpaceEnd c

/-- A space or a tab. -/
def isBlank (c : Char) : Bool :=
  c == ' ' || c == '\t'

/-- A character of the name of an anchor, a directive or a tag handle. -/
def isWord (c : Char) : Bool :=
  c.isAlphanum || c == '-' || c == '_'

/-- A failure of a malformed text. -/
def malformed {α : Type} : Except Fault α :=
  .error .malformedRegistry

/-- Why a text is refused, and how far it had to be read to tell. -/
structure Refusal where
  index : Nat
  fault : Fault
  deriving Repr

/-- A place in a text: what is left of it, and how much lies before. -/
structure Cursor where
  rest : List Char
  index : Nat := 0
  line : Nat := 0
  column : Nat := 0
  deriving Repr

namespace Cursor

/-- A failure at a place. -/
def fail {α : Type} (c : Cursor) (fault : Fault) : Except Refusal α :=
  .error ⟨c.index, fault⟩

/-- A failure of a text that is malformed at a place. -/
def refuse {α : Type} (c : Cursor) : Except Refusal α :=
  c.fail .malformedRegistry

/-- The character so many places further on. -/
def peek (c : Cursor) (n : Nat) : Char :=
  c.rest.getD n endMark

/-- The character at the cursor. -/
def head (c : Cursor) : Char :=
  c.peek 0

/-- The cursor one character further on. A byte order mark takes no column. -/
def next (c : Cursor) : Cursor :=
  match c.rest with
  | [] => c
  | d :: rest =>
    if isBreak d then ⟨rest, c.index + 1, c.line + 1, 0⟩
    else ⟨rest, c.index + 1, c.line, if d = '\ufeff' then c.column else c.column + 1⟩

/-- The cursor so many characters further on. -/
def skip : Nat → Cursor → Cursor
  | 0, c => c
  | n + 1, c => skip n c.next

/-- The characters of a class at the cursor, and the cursor after them. -/
def span (p : Char → Bool) (c : Cursor) : List Char × Cursor :=
  let taken := c.rest.takeWhile p
  (taken, skip taken.length c)

/-- The cursor after the characters of a class. -/
def skipWhile (p : Char → Bool) (c : Cursor) : Cursor :=
  (c.span p).2

/-- The cursor after a character that must stand at it. -/
def expect (d : Char) (c : Cursor) : Except Refusal Cursor :=
  if c.head = d ∧ c.rest ≠ [] then .ok c.next else c.refuse

/-- A line break at the cursor, as it is read, and the cursor after it. -/
def lineBreak? (c : Cursor) : Option (Char × Cursor) :=
  let d := c.head
  if d = '\n' ∨ d = '\u0085' then some ('\n', c.next)
  else if isBreak d then some (d, c.next)
  else none

/-- Whether three equal characters that separate documents stand at the cursor. -/
def atSeparator (c : Cursor) (d : Char) : Bool :=
  c.head == d && c.peek 1 == d && c.peek 2 == d && isBlankEnd (c.peek 3)

/-- Whether either separator of documents stands at the cursor. -/
def atAnySeparator (c : Cursor) : Bool :=
  c.atSeparator '-' || c.atSeparator '.'

/-- The cursor after a comment, if one begins at it. -/
def skipComment (c : Cursor) : Cursor :=
  if c.head = '#' then c.skipWhile (!isLineEnd ·) else c

/-- The cursor on the next line, after nothing but spaces and a comment. -/
def finishLine (c : Cursor) : Except Refusal Cursor :=
  let c := (c.skipWhile (· == ' ')).skipComment
  match c.lineBreak? with
  | some (_, c) => .ok c
  | none => if c.head = endMark then .ok c else c.refuse

end Cursor

end Yaml

end ClassQuota
