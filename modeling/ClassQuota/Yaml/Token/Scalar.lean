import ClassQuota.Number.Numeral
import ClassQuota.Yaml.Cursor

/-!
# Scalars in a YAML text

A scalar is written between quotes, plain, or as a block of lines of its own. A line break
inside a quoted or plain scalar is read as a space, and each empty line after it as a line feed.
A block keeps its lines, or joins them in the same way; what becomes of the line breaks at its
end is said in its first line.

## Main definitions

* `Yaml.quotedScalar` — a scalar between quotes
* `Yaml.plainScalar` — a scalar without quotes
* `Yaml.blockScalar` — a scalar on lines of its own
-/

namespace ClassQuota

namespace Yaml

/-! ### Quoted scalars -/

/-- The character that a letter stands for after a backslash. -/
def escapes : List (Char × Char) :=
  [('0', '\x00'), ('a', '\x07'), ('b', '\x08'), ('t', '\t'), ('\t', '\t'), ('n', '\n'),
    ('v', '\x0b'), ('f', '\x0c'), ('r', '\r'), ('e', '\x1b'), (' ', ' '), ('"', '"'),
    ('/', '/'), ('\\', '\\'), ('N', '\u0085'), ('_', '\u00a0'), ('L', '\u2028'),
    ('P', '\u2029')]

/-- The number of hexadecimal digits after a letter that follows a backslash. -/
def codeLengths : List (Char × Nat) :=
  [('x', 2), ('u', 4), ('U', 8)]

/-- The code point that so many hexadecimal digits at the cursor give. It may be half of a
surrogate pair. -/
def codeEscape (count : Nat) (c : Cursor) : Except Refusal (Nat × Cursor) :=
  let ds := ((c.rest.take count).takeWhile fun d => (baseDigit? 16 d).isSome).filterMap
    (baseDigit? 16)
  let n := ofDigits 16 ds
  if ds.length < count then (c.skip ds.length).refuse
  else if n < 0x110000 then .ok (n, c.skip count)
  else (c.skip (count - 1)).fail (.noCharacter n)

/-- Line breaks, each after blanks. A separator of documents may not stand at the beginning of a
line. -/
def quotedBreaks : (fuel : Nat) → Cursor → Except Refusal (List Char × Cursor)
  | 0, c => c.refuse
  | fuel + 1, c =>
    if c.atAnySeparator then (c.skip 3).refuse
    else
      let c := c.skipWhile isBlank
      match c.lineBreak? with
      | some (d, c) => do
        let (ds, c) ← quotedBreaks fuel c
        .ok (d :: ds, c)
      | none => .ok ([], c)

/-- The line breaks that are left of a first one and those after it: a line feed alone gives a
space. -/
def foldedBreaks (first : Char) (others : List Char) : List Char :=
  if first ≠ '\n' then first :: others
  else if others.isEmpty then [' ']
  else others

/-- The blanks and line breaks at the cursor. -/
def quotedSpaces (c : Cursor) : Except Refusal (List Char × Cursor) := do
  let (blanks, after) := c.span isBlank
  if after.head = endMark then after.refuse
  else
    match after.lineBreak? with
    | some (d, c) =>
      let (ds, c) ← quotedBreaks (c.rest.length + 1) c
      .ok (foldedBreaks d ds, c)
    | none => .ok (blanks, after)

/-- A character that needs no attention between quotes. -/
def isQuotedPlain (c : Char) : Bool :=
  c != '\x27' && c != '"' && c != '\\' && !isBlankEnd c

/-- The code points up to a blank, a line break or the closing quote. -/
def quotedChars (double : Bool) : (fuel : Nat) → Cursor → Except Refusal (List Nat × Cursor)
  | 0, c => c.refuse
  | fuel + 1, c => do
    let (taken, c) := c.span isQuotedPlain
    let continued (ns : List Nat) (c : Cursor) : Except Refusal (List Nat × Cursor) := do
      let (others, c) ← quotedChars double fuel c
      .ok (Text.codes taken ++ ns ++ others, c)
    let d := c.head
    if !double && d = '\x27' && c.peek 1 = '\x27' then continued [d.toNat] (c.skip 2)
    else if (double && d = '\x27') || (!double && (d = '"' || d = '\\')) then
      continued [d.toNat] c.next
    else if double && d = '\\' then
      let c := c.next
      match escapes.lookup c.head, codeLengths.lookup c.head, c.lineBreak? with
      | some e, _, _ => continued [e.toNat] c.next
      | none, some count, _ =>
        let (n, c) ← codeEscape count c.next
        continued [n] c
      | none, none, some (_, c) =>
        let (ds, c) ← quotedBreaks (c.rest.length + 1) c
        continued (Text.codes ds) c
      | none, none, none => c.refuse
    else .ok (Text.codes taken, c)

/-- The text up to the closing quote, and the cursor after it. -/
def quotedRest (double : Bool) : (fuel : Nat) → Cursor → Except Refusal (List Nat × Cursor)
  | 0, c => c.refuse
  | fuel + 1, c => do
    let (taken, c) ← quotedChars double (c.rest.length + 1) c
    if c.head = (if double then '"' else '\x27') then .ok (taken, c.next)
    else
      let (spaces, c) ← quotedSpaces c
      let (others, c) ← quotedRest double fuel c
      .ok (taken ++ Text.codes spaces ++ others, c)

/-- A scalar between quotes, whose opening quote stands at the cursor. -/
def quotedScalar (double : Bool) (c : Cursor) : Except Refusal (List Nat × Cursor) :=
  quotedRest double (c.rest.length + 1) c.next

/-! ### Plain scalars -/

/-- An indicator that ends a plain scalar inside brackets. -/
def isFlowIndicator (c : Char) : Bool :=
  c == ',' || c == '[' || c == ']' || c == '{' || c == '}'

/-- Whether a plain scalar ends before the characters of a list. -/
def endsPlain (inFlow : Bool) : List Char → Bool
  | [] => true
  | d :: rest =>
    let after := rest.headD endMark
    isBlankEnd d || (d == ':' && (isBlankEnd after || (inFlow && isFlowIndicator after))) ||
      (inFlow && (d == '?' || isFlowIndicator d))

/-- The characters of a plain scalar at the front of a list. -/
def plainRun (inFlow : Bool) : List Char → List Char
  | [] => []
  | d :: rest => if endsPlain inFlow (d :: rest) then [] else d :: plainRun inFlow rest

/-- Line breaks and the spaces at the beginnings of lines, up to a separator of documents: the
breaks, whether there is such a separator, and the cursor. -/
def plainBreaks : (fuel : Nat) → Cursor → List Char × Bool × Cursor
  | 0, c => ([], false, c)
  | fuel + 1, c =>
    let c := c.skipWhile (· == ' ')
    match c.lineBreak? with
    | some (d, c) =>
      if c.atAnySeparator then ([d], true, c)
      else
        let r := plainBreaks fuel c
        (d :: r.1, r.2)
    | none => ([], false, c)

/-- What lies between two parts of a plain scalar, whether a line break is in it, and the cursor
after it. -/
def plainSpaces (c : Cursor) : List Char × Bool × Cursor :=
  let (spaces, c) := c.span (· == ' ')
  match c.lineBreak? with
  | some (d, c) =>
    if c.atAnySeparator then ([], true, c)
    else
      let (ds, separated, c) := plainBreaks (c.rest.length + 1) c
      (if separated then [] else foldedBreaks d ds, true, c)
  | none => (spaces, false, c)

/-- The parts of a plain scalar from the cursor on, after what lies before the first of them.
The flag tells whether the last thing read was a line break. -/
def plainParts (inFlow : Bool) (indent : Nat) :
    (fuel : Nat) → (before : List Char) → (broken : Bool) → Cursor → List Char × Bool × Cursor
  | 0, _, broken, c => ([], broken, c)
  | fuel + 1, before, broken, c =>
    let taken := plainRun inFlow c.rest
    if c.head = '#' ∨ taken = [] then ([], broken, c)
    else
      let (spaces, broken, c) := plainSpaces (c.skip taken.length)
      if spaces = [] ∨ c.head = '#' ∨ (!inFlow ∧ c.column < indent) then
        (before ++ taken, broken, c)
      else
        let r := plainParts inFlow indent fuel spaces broken c
        (before ++ taken ++ r.1, r.2)

/-- A plain scalar. It goes on in lines that are indented at least so far. The flag tells whether
a line break was read after it. -/
def plainScalar (inFlow : Bool) (indent : Nat) (c : Cursor) : List Char × Bool × Cursor :=
  plainParts inFlow indent (c.rest.length + 1) [] false c

/-! ### Block scalars -/

/-- What becomes of the line breaks at the end of a block: none stays, one, or all. -/
inductive Chomping where
  | strip
  | clip
  | keep
  deriving DecidableEq, Repr

/-- The chomping that a sign stands for. -/
def chomping? (c : Cursor) : Option (Chomping × Cursor) :=
  if c.head = '+' then some (.keep, c.next)
  else if c.head = '-' then some (.strip, c.next)
  else none

/-- The indentation that a digit stands for; zero is none. -/
def increment? (c : Cursor) : Except Refusal (Option Nat × Cursor) :=
  match baseDigit? 10 c.head with
  | some 0 => c.refuse
  | some n => .ok (some n, c.next)
  | none => .ok (none, c)

/-- Chomping and indentation in the first line of a block, in either order. -/
def blockHeader (c : Cursor) : Except Refusal (Chomping × Option Nat × Cursor) := do
  match chomping? c with
  | some (chomping, c) =>
    let (increment, c) ← increment? c
    if isSpaceEnd c.head then .ok (chomping, increment, c) else c.refuse
  | none =>
    let (increment, c) ← increment? c
    let (chomping, c) :=
      if increment.isSome then (chomping? c).getD (.clip, c) else (.clip, c)
    if isSpaceEnd c.head then .ok (chomping, increment, c) else c.refuse

/-- The cursor after at most so many columns of spaces. -/
def skipIndent (indent : Nat) : (fuel : Nat) → Cursor → Cursor
  | 0, c => c
  | fuel + 1, c =>
    if c.column < indent ∧ c.head = ' ' then skipIndent indent fuel c.next else c

/-- The empty lines at the beginning of a block, its greatest column reached by spaces, and the
cursor. -/
def blockIndentation : (fuel : Nat) → (deepest : Nat) → Cursor → List Char × Nat × Cursor
  | 0, deepest, c => ([], deepest, c)
  | fuel + 1, deepest, c =>
    if c.head = ' ' then blockIndentation fuel (max deepest c.next.column) c.next
    else
      match c.lineBreak? with
      | some (d, c) =>
        let r := blockIndentation fuel deepest c
        (d :: r.1, r.2)
      | none => ([], deepest, c)

/-- The empty lines before a line of a block, and the cursor at its indentation. -/
def blockBreaks (indent : Nat) : (fuel : Nat) → Cursor → List Char × Cursor
  | 0, c => ([], c)
  | fuel + 1, c =>
    let c := skipIndent indent c.rest.length c
    match c.lineBreak? with
    | some (d, c) =>
      let r := blockBreaks indent fuel c
      (d :: r.1, r.2)
    | none => ([], c)

/-- The lines of a block from the cursor on, after the empty lines before them. -/
def blockLines (folded : Bool) (chomping : Chomping) (indent : Nat) :
    (fuel : Nat) → (breaks : List Char) → Cursor → List Char × Cursor
  | 0, _, c => ([], c)
  | fuel + 1, breaks, c =>
    let tight := !isBlank c.head
    let (line, c) := c.span (!isLineEnd ·)
    let (first, c) := match c.lineBreak? with
      | some (d, c) => ([d], c)
      | none => ([], c)
    let (others, c) := blockBreaks indent (c.rest.length + 1) c
    if c.column = indent ∧ c.head ≠ endMark then
      let between :=
        if folded && first == ['\n'] && tight && !isBlank c.head then
          if others.isEmpty then [' '] else []
        else first
      let r := blockLines folded chomping indent fuel others c
      (breaks ++ line ++ between ++ r.1, r.2)
    else
      let tail := match chomping with
        | .strip => []
        | .clip => first
        | .keep => first ++ others
      (breaks ++ line ++ tail, c)

/-- A block whose indicator stands at the cursor, inside a block with the given indentation. -/
def blockScalar (folded : Bool) (outer : Int) (c : Cursor) :
    Except Refusal (List Char × Cursor) := do
  let (chomping, increment, c) ← blockHeader c.next
  let c ← c.finishLine
  let least := (max (outer + 1) 1).toNat
  let (breaks, indent, c) := match increment with
    | some n =>
      let r := blockBreaks (least + n - 1) (c.rest.length + 1) c
      (r.1, least + n - 1, r.2)
    | none =>
      let r := blockIndentation (c.rest.length + 1) 0 c
      (r.1, max least r.2.1, r.2.2)
  if c.column = indent ∧ c.head ≠ endMark then
    .ok (blockLines folded chomping indent (c.rest.length + 1) breaks c)
  else .ok (if chomping = .keep then breaks else [], c)

end Yaml

end ClassQuota
