import ClassQuota.Toml.Reading

/-!
# Quoted texts of TOML

A basic text stands between double quotes and knows escapes; a literal text stands between
apostrophes and holds what is written. Three quotes enclose several lines; up to two more of the
quotes before the closing three belong to the text.

## Main definitions

* `Toml.basicBody`, `Toml.literalBody` — the text up to the closing quotes
* `Toml.quotation` — a quoted text of either kind, on one or several lines
-/

namespace ClassQuota

namespace Toml

/-- What a reader of a basic text is in the middle of. -/
inductive EscapeState where
  /-- Nothing in particular. -/
  | plain
  /-- A backslash was read. -/
  | escape
  /-- So many hexadecimal digits are still to come. -/
  | code (left value : Nat)
  /-- A backslash and blanks were read; only a line break may follow. -/
  | lineEnd
  /-- Blanks and line breaks are skipped. -/
  | skipping
  deriving DecidableEq, Repr

/-- The character that a letter stands for after a backslash. -/
def escapes : List (Char × Char) :=
  [('b', '\x08'), ('t', '\t'), ('n', '\n'), ('f', '\x0c'), ('r', '\r'), ('"', '"'), ('\\', '\\')]

/-- The character with a code, if there is one. -/
def scalar? (n : Nat) : Option Char :=
  if n.isValidChar then some (Char.ofNat n) else none

/-- One more character in front of what was read. -/
def push (c : Char) (r : List Char × List Char) : List Char × List Char :=
  (c :: r.1, r.2)

/-- The text up to the closing double quotes. -/
def basicBody (multiline : Bool) : EscapeState → List Char → Reading (List Char)
  | _, [] => malformed
  | .escape, c :: cs =>
    match escapes.lookup c with
    | some d => (basicBody multiline .plain cs).map (push d)
    | none =>
      if c = 'u' then basicBody multiline (.code 4 0) cs
      else if c = 'U' then basicBody multiline (.code 8 0) cs
      else if multiline && isBlank c then basicBody multiline .lineEnd cs
      else if multiline && c = '\n' then basicBody multiline .skipping cs
      else malformed
  | .code left value, c :: cs =>
    match baseDigit? 16 c with
    | none => malformed
    | some d =>
      let n := 16 * value + d
      if 1 < left then basicBody multiline (.code (left - 1) n) cs
      else
        match scalar? n with
        | some e => (basicBody multiline .plain cs).map (push e)
        | none => malformed
  | .lineEnd, c :: cs =>
    if isBlank c then basicBody multiline .lineEnd cs
    else if c = '\n' then basicBody multiline .skipping cs
    else malformed
  | state, c :: cs =>
    if state = .skipping ∧ (isBlank c ∨ c = '\n') then basicBody multiline .skipping cs
    else if c = '\\' then basicBody multiline .escape cs
    else if c = '"' then
      if multiline then
        match cs with
        | '"' :: '"' :: rest => .ok ([], rest)
        | _ => (basicBody multiline .plain cs).map (push c)
      else .ok ([], cs)
    else if isForbidden c && !(multiline && c = '\n') then malformed
    else (basicBody multiline .plain cs).map (push c)

/-- The text up to the closing apostrophes. -/
def literalBody (multiline : Bool) : List Char → Reading (List Char)
  | [] => malformed
  | c :: cs =>
    if c = '\x27' then
      if multiline then
        match cs with
        | '\x27' :: '\x27' :: rest => .ok ([], rest)
        | _ => (literalBody multiline cs).map (push c)
      else .ok ([], cs)
    else if isForbidden c && !(multiline && c = '\n') then malformed
    else (literalBody multiline cs).map (push c)

/-- The text between quotes that were opened. -/
def body (quote : Char) (multiline : Bool) (cs : List Char) : Reading (List Char) :=
  if quote = '"' then basicBody multiline .plain cs else literalBody multiline cs

/-- A text on several lines, after its opening quotes. A line break right after them does not
belong to it. -/
def multilineBody (quote : Char) (cs : List Char) : Except Flaw (List Char × List Char) := do
  let start := match cs with
    | '\n' :: rest => rest
    | _ => cs
  let r ← body quote true start
  match r.2 with
  | c :: d :: rest =>
    if c = quote ∧ d = quote then .ok (r.1 ++ [c, d], rest)
    else if c = quote then .ok (r.1 ++ [c], d :: rest)
    else .ok r
  | [c] => if c = quote then .ok (r.1 ++ [c], []) else .ok r
  | [] => .ok r

/-- A text on one line, after its opening quote. -/
def lineBody (quote : Char) (cs : List Char) : Reading (List Char) :=
  body quote false cs

/-- A text on one or several lines, after its opening quote. -/
def quotation (quote : Char) (cs : List Char) : Reading (List Char) :=
  match cs with
  | c :: d :: rest =>
    if c = quote ∧ d = quote then multilineBody quote rest else lineBody quote cs
  | _ => lineBody quote cs

end Toml

end ClassQuota
