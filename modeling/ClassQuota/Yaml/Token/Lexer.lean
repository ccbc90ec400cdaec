import ClassQuota.Text.Utf8
import ClassQuota.Yaml.Token
import ClassQuota.Yaml.Token.Scalar

/-!
# Reading tokens

A key of a mapping is known as one only when the colon after it is met. Where a token may begin
a key, the lexer remembers the number of the token that will stand there; when the colon comes,
the token `key` goes in front of that token, and with it the beginning of a block mapping where
the key opens one. The tokens in front are kept apart until the end, so no number ever shifts.

A text may be malformed only after many sound tokens. They are kept with the fault that ends
them, which counts only for a reader that gets so far.

## Main definitions

* `Yaml.Lexer` — the state of the lexer
* `Yaml.Lexer.step` — reading one token
* `Yaml.TokenRun` — tokens up to a fault
* `Yaml.TokenRun.ofText` — the tokens of a text
-/

namespace ClassQuota

namespace Yaml

/-- How far a key without an indicator of its own may reach. -/
def maxKeyLength : Nat := 1024

/-- A place where a key may have begun. A required key has to be one, since it begins a line of
the mapping it would belong to. -/
structure KeyCandidate where
  /-- How many brackets are open around it. -/
  depth : Nat
  /-- The number of the token that begins it. -/
  token : Nat
  required : Bool
  index : Nat
  line : Nat
  column : Nat
  deriving Repr

/-- The state of the lexer. -/
structure Lexer where
  cursor : Cursor
  /-- How many brackets are open. -/
  depth : Nat := 0
  /-- The column of the innermost block, and those of the blocks around it. -/
  indent : Int := -1
  outer : List Int := []
  /-- Whether a key may begin here. -/
  allowKey : Bool := true
  candidates : List KeyCandidate := []
  /-- The tokens, each with those that go in front of it. -/
  tokens : Array (List Token × Token) := #[]

/-- Where a text breaks off, with the fault that is met there. -/
structure Cut where
  index : Nat
  fault : Fault
  deriving Repr

/-- The fault of a cut, if reading has got so far. -/
def Cut.reached (cut : Option Cut) (index : Nat) : Option Fault :=
  match cut with
  | some cut => if cut.index ≤ index then some cut.fault else none
  | none => none

/-- Tokens in the order of a text, and the fault that is met by who asks for more than these. -/
structure TokenRun where
  tokens : List Token
  stop : Option Fault := none
  deriving Repr

namespace Lexer

/-- Add a token at the end. -/
def emit (t : Token) (l : Lexer) : Lexer :=
  { l with tokens := l.tokens.push ([], t) }

/-- Go on from another place. -/
def moveTo (c : Cursor) (l : Lexer) : Lexer :=
  { l with cursor := c }

/-- The column of the cursor. -/
def column (l : Lexer) : Int :=
  l.cursor.column

/-- Forget a candidate, which must not be a required one. -/
def forget (p : KeyCandidate → Bool) (l : Lexer) : Except Refusal Lexer :=
  if l.candidates.any fun k => p k && k.required then l.cursor.refuse
  else .ok { l with candidates := l.candidates.filter fun k => !p k }

/-- Forget the candidate inside the innermost bracket. -/
def forgetHere (l : Lexer) : Except Refusal Lexer :=
  l.forget (·.depth == l.depth)

/-- Forget the candidates on other lines and those too far back. -/
def forgetStale (l : Lexer) : Except Refusal Lexer :=
  l.forget fun k => k.line != l.cursor.line || l.cursor.index - k.index > maxKeyLength

/-- Remember that a key may begin with the next token. -/
def remember (l : Lexer) : Except Refusal Lexer := do
  if l.allowKey then
    let required := l.depth == 0 && l.indent == l.column
    let l ← l.forgetHere
    .ok { l with candidates :=
      ⟨l.depth, l.tokens.size, required, l.cursor.index, l.cursor.line, l.cursor.column⟩ ::
        l.candidates }
  else .ok l

/-- Close the blocks that are indented further than a column. -/
def closeBlocks (column : Int) : (indents : List Int) → Lexer → Lexer
  | [], l => if column < l.indent then { l.emit .blockEnd with indent := -1 } else l
  | i :: outer, l =>
    if column < l.indent then
      closeBlocks column outer { l.emit .blockEnd with indent := i, outer := outer }
    else l

/-- Close the blocks that are indented further than a column, outside of brackets. -/
def unwind (column : Int) (l : Lexer) : Lexer :=
  if l.depth = 0 then closeBlocks column l.outer l else l

/-- Open a block at a column, if it is indented further than the innermost one. -/
def openBlock? (column : Int) (l : Lexer) : Option Lexer :=
  if l.indent < column then some { l with outer := l.indent :: l.outer, indent := column }
  else none

/-- Open a block with a token, if it is indented further than the innermost one. -/
def openBlock (column : Int) (t : Token) (l : Lexer) : Lexer :=
  match l.openBlock? column with
  | some opened => opened.emit t
  | none => l

/-- The cursor before the next token, and whether a line break was passed. -/
def skipFiller : (fuel : Nat) → (broken : Bool) → Cursor → Bool × Cursor
  | 0, broken, c => (broken, c)
  | fuel + 1, broken, c =>
    let c := (c.skipWhile (· == ' ')).skipComment
    match c.lineBreak? with
    | some (_, c) => skipFiller fuel true c
    | none => (broken, c)

/-- Go to the next token. -/
def advance (l : Lexer) : Lexer :=
  let start := if l.cursor.index = 0 ∧ l.cursor.head = '\ufeff' then l.cursor.next else l.cursor
  let (broken, c) := skipFiller (start.rest.length + 1) false start
  { l with cursor := c, allowKey := l.allowKey || (broken && l.depth == 0) }

/-! ### Tags and directives -/

/-- A character of a tag. -/
def isTagChar (c : Char) : Bool :=
  c.isAlphanum || "-;/?:@&=+$,_.!~*'()[]%".toList.contains c

/-- The bytes of percent escapes at the cursor. -/
def tagBytes : (fuel : Nat) → Cursor → Except Refusal (List UInt8 × Cursor)
  | 0, c => .ok ([], c)
  | fuel + 1, c =>
    if c.head = '%' then
      match baseDigit? 16 (c.peek 1), baseDigit? 16 (c.peek 2) with
      | some a, some b => do
        let (bytes, c) ← tagBytes fuel (c.skip 3)
        .ok (UInt8.ofNat (16 * a + b) :: bytes, c)
      | _, _ => c.next.refuse
    else .ok ([], c)

/-- The characters of a tag at the cursor. -/
def tagChars : (fuel : Nat) → Cursor → Except Refusal (List Char × Cursor)
  | 0, c => .ok ([], c)
  | fuel + 1, c => do
    let (taken, c) := c.span fun d => isTagChar d && d != '%'
    if c.head = '%' then
      let (bytes, c) ← tagBytes (c.rest.length + 1) c
      match Text.decodeUtf8 bytes with
      | none => c.refuse
      | some ds =>
        let (others, c) ← tagChars fuel c
        .ok (taken ++ ds ++ others, c)
    else .ok (taken, c)

/-- The text of a tag, which is not empty. -/
def tagText (c : Cursor) : Except Refusal (String × Cursor) := do
  if isTagChar c.head then
    let (ds, c) ← tagChars (c.rest.length + 1) c
    .ok (String.ofList ds, c)
  else c.refuse

/-- A handle of tags: an exclamation mark, or a word between two of them. -/
def tagHandle (c : Cursor) : Except Refusal (String × Cursor) := do
  let c ← c.expect '!'
  if c.head = ' ' then .ok ("!", c)
  else
    let (word, c) := c.span isWord
    let c ← c.expect '!'
    .ok (String.ofList ('!' :: word ++ ['!']), c)

/-- A tag at the cursor. -/
def tagToken (c : Cursor) : Except Refusal (Token × Cursor) := do
  let finish (t : Token) (c : Cursor) : Except Refusal (Token × Cursor) :=
    if isSpaceEnd c.head then .ok (t, c) else c.refuse
  let d := c.peek 1
  if d = '<' then
    let (suffix, c) ← tagText (c.skip 2)
    finish (.tag none suffix) (← c.expect '>')
  else if isBlankEnd d then finish (.tag none "!") c.next
  else if ((c.next.span (!isSpaceEnd ·)).1).contains '!' then
    let (handle, c) ← tagHandle c
    let (suffix, c) ← tagText c
    finish (.tag (some handle) suffix) c
  else
    let (suffix, c) ← tagText c.next
    finish (.tag (some "!") suffix) c

/-- A decimal number at the cursor, which may not have too many digits. -/
def number (c : Cursor) : Except Refusal (Nat × Cursor) :=
  let (ds, c) := c.span Char.isDigit
  if ds = [] then c.refuse
  else if Numeral.limit < ds.length then c.fail (.tooManyDigits (some ds.length))
  else .ok (ofDigits 10 (ds.filterMap (baseDigit? 10)), c)

/-- The cursor after a directive of which nothing but blanks or the end may follow. -/
def spaced (c : Cursor) : Except Refusal Cursor :=
  if isSpaceEnd c.head then .ok c else c.refuse

/-- A directive at the cursor, up to the next line. -/
def directive (c : Cursor) : Except Refusal (Directive × Cursor) := do
  let (name, c) := c.next.span isWord
  if name = [] then c.refuse
  let c ← spaced c
  if name = "YAML".toList then
    let (major, c) ← number (c.skipWhile (· == ' '))
    let c ← c.expect '.'
    let (minor, c) ← number c
    .ok (.version major minor, ← (← spaced c).finishLine)
  else if name = "TAG".toList then
    let (handle, c) ← tagHandle (c.skipWhile (· == ' '))
    if c.head = ' ' then
      let (beginning, c) ← tagText (c.skipWhile (· == ' '))
      .ok (.tagHandle handle beginning, ← (← spaced c).finishLine)
    else c.refuse
  else .ok (.other, ← (c.skipWhile (!isLineEnd ·)).finishLine)

/-- The name of an anchor or alias, after its indicator. -/
def anchorName (c : Cursor) : Except Refusal (String × Cursor) :=
  let (name, c) := c.span isWord
  if name = [] then c.refuse
  else if isBlankEnd c.head || "?:,]\x7d%@\x60".toList.contains c.head then
    .ok (String.ofList name, c)
  else c.refuse

/-! ### Tokens -/

/-- A token on its own line, at whose beginning all blocks are closed. -/
def documentToken (t : Token) (c : Cursor) (l : Lexer) : Except Refusal Lexer := do
  let l ← (l.unwind (-1)).forgetHere
  .ok (({ l with allowKey := false }.emit t).moveTo c)

/-- An opening bracket. -/
def opening (t : Token) (l : Lexer) : Except Refusal Lexer := do
  let l ← l.remember
  .ok (({ l with depth := l.depth + 1, allowKey := true }.emit t).moveTo l.cursor.next)

/-- A closing bracket. -/
def closing (t : Token) (l : Lexer) : Except Refusal Lexer := do
  let l ← l.forgetHere
  if l.depth = 0 then l.cursor.refuse
  else .ok (({ l with depth := l.depth - 1, allowKey := false }.emit t).moveTo l.cursor.next)

/-- A comma. -/
def comma (l : Lexer) : Except Refusal Lexer := do
  let l ← l.forgetHere
  .ok (({ l with allowKey := true }.emit .flowEntry).moveTo l.cursor.next)

/-- An item of a sequence of lines. -/
def dash (l : Lexer) : Except Refusal Lexer := do
  if l.depth = 0 ∧ !l.allowKey then l.cursor.refuse
  let l := if l.depth = 0 then l.openBlock l.column .blockSequenceStart else l
  let l ← l.forgetHere
  .ok (({ l with allowKey := true }.emit .blockEntry).moveTo l.cursor.next)

/-- The indicator of a key. -/
def question (l : Lexer) : Except Refusal Lexer := do
  if l.depth = 0 ∧ !l.allowKey then l.cursor.refuse
  let l := if l.depth = 0 then l.openBlock l.column .blockMappingStart else l
  let l ← l.forgetHere
  .ok (({ l with allowKey := l.depth == 0 }.emit .key).moveTo l.cursor.next)

/-- Put tokens in front of a token. -/
def insertBefore (token : Nat) (ts : List Token) (l : Lexer) : Lexer :=
  { l with tokens := l.tokens.modify token fun e => (ts ++ e.1, e.2) }

/-- The indicator of a value, which makes a key of the candidate before it. -/
def colon (l : Lexer) : Except Refusal Lexer := do
  match l.candidates.find? (·.depth == l.depth) with
  | some k =>
    let l := { l with candidates := l.candidates.filter (·.depth != l.depth), allowKey := false }
    let l := match (if l.depth = 0 then l.openBlock? k.column else none) with
      | some opened => opened.insertBefore k.token [.blockMappingStart, .key]
      | none => l.insertBefore k.token [.key]
    .ok ((l.emit .value).moveTo l.cursor.next)
  | none =>
    if l.depth = 0 ∧ !l.allowKey then l.cursor.refuse
    let l := if l.depth = 0 then l.openBlock l.column .blockMappingStart else l
    .ok (({ l with allowKey := l.depth == 0 }.emit .value).moveTo l.cursor.next)

/-- A token that may begin a key. -/
def keyable (read : Cursor → Except Refusal (Token × Cursor)) (l : Lexer) :
    Except Refusal Lexer := do
  let l ← l.remember
  let (t, c) ← read l.cursor
  .ok (({ l with allowKey := false }.emit t).moveTo c)

/-- A scalar between quotes. -/
def quoted (double : Bool) (l : Lexer) : Except Refusal Lexer :=
  l.keyable fun c => do
    let (ds, c) ← quotedScalar double c
    .ok (.scalar ds false, c)

/-- A scalar without quotes. -/
def plain (l : Lexer) : Except Refusal Lexer := do
  let l ← l.remember
  let (ds, broken, c) := plainScalar (l.depth != 0) (l.indent + 1).toNat l.cursor
  .ok (({ l with allowKey := broken }.emit (.scalar (Text.codes ds) true)).moveTo c)

/-- A scalar on lines of its own. -/
def block (folded : Bool) (l : Lexer) : Except Refusal Lexer := do
  let l ← l.forgetHere
  let (ds, c) ← blockScalar folded l.indent l.cursor
  .ok (({ l with allowKey := true }.emit (.scalar (Text.codes ds) false)).moveTo c)

/-- An alias or an anchor. -/
def anchored (make : String → Token) (l : Lexer) : Except Refusal Lexer :=
  l.keyable fun c => do
    let (name, c) ← anchorName c.next
    .ok (make name, c)

/-- Whether a scalar without quotes begins at the cursor. -/
def beginsPlain (l : Lexer) : Bool :=
  let c := l.cursor.head
  !(isBlankEnd c || "-?:,[]\x7b\x7d#&*!|>'\"%@\x60".toList.contains c) ||
    (!isBlankEnd (l.cursor.peek 1) && (c == '-' || (l.depth == 0 && (c == '?' || c == ':'))))

/-- The end of the text, at which all blocks are closed. -/
def finish (l : Lexer) : Except Refusal Lexer :=
  (l.unwind (-1)).forgetHere

/-- Read the token at the cursor, which is not at the end. -/
def token (l : Lexer) : Except Refusal Lexer := do
  let c := l.cursor
  let spaced := isBlankEnd (c.peek 1)
  let inFlow := l.depth != 0
  match c.head with
  | '%' =>
    if c.column = 0 then
      let l ← (l.unwind (-1)).forgetHere
      let (d, c) ← directive c
      return ({ l with allowKey := false }.emit (.directive d)).moveTo c
  | '-' =>
    if c.column = 0 && c.atSeparator '-' then return ← l.documentToken .documentStart (c.skip 3)
    if spaced then return ← l.dash
  | '.' =>
    if c.column = 0 && c.atSeparator '.' then return ← l.documentToken .documentEnd (c.skip 3)
  | '[' => return ← l.opening .flowSequenceStart
  | '\x7b' => return ← l.opening .flowMappingStart
  | ']' => return ← l.closing .flowSequenceEnd
  | '\x7d' => return ← l.closing .flowMappingEnd
  | ',' => return ← l.comma
  | '?' => if inFlow || spaced then return ← l.question
  | ':' => if inFlow || spaced then return ← l.colon
  | '*' => return ← l.anchored .alias
  | '&' => return ← l.anchored .anchor
  | '!' => return ← l.keyable tagToken
  | '|' => if !inFlow then return ← l.block false
  | '>' => if !inFlow then return ← l.block true
  | '\x27' => return ← l.quoted false
  | '"' => return ← l.quoted true
  | _ => pure ()
  if l.beginsPlain then l.plain else c.refuse

/-- Read one token, or nothing at the end. -/
def step (l : Lexer) : Except Refusal (Option Lexer) := do
  let l ← l.advance.forgetStale
  let l := l.unwind l.column
  if l.cursor.head = endMark then .ok none else .ok (some (← l.token))

/-- The tokens so far. -/
def all (l : Lexer) : List Token :=
  l.tokens.toList.flatMap fun e => e.1 ++ [e.2]

/-- The tokens that are known whatever follows: those before the first that may still turn out to
begin a key. -/
def settled (l : Lexer) : List Token :=
  let count := l.candidates.foldl (fun n k => min n k.token) l.tokens.size
  { l with tokens := l.tokens.extract 0 count }.all

/-- Read tokens up to the end of the text, or up to a place where the text breaks off. -/
def run (cut : Option Cut) : (fuel : Nat) → Lexer → TokenRun
  | 0, l => ⟨l.settled, some .malformedRegistry⟩
  | fuel + 1, l =>
    let refused (l : Lexer) (r : Refusal) : TokenRun :=
      ⟨l.settled, some ((Cut.reached cut r.index).getD r.fault)⟩
    match l.forgetStale with
    | .error r => refused l r
    | .ok l =>
      match l.step with
      | .error r => refused l r
      | .ok (some next) =>
        match Cut.reached cut next.cursor.index with
        | some fault => ⟨l.settled, some fault⟩
        | none => run cut fuel next
      | .ok none =>
        match cut with
        | some cut => ⟨l.settled, some cut.fault⟩
        | none =>
          match l.advance.forgetStale >>= finish with
          | .error r => refused l r
          | .ok l => ⟨l.all, none⟩

end Lexer

/-- The tokens of a text, of which the part after a cut is out of reach. -/
def TokenRun.ofText (cs : List Char) (cut : Option Cut) : TokenRun :=
  Lexer.run cut (cs.length + 1) { cursor := ⟨cs, 0, 0, 0⟩ }

end Yaml

end ClassQuota
