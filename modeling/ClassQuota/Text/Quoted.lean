import ClassQuota.Text.Printable
import ClassQuota.Text.Surrogate

/-!
# Quoted text

A value is shown in a message between quotes. The quote is an apostrophe unless the text holds
an apostrophe and no double quote. The quote in use, the backslash and the characters that are
not printable are escaped, so a quoted text is one printable line.

## Main definitions

* `quoteFor` — the quote for a text
* `escape` — how one character is written between quotes
* `quoted`, `quotedCodes` — the quoted form of a text, and of one that may hold halves of
  surrogate pairs
* `quotedBytes` — the quoted form of a sequence of bytes
-/

namespace ClassQuota

namespace Text

/-- One hexadecimal digit in lower case. -/
def hexDigit (n : Nat) : Char :=
  if n < 10 then Char.ofNat (0x30 + n) else Char.ofNat (0x57 + n)

/-- The last `width` hexadecimal digits of a number. -/
def hex : (width : Nat) → Nat → List Char
  | 0, _ => []
  | width + 1, n => hexDigit (n / Nat.pow 16 width % 16) :: hex width n

/-- The apostrophe. -/
def apostrophe : Char := '\x27'

/-- The double quote. -/
def doubleQuote : Char := '"'

/-- The quote put around a text. -/
def quoteFor (cs : List Char) : Char :=
  if cs.contains apostrophe && !cs.contains doubleQuote then doubleQuote else apostrophe

/-- How one character is written between quotes. -/
def escape (quote c : Char) : List Char :=
  if c = quote ∨ c = '\\' then ['\\', c]
  else if c = '\n' then ['\\', 'n']
  else if c = '\r' then ['\\', 'r']
  else if c = '\t' then ['\\', 't']
  else if isPrintable c then [c]
  else if c.toNat < 0x100 then '\\' :: 'x' :: hex 2 c.toNat
  else if c.toNat < 0x10000 then '\\' :: 'u' :: hex 4 c.toNat
  else '\\' :: 'U' :: hex 8 c.toNat

/-- The quoted form of a text. -/
def quoted (cs : List Char) : List Char :=
  let quote := quoteFor cs
  quote :: cs.flatMap (escape quote) ++ [quote]

/-- How one code point is written between quotes. Half of a surrogate pair is not printable. -/
def escapeCode (quote : Char) (n : Nat) : List Char :=
  match char? n with
  | some c => escape quote c
  | none => '\\' :: 'u' :: hex 4 n

/-- The quoted form of a text that is given by code points. -/
def quotedCodes (ns : List Nat) : List Char :=
  let quote := quoteFor (ns.filterMap char?)
  quote :: ns.flatMap (escapeCode quote) ++ [quote]

/-- How one byte is written between quotes. -/
def escapeByte (quote : Char) (b : UInt8) : List Char :=
  let c := Char.ofNat b.toNat
  if c = quote ∨ c = '\\' then ['\\', c]
  else if c = '\n' then ['\\', 'n']
  else if c = '\r' then ['\\', 'r']
  else if c = '\t' then ['\\', 't']
  else if 0x20 ≤ b.toNat ∧ b.toNat < 0x7f then [c]
  else '\\' :: 'x' :: hex 2 b.toNat

/-- The quoted form of a sequence of bytes, marked by a leading `b`. -/
def quotedBytes (bs : List UInt8) : List Char :=
  let quote := quoteFor (bs.map fun b => Char.ofNat b.toNat)
  'b' :: quote :: bs.flatMap (escapeByte quote) ++ [quote]

theorem quoteFor_eq (cs : List Char) : quoteFor cs = apostrophe ∨ quoteFor cs = doubleQuote := by
  unfold quoteFor
  split <;> simp

/-- The quote is escaped even where the text holds both quotes. -/
example : String.ofList (quoted "it's \"so\"".toList) = "'it\\'s \"so\"'" := by decide

end Text

end ClassQuota
