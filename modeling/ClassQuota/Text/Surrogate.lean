/-!
# Halves of surrogate pairs

A code point is a number below `0x110000`. Those from `0xd800` to `0xdfff` are no characters: two
of them, a high half and a low one, stand for a character beyond the first plane. A text that is
given by code points may hold halves, alone or in pairs.

## Main definitions

* `Text.codes` — the code points of characters
* `Text.char?`, `Text.chars?` — the characters of code points, unless one of them is a half
* `Text.joined` — the characters of a text with halves, as it is shown
-/

namespace ClassQuota

namespace Text

/-- The code points of characters. -/
def codes (cs : List Char) : List Nat :=
  cs.map Char.toNat

/-- The character with a code point, if there is one. -/
def char? (n : Nat) : Option Char :=
  if n.isValidChar then some (Char.ofNat n) else none

/-- The characters of code points, if all of them are characters. -/
def chars? : List Nat → Option (List Char)
  | [] => some []
  | n :: ns =>
    match char? n, chars? ns with
    | some c, some cs => some (c :: cs)
    | _, _ => none

/-- The character that stands for what is none. -/
def replacement : Char := '\ufffd'

/-- The character with a code point, or the replacement character. -/
def charD (n : Nat) : Char :=
  (char? n).getD replacement

/-- The character that a high and a low half stand for. -/
def joinHalves? (high low : Nat) : Option Char :=
  if 0xd800 ≤ high ∧ high < 0xdc00 ∧ 0xdc00 ≤ low ∧ low < 0xe000 then
    char? (0x10000 + (high - 0xd800) * 0x400 + (low - 0xdc00))
  else none

/-- The characters of code points. Two halves in a pair are one character, and a half alone is
shown as the replacement character. -/
def joined : List Nat → List Char
  | [] => []
  | [n] => [charD n]
  | m :: n :: ns =>
    match joinHalves? m n with
    | some c => c :: joined ns
    | none => charD m :: joined (n :: ns)

/-- A pair of halves is shown as the character it stands for. -/
example : joined [0xd83d, 0xde00, 0xd83d] = ['😀', replacement] := by decide

end Text

end ClassQuota
