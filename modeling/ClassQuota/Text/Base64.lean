/-!
# Base 64

Four characters of an alphabet of sixty-four stand for three bytes. Characters outside of the
alphabet are skipped. An equals sign completes a group that has begun with two or three
characters, and ends the text once the group counts four.

## Main definitions

* `Text.sextet?` — the number of a character
* `Text.decodeBase64` — the bytes of a text, unless its last group is incomplete
-/

namespace ClassQuota

namespace Text

/-- The number that a character of the alphabet stands for. -/
def sextet? (c : Char) : Option Nat :=
  let n := c.toNat
  if c.isUpper then some (n - 'A'.toNat)
  else if c.isLower then some (n - 'a'.toNat + 26)
  else if c.isDigit then some (n - '0'.toNat + 52)
  else if c = '+' then some 62
  else if c = '/' then some 63
  else none

/-- The bytes of a text that is met inside a group of four. `place` counts the characters of the
group so far, `left` holds the bits of the last one that no byte has taken yet, and `padding`
counts the equals signs since. -/
def decodeGroups (place left padding : Nat) : List Char → Option (List UInt8)
  | [] => if place = 0 then some [] else none
  | c :: cs =>
    if c = '=' then
      if place < 2 then decodeGroups place left padding cs
      else if 4 ≤ place + padding + 1 then some []
      else decodeGroups place left (padding + 1) cs
    else
      match sextet? c, place with
      | none, _ => decodeGroups place left padding cs
      | some n, 0 => decodeGroups 1 n 0 cs
      | some n, 1 => (decodeGroups 2 (n % 16) 0 cs).map (UInt8.ofNat (left * 4 + n / 16) :: ·)
      | some n, 2 => (decodeGroups 3 (n % 4) 0 cs).map (UInt8.ofNat (left * 16 + n / 4) :: ·)
      | some n, _ => (decodeGroups 0 0 0 cs).map (UInt8.ofNat (left * 64 + n) :: ·)

/-- The bytes of a text in base 64. -/
def decodeBase64 (cs : List Char) : Option (List UInt8) :=
  decodeGroups 0 0 0 cs

end Text

end ClassQuota
