/-!
# UTF-8

Bytes are decoded strictly: overlong forms, surrogates and code points beyond the last one are
refused, and so is a sequence that is cut off.

## Main definitions

* `decodeFrom` — the characters of a part of the bytes, and where the decoder stands after it
* `decodeUtf8` — the characters that bytes encode
* `encodeUtf8` — the bytes of characters
-/

namespace ClassQuota

namespace Text

/-- The payload of a continuation byte. -/
def continuation? (b : UInt8) : Option Nat :=
  if 0x80 ≤ b.toNat ∧ b.toNat ≤ 0xbf then some (b.toNat - 0x80) else none

/-- The character with a code point that needs the given number of bytes. -/
def character? (least n : Nat) : Option Char :=
  if least ≤ n ∧ n.isValidChar then some (Char.ofNat n) else none

/-- Where a decoder stands: before a character, or inside one with so many bytes to come, the
least code point that needs that many bytes, and the bits read so far. -/
inductive Decoder where
  | start
  | inside (left least value : Nat)
  deriving DecidableEq, Repr

/-- The characters that bytes encode from a state of the decoder on, and the state after them. -/
def decodeFrom : Decoder → List UInt8 → Option (List Char × Decoder)
  | decoder, [] => some ([], decoder)
  | .start, b :: bs =>
    let n := b.toNat
    if n < 0x80 then (decodeFrom .start bs).map fun r => (Char.ofNat n :: r.1, r.2)
    else if n < 0xc0 then none
    else if n < 0xe0 then decodeFrom (.inside 1 0x80 (n - 0xc0)) bs
    else if n < 0xf0 then decodeFrom (.inside 2 0x800 (n - 0xe0)) bs
    else if n < 0xf8 then decodeFrom (.inside 3 0x10000 (n - 0xf0)) bs
    else none
  | .inside left least value, b :: bs =>
    match continuation? b with
    | none => none
    | some bits =>
      let n := value * 0x40 + bits
      if 1 < left then decodeFrom (.inside (left - 1) least n) bs
      else
        match character? least n with
        | some c => (decodeFrom .start bs).map fun r => (c :: r.1, r.2)
        | none => none

/-- The characters that bytes encode. -/
def decodeUtf8 (bs : List UInt8) : Option (List Char) :=
  match decodeFrom .start bs with
  | some (cs, .start) => some cs
  | _ => none

/-- The bytes of one character. -/
def encodeChar (c : Char) : List UInt8 :=
  let n := c.toNat
  let tail (shift : Nat) : UInt8 := UInt8.ofNat (0x80 + n / Nat.pow 2 shift % 0x40)
  if n < 0x80 then [UInt8.ofNat n]
  else if n < 0x800 then [UInt8.ofNat (0xc0 + n / 0x40), tail 0]
  else if n < 0x10000 then [UInt8.ofNat (0xe0 + n / 0x1000), tail 6, tail 0]
  else [UInt8.ofNat (0xf0 + n / 0x40000), tail 12, tail 6, tail 0]

/-- The bytes of characters. -/
def encodeUtf8 (cs : List Char) : List UInt8 :=
  cs.flatMap encodeChar

end Text

end ClassQuota
