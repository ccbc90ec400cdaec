import ClassQuota.Text.Utf8
import ClassQuota.Yaml.Token.Lexer

/-!
# Reading a YAML file

A file is read in pieces, and the next piece only when the text goes on beyond the last one. A
piece that is no UTF-8 or holds a character that no text may hold is a fault, which is met only by
reading so far. The first two pieces are read at once.

The bytes for the pieces are decoded in chunks of their own, so a piece can meet a fault that lies
behind its end. Every kind of line end that holds a carriage return is read as a line feed.

## Main definitions

* `Yaml.isReadable` — the characters that a text may hold
* `Yaml.Source` — a file that is being read
* `Yaml.Source.piece` — the next piece
* `Yaml.Source.text` — the text of a file, and where it breaks off
-/

namespace ClassQuota

namespace Yaml

/-- A character that a text may hold. -/
def isReadable (c : Char) : Bool :=
  let n := c.toNat
  c == '\t' || c == '\n' || c == '\u0085' || (0x20 ≤ n && n ≤ 0x7e) ||
    (0xa0 ≤ n && n ≤ 0xfffd) || 0x10000 ≤ n

/-- The text with every kind of line end that holds a carriage return as a line feed. -/
def unixLines : List Char → List Char
  | [] => []
  | '\r' :: '\n' :: cs => '\n' :: unixLines cs
  | '\r' :: cs => '\n' :: unixLines cs
  | c :: cs => c :: unixLines cs

/-- A file that is being read. -/
structure Source where
  /-- The bytes that are not decoded yet. -/
  bytes : List UInt8
  decoder : Text.Decoder := .start
  /-- Whether the bytes so far end with a carriage return, which a line feed may follow. -/
  returned : Bool := false
  /-- The characters that are decoded but not read yet. -/
  ready : List Char := []
  /-- How many bytes the last chunk had, and how many characters. -/
  chunkBytes : Nat := 0
  chunkCharacters : Nat := 0
  /-- Whether all bytes are decoded, and their end was seen. -/
  ended : Bool := false

namespace Source

/-- How many characters a piece has. -/
def pieceSize : Nat := 4096

/-- How many bytes a chunk has at least. -/
def chunkSize : Nat := 8192

/-- How many bytes are decoded for so many characters: no fewer than they would take if they took
as many each as those of the last chunk. -/
def bytesFor (wanted : Nat) (s : Source) : Nat :=
  max chunkSize
    (if s.chunkCharacters = 0 then wanted
    else max wanted (s.chunkBytes * wanted / s.chunkCharacters))

/-- Decode one chunk, or see the end. -/
def decode (wanted : Nat) (s : Source) : Except Fault Source :=
  let chunk := s.bytes.take (s.bytesFor wanted)
  let carried := if s.returned then ['\r'] else []
  match Text.decodeFrom s.decoder chunk with
  | none => .error .notUtf8
  | some (cs, decoder) =>
    if chunk = [] then
      if s.decoder = .start then
        .ok { s with ready := s.ready ++ unixLines carried, returned := false, ended := true }
      else .error .notUtf8
    else
      let cs := carried ++ cs
      let returned := cs.getLast? = some '\r'
      let cs := unixLines (if returned then cs.dropLast else cs)
      .ok { s with
        bytes := s.bytes.drop chunk.length
        decoder := decoder
        returned := returned
        ready := s.ready ++ cs
        chunkBytes := chunk.length
        chunkCharacters := cs.length }

/-- Decode chunks until so many characters are ready, or the end was seen. -/
def prepare (count : Nat) : (fuel : Nat) → Source → Except Fault Source
  | 0, s => .ok s
  | fuel + 1, s =>
    if s.ended ∨ count ≤ s.ready.length then .ok s
    else do prepare count fuel (← s.decode (count - s.ready.length))

/-- The next piece. It is shorter than others at the end of the file, and then empty. -/
def piece (s : Source) : Except Fault (List Char × Source) := do
  let s ← s.prepare pieceSize (s.bytes.length + 2)
  .ok (s.ready.take pieceSize, { s with ready := s.ready.drop pieceSize })

/-- The next pieces, after so many characters, up to the first fault. -/
def pieces : (fuel : Nat) → (before : Nat) → Source → List Char × Option Cut
  | 0, _, _ => ([], none)
  | fuel + 1, before, s =>
    match s.piece with
    | .error fault => ([], some ⟨before, fault⟩)
    | .ok ([], _) => ([], none)
    | .ok (cs, s) =>
      if cs.all isReadable then
        let others := pieces fuel (before + cs.length) s
        (cs ++ others.1, others.2)
      else ([], some ⟨before, .malformedRegistry⟩)

/-- The text of a file, and where it breaks off. A fault of the first two pieces is met whatever
is read. -/
def text (bytes : List UInt8) : Except Fault (List Char × Option Cut) := do
  let (first, s) ← piece { bytes := bytes }
  let (second, s) ← s.piece
  let cs := first ++ second
  if cs.all isReadable then
    let others := pieces (bytes.length + 1) cs.length s
    .ok (cs ++ others.1, others.2)
  else malformed

end Source

end Yaml

end ClassQuota
