import ClassQuota.Fault
import ClassQuota.Number.Decimal
import ClassQuota.Text.Base64
import ClassQuota.Text.Lower
import ClassQuota.Text.Quoted
import ClassQuota.Yaml.Cursor
import ClassQuota.Yaml.Tag

/-!
# The values of scalars

The tag of a scalar says how its text is read, which is given by code points. A tag that a plain
scalar was given by its text fits that text; one that a node names itself may not, and then the
text is refused in the way of its kind.

## Main definitions

* `Yaml.readBool`, `Yaml.readInt`, `Yaml.readFloat`, `Yaml.readBinary`, `Yaml.readTimestamp` —
  reading a text by each kind
* `Yaml.readScalar` — reading a text by its tag
-/

namespace ClassQuota

namespace Yaml

/-- The words for truth values. -/
def truthWords : List (String × Bool) :=
  [("yes", true), ("no", false), ("true", true), ("false", false), ("on", true), ("off", false)]

/-- The characters of a text. Half of a surrogate pair is read as a character that is neither a
digit nor a blank nor a letter, as it is none itself. -/
def characters (text : List Nat) : List Char :=
  text.map Text.charD

/-- The literal of a text. -/
def shown (text : List Nat) : String :=
  String.ofList (Text.quotedCodes text)

/-- A truth value, in either case. -/
def readBool (text : List Nat) : Except Fault Value :=
  match truthWords.lookup (String.ofList ((characters text).map Char.toLower)) with
  | some b => .ok (.bool b)
  | none => .error .missingKey

/-- A text without its underscores, which do not count in numbers. -/
def withoutUnderscores (text : List Nat) : List Nat :=
  text.filter (· ≠ '_'.toNat)

/-- A sign at the front of a text, as "is negative", and what follows it. -/
def takeSign : List Nat → Bool × List Nat
  | [] => (false, [])
  | n :: ns =>
    if n = '-'.toNat then (true, ns) else if n = '+'.toNat then (false, ns) else (false, n :: ns)

/-- The integer of a numeral, or why there is none. -/
def numeral (base : Nat) (text : List Nat) : Except Fault Int :=
  let cs := characters text
  match (if base = 10 then Numeral.decimal cs else Numeral.inBase base cs) with
  | .ok n => .ok n
  | .error .malformed => .error (.notInteger base (shown text))
  | .error (.tooLong digits) => .error (.tooManyDigits (some digits))

/-- The number of places in base sixty, of which the first counts most. -/
def sexagesimal (places : List Int) : Int :=
  places.foldl (fun n place => 60 * n + place) 0

/-- The places of a number in base sixty. -/
def places (text : List Nat) : List (List Nat) :=
  Text.fields ':'.toNat text

/-- The magnitude of an integer. A leading zero marks base eight, unless a letter follows it that
marks another base. -/
def readMagnitude (text : List Nat) : Except Fault Int :=
  match characters (text.take 2) with
  | [] => .error .emptyText
  | ['0', 'b'] => numeral 2 (text.drop 2)
  | ['0', 'x'] => numeral 16 (text.drop 2)
  | '0' :: _ => if text.length = 1 then .ok 0 else numeral 8 text
  | _ =>
    if text.contains ':'.toNat then ((places text).mapM (numeral 10)).map sexagesimal
    else numeral 10 text

/-- An integer. -/
def readInt (text : List Nat) : Except Fault Value :=
  match withoutUnderscores text with
  | [] => .error .emptyText
  | ns =>
    let signed := takeSign ns
    (readMagnitude signed.2).map fun n => .int (if signed.1 then -n else n)

/-- The floating-point number of a text. -/
def fraction (text : List Nat) : Except Fault Binary64 :=
  match Binary64.ofChars? (characters text) with
  | some x => .ok x
  | none => .error (.notFloat (shown text))

/-- The sum of places in base sixty, of which the first counts least, from a power of sixty on. -/
def addPlaces (power : Nat) (sum : Binary64) : List Binary64 → Except Fault Binary64
  | [] => .ok sum
  | place :: others =>
    match Binary64.ofInt power with
    | .infinite _ => .error .beyondFloat
    | factor => addPlaces (power * 60) (sum.add (place.mul factor)) others

/-- The word for what is no number. -/
def isNanWord (text : List Nat) : Bool :=
  text == Text.codes ".nan".toList

/-- The sign and the magnitude of a floating-point number, in lower case. -/
def floatParts (text : List Nat) : Bool × List Nat :=
  takeSign (Text.lowered (withoutUnderscores text))

/-- The magnitude of a floating-point number. -/
def readFloatMagnitude (text : List Nat) : Except Fault Binary64 :=
  if text = Text.codes ".inf".toList then .ok (.infinite false)
  else if isNanWord text then .ok .nan
  else if text.contains ':'.toNat then do
    addPlaces 1 (.zero false) (← (places text).mapM fraction).reverse
  else fraction text

/-- A floating-point number, in either case. -/
def readFloat (text : List Nat) : Except Fault Value :=
  if withoutUnderscores text = [] then .error .emptyText
  else
    let signed := floatParts text
    (readFloatMagnitude signed.2).map fun x => .float (if signed.1 then x.neg else x)

/-- Bytes in base 64. -/
def readBinary (text : List Nat) : Except Fault Value :=
  if text.all (· < 0x80) then
    match Text.decodeBase64 (characters text) with
    | some bytes => .ok (.bytes bytes)
    | none => malformed
  else malformed

/-- The number of ASCII digits. -/
def natural (cs : List Char) : Nat :=
  ofDigits 10 (cs.filterMap (baseDigit? 10))

/-- The microseconds of the digits of a fraction. Digits after the sixth do not count. -/
def microseconds (cs : List Char) : Nat :=
  let ds := cs.take 6
  natural (ds ++ List.replicate (6 - ds.length) '0')

/-- The date of a timestamp. -/
def Timestamp.date (t : Timestamp) : Date :=
  ⟨natural t.year, natural t.month, natural t.day⟩

/-- The offset of a timestamp in seconds. -/
def Timestamp.seconds? (t : Timestamp) : Option Int :=
  t.offset.map fun (behind, hours, minutes) =>
    withSign behind (natural hours * 3600 + natural minutes * 60)

/-- A part of the calendar, unless it has a flaw. -/
def sound (flaw? : Option CalendarFlaw) (value : Value) : Except Fault Value :=
  match flaw? with
  | some flaw => .error (.calendar flaw)
  | none => .ok value

/-- A date, or a date with a time of day. An offset out of range is found before all else. -/
def readTimestamp (text : List Nat) : Except Fault Value :=
  match Timestamp.ofChars? (Tag.dropFinalBreak (characters text)) with
  | none => .error .noOperation
  | some t =>
    match t.time with
    | none => sound t.date.flaw? (.date t.date)
    | some (hour, minute, second) =>
      let d : DateTime := ⟨t.date,
        ⟨natural hour, natural minute, natural second, microseconds t.fraction, t.seconds?⟩⟩
      sound (t.seconds?.bind Offset.flaw? <|> d.flaw?) (.dateTime d)

/-- The value of a scalar with a tag for scalars. -/
def readScalar (tag : Tag) (text : List Nat) : Except Fault Value :=
  match tag with
  | .null => .ok .null
  | .bool => readBool text
  | .int => readInt text
  | .float => readFloat text
  | .binary => readBinary text
  | .timestamp => readTimestamp text
  | .text => .ok (.ofCodes text)
  | _ => malformed

end Yaml

end ClassQuota
