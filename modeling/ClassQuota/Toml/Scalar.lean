import ClassQuota.Number.Decimal
import ClassQuota.Toml.Reading
import ClassQuota.Value

/-!
# Numbers, dates and times of TOML

A value that is no text, truth value, array or table is first tried as a date, then as a time,
then as a number. Each takes the longest front of the text that has its form, whatever follows.

## Main definitions

* `Toml.dateTime?` — a date, with a time and an offset where they follow
* `Toml.time?` — a time of day
* `Toml.number?` — an integer or a floating-point number
-/

namespace ClassQuota

namespace Toml

/-- A fraction of a second in microseconds; further digits are dropped. -/
def fraction (cs : List Char) : Nat × List Char :=
  match cs with
  | '.' :: rest =>
    let ds := (rest.takeWhile Char.isDigit).filterMap (baseDigit? 10)
    if ds = [] then (0, cs)
    else
      let kept := ds.take 6
      (ofDigits 10 (kept ++ List.replicate (6 - kept.length) 0), rest.drop ds.length)
  | _ => (0, cs)

/-- A time of day. -/
def time? (cs : List Char) : Option (TimeOfDay × List Char) := do
  let (hour, cs) ← fixedNumber? 2 0 23 cs
  let cs ← after? ':' cs
  let (minute, cs) ← fixedNumber? 2 0 59 cs
  let cs ← after? ':' cs
  let (second, cs) ← fixedNumber? 2 0 59 cs
  let (micro, cs) := fraction cs
  some (⟨hour, minute, second, micro, none⟩, cs)

/-- An offset from universal time in seconds. -/
def offset? (cs : List Char) : Option (Int × List Char) :=
  match cs with
  | c :: rest =>
    if c = 'Z' ∨ c = 'z' then some (0, rest)
    else if c = '+' ∨ c = '-' then do
      let (hours, rest) ← fixedNumber? 2 0 23 rest
      let rest ← after? ':' rest
      let (minutes, rest) ← fixedNumber? 2 0 59 rest
      some (withSign (c == '-') (hours * 3600 + minutes * 60), rest)
    else none
  | [] => none

/-- A date whose parts are in range, but for the number of days of the month. -/
def date? (cs : List Char) : Option (Date × List Char) := do
  let (year, cs) ← fixedDigits? 4 cs
  let cs ← after? '-' cs
  let (month, cs) ← fixedNumber? 2 1 12 cs
  let cs ← after? '-' cs
  let (day, cs) ← fixedNumber? 2 1 31 cs
  some (⟨year, month, day⟩, cs)

/-- The time that follows a date. -/
def timeAfterDate? (cs : List Char) : Option (TimeOfDay × List Char) :=
  match cs with
  | c :: rest =>
    if c = 'T' ∨ c = 't' ∨ c = ' ' then do
      let (time, rest) ← time? rest
      match offset? rest with
      | some (seconds, rest) => some ({ time with offset := some seconds }, rest)
      | none => some (time, rest)
    else none
  | [] => none

/-- A date, or a date and a time. A date that does not exist is malformed. -/
def dateTime? (cs : List Char) : Option (Reading Value) := do
  let (date, rest) ← date? cs
  if date.flaw?.isSome then some malformed
  else
    match timeAfterDate? rest with
    | some (time, rest) => some (.ok (.dateTime ⟨date, time⟩, rest))
    | none => some (.ok (.date date, rest))

/-- An integer with a mark of its base. -/
def markedInteger? (cs : List Char) : Option (Int × List Char) :=
  match cs with
  | '0' :: mark :: rest => do
    let base ← [('x', 16), ('o', 8), ('b', 2)].lookup mark
    match digitRun (baseDigit? base) false rest with
    | ([], _) => none
    | (ds, rest) => some (ofDigits base ds, rest)
  | _ => none

/-- The digits before the point: a zero stands alone. -/
def wholePart? (cs : List Char) : Option (List Nat × List Char) :=
  match cs with
  | '0' :: rest => some ([0], rest)
  | _ =>
    match digitRun (baseDigit? 10) false cs with
    | ([], _) => none
    | run => some run

/-- The digits after a point, none where no digit follows the point. -/
def pointPart (cs : List Char) : List Nat × List Char :=
  match cs with
  | '.' :: rest =>
    match digitRun (baseDigit? 10) false rest with
    | ([], _) => ([], cs)
    | run => run
  | _ => ([], cs)

/-- The exponent, where one follows. -/
def exponentPart? (cs : List Char) : Option (Int × List Char) :=
  match cs with
  | c :: rest =>
    if c = 'e' ∨ c = 'E' then
      let signed := splitSign rest
      match digitRun (baseDigit? 10) false signed.2 with
      | ([], _) => none
      | (ds, rest) => some (withSign signed.1 (ofDigits 10 ds), rest)
    else none
  | [] => none

/-- An integer or a floating-point number. -/
def number? (cs : List Char) : Option (Reading Value) :=
  match markedInteger? cs with
  | some (n, rest) => some (.ok (.int n, rest))
  | none => do
    let signed := splitSign cs
    let (whole, rest) ← wholePart? signed.2
    let (fraction, rest) := pointPart rest
    match fraction, exponentPart? rest with
    | [], none =>
      if Numeral.limit < whole.length then some (.error (.tooManyDigits whole.length))
      else some (.ok (.int (withSign signed.1 (ofDigits 10 whole)), rest))
    | _, exponent =>
      let (power, rest) := exponent.getD (0, rest)
      let digits := ofDigits 10 (whole ++ fraction)
      some (.ok (.float (.ofDecimal signed.1 digits (power - fraction.length)), rest))

/-- The names of the numbers that have no digits. -/
def special? (cs : List Char) : Option (Value × List Char) :=
  let signed := splitSign cs
  match signed.2 with
  | 'i' :: 'n' :: 'f' :: rest => some (.float (.infinite signed.1), rest)
  | 'n' :: 'a' :: 'n' :: rest => some (.float .nan, rest)
  | _ => none

/-- A truth value. -/
def truth? (cs : List Char) : Option (Value × List Char) :=
  if "true".toList.isPrefixOf cs then some (.bool true, cs.drop 4)
  else if "false".toList.isPrefixOf cs then some (.bool false, cs.drop 5)
  else none

/-- A value without parts other than a text. -/
def scalar (cs : List Char) : Reading Value :=
  match truth? cs with
  | some r => .ok r
  | none =>
    match dateTime? cs with
    | some r => r
    | none =>
      match time? cs with
      | some (t, rest) => .ok (.time t, rest)
      | none =>
        match number? cs with
        | some r => r
        | none =>
          match special? cs with
          | some r => .ok r
          | none => malformed

end Toml

end ClassQuota
