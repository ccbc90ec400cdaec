import ClassQuota.Text.Blank
import ClassQuota.Text.Digit

/-!
# Numerals

The text of an integer is an optional sign and a run of digits in which single underscores may
stand between two digits. Surrounding white space is ignored. Neither reading nor writing goes
beyond `Numeral.limit` digits.

## Main definitions

* `digitRun` — the digits at the front of a text, and the rest
* `ofDigits` — the number that digits denote in a base
* `Numeral.decimal`, `Numeral.inBase` — reading an integer
* `Numeral.write` — writing an integer
-/

namespace ClassQuota

/-- The digits at the front of a text and what follows them. A single underscore between two
digits is skipped; `after` tells that a digit stands just before the text. -/
def digitRun (digit? : Char → Option Nat) (after : Bool) : List Char → List Nat × List Char
  | [] => ([], [])
  | c :: rest =>
    match digit? c with
    | some d =>
      let run := digitRun digit? true rest
      (d :: run.1, run.2)
    | none =>
      if c = '_' && after && (rest.head?.bind digit?).isSome then digitRun digit? false rest
      else ([], c :: rest)

/-- The number that digits, most significant first, denote in a base. -/
def ofDigits (base : Nat) (ds : List Nat) : Nat :=
  ds.foldl (fun n d => base * n + d) 0

/-- The value of an ASCII digit of a base up to sixteen, in either case. -/
def baseDigit? (base : Nat) (c : Char) : Option Nat :=
  let n := c.toNat
  let d? :=
    if 0x30 ≤ n ∧ n ≤ 0x39 then some (n - 0x30)
    else if 0x41 ≤ n ∧ n ≤ 0x46 then some (n - 0x37)
    else if 0x61 ≤ n ∧ n ≤ 0x66 then some (n - 0x57)
    else none
  d?.filter (· < base)

/-- A sign at the front of a text, as "is negative", and what follows it. -/
def splitSign : List Char → Bool × List Char
  | '-' :: cs => (true, cs)
  | '+' :: cs => (false, cs)
  | cs => (false, cs)

/-- A magnitude with a sign. -/
def withSign (negative : Bool) (n : Nat) : Int :=
  if negative then -(n : Int) else n

namespace Numeral

/-- The largest number of decimal digits that is read or written. -/
def limit : Nat := 4300

/-- Why a text is not read as an integer. -/
inductive Flaw where
  /-- The text is not a numeral. -/
  | malformed
  /-- The text is a numeral of too many digits. -/
  | tooLong (digits : Nat)
  deriving DecidableEq, Repr

/-- All digits of a text that consists of digits and single underscores between them. -/
def digits? (digit? : Char → Option Nat) (cs : List Char) : Option (List Nat) :=
  match digitRun digit? false cs with
  | (d :: ds, []) => some (d :: ds)
  | _ => none

/-- The integer of a decimal numeral, in digits of any script. An underscore in a wrong place is
found first, then too many digits, and then what stands after the digits. -/
def decimal (cs : List Char) : Except Flaw Int :=
  let signed := splitSign (Text.trim Text.isSpace cs)
  match digitRun Text.digitValue? false signed.2 with
  | ([], _) => .error .malformed
  | (ds, rest) =>
    if rest.head? = some '_' then .error .malformed
    else if limit < ds.length then .error (.tooLong ds.length)
    else if rest = [] then .ok (withSign signed.1 (ofDigits 10 ds))
    else .error .malformed

/-- The letter that marks a base after a leading zero. -/
def baseMark? : Nat → Option Char
  | 2 => some 'b'
  | 8 => some 'o'
  | 16 => some 'x'
  | _ => none

/-- The text without the mark of its base, a zero and a letter in either case. -/
def dropMark (base : Nat) : List Char → List Char
  | '0' :: c :: rest => if baseMark? base = some c.toLower then rest else '0' :: c :: rest
  | cs => cs

/-- A digit of any script as an ASCII digit. -/
def asciiDigit (c : Char) : Char :=
  match Text.digitValue? c with
  | some d => Char.ofNat (0x30 + d)
  | none => c

/-- The integer of a numeral in base two, eight or sixteen, whose length is not limited. -/
def inBase (base : Nat) (cs : List Char) : Except Flaw Int :=
  let signed := splitSign ((Text.trim Text.isSpace cs).map asciiDigit)
  match digits? (baseDigit? base) (dropMark base signed.2) with
  | none => .error .malformed
  | some ds => .ok (withSign signed.1 (ofDigits base ds))

/-- The decimal text of an integer, or nothing when it has too many digits. -/
def write (n : Int) : Option String :=
  if (Nat.repr n.natAbs).length ≤ limit then some (toString n) else none

end Numeral

end ClassQuota
