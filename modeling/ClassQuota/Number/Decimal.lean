import ClassQuota.Number.Numeral
import ClassQuota.Number.Binary64

/-!
# Reading decimal fractions

A decimal fraction is a run of digits, a point and a run of digits, of which one run may be
empty, and an optional exponent. The names of the infinities and of `nan` are read in either
case.

## Main definitions

* `Decimal` — digits and a power of ten
* `Decimal.ofChars?` — reading an unsigned fraction
* `Binary64.ofChars?` — reading a floating-point number
-/

namespace ClassQuota

/-- The number `digits · 10 ^ exponent`. -/
structure Decimal where
  digits : Nat
  exponent : Int

namespace Decimal

/-- The exponent at the front of a text, zero where there is none, and what follows it. An `e`
without digits is no exponent. -/
def exponentPart (cs : List Char) : Int × List Char :=
  match cs with
  | c :: rest =>
    if c.toLower = 'e' then
      let signed := splitSign rest
      match digitRun Text.digitValue? false signed.2 with
      | ([], _) => (0, cs)
      | (ds, after) => (withSign signed.1 (ofDigits 10 ds), after)
    else (0, cs)
  | [] => (0, [])

/-- An unsigned decimal fraction. -/
def ofChars? (cs : List Char) : Option Decimal :=
  let whole := digitRun Text.digitValue? false cs
  let fraction := match whole.2 with
    | '.' :: rest => digitRun Text.digitValue? false rest
    | rest => ([], rest)
  let ds := whole.1 ++ fraction.1
  let exponent := exponentPart fraction.2
  if ds = [] ∨ exponent.2 ≠ [] then none
  else some ⟨ofDigits 10 ds, exponent.1 - fraction.1.length⟩

end Decimal

/-- The floating-point number nearest to what a text denotes. -/
def Binary64.ofChars? (cs : List Char) : Option Binary64 :=
  let signed := splitSign (Text.trim Text.isSpace cs)
  let word := String.ofList (signed.2.map Char.toLower)
  if word = "inf" ∨ word = "infinity" then some (.infinite signed.1)
  else if word = "nan" then some .nan
  else (Decimal.ofChars? signed.2).map fun d => .ofDecimal signed.1 d.digits d.exponent

end ClassQuota
