import ClassQuota.Number.Binary64

/-!
# Shortest decimal text of a floating-point number

The digits written for a number are the fewest that read back as it, and of those the nearest
to it. For one digit, two digits and so on the two neighbours of the value on that decimal grid
are compared with the interval of reals that round to the number, in exact arithmetic; the first
grid with a neighbour inside wins.

## Main definitions

* `Interval` — a value and the reals that round to it
* `Binary64.shortest` — the digits and their decimal exponent
* `Binary64.text` — the text of a number
-/

namespace ClassQuota

/-- A value with the ends of the interval of reals that round to it, as numerators over one
denominator. The ends belong to the interval iff `closed`. -/
structure Interval where
  value : Nat
  low : Nat
  high : Nat
  den : Nat
  closed : Bool

namespace Interval

/-- The interval of `mantissa · 2 ^ exponent`. Below a power of two the numbers lie twice as
close as above it. -/
def ofFinite (mantissa : Nat) (exponent : Int) : Interval :=
  let below := if mantissa = Nat.pow 2 (Binary64.precision - 1) ∧ Binary64.minExponent < exponent
    then 1 else 2
  let scale (n : Nat) : Nat := (scaleBinary n 1 (2 - exponent)).1
  { value := scale (4 * mantissa)
    low := scale (4 * mantissa - below)
    high := scale (4 * mantissa + 2)
    den := (scaleBinary 1 1 (2 - exponent)).2
    closed := mantissa % 2 == 0 }

/-- The greatest integer `p` with `10 ^ p` at most the value, for a positive value. -/
def decimalOrder (i : Interval) : Int :=
  if i.den ≤ i.value then ((Nat.repr (i.value / i.den)).length : Int) - 1
  else
    let length := (Nat.repr (i.den / i.value)).length
    if i.den ≤ i.value * Nat.pow 10 (length - 1) then -((length : Int) - 1) else -(length : Int)

/-- The point `c · 10 ^ k` and an end or value `n / den`, as numerators over one denominator. -/
def align (i : Interval) (k : Int) (c n : Nat) : Nat × Nat :=
  if 0 ≤ k then (c * Nat.pow 10 k.toNat * i.den, n) else (c * i.den, n * Nat.pow 10 (-k).toNat)

/-- Whether the point `c · 10 ^ k` lies in the interval. -/
def holds (i : Interval) (k : Int) (c : Nat) : Bool :=
  let low := i.align k c i.low
  let high := i.align k c i.high
  if i.closed then low.2 ≤ low.1 && high.1 ≤ high.2 else low.2 < low.1 && high.1 < high.2

/-- The point of the grid of step `10 ^ k` that lies in the interval and is nearest to the
value; of two points at one distance the even one. -/
def nearest? (i : Interval) (k : Int) : Option Nat :=
  let grid := i.align k 1 i.value
  let c := grid.2 / grid.1
  let toLow := grid.2 - c * grid.1
  let toHigh := (c + 1) * grid.1 - grid.2
  let preferLow := toLow < toHigh || (toLow == toHigh && c % 2 == 0)
  let first := if preferLow then c else c + 1
  let second := if preferLow then c + 1 else c
  if i.holds k first && first != 0 then some first
  else if i.holds k second && second != 0 then some second
  else none

end Interval

/-- The greatest number of digits that is ever needed. -/
def maxDigits : Nat := 17

/-- A number without its trailing decimal zeros, and how many there were. -/
def dropZeros : (fuel : Nat) → Nat → Nat × Nat
  | 0, n => (n, 0)
  | fuel + 1, n =>
    if n ≠ 0 ∧ n % 10 = 0 then
      let r := dropZeros fuel (n / 10)
      (r.1, r.2 + 1)
    else (n, 0)

/-- How a floating-point number is laid out: the decimal orders that are written without an
exponent, and the least number of digits of an exponent. -/
structure FloatLayout where
  minPositional : Int
  maxPositional : Int
  exponentWidth : Nat

namespace Binary64

/-- The fewest digits that read back as `mantissa · 2 ^ exponent`, and the power of ten they are
to be multiplied by. -/
def shortest (mantissa : Nat) (exponent : Int) : Nat × Int :=
  let interval := Interval.ofFinite mantissa exponent
  let order := interval.decimalOrder
  let found := (List.range maxDigits).findSome? fun (n : Nat) =>
    (interval.nearest? (order - n)).map fun c => (c, order - n)
  match found with
  | some (c, k) =>
    let r := dropZeros (maxDigits + 1) c
    (r.1, k + r.2)
  | none => (0, 0)

/-- Numbers of order below -4 or from 16 on are written with an exponent of two digits or
more. -/
def layout : FloatLayout := ⟨-4, 15, 2⟩

/-- The text of a positive number `digits · 10 ^ exponent`. -/
def layOut (l : FloatLayout) (digits : Nat) (exponent : Int) : String :=
  let ds := (Nat.repr digits).toList
  let order : Int := ds.length - 1 + exponent
  if l.minPositional ≤ order ∧ order ≤ l.maxPositional then
    if order < 0 then
      String.ofList ("0.".toList ++ List.replicate (-order - 1).toNat '0' ++ ds)
    else
      let whole := order.toNat + 1
      let padded := ds ++ List.replicate (whole - ds.length) '0'
      let fraction := if padded.drop whole = [] then ['0'] else padded.drop whole
      String.ofList (padded.take whole ++ '.' :: fraction)
  else
    let point := if ds.length = 1 then [] else '.' :: ds.drop 1
    let size := (Nat.repr order.natAbs).toList
    let zeros := List.replicate (l.exponentWidth - size.length) '0'
    String.ofList
      (ds.take 1 ++ point ++ 'e' :: (if order < 0 then '-' else '+') :: zeros ++ size)

/-- The text of a number. -/
def text : Binary64 → String
  | .nan => "nan"
  | .infinite negative => if negative then "-inf" else "inf"
  | .finite negative mantissa exponent =>
    let sign := if negative then "-" else ""
    if mantissa = 0 then sign ++ "0.0"
    else
      let d := shortest mantissa exponent
      sign ++ layOut layout d.1 d.2

end Binary64

end ClassQuota
