/-!
# Binary floating-point numbers

A number is a signed multiple of a power of two, an infinity or not a number. The numbers that
occur are those of the 64-bit format: they come from `Binary64.ofRatio`, which rounds a quotient
to the nearest of them, a tie to the one with an even mantissa. Arithmetic is exact arithmetic
followed by that rounding.

## Main definitions

* `Binary64` — the numbers
* `Binary64.ofRatio`, `Binary64.ofDecimal` — rounding
* `Binary64.toInt?` — the integer that a number is
* `Binary64.same`, `Binary64.equalsInt`, `Binary64.atLeastOne` — comparisons of exact values
-/

namespace ClassQuota

/-- A signed zero or `± mantissa · 2 ^ exponent`, an infinity, or not a number. -/
inductive Binary64 where
  | finite (negative : Bool) (mantissa : Nat) (exponent : Int)
  | infinite (negative : Bool)
  | nan
  deriving DecidableEq, Repr

/-- The quotient rounded to the nearest integer, a tie to the even one. -/
def roundQuotient (num den : Nat) : Nat :=
  let q := num / den
  let r := num % den
  if 2 * r < den then q else if 2 * r = den then q + q % 2 else q + 1

/-- The quotient of `num` and `den · 2 ^ exponent` as a quotient of natural numbers. -/
def scaleBinary (num den : Nat) (exponent : Int) : Nat × Nat :=
  if 0 ≤ exponent then (num, den * Nat.pow 2 exponent.toNat)
  else (num * Nat.pow 2 (-exponent).toNat, den)

namespace Binary64

/-- The number of binary digits of a full mantissa. -/
def precision : Nat := 53

/-- The least exponent. -/
def minExponent : Int := -1074

/-- The greatest exponent. -/
def maxExponent : Int := 971

/-- A zero of either sign. -/
def zero (negative : Bool) : Binary64 := .finite negative 0 0

/-- The greatest integer `k` with `2 ^ k ≤ num / den`, for positive `num` and `den`. -/
def binaryOrder (num den : Nat) : Int :=
  let k : Int := (num.log2 : Int) - den.log2
  let scaled := scaleBinary num den k
  if scaled.1 < scaled.2 then k - 1 else k

/-- The number nearest to `num / den`, with a sign. -/
def ofRatio (negative : Bool) (num den : Nat) : Binary64 :=
  if num = 0 ∨ den = 0 then zero negative
  else
    let exponent := max (binaryOrder num den - (precision - 1)) minExponent
    let scaled := scaleBinary num den exponent
    let mantissa := roundQuotient scaled.1 scaled.2
    let carried := if mantissa = Nat.pow 2 precision then (Nat.pow 2 (precision - 1), exponent + 1)
      else (mantissa, exponent)
    if carried.1 = 0 then zero negative
    else if maxExponent < carried.2 then .infinite negative
    else .finite negative carried.1 carried.2

/-- The number nearest to `digits · 10 ^ exponent`. Decimal exponents far outside the range of
the format are settled without building the power of ten. -/
def ofDecimal (negative : Bool) (digits : Nat) (exponent : Int) : Binary64 :=
  let order : Int := (Nat.repr digits).length + exponent
  if digits = 0 then zero negative
  else if 400 < order then .infinite negative
  else if order < -400 then zero negative
  else if 0 ≤ exponent then ofRatio negative (digits * Nat.pow 10 exponent.toNat) 1
  else ofRatio negative digits (Nat.pow 10 (-exponent).toNat)

/-- The number nearest to an integer. -/
def ofInt (n : Int) : Binary64 := ofRatio (decide (n < 0)) n.natAbs 1

/-- The number `1`. -/
def one : Binary64 := ofInt 1

/-- The exact value of a finite number as a quotient. -/
def ratio? : Binary64 → Option (Int × Nat)
  | .finite negative mantissa exponent =>
    let scaled := scaleBinary mantissa 1 (-exponent)
    some (if negative then -(scaled.1 : Int) else scaled.1, scaled.2)
  | _ => none

/-- The integer that a finite number is, if it is one. -/
def toInt? (x : Binary64) : Option Int :=
  match x.ratio? with
  | some (num, den) => if num % den = 0 then some (num / den) else none
  | none => none

/-- Whether a number is a zero. -/
def isZero : Binary64 → Bool
  | .finite _ mantissa _ => mantissa == 0
  | _ => false

/-- The number with the opposite sign. -/
def neg : Binary64 → Binary64
  | .finite negative mantissa exponent => .finite (!negative) mantissa exponent
  | .infinite negative => .infinite (!negative)
  | .nan => .nan

/-- Whether two numbers have one value. The two zeros have, and `nan` has none. -/
def same : Binary64 → Binary64 → Bool
  | .infinite s, .infinite t => s == t
  | x, y =>
    match x.ratio?, y.ratio? with
    | some (a, b), some (c, d) => a * d == c * b
    | _, _ => false

/-- Whether a number is a given integer. -/
def equalsInt (x : Binary64) (n : Int) : Bool :=
  match x.ratio? with
  | some (num, den) => num == n * den
  | none => false

/-- Whether a number is at least one. -/
def atLeastOne : Binary64 → Bool
  | .infinite negative => !negative
  | x =>
    match x.ratio? with
    | some (num, den) => decide ((den : Int) ≤ num)
    | none => false

/-- The number nearest to a quotient with a signed numerator. -/
def ofSignedRatio (num : Int) (den : Nat) : Binary64 :=
  ofRatio (decide (num < 0)) num.natAbs den

/-- Whether a number has the sign of the negative numbers. -/
def isNegative : Binary64 → Bool
  | .finite negative _ _ => negative
  | .infinite negative => negative
  | .nan => false

/-- The sum of two numbers. -/
def add (x y : Binary64) : Binary64 :=
  match x, y with
  | .nan, _ => .nan
  | _, .nan => .nan
  | .infinite s, .infinite t => if s = t then .infinite s else .nan
  | .infinite s, _ => .infinite s
  | _, .infinite t => .infinite t
  | _, _ =>
    match x.ratio?, y.ratio? with
    | some (a, b), some (c, d) => ofSignedRatio (a * d + c * b) (b * d)
    | _, _ => .nan

/-- The product of two numbers. -/
def mul (x y : Binary64) : Binary64 :=
  let negative := x.isNegative != y.isNegative
  match x, y with
  | .nan, _ => .nan
  | _, .nan => .nan
  | .infinite _, y => if y.isZero then .nan else .infinite negative
  | x, .infinite _ => if x.isZero then .nan else .infinite negative
  | _, _ =>
    match x.ratio?, y.ratio? with
    | some (a, b), some (c, d) => ofRatio negative (a * c).natAbs (b * d)
    | _, _ => .nan

/-- The value of a number that is an integer is that integer. -/
theorem toInt?_eq_some_iff {x : Binary64} {n : Int} :
    x.toInt? = some n ↔ ∃ num den, x.ratio? = some (num, den) ∧ num % den = 0 ∧ num / den = n := by
  unfold toInt?
  split
  · next num den h =>
    constructor
    · intro hn
      split at hn
      · next hmod => exact ⟨num, den, h, hmod, Option.some.inj hn⟩
      · simp at hn
    · rintro ⟨num', den', h', hmod, rfl⟩
      rw [h] at h'
      obtain ⟨rfl, rfl⟩ := Prod.mk.inj (Option.some.inj h')
      simp [hmod]
  · next h =>
    constructor
    · simp
    · rintro ⟨num, den, h', _⟩
      simp [h] at h'

end Binary64

end ClassQuota
