/-!
# Runs of shifted characters

Characters whose form in the other case is a single other character lie at a fixed offset from
it in long runs, so a table of forms is a list of runs.

## Main definitions

* `Shift` — a run of characters at one offset from their forms
* `shifted?` — the form that a list of runs gives for a code point
-/

namespace ClassQuota

namespace Text

/-- Every `step`-th code point from `first` to `last` has its form `offset` away. -/
structure Shift where
  first : Nat
  last : Nat
  step : Nat
  offset : Int

/-- Whether a code point belongs to the run. -/
def Shift.covers (s : Shift) (n : Nat) : Bool :=
  s.first ≤ n && n ≤ s.last && (n - s.first) % s.step == 0

/-- The form of a code point, if it belongs to a run. -/
def shifted? (runs : List Shift) (n : Nat) : Option Nat :=
  (runs.find? (·.covers n)).map fun s => ((n : Int) + s.offset).toNat

end Text

end ClassQuota
