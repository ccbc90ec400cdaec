import ClassQuota.Fault
import ClassQuota.Text.Blank
import ClassQuota.Value.Literal

/-!
# Arguments of rules

The arguments of a rule come from outside and may be anything that has a length. An argument is
an integer if it is an integer, a floating-point number without a fraction, or a text that holds
a decimal numeral between blanks. A truth value is no integer.

## Main definitions

* `Value.length?`, `Value.first?` — the number of arguments, and the first of them
* `checkCount` — refusing all but one number of arguments
* `Value.asInteger?` — the integer that a value stands for
* `readInteger` — that integer, or the error that shows the value
-/

namespace ClassQuota

namespace Value

/-- The number of items of a value that has any: characters, bytes, items or entries. -/
def length? : Value → Option Nat
  | .text s => some s.length
  | .brokenText codes => some codes.length
  | .bytes bs => some bs.length
  | .list xs => some xs.length
  | .tuple xs => some xs.length
  | .set xs => some xs.length
  | .table entries => some entries.length
  | _ => none

/-- The item at position zero: of a table, the value under the key `0`. -/
def first? : Value → Option Value
  | .text s => s.toList.head?.map fun c => .text (String.singleton c)
  | .brokenText codes => codes.head?.map fun n => .ofCodes [n]
  | .bytes bs => bs.head?.map fun b => .int b.toNat
  | .list xs => xs.head?
  | .tuple xs => xs.head?
  | .table entries => lookup? (.int 0) entries
  | _ => none

/-- The integer that a value stands for. -/
def asInteger? : Value → Option Int
  | .int n => some n
  | .float x => x.toInt?
  | .text s => (Numeral.decimal (Text.trim Text.isBlank s.toList)).toOption
  | _ => none

end Value

/-- The number of arguments. -/
def countArguments (arguments : Value) : Except Fault Nat :=
  match arguments.length? with
  | some n => .ok n
  | none => .error .noLength

/-- Refuses all but `expected` arguments. -/
def checkCount (rule : String) (expected : Int) (arguments : Value) : Except Fault Unit := do
  let actual ← countArguments arguments
  if (actual : Int) = expected then .ok ()
  else .error (.config (.argumentCount rule expected actual))

/-- The error for an argument that is no integer. It shows the argument, and where that cannot be
done the fault is another one. -/
def ConfigError.ofValue (rule : String) (value : Value) : Except Fault ConfigError :=
  match value.literal? with
  | some shown => .ok (.invalidValue rule value shown)
  | none => .error (.tooManyDigits none)

/-- The integer that an argument stands for. -/
def readInteger (rule : String) (value : Value) : Except Fault Int :=
  match value.asInteger? with
  | some n => .ok n
  | none => do
    let error ← ConfigError.ofValue rule value
    .error (.config error)

end ClassQuota
