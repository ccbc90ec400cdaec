import ClassQuota.Number.Numeral
import ClassQuota.Value

/-!
# Faults

Two kinds of failure are kept apart. A configuration error says that a rule cannot use the
arguments it was given; the rule reports it as a finding and goes on. A fault ends the operation
it arises in. A configuration error that is not caught is a fault too.

## Main definitions

* `ConfigError` — what is wrong with the arguments of a rule, with its message
* `Fault` — why an operation ends without a result
* `Fault.message?` — the message of the faults that have one
-/

namespace ClassQuota

/-- What is wrong with the arguments of a rule. -/
inductive ConfigError where
  /-- Any other error, with its message. -/
  | general (rule text : String)
  /-- The rule takes another number of arguments. -/
  | argumentCount (rule : String) (expected actual : Int)
  /-- An argument is no integer; `shown` is its literal. -/
  | invalidValue (rule : String) (value : Value) (shown : String)
  deriving BEq, Repr

namespace ConfigError

/-- The rule that the arguments were meant for. -/
def rule : ConfigError → String
  | general rule _ => rule
  | argumentCount rule _ _ => rule
  | invalidValue rule _ _ => rule

/-- The message of a configuration error. -/
def message : ConfigError → String
  | general _ text => text
  | argumentCount rule expected actual =>
    "invalid number of arguments for the \"" ++ rule ++ "\" rule: expected " ++
      toString expected ++ ", got " ++ toString actual
  | invalidValue rule _ shown =>
    "invalid value passed as argument number to the \"" ++ rule ++ "\" rule: " ++ shown

end ConfigError

/-- Why an operation ends without a result. -/
inductive Fault where
  /-- A name was looked up in a value that is no table. -/
  | notTable
  /-- A key that had to be compared with a text is no text. -/
  | keyNotText
  /-- A key that had to be compared with a text is a sequence of bytes. -/
  | keyIsBytes
  /-- The object under a key has no such operation. -/
  | noOperation
  /-- The length was asked of a value that has none. -/
  | noLength
  /-- A field was set in a value that has no fields. -/
  | notAssignable
  /-- Two values that have no order were compared. -/
  | notComparable
  /-- A value that had to be a text is none. -/
  | notText
  /-- There is no entry under a key. -/
  | missingKey
  /-- The first character of an empty text was asked for. -/
  | emptyText
  /-- An integer has too many digits to be read, with their number, or to be written. -/
  | tooManyDigits (digits : Option Nat)
  /-- A text that had to be an integer in a base is none; `shown` is its literal. -/
  | notInteger (base : Nat) (shown : String)
  /-- A text that had to be a floating-point number is none; `shown` is its literal. -/
  | notFloat (shown : String)
  /-- An integer is beyond the range of floating-point numbers. -/
  | beyondFloat
  /-- An escape sequence stands for no character. -/
  | noCharacter (code : Nat)
  /-- A date, a time or an offset is out of range. -/
  | calendar (flaw : CalendarFlaw)
  /-- Bytes that had to be text are no UTF-8. -/
  | notUtf8
  /-- A registry file is malformed. -/
  | malformedRegistry
  /-- A value stands inside itself, or its parts stand inside each other too deep. -/
  | tooDeep
  /-- Symbolic links form a loop. -/
  | linkLoop
  /-- A path or one of its names has too many bytes. -/
  | nameTooLong
  /-- A path holds the character zero. -/
  | zeroInPath
  /-- Nothing is registered under a key. -/
  | unregistered (key : String)
  /-- A field of a finding was set. -/
  | frozen
  /-- The arguments of a rule are wrong. -/
  | config (error : ConfigError)
  deriving BEq, Repr

/-- The message of a fault, where it has one of its own. -/
def Fault.message? : Fault → Option String
  | .unregistered key => some ("Dependency '" ++ key ++ "' not registered.")
  | .config error => some error.message
  | _ => none

/-- A computation gives a result exactly if its first step and the rest of it do. -/
theorem Fault.bind_eq_ok_iff {α β : Type} {x : Except Fault α} {f : α → Except Fault β} {b : β} :
    x >>= f = .ok b ↔ ∃ a, x = .ok a ∧ f a = .ok b := by
  cases x with
  | error fault => simp [bind, Except.bind]
  | ok a => simp [bind, Except.bind]

/-- A computation ends in a fault exactly if its first step does, or the rest of it. -/
theorem Fault.bind_eq_error_iff {α β : Type} {x : Except Fault α} {f : α → Except Fault β}
    {fault : Fault} :
    x >>= f = .error fault ↔ x = .error fault ∨ ∃ a, x = .ok a ∧ f a = .error fault := by
  cases x with
  | error other => simp [bind, Except.bind]
  | ok a => simp [bind, Except.bind]

end ClassQuota
