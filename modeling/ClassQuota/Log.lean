import ClassQuota.Fault
import ClassQuota.Text.Quoted

/-!
# Log records and attempts

Every operation that may log is an attempt: a list of records in the order in which they were
made, and a result or a fault. Attempts in sequence join their records; the first fault ends the
sequence and keeps the records made before it.

## Main definitions

* `SkipReason` — why a configuration file is skipped
* `Event` — what is logged, with its level and text
* `Attempt` — an outcome with the records made on the way
-/

namespace ClassQuota

/-- How important a record is. -/
inductive Level where
  | debug
  | warning
  deriving DecidableEq, Repr

/-- The name of a level in a record. -/
def Level.name : Level → String
  | .debug => "DEBUG"
  | .warning => "WARNING"

/-- Why a configuration file is skipped. -/
inductive SkipReason where
  /-- It is no document. -/
  | malformed
  /-- It may not be opened. -/
  | locked
  deriving DecidableEq, Repr

/-- The words in which a file is refused, at the end of the record. Those for a malformed file are
left to the reader of documents. -/
def SkipReason.words (path : String) : SkipReason → String
  | malformed => ""
  | locked => ": [Errno 13] Permission denied: " ++ String.ofList (Text.quoted path.toList)

/-- What is logged. -/
inductive Event where
  /-- A rule has settled on its maximum. -/
  | maximumResolved (rule : String) (maximum : Int)
  /-- A rule could not use its arguments. -/
  | configurationFailed (rule : String) (error : ConfigError)
  /-- The public declarations of a tree were counted. -/
  | declarationsCounted (rule label : String) (count : Int)
  /-- The table of rules is no table. -/
  | rulesNotTable (typeName : String)
  /-- A configuration file is no document, or cannot be opened. -/
  | fileSkipped (path : String) (reason : SkipReason := .malformed)
  /-- A configuration file was read. -/
  | configurationLoaded (path : String)
  /-- There is no registry file. -/
  | registryMissing (path : String)
  deriving BEq, Repr

namespace Event

/-- The level of a record. -/
def level : Event → Level
  | maximumResolved .. => .debug
  | configurationFailed .. => .warning
  | declarationsCounted .. => .debug
  | rulesNotTable .. => .warning
  | fileSkipped .. => .warning
  | configurationLoaded .. => .debug
  | registryMissing .. => .warning

/-- The text of a record. -/
def text : Event → String
  | maximumResolved rule maximum => rule ++ ": maximum resolved to " ++ toString maximum
  | configurationFailed rule error => rule ++ ": " ++ error.message
  | declarationsCounted rule label count =>
    rule ++ ": " ++ label ++ " declares " ++ toString count ++ " public classes"
  | rulesNotTable typeName =>
    "Configuration Warning: [tool.public-types] 'rules' must be a table, got " ++ typeName ++ "."
  | fileSkipped path reason => "Skipping unreadable " ++ path ++ reason.words path
  | configurationLoaded path => "Loaded configuration from " ++ path
  | registryMissing path => "Rule registry not found at " ++ path

end Event

/-- A result or a fault, with the records made on the way. -/
structure Attempt (α : Type) where
  outcome : Except Fault α
  log : List Event := []

namespace Attempt

/-- An attempt that does nothing but give a result. -/
protected def pure {α : Type} (a : α) : Attempt α :=
  ⟨.ok a, []⟩

/-- One attempt and then another that may use its result. -/
protected def bind {α β : Type} (x : Attempt α) (f : α → Attempt β) : Attempt β :=
  match x.outcome with
  | .ok a =>
    let y := f a
    ⟨y.outcome, x.log ++ y.log⟩
  | .error fault => ⟨.error fault, x.log⟩

instance : Monad Attempt where
  pure := Attempt.pure
  bind := Attempt.bind

/-- Make a record. -/
def record (event : Event) : Attempt Unit :=
  ⟨.ok (), [event]⟩

/-- A result or fault without records. -/
def ofExcept {α : Type} (outcome : Except Fault α) : Attempt α :=
  ⟨outcome, []⟩

/-- End with a fault. -/
def fail {α : Type} (fault : Fault) : Attempt α :=
  ⟨.error fault, []⟩

@[simp] theorem pure_eq {α : Type} (a : α) : (pure a : Attempt α) = ⟨.ok a, []⟩ := rfl

@[simp] theorem bind_ok {α β : Type} (a : α) (log : List Event) (f : α → Attempt β) :
    (⟨.ok a, log⟩ : Attempt α) >>= f = ⟨(f a).outcome, log ++ (f a).log⟩ := rfl

@[simp] theorem bind_error {α β : Type} (fault : Fault) (log : List Event) (f : α → Attempt β) :
    (⟨.error fault, log⟩ : Attempt α) >>= f = ⟨.error fault, log⟩ := rfl

end Attempt

end ClassQuota
