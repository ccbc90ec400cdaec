import ClassQuota.Checker
import ClassQuota.Registry.Packaged
import ClassQuota.Settings.Search

/-!
# Runs of the linter

A run reads the configuration for its directory once, and one rule then serves all of its files.
Each report becomes a message at the beginning of its file, whose text is the template of its
code filled with its arguments.

## Main definitions

* `OptionInput` — how the option for the maximum is given
* `LintRun.start` — the beginning of a run
* `LintRun.visit` — the messages for a file
-/

namespace ClassQuota

/-- How the option for the maximum is given: not at all, as a value, or as a text on the command
line. -/
inductive OptionInput where
  | absent
  | value (value : Value)
  | text (text : String)
  deriving Repr

/-- The value of the option, unless its text is no integer. -/
def OptionInput.value? : OptionInput → Option Value
  | .absent => some .null
  | .value v => some v
  | .text s => (Numeral.decimal s.toList).toOption.map .int

/-- A message about a file. -/
structure Message where
  code : String
  symbol : String
  text : String
  confidence : Confidence
  /-- The name of the file. -/
  file : String
  deriving DecidableEq, Repr

namespace Message

/-- The line of every message. -/
def line : Nat := 1

/-- The column of every message. -/
def column : Nat := 0

/-- The category of a message, which the first letter of its code tells. -/
def category (m : Message) : String :=
  if m.code.toList.head? = some 'E' then "error" else "convention"

/-- A template in which each place for an argument is filled with the next one. -/
def fill : List Char → List String → List Char
  | '%' :: 's' :: rest, arg :: args => arg.toList ++ fill rest args
  | c :: rest, args => c :: fill rest args
  | [], _ => []

end Message

/-- A run of the linter: its checker, and the messages it can report. -/
structure LintRun where
  checker : Checker LimitRule
  messages : List (String × MessageText)

namespace LintRun

/-- Begin a run in a directory. There is none where the text of the option is no integer. -/
def start (tree : FileTree) (directory : FilePath) (option : OptionInput) :
    Attempt (Option LintRun) := do
  let config ← Settings.findFrom tree directory none
  let settings ← Settings.load config
  let loaded ← Checker.load settings ({} : LimitRule) Registry.packagedValue option.value?
  pure (option.value?.map fun _ => ⟨loaded.1, loaded.2⟩)

/-- The message of a report. -/
def message (run : LintRun) (file : Node) (report : Report) : Message :=
  let text := (run.messages.lookup report.code).getD ⟨"", "", ""⟩
  { code := report.code
    symbol := text.symbol
    text := String.ofList (Message.fill text.template.toList report.args)
    confidence := report.confidence
    file := file.ownName?.getD "" }

/-- The messages for a file. -/
def visit (run : LintRun) (file : Node) : LintRun × Attempt (List Message) :=
  let visited := run.checker.visit LimitRule.runner file
  ({ run with checker := visited.1 },
    visited.2 >>= fun reports => pure (reports.map (run.message file)))

end LintRun

end ClassQuota
