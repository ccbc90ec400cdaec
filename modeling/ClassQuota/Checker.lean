import ClassQuota.Registry
import ClassQuota.Rule
import ClassQuota.Settings

/-!
# The checker

The checker runs one rule over the files of a run and turns its findings into reports. An option
of the linter, where it is set, takes the place of the arguments that the settings give. A
finding about the rule itself is reported on the file, any other on its own node.

## Main definitions

* `RuleRunner` — what a checker needs of a rule
* `CheckerOption` — the option that the checker offers
* `Checker` — a checker with its settings, its rule and the linter's option
* `Checker.load` — a checker with the messages it can report
* `Checker.visit`, `Checker.visitAll` — running the rule on one file, and on files in sequence
-/

namespace ClassQuota

/-- How sure a report is. -/
inductive Confidence where
  | high
  | undefined
  deriving DecidableEq, Repr

/-- The name of a confidence. -/
def Confidence.name : Confidence → String
  | .high => "HIGH"
  | .undefined => "UNDEFINED"

/-- What is passed on to the linter. -/
structure Report where
  code : String
  node : Node
  args : List String
  confidence : Confidence
  deriving BEq, Repr

/-- What a checker needs of a rule with states of type `σ`. -/
structure RuleRunner (σ : Type) where
  name : String
  apply : σ → Node → Value → σ × Attempt (List Finding)

/-- The rule that limits public declarations. -/
def LimitRule.runner (records : Int → Bool := isRecordable) : RuleRunner LimitRule where
  name := ruleName
  apply rule file arguments := rule.apply file arguments records

/-- An option of the linter. -/
structure CheckerOption where
  name : String
  default : Value
  type : String
  metavar : String
  help : String
  deriving BEq, Repr

/-- The name of the checker. -/
def checkerName : String := "public-types"

/-- The codes of the messages of the checker. -/
def checkerCodes : List String := [excessCode, configErrorCode]

/-- The option that sets the maximum. -/
def maximumOption : CheckerOption where
  name := "max-public-classes"
  default := .null
  type := "int"
  metavar := "<int>"
  help := "Maximum number of public classes per module. Overrides [tool.public-types.rules] in " ++
    "pyproject.toml; a value below 1 disables the check."

/-- How sure the report of a finding is: high from a confidence of one on. -/
def Confidence.ofValue (v : Value) : Except Fault Confidence :=
  match v with
  | .float x => .ok (if x.atLeastOne then .high else .undefined)
  | .bool b => .ok (if b then .high else .undefined)
  | .int n => .ok (if 1 ≤ n then .high else .undefined)
  | _ => .error .notComparable

/-- The report of a finding for a file. -/
def Report.ofFinding (file : Node) (f : Finding) : Except Fault Report :=
  if f.isInternal then
    .ok {
      code := configErrorCode
      node := file
      args := if f.messageArgs.isEmpty then [f.message] else f.messageArgs
      confidence := .undefined }
  else do
    let confidence ← Confidence.ofValue f.confidence
    .ok {
      code := excessCode
      node := f.node.getD file
      args := f.messageArgs
      confidence := confidence }

/-- A checker: its settings, the state of its rule, and the option of the linter, which may be
missing altogether. -/
structure Checker (σ : Type) where
  settings : Settings
  rule : σ
  option : Option Value := none

namespace Checker

variable {σ : Type}

/-- A checker and the messages it can report. -/
def load (settings : Settings) (rule : σ) (registry : Value) (option : Option Value) :
    Attempt (Checker σ × List (String × MessageText)) := do
  let messages ← .ofExcept (Registry.messages registry checkerCodes)
  pure (⟨settings, rule, option⟩, messages)

/-- The arguments for the rule: the option if it is set, else what the settings say. -/
def arguments (c : Checker σ) (rule : String) : Except Fault (List Value) :=
  match c.option with
  | none => c.settings.argumentsFor rule
  | some .null => c.settings.argumentsFor rule
  | some v => .ok [v]

/-- Run the rule on a file, unless it is off. -/
def visit (runner : RuleRunner σ) (c : Checker σ) (file : Node) :
    Checker σ × Attempt (List Report) :=
  match c.settings.isEnabled runner.name with
  | .error fault => (c, .fail fault)
  | .ok false => (c, pure [])
  | .ok true =>
    match c.arguments runner.name with
    | .error fault => (c, .fail fault)
    | .ok arguments =>
      let applied := runner.apply c.rule file (.list arguments)
      ({ c with rule := applied.1 },
        applied.2 >>= fun findings => .ofExcept (findings.mapM (Report.ofFinding file)))

/-- Visits to files one after another, each with the value that the option has by then. A fault
ends its own visit only. -/
def visitAll (runner : RuleRunner σ) (c : Checker σ) :
    List (Option Value × Node) → Checker σ × List (Attempt (List Report))
  | [] => (c, [])
  | (option, file) :: rest =>
    let first := { c with option := option }.visit runner file
    let others := first.1.visitAll runner rest
    (others.1, first.2 :: others.2)

end Checker

end ClassQuota
