import ClassQuota.Log

/-!
# Settings

Settings are the value of the configuration section of the linter. Its entry `rules` is a table
of rules. A rule without an entry and a rule whose entry is true run with their defaults; a rule
whose entry is false is off; a sequence gives the arguments and any other value is the only
argument. An entry `rules` that is no table is warned about and then ignored.

## Main definitions

* `Settings.load` — settings from a value, with the warning
* `Settings.rules` — the table of rules
* `Settings.isEnabled`, `Settings.argumentsFor` — what the settings say of a rule
-/

namespace ClassQuota

/-- The name of the configuration section. -/
def sectionName : String := "public-types"

/-- The settings of the linter. -/
structure Settings where
  config : Value
  deriving BEq, Repr

/-- The arguments that an entry of the table of rules gives. -/
def entryArguments : Option Value → List Value
  | none => []
  | some .null => []
  | some (.bool _) => []
  | some (.list xs) => xs
  | some (.tuple xs) => xs
  | some v => [v]

namespace Settings

/-- The entry under a name in the section. -/
def fieldOf (config : Value) (name : String) : Except Fault (Option Value) :=
  match config with
  | .table entries => .ok (Value.find? name entries)
  | _ => .error .notTable

/-- Warn of an entry `rules` that is no table. -/
def validate (config : Value) : Attempt Unit := do
  match ← .ofExcept (fieldOf config "rules") with
  | none => pure ()
  | some .null => pure ()
  | some (.table _) => pure ()
  | some v => .record (.rulesNotTable v.typeName)

/-- Settings from a value. Values that do not count as present are not looked at. -/
def load (config : Value) : Attempt Settings := do
  if config.isTrue then validate config
  pure ⟨config⟩

/-- The table of rules, empty where there is none. -/
def rules (s : Settings) : Except Fault Entries := do
  match ← fieldOf s.config "rules" with
  | some (.table entries) => .ok entries
  | _ => .ok []

/-- Whether a rule is on. Only an entry that is false turns it off. -/
def isEnabled (s : Settings) (rule : String) : Except Fault Bool := do
  match Value.find? rule (← s.rules) with
  | some (.bool false) => .ok false
  | _ => .ok true

/-- The arguments for a rule. -/
def argumentsFor (s : Settings) (rule : String) : Except Fault (List Value) := do
  .ok (entryArguments (Value.find? rule (← s.rules)))

end Settings

end ClassQuota
