import ClassQuota.Checker

/-!
# The table of rules

Settings that are a table answer every question about a rule without a fault, and the answers
depend on one entry only: the one under the name of the rule in the table of rules. Where there
is no such table, there is no such entry.

## Main definitions

* `ruleSetting?` — the entry of a rule
* `givenArguments` — the arguments for a rule, from the option or from its entry

## Main results

* `Settings.isEnabled_of_off`, `Settings.isEnabled_of_ne` — whether a rule is on
* `Settings.argumentsFor_table` — what the settings give a rule
* `Checker.arguments_table` — what a checker gives its rule
-/

namespace ClassQuota

/-- The table of rules, empty where there is none. -/
def ruleTable (entries : Entries) : Entries :=
  match Value.find? "rules" entries with
  | some (.table rules) => rules
  | _ => []

/-- The entry of a rule in the table of rules. -/
def ruleSetting? (rule : String) (entries : Entries) : Option Value :=
  Value.find? rule (ruleTable entries)

/-- The arguments for a rule: the option if it is set, else what the entry of the rule gives. -/
def givenArguments (rule : String) (option : Option Value) (entries : Entries) : List Value :=
  match option with
  | none => entryArguments (ruleSetting? rule entries)
  | some .null => entryArguments (ruleSetting? rule entries)
  | some v => [v]

namespace Settings

variable {rule : String} {entries : Entries}

/-- A table of settings loads as it is, with a warning or without. -/
theorem load_table (entries : Entries) :
    (load (.table entries)).outcome = .ok ⟨.table entries⟩ := by
  unfold load
  cases hb : (Value.table entries).isTrue with
  | false => rfl
  | true =>
    simp only [validate, fieldOf, Attempt.ofExcept]
    rcases hf : Value.find? "rules" entries with _ | v
    · rfl
    · cases v <;> rfl

theorem rules_table (entries : Entries) :
    (⟨.table entries⟩ : Settings).rules = .ok (ruleTable entries) := by
  simp only [rules, fieldOf, ruleTable, bind, Except.bind]
  rcases Value.find? "rules" entries with _ | v
  · rfl
  · cases v <;> rfl

/-- An entry that is false turns its rule off. -/
theorem isEnabled_of_off (h : ruleSetting? rule entries = some (.bool false)) :
    (⟨.table entries⟩ : Settings).isEnabled rule = .ok false := by
  rw [ruleSetting?] at h
  simp only [isEnabled, rules_table, bind, Except.bind, h]

/-- With any other entry, and without one, the rule is on. -/
theorem isEnabled_of_ne (h : ruleSetting? rule entries ≠ some (.bool false)) :
    (⟨.table entries⟩ : Settings).isEnabled rule = .ok true := by
  rw [ruleSetting?] at h
  simp only [isEnabled, rules_table, bind, Except.bind]

theorem argumentsFor_table (rule : String) (entries : Entries) :
    (⟨.table entries⟩ : Settings).argumentsFor rule =
      .ok (entryArguments (ruleSetting? rule entries)) := by
  simp only [argumentsFor, rules_table, bind, Except.bind, ruleSetting?]

end Settings

/-- A checker gives its rule the option, or what the settings say where the option is not set. -/
theorem Checker.arguments_table {σ : Type} (rule : String) (entries : Entries) (state : σ)
    (option : Option Value) :
    (⟨⟨.table entries⟩, state, option⟩ : Checker σ).arguments rule =
      .ok (givenArguments rule option entries) := by
  rcases option with _ | v
  · exact Settings.argumentsFor_table rule entries
  · cases v with
    | null => exact Settings.argumentsFor_table rule entries
    | _ => rfl

end ClassQuota
