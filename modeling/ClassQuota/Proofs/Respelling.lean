import ClassQuota.Proofs.CheckerRun
import Mathlib.Data.List.Forall2

/-!
# Spellings of a setting

The maximum can be given in several ways: as a value or as a list or tuple of it, by the option of
the linter or by the table of rules, as any value that stands for the integer, and not at all.
What else the settings hold is not looked at.

Two ways of giving it are told apart nowhere: both turn the rule off, or both leave it on with
arguments that resolve alike. A rule sees its arguments only as far as they resolve, so what it
does for one it does for the other, and this carries over from a visit to a run.

## Main definitions

* `Value.IsSingleArgument` — the values that are the only argument where an entry holds them
* `Respelling` — two ways of giving the maximum
* `SameMeaning` — what two ways of giving it have in common

## Main results

* `Respelling.sameMeaning` — every respelling keeps the meaning
* `LimitRule.apply_congr` — applications to arguments that resolve alike are the same
* `Checker.visit_congr` — so are visits under the same meaning
* `Checker.visitAll_respelled` — runs under respelled settings are the same
-/

namespace ClassQuota

/-- The values that are the only argument where an entry of the table of rules holds them. -/
def Value.IsSingleArgument : Value → Prop
  | .null => False
  | .bool _ => False
  | .list _ => False
  | .tuple _ => False
  | _ => True

theorem entryArguments_of_isSingleArgument {v : Value} (h : v.IsSingleArgument) :
    entryArguments (some v) = [v] := by
  cases v <;> first | rfl | exact h.elim

/-- An option of the linter that is not set. -/
def IsUnset (option : Option Value) : Prop :=
  option = none ∨ option = some .null

/-- The entries that leave a rule on with its defaults. A table of rules that is none has no
entry. -/
inductive IsDefaultEntry : Option Value → Prop
  | missing : IsDefaultEntry none
  | on : IsDefaultEntry (some (.bool true))
  | empty : IsDefaultEntry (some (.list []))

/-- Two ways of giving the maximum, each by an option of the linter and a table of settings. Where
the option is not spoken of, it is the same in both. -/
inductive Respelling : Option Value → Entries → Option Value → Entries → Prop
  /-- A value as the entry of the rule, or a list of it. -/
  | inList {option : Option Value} {e₁ e₂ : Entries} {v : Value} (hv : v.IsSingleArgument)
      (h₁ : ruleSetting? ruleName e₁ = some v) (h₂ : ruleSetting? ruleName e₂ = some (.list [v])) :
      Respelling option e₁ option e₂
  /-- A value as the entry of the rule, or a tuple of it. -/
  | inTuple {option : Option Value} {e₁ e₂ : Entries} {v : Value} (hv : v.IsSingleArgument)
      (h₁ : ruleSetting? ruleName e₁ = some v)
      (h₂ : ruleSetting? ruleName e₂ = some (.tuple [v])) : Respelling option e₁ option e₂
  /-- A value of the option over any entry that leaves the rule on, or a list of it as the entry
  and no option. -/
  | byOption {unset : Option Value} {e₁ e₂ : Entries} {v : Value} (hv : v ≠ .null)
      (h₁ : ruleSetting? ruleName e₁ ≠ some (.bool false)) (hunset : IsUnset unset)
      (h₂ : ruleSetting? ruleName e₂ = some (.list [v])) : Respelling (some v) e₁ unset e₂
  /-- A list of a value that is read as an integer, or a list of the integer. -/
  | asInteger {option : Option Value} {e₁ e₂ : Entries} {v : Value} {n : Int}
      (hv : readInteger ruleName v = .ok n) (h₁ : ruleSetting? ruleName e₁ = some (.list [v]))
      (h₂ : ruleSetting? ruleName e₂ = some (.list [.int n])) : Respelling option e₁ option e₂
  /-- Two entries that leave the rule at its defaults. -/
  | byDefault {option : Option Value} {e₁ e₂ : Entries}
      (h₁ : IsDefaultEntry (ruleSetting? ruleName e₁))
      (h₂ : IsDefaultEntry (ruleSetting? ruleName e₂)) : Respelling option e₁ option e₂
  /-- Any change of what is not the entry of the rule. -/
  | elsewhere {option : Option Value} {e₁ e₂ : Entries}
      (h : ruleSetting? ruleName e₁ = ruleSetting? ruleName e₂) : Respelling option e₁ option e₂

/-- What an option and a table of settings mean is the same: the rule is off, or it is on and the
arguments for it resolve alike. -/
def SameMeaning (o₁ : Option Value) (e₁ : Entries) (o₂ : Option Value) (e₂ : Entries) : Prop :=
  (ruleSetting? ruleName e₁ = some (.bool false) ∧
      ruleSetting? ruleName e₂ = some (.bool false)) ∨
    (ruleSetting? ruleName e₁ ≠ some (.bool false) ∧
      ruleSetting? ruleName e₂ ≠ some (.bool false) ∧
      resolve (.list (givenArguments ruleName o₁ e₁)) =
        resolve (.list (givenArguments ruleName o₂ e₂)))

/-! ### Respellings keep the meaning -/

variable {e₁ e₂ : Entries}

theorem givenArguments_of_isUnset {option : Option Value} (h : IsUnset option) (e : Entries) :
    givenArguments ruleName option e = entryArguments (ruleSetting? ruleName e) := by
  rcases h with rfl | rfl <;> rfl

theorem givenArguments_of_ne_null {v : Value} (h : v ≠ .null) (e : Entries) :
    givenArguments ruleName (some v) e = [v] := by
  cases v <;> first | rfl | exact absurd rfl h

/-- Entries that give arguments which resolve alike do so under every option. -/
theorem resolve_givenArguments_congr
    (h : resolve (.list (entryArguments (ruleSetting? ruleName e₁))) =
      resolve (.list (entryArguments (ruleSetting? ruleName e₂)))) (option : Option Value) :
    resolve (.list (givenArguments ruleName option e₁)) =
      resolve (.list (givenArguments ruleName option e₂)) := by
  by_cases hunset : IsUnset option
  · rw [givenArguments_of_isUnset hunset, givenArguments_of_isUnset hunset, h]
  · rcases option with _ | v
    · exact absurd (.inl rfl) hunset
    · have hv : v ≠ .null := fun hv => hunset (.inr (congrArg some hv))
      rw [givenArguments_of_ne_null hv, givenArguments_of_ne_null hv]

theorem Value.IsSingleArgument.ne_off {v : Value} (h : v.IsSingleArgument) :
    some v ≠ some (.bool false) := by
  rintro ⟨⟩
  exact h

theorem IsDefaultEntry.ne_off {entry : Option Value} (h : IsDefaultEntry entry) :
    entry ≠ some (.bool false) := by
  cases h <;> simp

theorem IsDefaultEntry.entryArguments_eq {entry : Option Value} (h : IsDefaultEntry entry) :
    entryArguments entry = [] := by
  cases h <;> rfl

/-- **Every respelling keeps the meaning.** -/
theorem Respelling.sameMeaning {o₁ o₂ : Option Value} (h : Respelling o₁ e₁ o₂ e₂) :
    SameMeaning o₁ e₁ o₂ e₂ := by
  cases h with
  | inList hv h₁ h₂ =>
    refine .inr ⟨h₁ ▸ hv.ne_off, by simp [h₂], resolve_givenArguments_congr ?_ _⟩
    rw [h₁, h₂, entryArguments_of_isSingleArgument hv]
    rfl
  | inTuple hv h₁ h₂ =>
    refine .inr ⟨h₁ ▸ hv.ne_off, by simp [h₂], resolve_givenArguments_congr ?_ _⟩
    rw [h₁, h₂, entryArguments_of_isSingleArgument hv]
    rfl
  | byOption hv h₁ hunset h₂ =>
    refine .inr ⟨h₁, by simp [h₂], ?_⟩
    rw [givenArguments_of_ne_null hv, givenArguments_of_isUnset hunset, h₂]
    rfl
  | @asInteger _ _ _ _ n hv h₁ h₂ =>
    have hn : readInteger ruleName (.int n) = .ok n := readInteger_of_some rfl
    refine .inr ⟨by simp [h₁], by simp [h₂], resolve_givenArguments_congr ?_ _⟩
    rw [h₁, h₂]
    exact hv.trans hn.symm
  | byDefault h₁ h₂ =>
    refine .inr ⟨h₁.ne_off, h₂.ne_off, resolve_givenArguments_congr ?_ _⟩
    rw [h₁.entryArguments_eq, h₂.entryArguments_eq]
  | elsewhere h =>
    by_cases hoff : ruleSetting? ruleName e₁ = some (.bool false)
    · exact .inl ⟨hoff, h ▸ hoff⟩
    · exact .inr ⟨hoff, h ▸ hoff, resolve_givenArguments_congr (by rw [h]) _⟩

/-! ### Runs under one meaning -/

/-- A rule sees its arguments only as far as they resolve. -/
theorem LimitRule.apply_congr {arguments₁ arguments₂ : Value}
    (h : resolve arguments₁ = resolve arguments₂) (rule : LimitRule) (tree : Node)
    (records : Int → Bool) :
    rule.apply tree arguments₁ records = rule.apply tree arguments₂ records := by
  simp only [apply, configure, h]

namespace Checker

variable (records : Int → Bool)

/-- Two visits to a file with the rule in one state and settings of one meaning. -/
theorem visit_congr {o₁ o₂ : Option Value} (h : SameMeaning o₁ e₁ o₂ e₂) (rule : LimitRule)
    (file : Node) :
    ∃ rule' reports,
      (onTable e₁ rule o₁).visit (LimitRule.runner records) file =
          (onTable e₁ rule' o₁, reports) ∧
        (onTable e₂ rule o₂).visit (LimitRule.runner records) file =
          (onTable e₂ rule' o₂, reports) := by
  rcases h with ⟨h₁, h₂⟩ | ⟨h₁, h₂, hresolve⟩
  · exact ⟨rule, pure [], visit_off records h₁ rule o₁ file, visit_off records h₂ rule o₂ file⟩
  · have happly := LimitRule.apply_congr hresolve rule file records
    exact ⟨_, _, visit_on records h₁ rule o₁ file, happly ▸ visit_on records h₂ rule o₂ file⟩

/-- Two visits in two runs: to the same file, with the option and the settings of the one run
respelled in the other. -/
def RespelledVisit (e₁ e₂ : Entries) (visit₁ visit₂ : Option Value × Node) : Prop :=
  visit₁.2 = visit₂.2 ∧ Respelling visit₁.1 e₁ visit₂.1 e₂

/-- Two runs with the rule in one state, visit by visit respelled. -/
theorem visitAll_congr {visits₁ visits₂ : List (Option Value × Node)}
    (h : List.Forall₂ (RespelledVisit e₁ e₂) visits₁ visits₂) (rule : LimitRule)
    (option₁ option₂ : Option Value) :
    ((onTable e₁ rule option₁).visitAll (LimitRule.runner records) visits₁).2 =
        ((onTable e₂ rule option₂).visitAll (LimitRule.runner records) visits₂).2 ∧
      ((onTable e₁ rule option₁).visitAll (LimitRule.runner records) visits₁).1.rule =
        ((onTable e₂ rule option₂).visitAll (LimitRule.runner records) visits₂).1.rule := by
  induction h generalizing rule option₁ option₂ with
  | nil => exact ⟨rfl, rfl⟩
  | @cons visit₁ visit₂ rest₁ rest₂ hvisit _ ih =>
    obtain ⟨o₁, file⟩ := visit₁
    obtain ⟨o₂, file₂⟩ := visit₂
    obtain ⟨rfl, hspelling⟩ : file = file₂ ∧ Respelling o₁ e₁ o₂ e₂ := hvisit
    obtain ⟨rule', reports, h₁, h₂⟩ := visit_congr records hspelling.sameMeaning rule file
    obtain ⟨hreports, hrule⟩ := ih rule' o₁ o₂
    rw [visitAll_cons, visitAll_cons, h₁, h₂]
    exact ⟨congrArg (reports :: ·) hreports, hrule⟩

/-- **Spellings of a setting are told apart nowhere.** Two fresh checkers that visit the same
files, with settings of which the ones respell the others at every visit, report the same and
record the same, and end with the same rule. -/
theorem visitAll_respelled (records : Int → Bool) (registry : Value) (e₁ e₂ : Entries)
    (option₁ option₂ : Option Value) (c₁ c₂ : Checker LimitRule)
    (messages₁ messages₂ : List (String × MessageText))
    (hload₁ : (Settings.load (.table e₁) >>= fun settings =>
      load settings ({} : LimitRule) registry option₁).outcome = .ok (c₁, messages₁))
    (hload₂ : (Settings.load (.table e₂) >>= fun settings =>
      load settings ({} : LimitRule) registry option₂).outcome = .ok (c₂, messages₂))
    (visits₁ visits₂ : List (Option Value × Node))
    (h : List.Forall₂ (RespelledVisit e₁ e₂) visits₁ visits₂) :
    (c₁.visitAll (LimitRule.runner records) visits₁).2 =
        (c₂.visitAll (LimitRule.runner records) visits₂).2 ∧
      (c₁.visitAll (LimitRule.runner records) visits₁).1.rule =
        (c₂.visitAll (LimitRule.runner records) visits₂).1.rule := by
  obtain rfl := load_onTable hload₁
  obtain rfl := load_onTable hload₂
  exact visitAll_congr records h {} option₁ option₂

/-- A padded numeral in a list and the integer in a list give the same run. -/
theorem visitAll_respelled_padded_one :
    let file := Node.file none [.classDef (some "A") [] [] [], .classDef (some "B") [] [] []]
    let visits := [(none, file), (some .null, .file none []), (none, file)]
    let entries (v : Value) : Entries :=
      [(.text "rules", .table [(.text "max-public-classes", .list [v])])]
    let run (v : Value) := (onTable (entries v) {} none).visitAll LimitRule.runner visits
    (∀ v, ∃ messages, (Settings.load (.table (entries v)) >>= fun settings =>
        load settings ({} : LimitRule) Registry.packagedValue none).outcome =
      .ok (onTable (entries v) {} none, messages)) ∧
      List.Forall₂ (RespelledVisit (entries (.text " +1\n")) (entries (.int 1))) visits visits ∧
      (run (.text " +1\n")).2 = (run (.int 1)).2 ∧
      (run (.text " +1\n")).1.rule = (run (.int 1)).1.rule := by
  intro file visits entries run
  have hload (v : Value) : (Settings.load (.table (entries v)) >>= fun settings =>
      load settings ({} : LimitRule) Registry.packagedValue none).outcome =
        .ok (onTable (entries v) {} none, _) := rfl
  have hone : readInteger ruleName (.text " +1\n") = .ok 1 := rfl
  have hspelling (option : Option Value) :
      Respelling option (entries (.text " +1\n")) option (entries (.int 1)) :=
    .asInteger hone rfl rfl
  have hvisits : List.Forall₂ (RespelledVisit (entries (.text " +1\n")) (entries (.int 1)))
      visits visits :=
    .cons ⟨rfl, hspelling none⟩ (.cons ⟨rfl, hspelling (some .null)⟩
      (.cons ⟨rfl, hspelling none⟩ .nil))
  exact ⟨fun v => ⟨_, hload v⟩, hvisits, visitAll_respelled LimitRule.isRecordable
    Registry.packagedValue _ _ none none _ _ _ _ (hload _) (hload _) visits visits hvisits⟩

end Checker

end ClassQuota
