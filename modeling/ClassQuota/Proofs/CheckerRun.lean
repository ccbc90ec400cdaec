import ClassQuota.Proofs.OneShot
import ClassQuota.Proofs.RuleTable
import ClassQuota.Registry.Packaged

/-!
# Runs of the checker

A checker whose settings turn its rule off never reports. Otherwise the first visit settles the
rule: on the option if it is set by then, else on what the settings give. From then on each file
is reported under that one outcome, whatever becomes of the option.

## Main definitions

* `Outcome.reports` — what is reported for a file under an outcome
* `Checker.onTable` — a checker with a table of settings

## Main results

* `mapM_ofFinding_findings` — findings of an outcome turn into its reports
* `Checker.visit_off`, `Checker.visit_on` — one visit
* `Checker.visitAll_settled` — a run of a checker whose rule is settled
* `Checker.visitAll_outcome_of_first` — a run without faults is decided by its first visit
-/

namespace ClassQuota

/-- What is reported for a file under an outcome. -/
def Outcome.reports : Outcome → Node → List Report
  | .limit maximum, file =>
    if 1 ≤ maximum ∧ maximum < file.publicCount then
      [{ code := "C9501", node := file, args := [toString maximum], confidence := .high }]
    else []
  | .refused error, file =>
    [{ code := "E9502", node := file, args := [error.message], confidence := .undefined }]

theorem ofFinding_internal (file : Node) (e : ConfigError) :
    Report.ofFinding file (.internal e) = .ok ⟨"E9502", file, [e.message], .undefined⟩ := rfl

theorem ofFinding_excess (file : Node) (n : Int) :
    Report.ofFinding file (LimitRule.excess n file) =
      .ok ⟨"C9501", file, [toString n], .high⟩ := by
  have hstyle : (LimitRule.excess n file).isInternal = false := rfl
  have hone : Confidence.ofValue (LimitRule.excess n file).confidence = .ok .high := rfl
  rw [Report.ofFinding, hstyle, hone]
  rfl

/-- Findings of an outcome turn into its reports. -/
theorem mapM_ofFinding_findings (o : Outcome) (file : Node) :
    (o.findings file).mapM (Report.ofFinding file) = .ok (o.reports file) := by
  cases o with
  | limit n =>
    simp only [Outcome.findings, Outcome.reports]
    split
    · rw [List.mapM_cons, ofFinding_excess]
      rfl
    · rfl
  | refused e =>
    rw [Outcome.findings, List.mapM_cons, ofFinding_internal]
    rfl

namespace Checker

variable (records : Int → Bool) {entries : Entries}

/-- A checker with a table of settings. -/
def onTable (entries : Entries) (rule : LimitRule) (option : Option Value) : Checker LimitRule :=
  ⟨⟨.table entries⟩, rule, option⟩

theorem visitAll_cons (rule : LimitRule) (option : Option Value) (runner : RuleRunner LimitRule)
    (visited : Option Value × Node) (rest : List (Option Value × Node)) :
    (onTable entries rule option).visitAll runner (visited :: rest) =
      ((((onTable entries rule visited.1).visit runner visited.2).1.visitAll runner rest).1,
        ((onTable entries rule visited.1).visit runner visited.2).2 ::
          (((onTable entries rule visited.1).visit runner visited.2).1.visitAll runner rest).2) :=
  rfl

/-! ### A rule that is off -/

/-- A visit under settings that turn the rule off reports nothing and changes nothing. -/
theorem visit_off (h : ruleSetting? ruleName entries = some (.bool false)) (rule : LimitRule)
    (option : Option Value) (file : Node) :
    (onTable entries rule option).visit (LimitRule.runner records) file =
      (onTable entries rule option, pure []) := by
  have hoff : (onTable entries rule option).settings.isEnabled ruleName = .ok false :=
    Settings.isEnabled_of_off h
  simp only [visit, LimitRule.runner, hoff]

/-- A run under settings that turn the rule off reports nothing and never touches the rule. -/
theorem visitAll_off (h : ruleSetting? ruleName entries = some (.bool false)) (rule : LimitRule)
    (option : Option Value) (visits : List (Option Value × Node)) :
    ((onTable entries rule option).visitAll (LimitRule.runner records) visits).1.rule = rule ∧
      ((onTable entries rule option).visitAll (LimitRule.runner records) visits).2 =
        visits.map fun _ => pure [] := by
  induction visits generalizing option with
  | nil => exact ⟨rfl, rfl⟩
  | cons visited rest ih =>
    obtain ⟨hrule, hresults⟩ := ih visited.1
    have hvisit := visit_off records h rule visited.1 visited.2
    rw [visitAll_cons, hvisit]
    exact ⟨hrule, by rw [hresults, List.map_cons]⟩

/-! ### A settled rule -/

/-- Any other visit applies the rule to the arguments given by then. -/
theorem visit_on (h : ruleSetting? ruleName entries ≠ some (.bool false)) (rule : LimitRule)
    (option : Option Value) (file : Node) :
    (onTable entries rule option).visit (LimitRule.runner records) file =
      let applied := rule.apply file (.list (givenArguments ruleName option entries)) records
      (onTable entries applied.1 option,
        applied.2 >>= fun findings => .ofExcept (findings.mapM (Report.ofFinding file))) := by
  have hon : (onTable entries rule option).settings.isEnabled ruleName = .ok true :=
    Settings.isEnabled_of_ne h
  have harguments : (onTable entries rule option).arguments ruleName =
      .ok (givenArguments ruleName option entries) := arguments_table ruleName entries rule option
  simp only [visit, LimitRule.runner, hon, harguments]
  rfl

/-- A visit gives what the findings of the rule turn into. -/
theorem reports_outcome {applied : Attempt (List Finding)} {o : Outcome} {file : Node}
    (h : applied.outcome = .ok (o.findings file)) :
    (applied >>= fun findings =>
      Attempt.ofExcept (findings.mapM (Report.ofFinding file))).outcome =
        .ok (o.reports file) := by
  obtain ⟨outcome, log⟩ := applied
  subst h
  rw [Attempt.bind_ok, mapM_ofFinding_findings]
  rfl

/-- A visit with a settled rule reports under its outcome and keeps it. -/
theorem visit_settled (h : ruleSetting? ruleName entries ≠ some (.bool false)) (o : Outcome)
    (option : Option Value) (file : Node) :
    ((onTable entries (.settled o) option).visit (LimitRule.runner records) file).1 =
        onTable entries (.settled o) option ∧
      ((onTable entries (.settled o) option).visit (LimitRule.runner records) file).2.outcome =
        .ok (o.reports file) := by
  rw [visit_on records h, LimitRule.apply_of_configured (LimitRule.settled_configured o)]
  exact ⟨rfl, reports_outcome (LimitRule.check_settled o file)⟩

/-- A run of a checker whose rule is settled reports each file under the one outcome, whatever
the option is. -/
theorem visitAll_settled (h : ruleSetting? ruleName entries ≠ some (.bool false)) (o : Outcome)
    (option : Option Value) (visits : List (Option Value × Node)) :
    ((onTable entries (.settled o) option).visitAll
        (LimitRule.runner records) visits).1.rule = .settled o ∧
      ((onTable entries (.settled o) option).visitAll
          (LimitRule.runner records) visits).2.map Attempt.outcome =
        visits.map fun visited => .ok (o.reports visited.2) := by
  induction visits generalizing option with
  | nil => exact ⟨rfl, rfl⟩
  | cons visited rest ih =>
    obtain ⟨hrule, hresults⟩ := ih visited.1
    obtain ⟨hstate, hreports⟩ := visit_settled records h o visited.1 visited.2
    rw [visitAll_cons, hstate]
    exact ⟨hrule, by rw [List.map_cons, hresults, hreports, List.map_cons]⟩

/-! ### The first visit -/

variable {records}

/-- The first visit settles the rule on what the arguments given by then amount to. -/
theorem visit_fresh (h : ruleSetting? ruleName entries ≠ some (.bool false)) {o : Outcome}
    {option : Option Value}
    (ho : resolve (.list (givenArguments ruleName option entries)) = o.result)
    (hr : ∀ n, o = .limit n → records n = true) (file : Node) :
    ((onTable entries {} option).visit (LimitRule.runner records) file).1 =
        onTable entries (.settled o) option ∧
      ((onTable entries {} option).visit (LimitRule.runner records) file).2.outcome =
        .ok (o.reports file) := by
  rw [visit_on records h, LimitRule.apply_fresh ho hr]
  refine ⟨rfl, reports_outcome ?_⟩
  rw [← LimitRule.check_settled]
  rfl

/-- If the first visit does not end in a fault then the arguments given by then have an outcome,
and the log takes it down. -/
theorem exists_outcome_of_visit_ok (h : ruleSetting? ruleName entries ≠ some (.bool false))
    {option : Option Value} {file : Node} {reports : List Report}
    (hok : ((onTable entries {} option).visit (LimitRule.runner records) file).2.outcome =
      .ok reports) :
    ∃ o : Outcome, resolve (.list (givenArguments ruleName option entries)) = o.result ∧
      ∀ n, o = .limit n → records n = true := by
  rw [visit_on records h] at hok
  have happlied : ∃ findings, (({} : LimitRule).apply file
      (.list (givenArguments ruleName option entries)) records).2.outcome = .ok findings := by
    rcases hx : (({} : LimitRule).apply file
      (.list (givenArguments ruleName option entries)) records).2 with ⟨fault | findings, log⟩
    · simp [hx] at hok
    · exact ⟨findings, rfl⟩
  exact (LimitRule.configure_ok_iff rfl).mp ((LimitRule.apply_ok_iff ..).mp happlied)

/-- A run whose first arguments have an outcome. -/
theorem visitAll_fresh (h : ruleSetting? ruleName entries ≠ some (.bool false)) {o : Outcome}
    {option₁ : Option Value}
    (ho : resolve (.list (givenArguments ruleName option₁ entries)) = o.result)
    (hr : ∀ n, o = .limit n → records n = true) (option : Option Value) (file₁ : Node)
    (rest : List (Option Value × Node)) :
    ((onTable entries {} option).visitAll
        (LimitRule.runner records) ((option₁, file₁) :: rest)).1.rule = .settled o ∧
      ((onTable entries {} option).visitAll
          (LimitRule.runner records) ((option₁, file₁) :: rest)).2.map Attempt.outcome =
        ((option₁, file₁) :: rest).map fun visited => .ok (o.reports visited.2) := by
  obtain ⟨hstate, hreports⟩ := visit_fresh h ho hr file₁
  obtain ⟨hrule, hresults⟩ := visitAll_settled records h o option₁ rest
  rw [visitAll_cons, hstate]
  exact ⟨hrule, by rw [List.map_cons, hresults, hreports, List.map_cons]⟩

/-- In a run whose first arguments have an outcome, every visit gives reports. -/
theorem visitAll_ok_of_first (h : ruleSetting? ruleName entries ≠ some (.bool false)) {o : Outcome}
    {option₁ : Option Value}
    (ho : resolve (.list (givenArguments ruleName option₁ entries)) = o.result)
    (hr : ∀ n, o = .limit n → records n = true) (option : Option Value) (file₁ : Node)
    (rest : List (Option Value × Node)) :
    ∀ x ∈ ((onTable entries {} option).visitAll
        (LimitRule.runner records) ((option₁, file₁) :: rest)).2,
      ∃ reports, x.outcome = .ok reports := by
  intro x hx
  have hmem := List.mem_map_of_mem (f := Attempt.outcome) hx
  rw [(visitAll_fresh h ho hr option file₁ rest).2] at hmem
  obtain ⟨visited, -, hvisited⟩ := List.mem_map.mp hmem
  exact ⟨o.reports visited.2, hvisited.symm⟩

/-- A fresh checker with a table of settings, whatever it warns of. -/
theorem load_onTable {registry : Value} {option : Option Value} {c : Checker LimitRule}
    {messages : List (String × MessageText)}
    (h : (Settings.load (.table entries) >>= fun settings =>
      load settings ({} : LimitRule) registry option).outcome = .ok (c, messages)) :
    c = onTable entries {} option := by
  rcases hs : Settings.load (.table entries) with ⟨outcome, log⟩
  have houtcome : outcome = .ok ⟨.table entries⟩ := by
    rw [← Settings.load_table, hs]
  subst houtcome
  rw [hs, Attempt.bind_ok] at h
  cases hm : Registry.messages registry checkerCodes with
  | error fault => simp [load, Attempt.ofExcept, hm] at h
  | ok found =>
    simp only [load, Attempt.ofExcept, hm, Attempt.pure_eq, Attempt.bind_ok, Except.ok.injEq,
      Prod.mk.injEq] at h
    exact h.1.symm

/-- **The first visit decides a run.** A fresh checker whose settings turn the rule off reports
nothing. Otherwise, in a run in which no visit ends in a fault, what the arguments given at the
first visit amount to fixes the reports for every file and the state of the rule. -/
theorem visitAll_outcome_of_first (records : Int → Bool) (entries : Entries) (registry : Value)
    (option : Option Value) (c : Checker LimitRule) (messages : List (String × MessageText))
    (hload : (Settings.load (.table entries) >>= fun settings =>
      load settings ({} : LimitRule) registry option).outcome = .ok (c, messages))
    (visits : List (Option Value × Node))
    (hok : ∀ x ∈ (c.visitAll (LimitRule.runner records) visits).2,
      ∃ reports, x.outcome = .ok reports) :
    (ruleSetting? ruleName entries = some (.bool false) →
      (c.visitAll (LimitRule.runner records) visits).1.rule = {} ∧
        (c.visitAll (LimitRule.runner records) visits).2.map Attempt.outcome =
          visits.map fun _ => .ok []) ∧
      (ruleSetting? ruleName entries ≠ some (.bool false) →
        ∀ option₁ file₁ rest, visits = (option₁, file₁) :: rest →
          ∃ o, Amounts (givenArguments ruleName option₁ entries) o ∧
            (c.visitAll (LimitRule.runner records) visits).1.rule = .settled o ∧
            (c.visitAll (LimitRule.runner records) visits).2.map Attempt.outcome =
              visits.map fun visited => .ok (o.reports visited.2)) := by
  obtain rfl := load_onTable hload
  refine ⟨fun hoff => ?_, fun hon option₁ file₁ rest hvisits => ?_⟩
  · obtain ⟨hrule, hresults⟩ := visitAll_off records hoff {} option visits
    refine ⟨hrule, ?_⟩
    rw [hresults, List.map_map]
    rfl
  · subst hvisits
    obtain ⟨reports, hfirst⟩ := hok _ (List.mem_cons_self ..)
    obtain ⟨o, ho, hr⟩ := exists_outcome_of_visit_ok hon hfirst
    exact ⟨o, resolve_eq_result_iff.mp ho, visitAll_fresh hon ho hr option file₁ rest⟩

/-- A run under the maximum one of the settings: an option that is set after the first visit
changes nothing, and the reports follow the files. -/
theorem visitAll_outcome_of_first_limit_one :
    let file := Node.file none [.classDef (some "A") [] [] [], .classDef (some "B") [] [] []]
    let visits := [(none, file), (some (.int 0), file), (some (.text "x"), .file none [])]
    let entries := [(.text "rules", .table [(.text "max-public-classes", .list [.int 1])])]
    let run := (onTable entries {} none).visitAll LimitRule.runner visits
    (∃ messages, (Settings.load (.table entries) >>= fun settings =>
        load settings ({} : LimitRule) Registry.packagedValue none).outcome =
      .ok (onTable entries {} none, messages)) ∧
      (∀ x ∈ run.2, ∃ reports, x.outcome = .ok reports) ∧
      run.2.map Attempt.outcome =
        [.ok [⟨"C9501", file, ["1"], .high⟩], .ok [⟨"C9501", file, ["1"], .high⟩], .ok []] := by
  intro file visits entries run
  have hload : (Settings.load (.table entries) >>= fun settings =>
      load settings ({} : LimitRule) Registry.packagedValue none).outcome =
        .ok (onTable entries {} none, _) := rfl
  have hon : ruleSetting? ruleName entries ≠ some (.bool false) := by
    intro h
    cases h
  have hfirst :
      resolve (.list (givenArguments ruleName none entries)) = Outcome.result (.limit 1) := rfl
  have hrecorded : ∀ n, Outcome.limit 1 = .limit n → LimitRule.isRecordable n = true := by
    rintro n ⟨⟩
    exact LimitRule.isRecordable_of_lt_ten (by decide)
  have hok := visitAll_ok_of_first hon hfirst hrecorded none file visits.tail
  obtain ⟨o, ho, -, hreports⟩ := (visitAll_outcome_of_first LimitRule.isRecordable entries
    Registry.packagedValue none _ _ hload visits hok).2 hon none file visits.tail rfl
  refine ⟨⟨_, hload⟩, hok, hreports.trans ?_⟩
  cases ho with
  | integer h =>
    cases h
    rfl
  | noInteger h => cases h
  | several h => exact absurd h (by decide)

end Checker

end ClassQuota
