import ClassQuota.Proofs.CheckerRun
import ClassQuota.Proofs.PrintableLiteral
import ClassQuota.Proofs.RuleLog

/-!
# Reports on one line

Arguments that a rule cannot use are shown in its finding, in the record of it and in the report
that the checker makes of it. Whatever stands in them, what is shown are printable characters: the
message of the error is made of fixed words, of numbers, and of the literal of the argument. So no
value of a configuration can begin a line of its own in a report or a log, or reorder one.

The property is kept by every application: the error that a rule holds was made by resolving some
arguments. So it holds along all runs, those included in which applications end in faults.

## Main definitions

* `Finding.IsPlain`, `Report.IsPlain`, `LimitRule.IsPlain` — what they show stays on its line
* `Attempt.IsPlain` — so does all that an attempt gives, and what it records of a settled rule

## Main results

* `isPlainLine_of_refused` — the message of a configuration error
* `LimitRule.apply_isPlain`, `LimitRule.applyAll_isPlain` — an application, and a run
* `Checker.visit_isPlain`, `Checker.visitAll_isPlain` — a visit of a checker, and a run
* `Checker.visitAll_refusals_plain` — refused arguments are reported, and on one line
-/

namespace ClassQuota

open Text (IsPlainLine allPrintable_append)

/-! ### Errors -/

section Refusal

variable {arguments v : Value} {e : ConfigError}

theorem isPlainLine_argumentCount (expected actual : Int) :
    IsPlainLine (ConfigError.argumentCount ruleName expected actual).message := by
  have hnumber := Numeral.allPrintable_toString
  refine .of_allPrintable ?_
  unfold ConfigError.message
  simp only [String.toList_append, allPrintable_append]
  exact ⟨⟨⟨⟨⟨by decide +kernel, by decide⟩, by decide⟩, hnumber expected⟩, by decide⟩,
    hnumber actual⟩

theorem isPlainLine_invalidValue {shown : String} (h : v.literal? = some shown) :
    IsPlainLine (ConfigError.invalidValue ruleName v shown).message := by
  obtain ⟨cs, hcs, rfl⟩ := Option.map_eq_some_iff.mp h
  refine .of_allPrintable ?_
  unfold ConfigError.message
  simp only [String.toList_append, allPrintable_append, String.toList_ofList]
  exact ⟨⟨⟨by decide +kernel, by decide⟩, by decide⟩, Value.literalChars?_allPrintable v hcs⟩

/-- **What arguments are refused with stays on its line.** -/
theorem isPlainLine_of_refused (h : resolve arguments = .error (.config e)) :
    IsPlainLine e.message := by
  obtain ⟨actual, rfl⟩ | ⟨v, shown, hs, rfl⟩ := resolve_config_cases h
  · exact isPlainLine_argumentCount 1 actual
  · exact isPlainLine_invalidValue hs

end Refusal

/-! ### What is shown -/

/-- A finding whose message and values stay on their lines. -/
structure Finding.IsPlain (f : Finding) : Prop where
  message : IsPlainLine f.message
  args : ∀ arg ∈ f.messageArgs, IsPlainLine arg

/-- A report whose values stay on their lines. -/
def Report.IsPlain (r : Report) : Prop := ∀ arg ∈ r.args, IsPlainLine arg

/-- A rule whose error, if it holds one, stays on its line. -/
def LimitRule.IsPlain (rule : LimitRule) : Prop := ∀ e, rule.error = some e → IsPlainLine e.message

/-- An attempt that gives only what has a property, and whose records of what a rule has settled on
stay on their lines. -/
structure Attempt.IsPlain {α : Type} (p : α → Prop) (x : Attempt (List α)) : Prop where
  results : ∀ found, x.outcome = .ok found → ∀ a ∈ found, p a
  records : ∀ event ∈ x.log, event.isSettlement = true → IsPlainLine event.text

theorem Finding.internal_isPlain {e : ConfigError} (h : IsPlainLine e.message) :
    (Finding.internal e).IsPlain :=
  ⟨h, List.forall_mem_singleton.mpr h⟩

theorem LimitRule.excess_isPlain (n : Int) (tree : Node) : (excess n tree).IsPlain := by
  have hnumber := Numeral.allPrintable_toString n
  refine ⟨.of_allPrintable ?_, List.forall_mem_singleton.mpr (.of_allPrintable hnumber)⟩
  unfold excess
  simp only [String.toList_append, allPrintable_append]
  exact ⟨⟨by decide +kernel, hnumber⟩, by decide⟩

/-- A report shows no more than the finding it is made of. -/
theorem Report.ofFinding_isPlain {file : Node} {f : Finding} {r : Report} (hf : f.IsPlain)
    (h : Report.ofFinding file f = .ok r) : r.IsPlain := by
  unfold Report.ofFinding at h
  split at h
  · cases h
    rw [Report.IsPlain]
    split
    · exact List.forall_mem_singleton.mpr hf.message
    · exact hf.args
  · obtain ⟨confidence, -, h⟩ := Fault.bind_eq_ok_iff.mp h
    cases h
    exact hf.args

/-- What is recorded of the outcome that a rule settles on stays on its line. -/
theorem isPlainLine_event {o : Outcome} (h : ∀ e, o = .refused e → IsPlainLine e.message) :
    IsPlainLine o.event.text := by
  refine .of_allPrintable ?_
  unfold Outcome.event Event.text
  cases o with
  | limit n =>
    simp only [String.toList_append, allPrintable_append]
    exact ⟨⟨by decide, by decide⟩, Numeral.allPrintable_toString n⟩
  | refused e =>
    simp only [String.toList_append, allPrintable_append]
    exact ⟨⟨by decide, by decide⟩, (h e rfl).printable⟩

/-! ### Attempts -/

namespace Attempt

variable {α β : Type} {p : α → Prop} {q : β → Prop}

theorem isPlain_fail (fault : Fault) : (Attempt.fail fault : Attempt (List α)).IsPlain p :=
  ⟨fun _ h => (by cases h), List.forall_mem_nil _⟩

/-- What an attempt gives may be worked on further, without records. -/
theorem IsPlain.bind_ofExcept {x : Attempt (List α)} (h : x.IsPlain p)
    {f : List α → Except Fault (List β)}
    (hf : ∀ found, (∀ a ∈ found, p a) → ∀ made, f found = .ok made → ∀ b ∈ made, q b) :
    (x >>= fun found => .ofExcept (f found)).IsPlain q := by
  obtain ⟨fault | found, log⟩ := x
  · exact ⟨fun _ hfound => by simp at hfound, h.records⟩
  · rw [Attempt.bind_ok]
    refine ⟨fun made hmade => hf found (h.results found rfl) made hmade, ?_⟩
    rw [Attempt.ofExcept, List.append_nil]
    exact h.records

end Attempt

/-- What all single steps of a computation on a list give has a property. -/
theorem forall_mem_of_mapM {α β : Type} {f : α → Except Fault β} {p : β → Prop} {xs : List α}
    (hf : ∀ x ∈ xs, ∀ y, f x = .ok y → p y) {ys : List β} (h : xs.mapM f = .ok ys) :
    ∀ y ∈ ys, p y := by
  induction xs generalizing ys with
  | nil =>
    cases h
    exact List.forall_mem_nil _
  | cons x rest ih =>
    obtain ⟨hfirst, hrest⟩ := List.forall_mem_cons.mp hf
    rw [List.mapM_cons] at h
    obtain ⟨y, hy, h⟩ := Fault.bind_eq_ok_iff.mp h
    obtain ⟨others, hothers, h⟩ := Fault.bind_eq_ok_iff.mp h
    cases h
    exact List.forall_mem_cons.mpr ⟨hfirst y hy, ih hrest hothers⟩

/-! ### Runs of the rule -/

namespace LimitRule

variable {rule : LimitRule} (records : Int → Bool)

theorem isPlain_fresh : ({} : LimitRule).IsPlain := fun _ h => by cases h

/-- Checking a tree shows the error of the rule, or numbers. -/
theorem check_isPlain (h : rule.IsPlain) (tree : Node) :
    (rule.check tree).IsPlain Finding.IsPlain := by
  unfold check
  split
  · next e he =>
    refine ⟨fun found hfound => ?_, List.forall_mem_nil _⟩
    cases hfound
    exact List.forall_mem_singleton.mpr (Finding.internal_isPlain (h e he))
  · split
    · refine ⟨fun found hfound => ?_, List.forall_mem_nil _⟩
      cases hfound
      exact List.forall_mem_nil _
    · refine ⟨fun found hfound => ?_, List.forall_mem_singleton.mpr fun hcount => by cases hcount⟩
      cases hfound
      split
      · exact List.forall_mem_singleton.mpr (excess_isPlain ..)
      · exact List.forall_mem_nil _

/-- Configuring keeps a rule plain, and so is the record of it. -/
theorem configure_isPlain (h : rule.IsPlain) (arguments : Value) :
    (rule.configure arguments records).1.IsPlain ∧
      ∀ event ∈ (rule.configure arguments records).2.log, IsPlainLine event.text := by
  unfold configure
  split
  · exact ⟨h, List.forall_mem_nil _⟩
  split
  · next n _ =>
    split
    · refine ⟨h, List.forall_mem_singleton.mpr ?_⟩
      exact isPlainLine_event (o := .limit n) fun _ ho => by cases ho
    · exact ⟨h, List.forall_mem_nil _⟩
  · next e he =>
    have hline := isPlainLine_of_refused he
    refine ⟨fun e' he' => ?_, List.forall_mem_singleton.mpr ?_⟩
    · cases he'
      exact hline
    · refine isPlainLine_event (o := .refused e) fun e' ho => ?_
      cases ho
      exact hline
  · exact ⟨h, List.forall_mem_nil _⟩

/-- An application of a rule that is not configured to arguments that it cannot use. -/
theorem apply_of_refused (hnew : rule.configured = false) {arguments : Value} {e : ConfigError}
    (h : resolve arguments = .error (.config e)) (tree : Node) :
    (rule.apply tree arguments records).2 =
      ⟨.ok [.internal e], [.configurationFailed ruleName e]⟩ := by
  have hresult : resolve arguments = (Outcome.refused e).result := h
  rw [apply, configure_of_result hnew hresult fun _ ho => by cases ho]
  rfl

/-- **An application keeps a rule plain and shows plain lines only.** -/
theorem apply_isPlain (h : rule.IsPlain) (tree : Node) (arguments : Value) :
    (rule.apply tree arguments records).1.IsPlain ∧
      (rule.apply tree arguments records).2.IsPlain Finding.IsPlain := by
  obtain ⟨hrule, hlog⟩ := configure_isPlain records h arguments
  have hcheck := check_isPlain hrule tree
  refine ⟨hrule, ?_⟩
  simp only [apply]
  rcases hx : (rule.configure arguments records).2 with ⟨fault | u, log⟩ <;> rw [hx] at hlog
  · exact ⟨fun _ hfound => (by cases hfound), fun event hevent _ => hlog event hevent⟩
  · refine ⟨hcheck.results, fun event hevent hsettles => ?_⟩
    rcases List.mem_append.mp hevent with hevent | hevent
    · exact hlog event hevent
    · exact hcheck.records event hevent hsettles

/-- **A run keeps a rule plain and shows plain lines only.** -/
theorem applyAll_isPlain (h : rule.IsPlain) (calls : List (Node × Value)) :
    ∀ x ∈ (rule.applyAll calls records).2, x.IsPlain Finding.IsPlain := by
  induction calls generalizing rule with
  | nil => exact List.forall_mem_nil _
  | cons call rest ih =>
    obtain ⟨hrule, hfirst⟩ := apply_isPlain records h call.1 call.2
    exact List.forall_mem_cons.mpr ⟨hfirst, ih hrule⟩

end LimitRule

/-! ### Runs of the checker -/

namespace Checker

variable {c : Checker LimitRule} (records : Int → Bool)

/-- **A visit keeps the rule plain and reports plain lines only.** -/
theorem visit_isPlain (h : c.rule.IsPlain) (file : Node) :
    (c.visit (LimitRule.runner records) file).1.rule.IsPlain ∧
      (c.visit (LimitRule.runner records) file).2.IsPlain Report.IsPlain := by
  unfold visit
  split
  · exact ⟨h, Attempt.isPlain_fail _⟩
  · refine ⟨h, fun found hfound => ?_, List.forall_mem_nil _⟩
    cases hfound
    exact List.forall_mem_nil _
  · split
    · exact ⟨h, Attempt.isPlain_fail _⟩
    · next arguments _ =>
      obtain ⟨hrule, happlied⟩ := LimitRule.apply_isPlain records h file (.list arguments)
      refine ⟨hrule, happlied.bind_ofExcept fun found hfound made hmade => ?_⟩
      exact forall_mem_of_mapM (fun f hf r hr => Report.ofFinding_isPlain (hfound f hf) hr) hmade

/-- **A run keeps the rule plain and reports plain lines only.** -/
theorem visitAll_isPlain (h : c.rule.IsPlain) (visits : List (Option Value × Node)) :
    ∀ x ∈ (c.visitAll (LimitRule.runner records) visits).2, x.IsPlain Report.IsPlain := by
  induction visits generalizing c with
  | nil => exact List.forall_mem_nil _
  | cons visited rest ih =>
    obtain ⟨hrule, hfirst⟩ :=
      visit_isPlain (c := { c with option := visited.1 }) records h visited.2
    exact List.forall_mem_cons.mpr ⟨hfirst, ih hrule⟩

/-- A checker reports refused arguments in one report. -/
theorem visit_of_refused {entries : Entries} {rule : LimitRule} {option : Option Value}
    {e : ConfigError} (hnew : rule.configured = false)
    (hon : ruleSetting? ruleName entries ≠ some (.bool false))
    (h : resolve (.list (givenArguments ruleName option entries)) = .error (.config e))
    (file : Node) :
    ((onTable entries rule option).visit (LimitRule.runner records) file).2 =
      ⟨.ok [⟨"E9502", file, [e.message], .undefined⟩], [.configurationFailed ruleName e]⟩ := by
  rw [visit_on records hon]
  simp only [LimitRule.apply_of_refused records hnew h]
  rfl

/-- **Refused arguments are reported, and on one line.** Let a rule be not configured, and let its
arguments be such that it cannot use them. Then

* its application gives one finding, about the error, and records the error; the message and the
  values of the finding and the text of the record stay on their lines;
* a visit of a checker that has the rule on and gives it these arguments makes one report of it,
  whose values stay on their lines.

Moreover, along every run of a fresh rule, and of a checker with a fresh rule, all findings and
reports and all records of what the rule has settled on stay on their lines, whatever the
arguments, the settings and the option are, and also where some calls end in faults. -/
theorem visitAll_refusals_plain (records : Int → Bool) :
    (∀ (rule : LimitRule) (tree : Node) (arguments : Value) (e : ConfigError),
      rule.configured = false → resolve arguments = .error (.config e) →
        (rule.apply tree arguments records).2 =
            ⟨.ok [.internal e], [.configurationFailed ruleName e]⟩ ∧
          (Finding.internal e).IsPlain ∧
          IsPlainLine (Event.configurationFailed ruleName e).text) ∧
      (∀ (entries : Entries) (rule : LimitRule) (option : Option Value) (file : Node)
        (e : ConfigError), rule.configured = false →
        ruleSetting? ruleName entries ≠ some (.bool false) →
        resolve (.list (givenArguments ruleName option entries)) = .error (.config e) →
          ∃ report,
            ((onTable entries rule option).visit (LimitRule.runner records) file).2.outcome =
              .ok [report] ∧
            report.code = "E9502" ∧ report.args = [e.message] ∧ report.IsPlain) ∧
      (∀ calls : List (Node × Value),
        ∀ x ∈ (({} : LimitRule).applyAll calls records).2, x.IsPlain Finding.IsPlain) ∧
      ∀ (settings : Settings) (option : Option Value) (visits : List (Option Value × Node)),
        ∀ x ∈ ((⟨settings, {}, option⟩ : Checker LimitRule).visitAll
          (LimitRule.runner records) visits).2, x.IsPlain Report.IsPlain := by
  refine ⟨fun rule tree arguments e hnew h => ?_, fun entries rule option file e hnew hon h => ?_,
    fun calls => ?_, fun settings option visits => ?_⟩
  · have hline := isPlainLine_of_refused h
    refine ⟨LimitRule.apply_of_refused records hnew h tree, Finding.internal_isPlain hline, ?_⟩
    exact isPlainLine_event (o := .refused e) fun e' he => Outcome.refused.inj he ▸ hline
  · rw [visit_of_refused records hnew hon h]
    exact ⟨_, rfl, rfl, rfl, List.forall_mem_singleton.mpr (isPlainLine_of_refused h)⟩
  · exact LimitRule.applyAll_isPlain records LimitRule.isPlain_fresh calls
  · exact visitAll_isPlain records LimitRule.isPlain_fresh visits

/-- Line breaks, an escape character, a mark of direction and both quotes inside a list: all that
is shown of them is one line. -/
theorem visitAll_refusals_plain_nested :
    let value := Value.list [.table [(.text "\n\u2028", .bytes [10, 27])], .text "\u202e'\""]
    let entries := [(.text "rules", .table [(.text "max-public-classes", .list [value])])]
    let e := ConfigError.invalidValue ruleName value
      "[\x7b'\\n\\u2028': b'\\n\\x1b'\x7d, '\\u202e\\'\"']"
    resolve (.list [value]) = .error (.config e) ∧
      (({} : LimitRule).apply (.file none []) (.list [value])).2.outcome = .ok [.internal e] ∧
      (Finding.internal e).IsPlain ∧
      ruleSetting? ruleName entries ≠ some (.bool false) ∧
      ∃ report, ((onTable entries {} none).visit LimitRule.runner (.file none [])).2.outcome =
          .ok [report] ∧
        report.code = "E9502" ∧ report.args = [e.message] ∧ report.IsPlain := by
  intro value entries e
  have hrefused : resolve (.list [value]) = .error (.config e) := by
    rw [resolve_singleton]
    exact readInteger_of_literal rfl (by decide +kernel)
  have hon : ruleSetting? ruleName entries ≠ some (.bool false) := by
    intro h
    cases h
  obtain ⟨happly, hvisit, -, -⟩ := visitAll_refusals_plain LimitRule.isRecordable
  obtain ⟨hattempt, hplain, -⟩ := happly {} (.file none []) (.list [value]) e rfl hrefused
  refine ⟨hrefused, ?_, hplain, hon, hvisit entries {} none (.file none []) e rfl hon hrefused⟩
  rw [hattempt]

end Checker

end ClassQuota
