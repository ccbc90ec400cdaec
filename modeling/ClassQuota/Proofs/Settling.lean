import ClassQuota.Proofs.OneShot

/-!
# When an application settles a rule

Whatever the arguments, an application ends in findings and leaves the rule configured for good,
with one exception: the rule was not configured, its only argument is no integer, and the error
that would say so cannot show the argument, since an integer inside it is too long to be written.
Such an application ends in a fault, and as the rule is left as it was, the next one tries again.

The log is taken to keep every maximum that the arguments mean.

## Main definitions

* `LimitRule.Settles` — when an application of a rule settles it

## Main results

* `LimitRule.apply_settles` — the settling applications
* `LimitRule.apply_of_not_settles` — all others
* `LimitRule.apply_total_iff_settles` — both, as an equivalence
-/

namespace ClassQuota

namespace LimitRule

variable {rule : LimitRule} {records : Int → Bool} {arguments : List Value}

/-- When an application of a rule settles it: the rule is configured, or its only argument stands
for an integer or can be shown, or there is not exactly one argument. -/
def Settles (rule : LimitRule) (arguments : List Value) : Prop :=
  rule.configured = true ∨ ∀ v, arguments = [v] → v.asInteger? = none → v.IsShowable

/-- Arguments that settle a rule which is not configured have an outcome. -/
theorem Settles.exists_amounts (h : rule.Settles arguments) (hc : rule.configured = false) :
    ∃ o, Amounts arguments o := by
  rcases h with h | h
  · rw [hc] at h
    cases h
  · obtain ho | ⟨v, rfl, hi, hs⟩ := resolve_cases arguments
    · exact ho
    · exact absurd (h v rfl hi) ((Value.literal?_eq_none_iff v).mp hs)

/-- What the log has to do: it takes down the maximum that the arguments mean. -/
theorem records_of_result {o : Outcome} (ho : resolve (.list arguments) = o.result)
    (hlog : ∀ n, resolve (.list arguments) = .ok n → records n = true) :
    ∀ n, o = .limit n → records n = true := by
  rintro n rfl
  exact hlog n ho

/-- An application that settles a rule gives at most one finding and leaves the rule configured. -/
theorem apply_settles (h : rule.Settles arguments) (tree : Node)
    (hlog : ∀ n, resolve (.list arguments) = .ok n → records n = true) :
    (∃ findings, (rule.apply tree (.list arguments) records).2.outcome = .ok findings ∧
        findings.length ≤ 1) ∧
      (rule.apply tree (.list arguments) records).1.configured = true := by
  cases hc : rule.configured with
  | true =>
    rw [apply_of_configured hc]
    exact ⟨check_outcome rule tree, hc⟩
  | false =>
    obtain ⟨o, ho⟩ := h.exists_amounts hc
    rw [apply, configure_of_result hc ho.resolve_eq (records_of_result ho.resolve_eq hlog)]
    obtain ⟨findings, hcheck, hlen⟩ := check_outcome (rule.settle o) tree
    refine ⟨⟨findings, ?_, hlen⟩, settle_configured rule o⟩
    rw [← hcheck]
    rfl

/-- Any other application ends in a fault and leaves the rule as it was. -/
theorem apply_of_not_settles (h : ¬rule.Settles arguments) (tree : Node) (records : Int → Bool) :
    rule.apply tree (.list arguments) records = (rule, .fail (.tooManyDigits none)) := by
  simp only [Settles, not_or, Bool.not_eq_true, Classical.not_forall] at h
  obtain ⟨hc, v, rfl, hi, hs⟩ := h
  have hres : resolve (.list [v]) = .error (.tooManyDigits none) :=
    (resolve_eq_error_iff (by simp)).mpr ⟨rfl, v, rfl, hi, (Value.literal?_eq_none_iff v).mpr hs⟩
  simp [apply, configure, hc, hres, Attempt.fail]

/-- A configured rule stays as it is, whatever follows. -/
theorem applyAll_state_of_configured (h : rule.configured = true) (calls : List (Node × Value))
    (records : Int → Bool) : (rule.applyAll calls records).1 = rule := by
  rw [applyAll_of_configured h]

/-- **Applications are total but for one kind of argument.** With a log that takes down what the
arguments mean, an application gives at most one finding and settles the rule for good exactly
when `Settles` says so. Otherwise it ends in a fault and the rule stays as it was. -/
theorem apply_total_iff_settles (rule : LimitRule) (tree : Node) (arguments : List Value)
    (records : Int → Bool)
    (hlog : ∀ n, resolve (.list arguments) = .ok n → records n = true) :
    let applied := rule.apply tree (.list arguments) records
    ((∃ findings, applied.2.outcome = .ok findings ∧ findings.length ≤ 1) ∧
        applied.1.configured = true ∧
        (∀ calls, (applied.1.applyAll calls records).1 = applied.1) ↔
      rule.Settles arguments) ∧
    (¬rule.Settles arguments → applied = (rule, .fail (.tooManyDigits none))) := by
  intro applied
  refine ⟨⟨?_, fun h => ?_⟩, fun h => apply_of_not_settles h tree records⟩
  · rintro ⟨⟨findings, hok, -⟩, -, -⟩
    by_cases h : rule.Settles arguments
    · exact h
    · simp [applied, apply_of_not_settles h, Attempt.fail] at hok
  · obtain ⟨hfindings, hconfigured⟩ := apply_settles h tree hlog
    refine ⟨hfindings, hconfigured, fun calls => ?_⟩
    exact applyAll_state_of_configured hconfigured calls records

/-- A small integer settles a fresh rule. -/
theorem apply_total_iff_settles_three :
    (∀ n, resolve (.list [.int 3]) = .ok n → isRecordable n = true) ∧
      ∃ findings, (({} : LimitRule).apply (.file none []) (.list [.int 3])).2.outcome =
        .ok findings ∧ findings.length ≤ 1 := by
  have hlog : ∀ n, resolve (.list [.int 3]) = .ok n → isRecordable n = true := by
    intro n hn
    rw [resolve_singleton, readInteger_of_some rfl, Except.ok.injEq] at hn
    rw [← hn]
    exact isRecordable_of_lt_ten (by decide)
  have hs : ({} : LimitRule).Settles [.int 3] := by
    refine .inr fun v hv hi => ?_
    obtain rfl : .int 3 = v := (List.cons.inj hv).1
    simp [Value.asInteger?] at hi
  exact ⟨hlog, ((apply_total_iff_settles {} (.file none []) [.int 3] isRecordable hlog).1.mpr hs).1⟩

/-- A list that holds a number of one digit more than can be written stops the application, and
the rule is not configured after it. -/
theorem apply_faults_on_long_integer :
    let long : Nat := 10 ^ Numeral.limit
    let applied := ({} : LimitRule).apply (.file none []) (.list [.list [.int long]]) fun _ => true
    (¬∃ findings, applied.2.outcome = .ok findings) ∧ applied.1.configured = false := by
  intro long applied
  have h : ¬({} : LimitRule).Settles [.list [.int long]] := by
    rintro (h | h)
    · cases h
    · have hlt := h _ rfl rfl long (List.mem_cons_self ..)
      rw [Int.natAbs_natCast] at hlt
      exact Nat.lt_irrefl _ hlt
  have happlied : applied = ({}, .fail (.tooManyDigits none)) := apply_of_not_settles h _ _
  rw [happlied]
  exact ⟨by simp [Attempt.fail], rfl⟩

end LimitRule

end ClassQuota
