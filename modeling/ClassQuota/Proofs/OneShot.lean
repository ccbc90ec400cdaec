import ClassQuota.Proofs.Resolution
import ClassQuota.Proofs.Showable

/-!
# One-shot configuration

A configured rule never changes, and each of its applications is a check of the tree alone. So a
run splits at the application that configures the rule: what comes before it ends in faults, and
what comes after it depends on the outcome settled there and on the trees.

## Main results

* `LimitRule.check_outcome` — a check gives at most one finding and never a fault
* `LimitRule.applyAll_of_configured` — a run of a configured rule is a sequence of checks
* `LimitRule.configure_ok_iff` — when a rule settles, and on what
* `LimitRule.applyAll_outcome_of_first` — a run without faults is decided by its first arguments
-/

namespace ClassQuota

namespace LimitRule

variable {rule : LimitRule} {records : Int → Bool}

/-- A call whose arguments are a list. -/
def asCall (call : Node × List Value) : Node × Value :=
  (call.1, .list call.2)

/-- Calls whose arguments are lists. -/
def asCalls (calls : List (Node × List Value)) : List (Node × Value) :=
  calls.map asCall

theorem asCalls_cons (tree : Node) (arguments : List Value) (rest : List (Node × List Value)) :
    asCalls ((tree, arguments) :: rest) = (tree, .list arguments) :: asCalls rest := rfl

/-! ### Checking -/

/-- A check gives at most one finding and never a fault. -/
theorem check_outcome (rule : LimitRule) (tree : Node) :
    ∃ findings, (rule.check tree).outcome = .ok findings ∧ findings.length ≤ 1 := by
  unfold check
  split
  · exact ⟨_, rfl, by simp⟩
  · split
    · exact ⟨_, rfl, by simp⟩
    · refine ⟨_, rfl, ?_⟩
      split <;> simp

/-- A rule that has settled on an outcome reports what the outcome says. -/
theorem check_settled (o : Outcome) (tree : Node) :
    ((settled o).check tree).outcome = .ok (o.findings tree) := by
  cases o with
  | refused e => rfl
  | limit n =>
    have hcount : ((Counter.mk 0).count tree).current = tree.publicCount := by
      simp [Counter.current_count]
    by_cases hn : n < 1
    · have hoff : ¬(1 ≤ n ∧ n < tree.publicCount) := by omega
      simp [check, Outcome.maximum, Outcome.findings, hn, hoff]
    · have hon : 1 ≤ n := by omega
      simp [check, Attempt.record, Outcome.maximum, Outcome.findings, hn, hon, hcount]

/-! ### Configured rules -/

theorem configure_of_configured (h : rule.configured = true) (arguments : Value)
    (records : Int → Bool) : rule.configure arguments records = (rule, pure ()) := by
  rw [configure, if_pos h]

/-- An application of a configured rule checks the tree and looks at nothing else. -/
theorem apply_of_configured (h : rule.configured = true) (tree : Node) (arguments : Value)
    (records : Int → Bool) : rule.apply tree arguments records = (rule, rule.check tree) := by
  rw [apply, configure_of_configured h]
  rfl

/-- A run of a configured rule is a sequence of checks. -/
theorem applyAll_of_configured (h : rule.configured = true) (calls : List (Node × Value))
    (records : Int → Bool) :
    rule.applyAll calls records = (rule, calls.map fun call => rule.check call.1) := by
  induction calls with
  | nil => rfl
  | cons call rest ih => rw [applyAll, apply_of_configured h, ih, List.map_cons]

/-! ### The first application -/

/-- An application gives a result exactly when configuring the rule does. -/
theorem apply_ok_iff (rule : LimitRule) (tree : Node) (arguments : Value)
    (records : Int → Bool) :
    (∃ findings, (rule.apply tree arguments records).2.outcome = .ok findings) ↔
      (rule.configure arguments records).2.outcome = .ok () := by
  obtain ⟨findings, hcheck, -⟩ := check_outcome (rule.configure arguments records).1 tree
  simp only [apply]
  rcases hx : (rule.configure arguments records).2 with ⟨_ | u, log⟩
  · simp
  · simp [hcheck]

/-- A rule that is not configured settles on the outcome of the arguments, if the log takes a
maximum down. -/
theorem configure_of_result (h : rule.configured = false) {arguments : Value} {o : Outcome}
    (ho : resolve arguments = o.result) (hr : ∀ n, o = .limit n → records n = true) :
    rule.configure arguments records = (rule.settle o, .record o.event) := by
  cases o with
  | limit n => simp [configure, h, ho, Outcome.result, hr n rfl, settle, Outcome.event]
  | refused e => simp [configure, h, ho, Outcome.result, settle, Outcome.event]

/-- A rule that is not configured becomes so exactly when the arguments have an outcome whose
maximum, if it is one, the log takes down. -/
theorem configure_ok_iff (h : rule.configured = false) {arguments : Value} :
    (rule.configure arguments records).2.outcome = .ok () ↔
      ∃ o : Outcome, resolve arguments = o.result ∧ ∀ n, o = .limit n → records n = true := by
  constructor
  · intro hok
    cases hres : resolve arguments with
    | ok n =>
      refine ⟨.limit n, rfl, fun m hm => ?_⟩
      cases hm
      cases hr : records n with
      | true => rfl
      | false => simp [configure, h, hres, hr, Attempt.fail] at hok
    | error fault =>
      cases fault with
      | config e => exact ⟨.refused e, rfl, fun m hm => by simp at hm⟩
      | _ => simp [configure, h, hres, Attempt.fail] at hok
  · rintro ⟨o, ho, hr⟩
    rw [configure_of_result h ho hr]
    rfl

/-- The first application of a fresh rule whose arguments have an outcome. -/
theorem apply_fresh {arguments : Value} {o : Outcome} (h : resolve arguments = o.result)
    (hr : ∀ n, o = .limit n → records n = true) (tree : Node) :
    ({} : LimitRule).apply tree arguments records =
      (settled o, Attempt.record o.event >>= fun _ => (settled o).check tree) := by
  rw [apply, configure_of_result rfl h hr]
  rfl

/-! ### Runs -/

/-- A run of a fresh rule whose first arguments have an outcome. -/
theorem applyAll_fresh {arguments : Value} {o : Outcome} (h : resolve arguments = o.result)
    (hr : ∀ n, o = .limit n → records n = true) (tree : Node) (rest : List (Node × Value)) :
    ({} : LimitRule).applyAll ((tree, arguments) :: rest) records =
      (settled o, (Attempt.record o.event >>= fun _ => (settled o).check tree) ::
        rest.map fun call => (settled o).check call.1) := by
  rw [applyAll, apply_fresh h hr, applyAll_of_configured (settled_configured o)]

/-- If the first application of a fresh rule gives a result then so do all later ones. -/
theorem applyAll_ok_of_first {arguments : Value}
    (h : (({} : LimitRule).configure arguments records).2.outcome = .ok ()) (tree : Node)
    (rest : List (Node × Value)) :
    ∀ x ∈ (({} : LimitRule).applyAll ((tree, arguments) :: rest) records).2,
      ∃ findings, x.outcome = .ok findings := by
  obtain ⟨o, ho, hr⟩ := (configure_ok_iff rfl).mp h
  intro x hx
  rw [applyAll_fresh ho hr, List.mem_cons] at hx
  rcases hx with rfl | hx
  · exact ⟨o.findings tree, check_settled o tree⟩
  · obtain ⟨call, -, rfl⟩ := List.mem_map.mp hx
    exact ⟨o.findings call.1, check_settled o call.1⟩

/-- **The first arguments decide a run.** In a run of a fresh rule in which no application ends
in a fault, what the first arguments amount to fixes all findings, each for its own tree, and the
state of the rule after every application. -/
theorem applyAll_outcome_of_first (records : Int → Bool) (tree : Node) (arguments : List Value)
    (rest : List (Node × List Value))
    (hok : ∀ x ∈ (({} : LimitRule).applyAll (asCalls ((tree, arguments) :: rest)) records).2,
      ∃ findings, x.outcome = .ok findings) :
    ∃ o, Amounts arguments o ∧
      (({} : LimitRule).applyAll (asCalls ((tree, arguments) :: rest)) records).2.map
          Attempt.outcome =
        ((tree, arguments) :: rest).map (fun call => .ok (o.findings call.1)) ∧
      ∀ k, 1 ≤ k →
        (({} : LimitRule).applyAll ((asCalls ((tree, arguments) :: rest)).take k) records).1 =
          settled o := by
  have hfirst : (({} : LimitRule).configure (.list arguments) records).2.outcome = .ok () :=
    (apply_ok_iff {} tree (.list arguments) records).mp (hok _ (List.mem_cons_self ..))
  obtain ⟨o, ho, hr⟩ := (configure_ok_iff rfl).mp hfirst
  refine ⟨o, resolve_eq_result_iff.mp ho, ?_, fun k hk => ?_⟩
  · have hcheck : ∀ calls : List (Node × List Value),
        (asCalls calls).map (fun call => ((settled o).check call.1).outcome) =
          calls.map fun call => .ok (o.findings call.1) := by
      intro calls
      simp [asCalls, asCall, check_settled]
    rw [asCalls_cons, applyAll_fresh ho hr, List.map_cons, List.map_map, List.map_cons,
      List.cons.injEq]
    refine ⟨?_, hcheck rest⟩
    rw [← check_settled]
    rfl
  · obtain ⟨k, rfl⟩ := Nat.exists_eq_add_of_le hk
    rw [asCalls_cons, Nat.add_comm, List.take_succ_cons, applyAll_fresh ho hr]

/-- A run under the maximum one: later arguments change nothing, and the findings follow the
trees. -/
theorem applyAll_outcome_of_first_limit_one :
    let tree := Node.file none [.classDef (some "A") [] [] [], .classDef (some "B") [] [] []]
    let rest := [(tree, [.text "x"]), (.file none [], [.int 7, .int 8])]
    let run := ({} : LimitRule).applyAll (asCalls ((tree, [.int 1]) :: rest))
    (∀ x ∈ run.2, ∃ findings, x.outcome = .ok findings) ∧
      run.2.map Attempt.outcome = [.ok [excess 1 tree], .ok [excess 1 tree], .ok []] := by
  intro tree rest run
  have hfirst : (({} : LimitRule).configure (.list [.int 1])).2.outcome = .ok () :=
    (configure_ok_iff rfl).mpr ⟨.limit 1, rfl, fun n hn => by
      obtain rfl : 1 = n := Outcome.limit.inj hn
      exact isRecordable_of_lt_ten (by decide)⟩
  have hok := applyAll_ok_of_first hfirst tree (asCalls rest)
  obtain ⟨o, ho, hresults, -⟩ := applyAll_outcome_of_first isRecordable tree [.int 1] rest hok
  refine ⟨hok, hresults.trans ?_⟩
  cases ho with
  | integer h =>
    cases h
    rfl
  | noInteger h => cases h
  | several h => simp at h

end LimitRule

end ClassQuota
