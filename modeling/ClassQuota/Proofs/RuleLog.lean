import ClassQuota.Proofs.OneShot

/-!
# The log of a rule

The first application of a rule records what it settles on: its maximum, or a warning with the
configuration error. After that, and in the first application too, each tree is recorded with the
number of its public declarations, but only under a maximum that is not below one. Findings can be
read off the log: a tree is found to exceed the maximum exactly if its number in the log does.

## Main definitions

* `Outcome.counted`, `Outcome.written` — what is recorded of a tree under an outcome, as an event
  and as it is written
* `Event.isSettlement`, `Event.isCount` — the two kinds of records of a rule
* `joinedLog` — the records of a run, in order

## Main results

* `LimitRule.check_settled_eq` — what a settled rule reports and records for a tree
* `LimitRule.applyAll_fresh_eq` — the attempts of a run, application by application
* `LimitRule.applyAll_log_of_first` — the log of a run without faults, and what it tells
-/

namespace ClassQuota

/-- What a rule that settles on an outcome writes. -/
def Outcome.heading : Outcome → Level × String
  | .limit maximum => (.debug, "max-public-classes: maximum resolved to " ++ toString maximum)
  | .refused error => (.warning, "max-public-classes: " ++ error.message)

/-- What is recorded of a tree under an outcome: its number of public declarations, but only under
a maximum that is not below one. -/
def Outcome.counted : Outcome → Node → List Event
  | .limit maximum, tree =>
    if 1 ≤ maximum then [.declarationsCounted ruleName tree.label tree.publicCount] else []
  | .refused _, _ => []

/-- What is written of a tree under an outcome. -/
def Outcome.written : Outcome → Node → List (Level × String)
  | .limit maximum, tree =>
    if 1 ≤ maximum then
      [(.debug, "max-public-classes: " ++ tree.label ++ " declares " ++
        toString (tree.publicCount : Int) ++ " public classes")]
    else []
  | .refused _, _ => []

namespace Event

/-- A record as it is written. -/
def line (event : Event) : Level × String :=
  (event.level, event.text)

/-- Whether a record says what a rule has settled on. -/
def isSettlement : Event → Bool
  | .maximumResolved .. => true
  | .configurationFailed .. => true
  | _ => false

/-- Whether a record gives a number of declarations. -/
def isCount : Event → Bool
  | .declarationsCounted .. => true
  | _ => false

/-- Whether a record is a warning. -/
def isWarning (event : Event) : Bool :=
  event.level == .warning

end Event

/-- The records of attempts, one after another. -/
def joinedLog {α : Type} (attempts : List (Attempt α)) : List Event :=
  attempts.flatMap Attempt.log

section Outcome

variable {o : Outcome} {tree : Node} {event : Event}

theorem line_event (o : Outcome) : o.event.line = o.heading := by
  cases o <;> rfl

theorem map_line_counted (o : Outcome) (tree : Node) :
    (o.counted tree).map Event.line = o.written tree := by
  cases o with
  | limit n =>
    rw [Outcome.counted, Outcome.written]
    split <;> rfl
  | refused e => rfl

theorem isSettlement_event (o : Outcome) : o.event.isSettlement = true := by
  cases o <;> rfl

/-- A record of a tree is that of its number, under a maximum that is not below one. -/
theorem mem_counted_iff :
    event ∈ o.counted tree ↔
      (∃ n, o = .limit n ∧ 1 ≤ n) ∧
        event = .declarationsCounted ruleName tree.label tree.publicCount := by
  cases o with
  | limit n =>
    rw [Outcome.counted]
    by_cases hn : 1 ≤ n <;> simp [hn]
  | refused e => simp [Outcome.counted]

theorem isCount_of_mem_counted (h : event ∈ o.counted tree) : event.isCount = true := by
  rw [(mem_counted_iff.mp h).2]
  rfl

/-- Records of trees neither settle nor warn. -/
theorem not_isSettlement_of_isCount (h : event.isCount = true) :
    event.isSettlement = false ∧ event.isWarning = false := by
  cases event with
  | declarationsCounted rule label count => exact ⟨rfl, rfl⟩
  | _ => cases h

/-- What is found under an outcome is an excess exactly if there is a maximum that is not below one
and the number of the tree is above it. -/
theorem exists_style_iff :
    (∃ f ∈ o.findings tree, f.category = styleCategory) ↔
      ∃ n, o = .limit n ∧ 1 ≤ n ∧ n < tree.publicCount := by
  cases o with
  | limit n =>
    rw [Outcome.findings]
    by_cases hn : 1 ≤ n ∧ n < tree.publicCount
    · simp only [if_pos hn, List.mem_singleton, exists_eq_left, Outcome.limit.injEq]
      exact iff_of_true rfl ⟨n, rfl, hn⟩
    · rw [if_neg hn]
      refine iff_of_false (by simp) ?_
      rintro ⟨m, hm, hmn⟩
      obtain rfl := Outcome.limit.inj hm
      exact hn hmn
  | refused e =>
    simp [Outcome.findings, Finding.internal, internalCategory, styleCategory]

end Outcome

namespace LimitRule

variable {records : Int → Bool}

/-- What a settled rule reports and records for a tree. -/
theorem check_settled_eq (o : Outcome) (tree : Node) :
    (settled o).check tree = ⟨.ok (o.findings tree), o.counted tree⟩ := by
  have hfindings := check_settled o tree
  have hlog : ((settled o).check tree).log = o.counted tree := by
    cases o with
    | refused e => rfl
    | limit n =>
      have hcount : ((Counter.mk 0).count tree).current = tree.publicCount := by
        simp [Counter.current_count]
      by_cases hn : n < 1
      · have hoff : ¬1 ≤ n := by omega
        simp [check, Outcome.maximum, Outcome.counted, hn, hoff]
      · have hon : 1 ≤ n := by omega
        simp [check, Attempt.record, Outcome.maximum, Outcome.counted, hn, hon, hcount]
  rw [← hfindings, ← hlog]

/-- What the applications of a fresh rule to trees give that settles on an outcome: what is settled
is recorded first, and then each tree has its own findings and records. -/
def settlingRun (o : Outcome) (tree : Node) (others : List Node) : List (Attempt (List Finding)) :=
  ⟨.ok (o.findings tree), o.event :: o.counted tree⟩ ::
    others.map fun other => ⟨.ok (o.findings other), o.counted other⟩

theorem applyAll_fresh_eq {arguments : Value} {o : Outcome} (h : resolve arguments = o.result)
    (hr : ∀ n, o = .limit n → records n = true) (tree : Node) (rest : List (Node × Value)) :
    (({} : LimitRule).applyAll ((tree, arguments) :: rest) records).2 =
      settlingRun o tree (rest.map Prod.fst) := by
  rw [applyAll_fresh h hr, settlingRun, List.map_map]
  simp only [check_settled_eq]
  rfl

section Run

variable {o : Outcome} {tree : Node} {others : List Node}

theorem map_log_settlingRun (o : Outcome) (tree : Node) (others : List Node) :
    (settlingRun o tree others).map Attempt.log =
      (o.event :: o.counted tree) :: others.map o.counted := by
  rw [settlingRun, List.map_cons, List.map_map]
  rfl

/-- The log of a run is what is settled, and then what is recorded of each tree. -/
theorem joinedLog_settlingRun (o : Outcome) (tree : Node) (others : List Node) :
    joinedLog (settlingRun o tree others) = o.event :: (tree :: others).flatMap o.counted := by
  simp [joinedLog, settlingRun, List.flatMap_map]

theorem isCount_of_mem_flatMap {event : Event} {trees : List Node}
    (h : event ∈ trees.flatMap o.counted) : event.isCount = true := by
  obtain ⟨other, -, hother⟩ := List.mem_flatMap.mp h
  exact isCount_of_mem_counted hother

/-- A run settles in one record. -/
theorem countP_isSettlement_joinedLog (o : Outcome) (tree : Node) (others : List Node) :
    (joinedLog (settlingRun o tree others)).countP Event.isSettlement = 1 := by
  have hnone : ((tree :: others).flatMap o.counted).countP Event.isSettlement = 0 := by
    refine List.countP_eq_zero.mpr fun event hevent => ?_
    rw [(not_isSettlement_of_isCount (isCount_of_mem_flatMap hevent)).1]
    exact Bool.false_ne_true
  rw [joinedLog_settlingRun, List.countP_cons_of_pos (isSettlement_event o), hnone]

/-- A run warns in one record at most. -/
theorem countP_isWarning_joinedLog (o : Outcome) (tree : Node) (others : List Node) :
    (joinedLog (settlingRun o tree others)).countP Event.isWarning ≤ 1 := by
  have hnone : ((tree :: others).flatMap o.counted).countP Event.isWarning = 0 := by
    refine List.countP_eq_zero.mpr fun event hevent => ?_
    rw [(not_isSettlement_of_isCount (isCount_of_mem_flatMap hevent)).2]
    exact Bool.false_ne_true
  rw [joinedLog_settlingRun, List.countP_cons, hnone]
  split <;> decide

/-- The maximum in the log is the one of the outcome. -/
theorem maximumResolved_mem_joinedLog_iff {n : Int} :
    .maximumResolved ruleName n ∈ joinedLog (settlingRun o tree others) ↔ o = .limit n := by
  have hnone : .maximumResolved ruleName n ∉ (tree :: others).flatMap o.counted :=
    fun h => Bool.false_ne_true (isCount_of_mem_flatMap h)
  rw [joinedLog_settlingRun, List.mem_cons, or_iff_left hnone]
  cases o with
  | limit m => simp [Outcome.event, eq_comm]
  | refused e => simp [Outcome.event]

/-- Each application of a run has its own tree, and maybe the record of what is settled too. -/
theorem exists_tree_of_mem_settlingRun {x : Attempt (List Finding)}
    (hx : x ∈ settlingRun o tree others) :
    ∃ t, x.outcome = .ok (o.findings t) ∧
      ∀ event, event.isSettlement = false → (event ∈ x.log ↔ event ∈ o.counted t) := by
  rw [settlingRun, List.mem_cons] at hx
  rcases hx with rfl | hx
  · refine ⟨tree, rfl, fun event hevent => ?_⟩
    have hne : event ≠ o.event := by
      rintro rfl
      rw [isSettlement_event] at hevent
      cases hevent
    rw [List.mem_cons, or_iff_right hne]
  · obtain ⟨other, -, rfl⟩ := List.mem_map.mp hx
    exact ⟨other, rfl, fun _ _ => Iff.rfl⟩

/-- An application finds an excess exactly if the number in its log is above the maximum in the log
of the run. -/
theorem exists_style_iff_log {x : Attempt (List Finding)} (hx : x ∈ settlingRun o tree others) :
    (∃ findings, x.outcome = .ok findings ∧ ∃ f ∈ findings, f.category = styleCategory) ↔
      ∃ label count n, .declarationsCounted ruleName label count ∈ x.log ∧
        .maximumResolved ruleName n ∈ joinedLog (settlingRun o tree others) ∧ n < count := by
  obtain ⟨t, hfindings, hlog⟩ := exists_tree_of_mem_settlingRun hx
  simp only [hfindings, Except.ok.injEq, exists_eq_left', exists_style_iff,
    maximumResolved_mem_joinedLog_iff]
  constructor
  · rintro ⟨n, rfl, hn, hlt⟩
    refine ⟨t.label, t.publicCount, n, (hlog _ rfl).mpr ?_, rfl, hlt⟩
    exact mem_counted_iff.mpr ⟨⟨n, rfl, hn⟩, rfl⟩
  · rintro ⟨label, count, n, hcount, rfl, hlt⟩
    obtain ⟨⟨m, hm, hn⟩, hevent⟩ := mem_counted_iff.mp ((hlog _ rfl).mp hcount)
    obtain rfl := Outcome.limit.inj hm
    obtain ⟨-, -, rfl⟩ := Event.declarationsCounted.inj hevent
    exact ⟨n, rfl, hn, hlt⟩

end Run

/-- **The log of a run.** In a run of a fresh rule in which no application ends in a fault, with `o`
what the first arguments amount to,

* the first application records `o`, and each application, the first included, records the number
  of the public declarations of its tree if `o` is a maximum that is not below one, and nothing
  otherwise; so it is written, with the levels and the texts of the records;
* one record in the log settles the rule, at most one is a warning, and a number is recorded only
  under such a maximum;
* an application finds an excess exactly if the number in its log is above the maximum in the log
  of the run. -/
theorem applyAll_log_of_first (records : Int → Bool) (tree : Node) (arguments : List Value)
    (rest : List (Node × List Value))
    (hok : ∀ x ∈ (({} : LimitRule).applyAll (asCalls ((tree, arguments) :: rest)) records).2,
      ∃ findings, x.outcome = .ok findings) :
    let run := (({} : LimitRule).applyAll (asCalls ((tree, arguments) :: rest)) records).2
    ∃ o, Amounts arguments o ∧
      (run.map Attempt.log =
          (o.event :: o.counted tree) :: rest.map fun call => o.counted call.1) ∧
      (run.map fun x => x.log.map Event.line) =
          (o.heading :: o.written tree) :: rest.map (fun call => o.written call.1) ∧
      (joinedLog run).countP Event.isSettlement = 1 ∧
      (joinedLog run).countP Event.isWarning ≤ 1 ∧
      (∀ event ∈ joinedLog run, event.isCount = true → ∃ n, o = .limit n ∧ 1 ≤ n) ∧
      ∀ x ∈ run,
        (∃ findings, x.outcome = .ok findings ∧ ∃ f ∈ findings, f.category = styleCategory) ↔
          ∃ label count n, .declarationsCounted ruleName label count ∈ x.log ∧
            .maximumResolved ruleName n ∈ joinedLog run ∧ n < count := by
  intro run
  have hfirst : (({} : LimitRule).configure (.list arguments) records).2.outcome = .ok () :=
    (apply_ok_iff {} tree (.list arguments) records).mp (hok _ (List.mem_cons_self ..))
  obtain ⟨o, ho, hr⟩ := (configure_ok_iff rfl).mp hfirst
  have hrun : run = settlingRun o tree (rest.map Prod.fst) := by
    have heq := applyAll_fresh_eq ho hr tree (asCalls rest)
    rwa [show (asCalls rest).map Prod.fst = rest.map Prod.fst by simp [asCalls, asCall]] at heq
  have hlog : run.map Attempt.log =
      (o.event :: o.counted tree) :: rest.map fun call => o.counted call.1 := by
    rw [hrun, map_log_settlingRun, List.map_map]
    rfl
  refine ⟨o, resolve_eq_result_iff.mp ho, hlog, ?_, ?_, ?_, ?_, ?_⟩
  · rw [← Function.comp_def (List.map Event.line), ← List.map_map, hlog]
    simp [line_event, map_line_counted]
  · rw [hrun]
    exact countP_isSettlement_joinedLog ..
  · rw [hrun]
    exact countP_isWarning_joinedLog ..
  · rw [hrun, joinedLog_settlingRun]
    rintro event (_ | ⟨_, hevent⟩) hcount
    · have hnone := (not_isSettlement_of_isCount hcount).1
      rw [isSettlement_event] at hnone
      cases hnone
    · obtain ⟨t, -, ht⟩ := List.mem_flatMap.mp hevent
      exact (mem_counted_iff.mp ht).1
  · rw [hrun]
    exact fun x hx => exists_style_iff_log hx

/-- Under the maximum one every tree is counted, and only the first tree is above it. -/
theorem applyAll_log_of_first_limit_one :
    let tree := Node.file (some "m") [.classDef (some "A") [] [] [], .classDef (some "B") [] [] []]
    let rest := [(.file (some "n") [], [.text "x"])]
    let run := (({} : LimitRule).applyAll (asCalls ((tree, [.int 1]) :: rest))).2
    (∀ x ∈ run, ∃ findings, x.outcome = .ok findings) ∧
      (run.map fun x => x.log.map Event.line) =
        [[(.debug, "max-public-classes: maximum resolved to 1"),
            (.debug, "max-public-classes: m declares 2 public classes")],
          [(.debug, "max-public-classes: n declares 0 public classes")]] := by
  intro tree rest run
  have hfirst : (({} : LimitRule).configure (.list [.int 1])).2.outcome = .ok () :=
    (configure_ok_iff rfl).mpr ⟨.limit 1, rfl, fun n hn => by
      obtain rfl : 1 = n := Outcome.limit.inj hn
      exact isRecordable_of_lt_ten (by decide)⟩
  have hok := applyAll_ok_of_first hfirst tree (asCalls rest)
  obtain ⟨o, ho, -, hwritten, -⟩ := applyAll_log_of_first isRecordable tree [.int 1] rest hok
  refine ⟨hok, hwritten.trans ?_⟩
  cases ho with
  | integer h =>
    cases h
    decide
  | noInteger h => cases h
  | several h => simp at h

end LimitRule

end ClassQuota
