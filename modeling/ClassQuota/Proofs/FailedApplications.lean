import ClassQuota.Proofs.Interleaving

/-!
# Failed applications

An application that ends in a fault leaves nothing behind: neither the rule nor the log nor the
lock shows that it was tried. A rule that is configured has no such applications. So a run may be
cut down to the calls that give results, and after the first of these no call fails.

The log is taken to keep every maximum. One that does not keep a maximum lets the application fail
after the maximum was written.

## Main definitions

* `Attempt.succeeds` — whether an attempt gives a result
* `LimitRule.succeeding` — the calls of a run that give results
* `Threads.Guarded` — the owner of the lock is the one thread that holds it

## Main results

* `LimitRule.apply_cases` — an application configures the rule, or fails and leaves it
* `LimitRule.applyAll_succeeding` — a run without its failed applications
* `LimitRule.applyAll_pairwise` — no application fails after one that has given a result
* `Threads.Guarded.run` — whatever the arguments, the lock is free when no thread is inside
* `LimitRule.applyAll_without_failed` — all of it
-/

namespace ClassQuota

/-! ### Attempts with a result -/

/-- Whether an attempt gives a result. -/
def Attempt.succeeds {α : Type} (x : Attempt α) : Bool :=
  x.outcome.isOk

theorem Attempt.succeeds_of_outcome {α : Type} {x : Attempt α} {a : α} (h : x.outcome = .ok a) :
    x.succeeds = true := by
  rw [Attempt.succeeds, h]
  rfl

@[simp] theorem Attempt.succeeds_fail {α : Type} (fault : Fault) :
    (Attempt.fail fault : Attempt α).succeeds = false := rfl

namespace LimitRule

variable {records : Int → Bool} {rule : LimitRule}

/-! ### One application -/

/-- With a log that keeps every maximum, configuring a rule settles it on an outcome, or ends in a
fault and leaves the rule. -/
theorem configure_cases (hlog : ∀ n, records n = true) (h : rule.configured = false)
    (arguments : Value) :
    (∃ o : Outcome, rule.configure arguments records = (rule.settle o, .record o.event)) ∨
      ∃ fault, rule.configure arguments records = (rule, .fail fault) := by
  rw [configure, if_neg (by simp [h])]
  split
  · next n _ =>
    rw [if_pos (hlog n)]
    exact .inl ⟨.limit n, rfl⟩
  · next e _ => exact .inl ⟨.refused e, rfl⟩
  · next fault _ _ => exact .inr ⟨fault, rfl⟩

/-- **An application configures the rule and gives a result, or fails and leaves the rule.** Only
an application of a rule that is not configured can fail. -/
theorem apply_cases (hlog : ∀ n, records n = true) (rule : LimitRule) (tree : Node)
    (arguments : Value) :
    ((rule.apply tree arguments records).1.configured = true ∧
        (rule.apply tree arguments records).2.succeeds = true) ∨
      ∃ fault, rule.configured = false ∧
        rule.apply tree arguments records = (rule, .fail fault) := by
  cases hc : rule.configured with
  | true =>
    rw [apply_of_configured hc]
    obtain ⟨findings, hcheck, -⟩ := check_outcome rule tree
    exact .inl ⟨hc, Attempt.succeeds_of_outcome hcheck⟩
  | false =>
    obtain ⟨o, ho⟩ | ⟨fault, hfault⟩ := configure_cases hlog hc arguments
    · obtain ⟨findings, hcheck, -⟩ := check_outcome (rule.settle o) tree
      rw [apply, ho]
      exact .inl ⟨settle_configured rule o, Attempt.succeeds_of_outcome hcheck⟩
    · rw [apply, hfault]
      exact .inr ⟨fault, rfl, rfl⟩

/-- A failed application of a rule: it was not configured, it is the same rule after it, and
nothing is logged. -/
theorem apply_of_fault (hlog : ∀ n, records n = true) {tree : Node} {arguments : Value}
    {fault : Fault} (h : (rule.apply tree arguments records).2.outcome = .error fault) :
    rule.configured = false ∧ rule.apply tree arguments records = (rule, ⟨.error fault, []⟩) := by
  obtain ⟨-, hok⟩ | ⟨fault', hc, hfault⟩ := apply_cases hlog rule tree arguments
  · rw [Attempt.succeeds, h] at hok
    cases hok
  · rw [hfault] at h
    cases h
    exact ⟨hc, hfault⟩

/-! ### Runs -/

/-- The calls of a run that give results. -/
def succeeding (rule : LimitRule) (calls : List (Node × Value)) (records : Int → Bool) :
    List (Node × Value) :=
  ((calls.zip (rule.applyAll calls records).2).filter fun call => call.2.succeeds).map Prod.fst

theorem succeeding_cons_of_succeeds {tree : Node} {arguments : Value}
    (h : (rule.apply tree arguments records).2.succeeds = true) (rest : List (Node × Value)) :
    rule.succeeding ((tree, arguments) :: rest) records =
      (tree, arguments) :: (rule.apply tree arguments records).1.succeeding rest records := by
  simp [succeeding, applyAll, h]

theorem succeeding_cons_of_fails {tree : Node} {arguments : Value} {fault : Fault}
    (h : rule.apply tree arguments records = (rule, .fail fault)) (rest : List (Node × Value)) :
    rule.succeeding ((tree, arguments) :: rest) records = rule.succeeding rest records := by
  simp [succeeding, applyAll, h]

/-- **A run without its failed applications** ends in the same state, and each of the others gives
what it gave, with the same records. -/
theorem applyAll_succeeding (hlog : ∀ n, records n = true) (rule : LimitRule)
    (calls : List (Node × Value)) :
    rule.applyAll (rule.succeeding calls records) records =
      ((rule.applyAll calls records).1,
        (rule.applyAll calls records).2.filter Attempt.succeeds) := by
  induction calls generalizing rule with
  | nil => rfl
  | cons call rest ih =>
    obtain ⟨tree, arguments⟩ := call
    obtain ⟨-, hok⟩ | ⟨fault, -, hfault⟩ := apply_cases hlog rule tree arguments
    · rw [succeeding_cons_of_succeeds hok, applyAll, ih, applyAll, List.filter_cons_of_pos hok]
    · have hfails : ¬(Attempt.fail fault : Attempt (List Finding)).succeeds = true := by simp
      rw [succeeding_cons_of_fails hfault, ih, applyAll, hfault, List.filter_cons_of_neg hfails]

/-- A run of a configured rule has no failed applications. -/
theorem succeeds_of_configured (h : rule.configured = true) {calls : List (Node × Value)}
    {x : Attempt (List Finding)} (hx : x ∈ (rule.applyAll calls records).2) :
    x.succeeds = true := by
  rw [applyAll_of_configured h] at hx
  obtain ⟨call, -, rfl⟩ := List.mem_map.mp hx
  obtain ⟨findings, hcheck, -⟩ := check_outcome rule call.1
  exact Attempt.succeeds_of_outcome hcheck

/-- **No application fails after one that has given a result.** -/
theorem applyAll_pairwise (hlog : ∀ n, records n = true) (rule : LimitRule)
    (calls : List (Node × Value)) :
    (rule.applyAll calls records).2.Pairwise
      fun x y => x.succeeds = true → y.succeeds = true := by
  induction calls generalizing rule with
  | nil => exact .nil
  | cons call rest ih =>
    obtain ⟨tree, arguments⟩ := call
    rw [applyAll]
    refine .cons (fun y hy hx => ?_) (ih _)
    obtain ⟨hc, -⟩ | ⟨fault, -, hfault⟩ := apply_cases hlog rule tree arguments
    · exact succeeds_of_configured hc hy
    · rw [hfault] at hx
      cases hx

end LimitRule

/-! ### The lock -/

section Lock

variable {ι : Type} {records : Int → Bool} {calls : ι → Node × Value} {i : ι} {p q : Place}

/-- What a step does to the lock: nothing, or it takes the lock that was free, or it gives up the
lock that its thread held. -/
theorem Shared.advance_lock [DecidableEq ι] {call : Node × Value} {x y : Shared ι}
    (h : x.advance records call i p = some (y, q)) :
    (y.owner = x.owner ∧ q.holdsLock = p.holdsLock) ∨
      (x.owner = none ∧ y.owner = some i ∧ q.holdsLock = true) ∨
      (p.holdsLock = true ∧ y.owner = none ∧ q.holdsLock = false) := by
  cases p with
  | entering =>
    cases h
    exact .inl ⟨rfl, by split <;> rfl⟩
  | waiting =>
    rw [Shared.advance] at h
    split at h
    case isTrue hfree =>
      cases h
      exact .inr (.inl ⟨hfree, rfl, rfl⟩)
    case isFalse => cases h
  | rechecking =>
    cases h
    exact .inl ⟨rfl, by split <;> rfl⟩
  | configuring =>
    rw [Shared.advance] at h
    split at h <;> cases h <;> exact .inl ⟨rfl, rfl⟩
  | recording =>
    cases h
    exact .inl ⟨rfl, by split <;> rfl⟩
  | concluding =>
    cases h
    exact .inl ⟨rfl, rfl⟩
  | leaving =>
    cases h
    exact .inr (.inr ⟨rfl, rfl, rfl⟩)
  | failing fault =>
    cases h
    exact .inr (.inr ⟨rfl, rfl, rfl⟩)
  | testingError | readingError | testingMaximum | comparing | citing | listing _ | finished _ =>
    rw [Shared.advance_of_reads rfl, Option.map_eq_some_iff] at h
    obtain ⟨q, hq, ⟨⟩⟩ := h
    exact .inl ⟨rfl, Place.holdsLock_of_reads (Place.reads_of_read hq)⟩

namespace Threads

variable {t u : Threads ι} {ws : List ι}

/-- The owner of the lock is the one thread between taking it and giving it up. -/
def Guarded (t : Threads ι) : Prop :=
  ∀ i, (t.place i).holdsLock = true ↔ t.shared.owner = some i

/-- Nobody owns the lock when no thread is between taking it and giving it up. -/
theorem Guarded.owner_eq_none (h : t.Guarded) (hout : ∀ i, (t.place i).holdsLock = false) :
    t.shared.owner = none := by
  refine Option.eq_none_iff_forall_ne_some.mpr fun i howner => ?_
  have hheld := (h i).mpr howner
  rw [hout i] at hheld
  cases hheld

/-- Threads that have not begun, and a lock that nobody owns. -/
theorem guarded_of_entering (rule : LimitRule) :
    Guarded (⟨⟨rule, none⟩, fun _ => .entering⟩ : Threads ι) := by
  intro i
  simp [Place.holdsLock]

variable [DecidableEq ι]

/-- **Every step keeps the lock guarded,** one that meets a fault like any other. -/
theorem Guarded.step (h : t.Guarded) (hstep : t.step records calls i = some u) : u.Guarded := by
  obtain ⟨shared, q, hadvance, rfl⟩ := step_eq_some_iff.mp hstep
  intro j
  by_cases hj : j = i
  · subst hj
    rw [move_place_self, move_shared]
    obtain ⟨howner, hq⟩ | ⟨-, howner, hq⟩ | ⟨-, howner, hq⟩ := Shared.advance_lock hadvance
    · rw [howner, hq, h j]
    · simp [howner, hq]
    · simp [howner, hq]
  · rw [move_place_of_ne hj, move_shared, h j]
    obtain ⟨howner, -⟩ | ⟨hfree, howner, -⟩ | ⟨hp, howner, -⟩ := Shared.advance_lock hadvance
    · rw [howner]
    · simp [hfree, howner, Ne.symm hj]
    · simp [(h i).mp hp, howner, Ne.symm hj]

/-- **Every run keeps the lock guarded.** -/
theorem Guarded.run (h : t.Guarded) (hrun : Run records calls t ws u) : u.Guarded := by
  induction hrun with
  | start => exact h
  | step i _ hstep ih => exact ih.step hstep

end Threads

end Lock

namespace LimitRule

variable {records : Int → Bool}

/-- **Failed applications leave no trace.** With a log that keeps every maximum, whatever the trees
and the arguments,

* an application that ends in a fault finds a rule that is not configured, leaves it as it was and
  records nothing; its thread, if not interrupted, takes the lock and gives it up again;
* in whatever order threads move, failing or not, the lock is free when none of them is inside;
* a run without its failed applications ends in the same state, and each of the others gives the
  same result and records;
* no application fails after one that has given a result. -/
theorem applyAll_without_failed (hlog : ∀ n, records n = true) (rule : LimitRule) :
    (∀ tree arguments fault, (rule.apply tree arguments records).2.outcome = .error fault →
        rule.configured = false ∧
        rule.apply tree arguments records = (rule, ⟨.error fault, []⟩) ∧
        ∀ {ι : Type} [DecidableEq ι] (calls : ι → Node × Value) (t : Threads ι) (i : ι),
          calls i = (tree, arguments) →
            Threads.Solo records calls t i ⟨rule, none⟩ .entering
              ⟨rule, none⟩ (.finished (.error fault))) ∧
      (∀ {ι : Type} [DecidableEq ι] (calls : ι → Node × Value) (ws : List ι) (t : Threads ι),
        Threads.Run records calls ⟨⟨rule, none⟩, fun _ => .entering⟩ ws t →
          (∀ i, (t.place i).holdsLock = false) → t.shared.owner = none) ∧
      (∀ calls, rule.applyAll (rule.succeeding calls records) records =
        ((rule.applyAll calls records).1,
          (rule.applyAll calls records).2.filter Attempt.succeeds)) ∧
      ∀ calls, (rule.applyAll calls records).2.Pairwise
        fun x y => x.succeeds = true → y.succeeds = true := by
  refine ⟨fun tree arguments fault hfault => ?_, fun calls ws t hrun hout => ?_,
    applyAll_succeeding hlog rule, applyAll_pairwise hlog rule⟩
  · obtain ⟨hc, happly⟩ := apply_of_fault hlog hfault
    refine ⟨hc, happly, fun calls t i hcall => ?_⟩
    have hsolo : Threads.Solo records calls t i ⟨rule, none⟩ .entering
        ⟨(rule.apply (calls i).1 (calls i).2 records).1, none⟩
        (.finished (rule.apply (calls i).1 (calls i).2 records).2.outcome) :=
      Threads.solo_apply rule
    rwa [hcall, happly] at hsolo
  · exact ((Threads.guarded_of_entering rule).run hrun).owner_eq_none hout

/-- Three applications fail: two values have no length, and a table has one entry but none under
zero. The fourth settles the rule, and the fifth succeeds with the argument of the first. -/
theorem applyAll_without_failed_null :
    let tree := Node.file none [.classDef (some "A") [] [] []]
    let keys := Value.table [(.text "k", .int 1)]
    let rest := [(tree, .list [.int 1]), (tree, .null)]
    let calls := (tree, .null) :: (tree, .int 7) :: (tree, keys) :: rest
    (∀ n, (fun _ : Int => true) n = true) ∧
      (∀ arguments ∈ [.null, .int 7, keys], ∃ fault,
        ({} : LimitRule).apply tree arguments (fun _ => true) = ({}, ⟨.error fault, []⟩)) ∧
      ({} : LimitRule).succeeding calls (fun _ => true) = rest ∧
      ({} : LimitRule).applyAll rest (fun _ => true) =
        ((({} : LimitRule).applyAll calls fun _ => true).1,
          (({} : LimitRule).applyAll calls fun _ => true).2.filter Attempt.succeeds) := by
  intro tree keys rest calls
  have hlog : ∀ n, (fun _ : Int => true) n = true := fun _ => rfl
  obtain ⟨hfailed, -, hrun, -⟩ := applyAll_without_failed hlog {}
  have hnull := (hfailed tree .null .noLength rfl).2.1
  have hint := (hfailed tree (.int 7) .noLength rfl).2.1
  have hresolve : resolve keys = .error .missingKey := by
    simp [keys, resolve, countArguments, Value.length?, Value.first?, Value.lookup?, Value.same,
      Value.asInt?, checkCount]
    rfl
  have hkeys := (hfailed tree keys .missingKey (by simp only [apply, configure, hresolve]; rfl)).2.1
  have hsucceeding : ({} : LimitRule).succeeding calls (fun _ => true) = rest := by
    rw [succeeding_cons_of_fails hnull, succeeding_cons_of_fails hint,
      succeeding_cons_of_fails hkeys]
    rfl
  refine ⟨hlog, ?_, hsucceeding, ?_⟩
  · simp only [List.mem_cons, List.not_mem_nil, or_false, forall_eq_or_imp, forall_eq]
    exact ⟨⟨_, hnull⟩, ⟨_, hint⟩, ⟨_, hkeys⟩⟩
  · rw [← hrun calls, hsucceeding]

end LimitRule

end ClassQuota
