import ClassQuota.Proofs.OneShot
import ClassQuota.Rule.Threads

/-!
# A thread by itself

A thread that no other thread interrupts applies the rule: its steps, one reading or writing at a
time, come to the state and the result of an application. From the look at the error on a thread
only reads, and what it reads on a rule that stays as it is leads to a single result, the check.

## Main definitions

* `Leads` — what a thread that goes on reading a rule will report
* `Threads.Solo` — steps of one thread while all others stay at their places

## Main results

* `leads_check` — reading from the look at the error on is a check
* `Threads.solo_apply` — a thread that is not interrupted applies the rule
-/

namespace ClassQuota

variable {ι : Type} {records : Int → Bool} {rule : LimitRule} {tree : Node} {p q : Place}

/-! ### Reading a rule -/

/-- What a thread will report that goes on reading a rule from its place. -/
inductive Leads (rule : LimitRule) (tree : Node) : Place → Except Fault (List Finding) → Prop
  | finished (result : Except Fault (List Finding)) : Leads rule tree (.finished result) result
  | read {p q : Place} {result : Except Fault (List Finding)} (h : rule.read tree p = some q)
      (rest : Leads rule tree q result) : Leads rule tree p result

/-- Only one result can come of reading on. -/
theorem Leads.of_read {result : Except Fault (List Finding)} (h : Leads rule tree p result)
    (hq : rule.read tree p = some q) : Leads rule tree q result := by
  cases h with
  | finished => simp [LimitRule.read] at hq
  | read h' rest =>
    rw [hq, Option.some.injEq] at h'
    exact h' ▸ rest

theorem Leads.eq_of_finished {result result' : Except Fault (List Finding)}
    (h : Leads rule tree (.finished result') result) : result' = result := by
  cases h with
  | finished => rfl
  | read h' rest => simp [LimitRule.read] at h'

/-- Reading from the first look at the error on is a check. -/
theorem leads_check (rule : LimitRule) (tree : Node) :
    Leads rule tree .testingError (rule.check tree).outcome := by
  unfold LimitRule.check
  cases he : rule.error with
  | some e =>
    have herror : rule.read tree .testingError = some .readingError := by
      simp [LimitRule.read, he]
    have hfound : rule.read tree .readingError = some (.finished (.ok [.internal e])) := by
      simp [LimitRule.read, he]
    exact .read herror (.read hfound (.finished _))
  | none =>
    have hnone : rule.read tree .testingError = some .testingMaximum := by
      simp [LimitRule.read, he]
    refine .read hnone ?_
    by_cases hoff : rule.maximum < 1
    · have hzero : rule.read tree .testingMaximum = some (.finished (.ok [])) := by
        simp [LimitRule.read, hoff]
      simp only [hoff, if_true]
      exact .read hzero (.finished _)
    · have hon : rule.read tree .testingMaximum = some .comparing := by
        simp [LimitRule.read, hoff]
      refine .read hon ?_
      by_cases hmore : rule.maximum < ((Counter.mk 0).count tree).current
      · have hover : rule.read tree .comparing = some .citing := by
          simp only [LimitRule.read, hmore, if_true]
        simp only [hoff, hmore, if_true, if_false]
        exact .read hover (.read rfl (.read rfl (.finished _)))
      · have hunder : rule.read tree .comparing = some (.finished (.ok [])) := by
          simp only [LimitRule.read, hmore, if_false]
        simp only [hoff, hmore, if_false]
        exact .read hunder (.finished _)

namespace Threads

variable [DecidableEq ι] {calls : ι → Node × Value} {s t u : Threads ι} {ws vs : List ι} {i : ι}

/-! ### One thread by itself -/

theorem step_eq_some_iff :
    t.step records calls i = some u ↔
      ∃ shared q, t.shared.advance records (calls i) i (t.place i) = some (shared, q) ∧
        t.move i shared q = u := by
  simp only [step, Option.map_eq_some_iff, Prod.exists]

/-- Two runs in sequence are a run. -/
theorem Run.trans (h : Run records calls s ws t) (h' : Run records calls t vs u) :
    Run records calls s (ws ++ vs) u := by
  induction h' with
  | start => rwa [List.append_nil]
  | @step t' u' vs i _ hstep ih =>
    have hrun := Run.step i ih hstep
    split at hrun <;> simp_all [List.append_assoc]

/-- Steps of one thread lead it from one place to another while all others stay at theirs. -/
def Solo (records : Int → Bool) (calls : ι → Node × Value) (t : Threads ι) (i : ι)
    (x : Shared ι) (p : Place) (y : Shared ι) (q : Place) : Prop :=
  ∃ ws, Run records calls (t.move i x p) ws (t.move i y q)

variable {x y z : Shared ι} {r : Place}

theorem Solo.refl : Solo records calls t i x p x p :=
  ⟨[], .start _⟩

/-- A step of the thread, and then what follows it. -/
theorem Solo.head (h : x.advance records (calls i) i p = some (y, q))
    (rest : Solo records calls t i y q z r) : Solo records calls t i x p z r := by
  obtain ⟨ws, hrest⟩ := rest
  have hstep : (t.move i x p).step records calls i = some (t.move i y q) := by
    rw [step_eq_some_iff]
    exact ⟨y, q, by rwa [move_shared, move_place_self], move_move ..⟩
  exact ⟨_, (Run.step i (.start _) hstep).trans hrest⟩

/-- A thread that reads on alone comes to the result that it leads to. -/
theorem Solo.of_leads {result : Except Fault (List Finding)}
    (h : Leads x.rule (calls i).1 p result) :
    Solo records calls t i x p x (.finished result) := by
  induction h with
  | finished => exact .refl
  | @read p q result h rest ih =>
    refine .head (y := x) (q := q) ?_ ih
    cases p <;> simp_all [LimitRule.read, Shared.advance]

/-- A thread that has the lock and has found the rule configured, or configured it, checks. -/
theorem solo_leaving (rule : LimitRule) :
    Solo records calls t i ⟨rule, some i⟩ .leaving ⟨rule, none⟩
      (.finished (rule.check (calls i).1).outcome) :=
  .head rfl (.of_leads (leads_check rule (calls i).1))

/-- A thread in the block that configures the rule does what configuring is. -/
theorem solo_configuring (hc : rule.configured = false) :
    Solo records calls t i ⟨rule, some i⟩ .configuring
      ⟨(rule.apply (calls i).1 (calls i).2 records).1, none⟩
      (.finished (rule.apply (calls i).1 (calls i).2 records).2.outcome) := by
  cases hres : resolve (calls i).2 with
  | ok n =>
    have hwritten : (⟨rule, some i⟩ : Shared ι).advance records (calls i) i .configuring =
        some (⟨{ rule with maximum := n }, some i⟩, .recording) := by
      simp [Shared.advance, hres]
    have hrecorded : (⟨{ rule with maximum := n }, some i⟩ : Shared ι).advance records (calls i) i
        .recording = some (⟨{ rule with maximum := n }, some i⟩,
          if records n then .concluding else .failing (.tooManyDigits none)) := rfl
    refine .head hwritten (.head hrecorded ?_)
    cases hn : records n with
    | true =>
      simp only [LimitRule.apply, LimitRule.configure, hc, hres, hn, if_true]
      exact .head rfl (solo_leaving _)
    | false =>
      simp only [LimitRule.apply, LimitRule.configure, hc, hres, hn]
      exact .head rfl .refl
  | error fault =>
    cases fault with
    | config e =>
      have hwritten : (⟨rule, some i⟩ : Shared ι).advance records (calls i) i .configuring =
          some (⟨{ rule with error := some e }, some i⟩, .concluding) := by
        simp [Shared.advance, hres]
      simp only [LimitRule.apply, LimitRule.configure, hc, hres]
      exact .head hwritten (.head rfl (solo_leaving _))
    | _ =>
      simp only [LimitRule.apply, LimitRule.configure, hc, hres]
      refine .head (y := ⟨rule, some i⟩) (q := .failing _) ?_ (.head rfl .refl)
      simp only [Shared.advance, hres]

/-- **A thread that is not interrupted applies the rule.** -/
theorem solo_apply (rule : LimitRule) :
    Solo records calls t i ⟨rule, none⟩ .entering
      ⟨(rule.apply (calls i).1 (calls i).2 records).1, none⟩
      (.finished (rule.apply (calls i).1 (calls i).2 records).2.outcome) := by
  cases hc : rule.configured with
  | true =>
    have hseen : (⟨rule, none⟩ : Shared ι).advance records (calls i) i .entering =
        some (⟨rule, none⟩, .testingError) := by
      simp [Shared.advance, hc]
    rw [LimitRule.apply_of_configured hc]
    exact .head hseen (.of_leads (leads_check rule (calls i).1))
  | false =>
    have hopen : (⟨rule, none⟩ : Shared ι).advance records (calls i) i .entering =
        some (⟨rule, none⟩, .waiting) := by
      simp [Shared.advance, hc]
    have hstill : (⟨rule, some i⟩ : Shared ι).advance records (calls i) i .rechecking =
        some (⟨rule, some i⟩, .configuring) := by
      simp [Shared.advance, hc]
    exact .head hopen (.head rfl (.head hstill (solo_configuring hc)))

end Threads

end ClassQuota
