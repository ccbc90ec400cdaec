import ClassQuota.Proofs.SoloThread

/-!
# Threads that share a rule

However the steps of threads are interleaved, one of them settles the rule and all report under
its outcome. The flag is read without the lock, so it must not be seen before what it announces.
It is not: until it is written, only the owner of the lock has written anything, and once it is
written no thread writes the rule again.

## Main definitions

* `LimitRule.unsettled` — a rule of which everything is written but the flag
* `Place.Sound` — what a thread at a place knows of the rule
* `Threads.Phase` — how far the rule is settled, and by which thread
* `Threads.Invariant` — what holds between any two steps

## Main results

* `Threads.Invariant.move` — what a step has to show
* `Threads.Invariant.step`, `Threads.Invariant.run` — every step, and so every run, preserves it
* `Threads.run_settles_once` — one thread settles the rule for all
-/

namespace ClassQuota

variable {ι : Type} {records : Int → Bool} {calls : ι → Node × Value} {outcome : ι → Outcome}
  {ws vs : List ι} {rule : LimitRule} {i j w : ι} {p q : Place}

/-- A rule that is being settled on an outcome, when all is written but the flag. -/
def LimitRule.unsettled (o : Outcome) : LimitRule :=
  { settled o with configured := false }

/-- Writing the flag settles the rule. -/
theorem LimitRule.unsettled_conclude (o : Outcome) :
    { unsettled o with configured := true } = settled o := by
  cases o <;> rfl

/-- Whether a thread at a place has written its outcome, but not the flag. -/
def Place.settles : Place → Bool
  | .recording | .concluding => true
  | _ => false

theorem Place.holdsLock_of_settles (h : p.settles = true) : p.holdsLock = true := by
  cases p <;> simp_all [Place.settles, Place.holdsLock]

/-- Whether a thread at a place only reads the rule from there on. -/
def Place.reads : Place → Bool
  | .testingError | .readingError | .testingMaximum | .comparing | .citing => true
  | .listing _ | .finished _ => true
  | _ => false

theorem Place.holdsLock_of_reads (h : p.reads = true) : p.holdsLock = false := by
  cases p <;> simp_all [Place.reads, Place.holdsLock]

theorem Shared.advance_of_reads [DecidableEq ι] (h : p.reads = true) {call : Node × Value}
    {s : Shared ι} :
    s.advance records call i p = (s.rule.read call.1 p).map fun next => (s, next) := by
  cases p <;> first | rfl | cases h

/-- A place that is reached by reading is one to read on from. -/
theorem Place.reads_of_read {tree : Node} (h : rule.read tree p = some q) : q.reads = true := by
  cases p <;> simp only [LimitRule.read, reduceCtorEq, Option.some.injEq] at h <;> subst h <;>
    first | rfl | (split <;> rfl)

/-- What a thread at a place knows of the rule and of the threads that have configured it. -/
def Place.Sound (calls : ι → Node × Value) (outcome : ι → Outcome) (ws : List ι)
    (rule : LimitRule) (i : ι) : Place → Prop
  | .entering | .waiting | .rechecking => True
  | .configuring => ws = [] ∧ rule = {}
  | .recording =>
    ws = [i] ∧ rule = .unsettled (outcome i) ∧ ∃ n, outcome i = .limit n
  | .concluding => ws = [i] ∧ rule = .unsettled (outcome i)
  | .leaving => rule.configured = true
  | .failing _ => False
  | p => rule.configured = true ∧
    Leads rule (calls i).1 p (rule.check (calls i).1).outcome

theorem Place.sound_iff_of_reads (h : p.reads = true) :
    p.Sound calls outcome ws rule i ↔ rule.configured = true ∧
      Leads rule (calls i).1 p (rule.check (calls i).1).outcome := by
  cases p <;> simp_all [Place.reads, Place.Sound]

/-- A thread without the lock knows nothing of a rule that is not configured. -/
theorem Place.Sound.of_open (h : p.Sound calls outcome ws rule i)
    (hopen : rule.configured = false) (hp : p.holdsLock = false) (vs : List ι)
    (rule' : LimitRule) : p.Sound calls outcome vs rule' i := by
  cases p <;> simp_all [Place.Sound, Place.holdsLock]

namespace Threads

/-- How far the rule is settled, and by which thread. -/
inductive Phase (outcome : ι → Outcome) (place : ι → Place) : List ι → LimitRule → Prop
  /-- No thread has configured the rule. -/
  | fresh : Phase outcome place [] {}
  /-- A thread has written its outcome and is about to write the flag. -/
  | settling (w : ι) (h : (place w).settles = true) :
      Phase outcome place [w] (.unsettled (outcome w))
  /-- A thread has settled the rule. -/
  | settled (w : ι) : Phase outcome place [w] (.settled (outcome w))

theorem Phase.length_le {place : ι → Place} (h : Phase outcome place ws rule) : ws.length ≤ 1 := by
  cases h <;> simp

/-- A thread that has not written its outcome may move on without the phase changing. -/
theorem Phase.move [DecidableEq ι] {t : Threads ι} (h : Phase outcome t.place ws rule)
    (hq : (t.place i).settles = true → q.settles = true) (shared : Shared ι) :
    Phase outcome (t.move i shared q).place ws rule := by
  cases h with
  | fresh => exact .fresh
  | settled w => exact .settled w
  | settling w hw =>
    refine .settling w ?_
    by_cases hwi : w = i
    · subst hwi
      rw [move_place_self]
      exact hq hw
    · rwa [move_place_of_ne hwi]

/-- What holds between any two steps of threads. -/
structure Invariant (calls : ι → Node × Value) (outcome : ι → Outcome) (ws : List ι)
    (t : Threads ι) : Prop where
  /-- The owner of the lock is the one thread between taking it and giving it up. -/
  lock : ∀ i, (t.place i).holdsLock = true ↔ t.shared.owner = some i
  /-- At most one thread has configured the rule, and on its own outcome. -/
  phase : Phase outcome t.place ws t.shared.rule
  /-- Every thread knows what its place says. -/
  sound : ∀ i, (t.place i).Sound calls outcome ws t.shared.rule i

namespace Invariant

variable {t u : Threads ι}

theorem initial (calls : ι → Node × Value) (outcome : ι → Outcome) :
    Invariant calls outcome [] {} where
  lock _ := by simp [Place.holdsLock]
  phase := .fresh
  sound _ := trivial

theorem sound_at (h : Invariant calls outcome ws t) (hp : t.place i = p) :
    p.Sound calls outcome ws t.shared.rule i :=
  hp ▸ h.sound i

theorem owner_of_holdsLock (h : Invariant calls outcome ws t) (hp : t.place i = p)
    (hlock : p.holdsLock = true) : t.shared.owner = some i :=
  (h.lock i).mp (hp ▸ hlock)

/-- Two threads that hold the lock are one. -/
theorem eq_of_holdsLock (h : Invariant calls outcome ws t) (hi : (t.place i).holdsLock = true)
    (hj : (t.place j).holdsLock = true) : i = j := by
  have howner := (h.lock i).mp hi
  rw [(h.lock j).mp hj, Option.some.injEq] at howner
  exact howner.symm

/-- The owner of the lock that finds the rule not configured is the first to configure it. -/
theorem fresh_of_open (h : Invariant calls outcome ws t) (hp : t.place i = .rechecking)
    (hopen : t.shared.rule.configured = false) : ws = [] ∧ t.shared.rule = {} := by
  have hphase := h.phase
  generalize t.shared.rule = rule at hphase hopen
  cases hphase with
  | fresh => exact ⟨rfl, rfl⟩
  | settled w => simp at hopen
  | settling w hw =>
    -- The thread that is settling the rule holds the lock as well.
    have hwi : w = i :=
      h.eq_of_holdsLock (Place.holdsLock_of_settles hw) (by rw [hp]; rfl)
    rw [hwi, hp] at hw
    cases hw

/-- A configured rule is settled on the outcome of the one thread that configured it. -/
theorem settled_of_configured (h : Invariant calls outcome ws t)
    (hc : t.shared.rule.configured = true) :
    ∃ w, ws = [w] ∧ t.shared.rule = .settled (outcome w) := by
  have hphase := h.phase
  generalize t.shared.rule = rule at hphase hc
  cases hphase with
  | fresh => cases hc
  | settling w _ => cases hc
  | settled w => exact ⟨w, rfl, rfl⟩

/-- A thread that has ended has reported what the configured rule reports. -/
theorem check_of_finished (h : Invariant calls outcome ws t) {result : Except Fault (List Finding)}
    (hp : t.place i = .finished result) :
    t.shared.rule.configured = true ∧
      result = (t.shared.rule.check (calls i).1).outcome := by
  obtain ⟨hc, hleads⟩ := h.sound_at hp
  exact ⟨hc, hleads.eq_of_finished⟩

variable [DecidableEq ι]

/-! ### The kinds of steps -/

/-- **What a step has to show.** The thread `i` takes another place and may write what is shared.
It writes the rule only while it holds the lock and the rule is not configured. -/
theorem move (h : Invariant calls outcome ws t) (hp : t.place i = p) {shared : Shared ι}
    {vs : List ι} (hself : q.holdsLock = true ↔ shared.owner = some i)
    (hother : ∀ j, j ≠ i → (shared.owner = some j ↔ t.shared.owner = some j))
    (hrule : (vs = ws ∧ shared.rule = t.shared.rule) ∨
      (t.shared.rule.configured = false ∧ p.holdsLock = true))
    (hphase : Phase outcome (t.move i shared q).place vs shared.rule)
    (hsound : q.Sound calls outcome vs shared.rule i) :
    Invariant calls outcome vs (t.move i shared q) where
  lock j := by
    by_cases hj : j = i
    · subst hj
      rwa [move_place_self]
    · rw [move_place_of_ne hj, h.lock, move_shared, hother j hj]
  phase := hphase
  sound j := by
    by_cases hj : j = i
    · subst hj
      rwa [move_place_self]
    · rw [move_place_of_ne hj, move_shared]
      rcases hrule with ⟨rfl, hsame⟩ | ⟨hopen, hlock⟩
      · simpa only [hsame] using h.sound j
      · -- The writer holds the lock, so no other thread can have relied on the rule.
        have hfree : (t.place j).holdsLock = false := by
          rw [Bool.eq_false_iff]
          exact fun hheld => hj (h.eq_of_holdsLock hheld (hp ▸ hlock))
        exact (h.sound j).of_open hopen hfree vs shared.rule

/-- A step that writes nothing shared. -/
theorem stay (h : Invariant calls outcome ws t) (hp : t.place i = p)
    (hlock : q.holdsLock = p.holdsLock) (hsettles : p.settles = true → q.settles = true)
    (hsound : q.Sound calls outcome ws t.shared.rule i) :
    Invariant calls outcome ws (t.move i t.shared q) :=
  h.move hp (by rw [hlock, ← hp, h.lock]) (fun _ _ => Iff.rfl) (.inl ⟨rfl, rfl⟩)
    (h.phase.move (by rwa [hp]) t.shared) hsound

/-- A step that reads the rule. -/
theorem read (h : Invariant calls outcome ws t) (hp : t.place i = p) (hreads : p.reads = true)
    (hq : t.shared.rule.read (calls i).1 p = some q) :
    Invariant calls outcome ws (t.move i t.shared q) := by
  have hreads' : q.reads = true := Place.reads_of_read hq
  obtain ⟨hconfigured, hleads⟩ := (Place.sound_iff_of_reads hreads).mp (h.sound_at hp)
  refine h.stay hp ?_ ?_ ?_
  · rw [Place.holdsLock_of_reads hreads, Place.holdsLock_of_reads hreads']
  · intro hs
    have hheld := Place.holdsLock_of_settles hs
    rw [Place.holdsLock_of_reads hreads] at hheld
    cases hheld
  · exact (Place.sound_iff_of_reads hreads').mpr ⟨hconfigured, hleads.of_read hq⟩

/-- Taking the lock. -/
theorem acquire (h : Invariant calls outcome ws t) (hp : t.place i = .waiting)
    (hfree : t.shared.owner = none) :
    Invariant calls outcome ws (t.move i { t.shared with owner := some i } .rechecking) := by
  refine h.move hp ?_ ?_ (.inl ⟨rfl, rfl⟩) (h.phase.move (by simp [hp, Place.settles]) _) trivial
  · simp [Place.holdsLock]
  · intro j hj
    simp [hfree, hj.symm]

/-- Giving up the lock. -/
theorem release (h : Invariant calls outcome ws t) (hp : t.place i = .leaving) :
    Invariant calls outcome ws (t.move i { t.shared with owner := none } .testingError) := by
  have howner : t.shared.owner = some i := h.owner_of_holdsLock hp rfl
  have hconfigured : t.shared.rule.configured = true := h.sound_at hp
  refine h.move hp ?_ ?_ (.inl ⟨rfl, rfl⟩) (h.phase.move (by simp [hp, Place.settles]) _)
    ⟨hconfigured, leads_check ..⟩
  · simp [Place.holdsLock]
  · intro j hj
    simp [howner, hj.symm]

/-- The block that configures the rule writes the outcome of the thread's own arguments. -/
theorem configure (h : Invariant calls outcome ws t) (hp : t.place i = .configuring)
    (hq : q.settles = true) {shared : Shared ι} (howner : shared.owner = t.shared.owner)
    (hwritten : shared.rule = .unsettled (outcome i))
    (hlimit : q = .recording → ∃ n, outcome i = .limit n) :
    Invariant calls outcome (ws ++ [i]) (t.move i shared q) := by
  obtain ⟨rfl, hfresh⟩ := h.sound_at hp
  refine h.move hp ?_ (fun j _ => by rw [howner]) (.inr ⟨by rw [hfresh], rfl⟩) ?_ ?_
  · rw [howner, h.owner_of_holdsLock hp rfl]
    exact iff_of_true (Place.holdsLock_of_settles hq) rfl
  · rw [hwritten]
    exact .settling i (by rwa [move_place_self])
  · rw [hwritten]
    cases q with
    | recording => exact ⟨rfl, rfl, hlimit rfl⟩
    | concluding => exact ⟨rfl, rfl⟩
    | _ => cases hq

/-- Writing the flag. -/
theorem conclude (h : Invariant calls outcome ws t) (hp : t.place i = .concluding) :
    Invariant calls outcome ws
      (t.move i { t.shared with rule := { t.shared.rule with configured := true } } .leaving) := by
  obtain ⟨rfl, hrule⟩ := h.sound_at hp
  have hsettled : { t.shared.rule with configured := true } = LimitRule.settled (outcome i) := by
    rw [hrule, LimitRule.unsettled_conclude]
  refine h.move hp ?_ (fun _ _ => Iff.rfl) (.inr ⟨by rw [hrule]; rfl, rfl⟩) ?_ rfl
  · exact iff_of_true rfl (h.owner_of_holdsLock hp rfl)
  · simp only [hsettled]
    exact .settled i

/-! ### Steps and runs -/

/-- **Every step preserves the invariant.** -/
theorem step (h : Invariant calls outcome ws t)
    (hresolve : ∀ i, resolve (calls i).2 = (outcome i).result)
    (hrecord : ∀ i n, outcome i = .limit n → records n = true)
    (hstep : t.step records calls i = some u) :
    Invariant calls outcome (if (t.place i).startsBlock then ws ++ [i] else ws) u := by
  obtain ⟨shared, q, hadvance, rfl⟩ := step_eq_some_iff.mp hstep
  cases hp : t.place i with
  | entering =>
    rw [hp, Shared.advance] at hadvance
    cases hadvance
    cases hc : t.shared.rule.configured with
    | true => exact h.stay hp rfl (by simp [Place.settles]) ⟨hc, leads_check ..⟩
    | false => exact h.stay hp rfl (by simp [Place.settles]) trivial
  | waiting =>
    rw [hp, Shared.advance] at hadvance
    split at hadvance
    case isTrue hfree =>
      cases hadvance
      exact h.acquire hp hfree
    case isFalse => cases hadvance
  | rechecking =>
    rw [hp, Shared.advance] at hadvance
    cases hadvance
    cases hc : t.shared.rule.configured with
    | true => exact h.stay hp rfl (by simp [Place.settles]) hc
    | false => exact h.stay hp rfl (by simp [Place.settles]) (h.fresh_of_open hp hc)
  | configuring =>
    have hfresh := (h.sound_at hp).2
    rw [hp, Shared.advance, hresolve i] at hadvance
    cases ho : outcome i with
    | limit n =>
      rw [ho] at hadvance
      cases hadvance
      exact h.configure hp rfl rfl (by rw [hfresh, ho]; rfl) fun _ => ⟨n, ho⟩
    | refused e =>
      rw [ho] at hadvance
      cases hadvance
      exact h.configure hp rfl rfl (by rw [hfresh, ho]; rfl) (by simp)
  | recording =>
    obtain ⟨hw, hrule, n, ho⟩ := h.sound_at hp
    have hn : records t.shared.rule.maximum = true := by
      rw [hrule, ho]
      exact hrecord i n ho
    rw [hp, Shared.advance, hn] at hadvance
    cases hadvance
    exact h.stay hp rfl (fun _ => rfl) ⟨hw, hrule⟩
  | concluding =>
    rw [hp, Shared.advance] at hadvance
    cases hadvance
    exact h.conclude hp
  | leaving =>
    rw [hp, Shared.advance] at hadvance
    cases hadvance
    exact h.release hp
  | failing fault => exact (h.sound_at hp).elim
  | testingError | readingError | testingMaximum | comparing | citing | listing _ | finished _ =>
    rw [hp, Shared.advance_of_reads rfl, Option.map_eq_some_iff] at hadvance
    obtain ⟨q, hq, ⟨⟩⟩ := hadvance
    exact h.read hp rfl hq

/-- **Every run preserves the invariant.** -/
theorem run (h : Invariant calls outcome ws t)
    (hresolve : ∀ i, resolve (calls i).2 = (outcome i).result)
    (hrecord : ∀ i n, outcome i = .limit n → records n = true)
    (hrun : Run records calls t vs u) : Invariant calls outcome (ws ++ vs) u := by
  induction hrun with
  | start => rwa [List.append_nil]
  | @step t u vs i _ hstep ih =>
    have hnext := ih.step hresolve hrecord hstep
    cases hb : (t.place i).startsBlock with
    | true => simpa [hb] using hnext
    | false => simpa [hb] using hnext

/-! ### A configured rule -/

/-- No step writes a rule that is configured. -/
theorem step_rule_eq (h : Invariant calls outcome ws t) (hc : t.shared.rule.configured = true)
    (hstep : t.step records calls i = some u) : u.shared.rule = t.shared.rule := by
  obtain ⟨shared, q, hadvance, rfl⟩ := step_eq_some_iff.mp hstep
  cases hp : t.place i with
  | configuring =>
    rw [(h.sound_at hp).2] at hc
    cases hc
  | concluding =>
    rw [(h.sound_at hp).2] at hc
    cases hc
  | waiting =>
    rw [hp, Shared.advance] at hadvance
    split at hadvance
    · cases hadvance
      rfl
    · cases hadvance
  | testingError | readingError | testingMaximum | comparing | citing | listing _ | finished _ =>
    rw [hp, Shared.advance_of_reads rfl, Option.map_eq_some_iff] at hadvance
    obtain ⟨q, -, ⟨⟩⟩ := hadvance
    rfl
  | _ =>
    rw [hp, Shared.advance] at hadvance
    cases hadvance
    rfl

/-- No run writes a rule that is configured. -/
theorem run_rule_eq (h : Invariant calls outcome ws t) (hc : t.shared.rule.configured = true)
    (hresolve : ∀ i, resolve (calls i).2 = (outcome i).result)
    (hrecord : ∀ i n, outcome i = .limit n → records n = true)
    (hrun : Run records calls t vs u) : u.shared.rule = t.shared.rule := by
  induction hrun with
  | start => rfl
  | step i hrun hstep ih =>
    rw [(h.run hresolve hrecord hrun).step_rule_eq (by rwa [ih]) hstep, ih]

end Invariant

variable [DecidableEq ι]

/-- **One thread settles the rule for all.** Threads apply one fresh rule, each to its own tree and
with its own list of arguments; every list has an outcome, and the log takes its maximum down.
Then in whatever order they move,

* at most one thread is between taking the lock and giving it up;
* at most one thread has executed the block that configures the rule;
* once the rule is configured it is settled on what the arguments of that thread amount to, and
  no thread changes it again;
* a thread that has ended reports what an application to its tree reports in sequence, after the
  rule was configured with the arguments of that thread. -/
theorem run_settles_once (records : Int → Bool) (calls : ι → Node × List Value)
    (hcalls : ∀ i, ∃ o, Amounts (calls i).2 o)
    (hrecords : ∀ i n, Amounts (calls i).2 (.limit n) → records n = true) {ws : List ι}
    {t : Threads ι} (hrun : Run records (LimitRule.asCall ∘ calls) {} ws t) :
    (∀ i j, (t.place i).holdsLock = true → (t.place j).holdsLock = true → i = j) ∧
      ws.length ≤ 1 ∧
      (t.shared.rule.configured = true →
        ∃ w o, ws = [w] ∧ Amounts (calls w).2 o ∧ t.shared.rule = .settled o ∧
          ∀ vs u, Run records (LimitRule.asCall ∘ calls) t vs u → u.shared.rule = t.shared.rule) ∧
      ∀ i result, t.place i = .finished result →
        ∃ w findings, ws = [w] ∧ result = .ok findings ∧
          ∀ arguments, ((({} : LimitRule).configure (.list (calls w).2) records).1.apply
            (calls i).1 arguments records).2.outcome = result := by
  obtain ⟨outcome, houtcome⟩ := Classical.skolem.mp hcalls
  have hresolve : ∀ i, resolve (LimitRule.asCall (calls i)).2 = (outcome i).result :=
    fun i => (houtcome i).resolve_eq
  have hrecord : ∀ i n, outcome i = .limit n → records n = true :=
    fun i n ho => hrecords i n (ho ▸ houtcome i)
  have h : Invariant (LimitRule.asCall ∘ calls) outcome ws t :=
    (Invariant.initial (LimitRule.asCall ∘ calls) outcome).run hresolve hrecord hrun
  refine ⟨fun i j hi hj => h.eq_of_holdsLock hi hj, ?_, fun hc => ?_, fun i result hp => ?_⟩
  · exact h.phase.length_le
  · obtain ⟨w, hw, hrule⟩ := h.settled_of_configured hc
    exact ⟨w, outcome w, hw, houtcome w, hrule,
      fun vs u hlater => h.run_rule_eq hc hresolve hrecord hlater⟩
  · obtain ⟨hc, hcheck⟩ := h.check_of_finished hp
    obtain ⟨w, hw, hrule⟩ := h.settled_of_configured hc
    have hresult : result = .ok ((outcome w).findings (calls i).1) := by
      rw [hcheck, hrule]
      exact LimitRule.check_settled (outcome w) (calls i).1
    have hfirst : (({} : LimitRule).configure (.list (calls w).2) records).1 =
        .settled (outcome w) := by
      rw [LimitRule.configure_of_result rfl (houtcome w).resolve_eq (hrecord w)]
      rfl
    refine ⟨w, _, hw, hresult, fun arguments => ?_⟩
    rw [hfirst, hresult, LimitRule.apply_of_configured (LimitRule.settled_configured _)]
    exact LimitRule.check_settled (outcome w) (calls i).1

/-- Two threads that both find the rule not configured. The one that takes the lock first settles
it on an error; the other finds that out with the lock, and reports the error although its own
arguments mean a maximum. -/
theorem run_settles_once_of_two :
    let records : Int → Bool := fun _ => true
    let tree := Node.file none [.classDef (some "A") [] [] [], .classDef (some "B") [] [] []]
    let calls : Bool → Node × List Value := fun i => (tree, if i then [.int 1] else [.null])
    let error := ConfigError.invalidValue ruleName .null "None"
    (∀ i, ∃ o, Amounts (calls i).2 o) ∧
      (∀ i n, Amounts (calls i).2 (.limit n) → records n = true) ∧
      ∃ ws t, Run records (LimitRule.asCall ∘ calls) {} ws t ∧
        (∀ i, t.place i = .finished (.ok [.internal error])) ∧
        ∃ w o, ws = [w] ∧ Amounts (calls w).2 o ∧ t.shared.rule = .settled o := by
  intro records tree calls error
  have hcalls : ∀ i, ∃ o, Amounts (calls i).2 o
    | true => ⟨_, .integer rfl⟩
    | false => ⟨_, .noInteger rfl rfl⟩
  have hrecords : ∀ i n, Amounts (calls i).2 (.limit n) → records n = true := fun _ _ _ => rfl
  have hstart : Run records (LimitRule.asCall ∘ calls) {} [] {} := .start {}
  have hlooked := (hstart.step false rfl).step true rfl
  have hwritten := ((hlooked.step false rfl).step false rfl).step false rfl
  have hleft := (hwritten.step false rfl).step false rfl
  have hrechecked := ((hleft.step true rfl).step true rfl).step true rfl
  have htested := (hrechecked.step false rfl).step true rfl
  have hended := (htested.step true rfl).step false rfl
  obtain ⟨w, o, hw, ho, hrule, -⟩ :=
    (run_settles_once records calls hcalls hrecords hended).2.2.1 rfl
  exact ⟨hcalls, hrecords, _, _, hended, fun i => by cases i <;> rfl, w, o, hw, ho, hrule⟩

end Threads

end ClassQuota
