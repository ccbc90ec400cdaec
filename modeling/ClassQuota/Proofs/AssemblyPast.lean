import ClassQuota.Assembly
import ClassQuota.Proofs.FailedApplications

/-!
# What the calls of an assembly tell

The calls of a run tell under which keys there are parts, which of the parts that were made each key
leads back to, and what has become of each part. Only rules change, and a rule changes once: it
settles on the arguments that are in force when it is first applied to arguments that it can settle
on. What else a rule is held under, and what its key or that of the settings is used for before or
after, makes no difference.

Here all this is said of the calls alone. They are listed from the latest one on, so that each of
them is told by those behind it. A call that fails stands among them too: registering a part that
cannot be made, sharing a key without a part, and applying what cannot be applied change nothing.

## Main definitions

* `LimitRule.IsDecisive` — arguments that a rule can settle on
* `LimitRule.Reached` — what a rule has come to after its first application
* `Assembly.known` — the keys under which there are parts
* `Assembly.made` — the parts that were made
* `Assembly.origin` — the part that a key leads back to
* `Assembly.firstArguments` — the arguments of the first application of a part
* `Assembly.Answers` — what comes of a call

## Main results

* `LimitRule.Reached.apply` — one application of a rule
* `Assembly.isSome_origin_iff` — the keys that lead back to a part
* `Assembly.Answers.isOk_iff` — which applications give findings
-/

namespace ClassQuota

theorem Attempt.succeeds_iff {α : Type} {x : Attempt α} :
    x.succeeds = true ↔ ∃ a, x.outcome = .ok a := by
  refine ⟨fun h => ?_, fun ⟨_, h⟩ => succeeds_of_outcome h⟩
  rw [succeeds] at h
  cases hx : x.outcome with
  | ok a => exact ⟨a, rfl⟩
  | error fault =>
    rw [hx] at h
    cases h

/-- Arguments amount to one outcome at most. -/
theorem Amounts.unique {vs : List Value} {o o' : Outcome} (h : Amounts vs o) (h' : Amounts vs o') :
    o = o' :=
  Outcome.result_injective (h.resolve_eq.symm.trans h'.resolve_eq)

/-! ### What a rule comes to -/

namespace LimitRule

variable {records : Int → Bool} {rule : LimitRule} {first : Option (List Value)} {vs : List Value}

/-- Arguments that a rule can settle on: they amount to something, and if that is a maximum then
the log takes it down. -/
def IsDecisive (records : Int → Bool) (vs : List Value) : Prop :=
  ∃ o, Amounts vs o ∧ ∀ n, o = .limit n → records n = true

/-- A fresh rule settles on just these arguments. -/
theorem configure_succeeds_iff (h : rule.configured = false) :
    (rule.configure (.list vs) records).2.succeeds = true ↔ IsDecisive records vs := by
  have hunit : (∃ u, (rule.configure (.list vs) records).2.outcome = .ok u) ↔
      (rule.configure (.list vs) records).2.outcome = .ok () := ⟨fun ⟨_, h⟩ => h, fun h => ⟨_, h⟩⟩
  rw [Attempt.succeeds_iff, hunit, configure_ok_iff h]
  exact exists_congr fun o => and_congr_left fun _ => resolve_eq_result_iff

instance (records : Int → Bool) (vs : List Value) : Decidable (IsDecisive records vs) :=
  let fresh : LimitRule := {}
  decidable_of_iff ((fresh.configure (.list vs) records).2.succeeds = true)
    (configure_succeeds_iff rfl)

/-- What a rule has come to that was first applied with some arguments, or was not applied with a
result. Only an application that fails since the log does not take its maximum down leaves another
maximum in a rule than the usual one. -/
inductive Reached (records : Int → Bool) : Option (List Value) → LimitRule → Prop
  | fresh {m : Int} (h : (∀ n, records n = true) → m = defaultMaximum) :
    Reached records none { maximum := m }
  | settled {m : Int} {vs : List Value} {o : Outcome} (ho : Amounts vs o)
      (h : (∀ n, records n = true) → m = defaultMaximum) :
    Reached records (some vs) (({ maximum := m } : LimitRule).settle o)

theorem Reached.new (records : Int → Bool) : Reached records none {} :=
  .fresh fun _ => rfl

theorem Reached.eq_fresh (h : Reached records none rule) (hlog : ∀ n, records n = true) :
    rule = {} := by
  cases h with
  | fresh h => rw [h hlog]

theorem Reached.eq_settled (h : Reached records (some vs) rule)
    (hlog : ∀ n, records n = true) : ∃ o, Amounts vs o ∧ rule = LimitRule.settled o := by
  cases h with
  | @settled m vs o ho h =>
    obtain rfl := h hlog
    exact ⟨o, ho, rfl⟩

/-- A rule is configured exactly if it was applied with a result. -/
theorem Reached.configured_eq (h : Reached records first rule) :
    rule.configured = first.isSome := by
  cases h with
  | fresh h => rfl
  | settled ho h => exact settle_configured _ _

/-- Arguments that a rule cannot settle on leave it as it was, but for a maximum that the log does
not take down. -/
theorem Reached.configure_of_not_decisive (h : Reached records none rule)
    (hvs : ¬IsDecisive records vs) :
    (∃ fault, (rule.configure (.list vs) records).2.outcome = .error fault) ∧
      Reached records none (rule.configure (.list vs) records).1 := by
  cases h with
  | @fresh m hm =>
    rw [LimitRule.configure, if_neg (by simp)]
    split
    · next n hres =>
      have hn : ¬records n = true := fun hn =>
        hvs ⟨.limit n, resolve_eq_result_iff.mp hres, fun k hk => Outcome.limit.inj hk ▸ hn⟩
      rw [if_neg hn]
      exact ⟨⟨_, rfl⟩, .fresh fun hlog => absurd (hlog n) hn⟩
    · next e hres => exact absurd ⟨.refused e, resolve_eq_result_iff.mp hres, by simp⟩ hvs
    · exact ⟨⟨_, rfl⟩, .fresh hm⟩

/-- A rule that has settled reports what its outcome says, whatever maximum it had before. -/
theorem Reached.check_outcome (h : Reached records (some vs) rule) (tree : Node) :
    ∃ o, Amounts vs o ∧ (rule.check tree).outcome = .ok (o.findings tree) := by
  cases h with
  | @settled m vs o ho hm =>
    refine ⟨o, ho, ?_⟩
    cases o with
    | limit n => exact check_settled (.limit n) tree
    | refused e => rfl

/-- What an application reports on a tree, by the arguments that count for it, if there are any. -/
def Reports (counting : Option (List Value)) (tree : Node) (outcome : Except Fault (List Finding)) :
    Prop :=
  match counting with
  | some vs => ∃ o, Amounts vs o ∧ outcome = .ok (o.findings tree)
  | none => ∃ fault, outcome = .error fault

/-- **One application of a rule.** The arguments that count are those that the rule has settled on;
where there are none, the arguments of this application, if the rule can settle on them. -/
theorem Reached.apply (h : Reached records first rule) (tree : Node) (vs : List Value) :
    let counting := first <|> if IsDecisive records vs then some vs else none
    Reached records counting (rule.apply tree (.list vs) records).1 ∧
      Reports counting tree (rule.apply tree (.list vs) records).2.outcome := by
  intro counting
  cases first with
  | some ws =>
    rw [apply_of_configured h.configured_eq]
    exact ⟨h, h.check_outcome tree⟩
  | none =>
    by_cases hvs : IsDecisive records vs
    · have hcounting : counting = some vs := if_pos hvs
      obtain ⟨o, ho, hr⟩ := hvs
      have hconfigure := configure_of_result h.configured_eq (resolve_eq_result_iff.mpr ho) hr
      have hreached : Reached records counting (rule.settle o) := by
        rw [hcounting]
        cases h with
        | fresh hm => exact .settled ho hm
      rw [LimitRule.apply, hconfigure]
      refine ⟨hreached, ?_⟩
      rw [hcounting] at hreached ⊢
      exact hreached.check_outcome tree
    · have hcounting : counting = none := if_neg hvs
      obtain ⟨⟨fault, hfault⟩, hreached⟩ := h.configure_of_not_decisive hvs
      rw [hcounting]
      refine ⟨hreached, fault, ?_⟩
      rw [LimitRule.apply]
      rcases hx : (rule.configure (.list vs) records).2 with ⟨outcome, log⟩
      rw [hx] at hfault
      obtain rfl : outcome = .error fault := hfault
      rfl

end LimitRule

/-- Whether a part is a rule. -/
def Part.isRule : Part → Bool
  | .rule _ => true
  | _ => false

namespace Assembly

/-! ### What calls tell -/

/-- The keys of the usual parts. -/
def usualKeys : List String := [settingsKey, storeKey, ruleKey]

/-- The keys under which there are parts: the usual ones, those under which a part was registered
that could be made, and those under which the part of such a key was shared. -/
def known : List Call → List String
  | [] => usualKeys
  | .register key supply :: past =>
    if supply.make.succeeds = true then key :: known past else known past
  | .share key held :: past => if held ∈ known past then key :: known past else known past
  | _ :: past => known past

section Past

variable (settings : Settings) (records : Int → Bool)

/-- The parts that were made, in that order. -/
def made : List Call → List Part
  | [] => [.settings settings, .store .packaged, .rule {}]
  | .register _ supply :: past => made past ++ supply.make.outcome.toOption.toList
  | _ :: past => made past

/-- The number of the part that a key leads back to, if there is one: the part that was made for
the key, or the one that the other key led back to when it was shared. -/
def origin : List Call → String → Option Nat
  | [], key =>
    if key = settingsKey then some 0
    else if key = storeKey then some 1
    else if key = ruleKey then some 2
    else none
  | .register held supply :: past, key =>
    if key = held ∧ supply.make.succeeds = true then some (made settings past).length
    else origin past key
  | .share held other :: past, key =>
    if key = held ∧ other ∈ known past then origin past other else origin past key
  | _ :: past, key => origin past key

/-- The rule that is applied: the part that the key of the rule leads back to, if it is a rule. -/
def ruleInForce (past : List Call) : Option Nat :=
  (origin settings past ruleKey).filter fun id => (made settings past)[id]?.any Part.isRule

/-- The arguments for the rule that the settings under their key give. -/
def inForce (past : List Call) : Option (List Value) :=
  match (origin settings past settingsKey).bind fun id => (made settings past)[id]? with
  | some (.settings s) => (s.argumentsFor ruleName).toOption
  | _ => none

/-- The arguments of the first application of a part as the rule, of those that a rule can settle
on: they were in force then. -/
def firstArguments : List Call → Nat → Option (List Value)
  | [], _ => none
  | .apply _ :: past, id =>
    firstArguments past id <|>
      if ruleInForce settings past = some id then
        (inForce settings past).filter fun vs => LimitRule.IsDecisive records vs
      else none
  | _ :: past, id => firstArguments past id

/-- What has become of a part that was made: of a rule what its first application made of it, and of
any other part the same part. -/
inductive Stays (first : Option (List Value)) : Part → Part → Prop
  | rule {state : LimitRule} (h : state.Reached records first) :
    Stays first (.rule {}) (.rule state)
  | other {part : Part} (h : part.isRule = false) : Stays first part part

/-- A key leads back to a part that was made, which has become the part that is there now. -/
structure LeadsTo (past : List Call) (key : String) (id : Nat) (part : Part) : Prop where
  origin : origin settings past key = some id
  become : ∃ new, (made settings past)[id]? = some new ∧
    Stays records (firstArguments settings records past id) new part

/-- What comes of a call after others. -/
inductive Answers (past : List Call) : Call → Except Fault Answer → Prop
  | part {key : String} {id : Nat} {part : Part} (h : LeadsTo settings records past key id part) :
    Answers past (.get key) (.ok (.part part))
  | noPart {key : String} (h : key ∉ known past) :
    Answers past (.get key) (.error (.unregistered key))
  | same {first second : String} {id id' : Nat} {p q : Part}
      (hfirst : LeadsTo settings records past first id p)
      (hsecond : LeadsTo settings records past second id' q) :
    Answers past (.same first second) (.ok (.same (id == id' || p.coincides q)))
  | noFirst {first second : String} (h : first ∉ known past) :
    Answers past (.same first second) (.error (.unregistered first))
  | noSecond {first second : String} (hfirst : first ∈ known past) (h : second ∉ known past) :
    Answers past (.same first second) (.error (.unregistered second))
  /-- A part is registered unless it cannot be made. -/
  | registered {key : String} {supply : Supply} :
    Answers past (.register key supply) (supply.make.outcome.map fun _ => .done)
  | shared {key held : String} (h : held ∈ known past) : Answers past (.share key held) (.ok .done)
  | notShared {key held : String} (h : held ∉ known past) :
    Answers past (.share key held) (.error (.unregistered held))
  | registry {id : Nat} {store : Registry.Store}
      (h : LeadsTo settings records past storeKey id (.store store)) :
    Answers past .registry (.ok (.registry store.entries))
  | noRegistry {id : Nat} {part : Part} (h : LeadsTo settings records past storeKey id part)
      (hno : ∀ store, part ≠ .store store) : Answers past .registry (.error .noOperation)
  /-- An application reports by the arguments that count for the rule from then on. -/
  | applied {tree : Node} {id : Nat} {vs : List Value} {outcome : Except Fault (List Finding)}
      (hrule : ruleInForce settings past = some id) (hargs : inForce settings past = some vs)
      (h : LimitRule.Reports (firstArguments settings records (.apply tree :: past) id) tree
        outcome) :
    Answers past (.apply tree) (outcome.map .findings)
  /-- Without a rule or arguments for it there is nothing to apply. -/
  | notApplied {tree : Node} {fault : Fault}
      (h : ruleInForce settings past = none ∨ inForce settings past = none) :
    Answers past (.apply tree) (.error fault)

end Past

variable {settings : Settings} {records : Int → Bool} {past : List Call} {a : Assembly}

/-! ### Lemmas on what calls tell -/

theorem made_register_of_ok {key : String} {supply : Supply} {part : Part}
    (h : supply.make.outcome = .ok part) :
    made settings (.register key supply :: past) = made settings past ++ [part] := by
  rw [made, h]
  rfl

theorem made_register_of_fails {key : String} {supply : Supply}
    (h : supply.make.succeeds = false) :
    made settings (.register key supply :: past) = made settings past := by
  rw [Attempt.succeeds] at h
  rw [made]
  cases hmake : supply.make.outcome with
  | ok part =>
    rw [hmake] at h
    cases h
  | error fault => exact List.append_nil _

/-- A call takes nothing from the parts that were made. -/
theorem length_made_le (call : Call) (past : List Call) :
    (made settings past).length ≤ (made settings (call :: past)).length := by
  cases call with
  | register key supply =>
    rw [made, List.length_append]
    exact Nat.le_add_right _ _
  | _ => exact Nat.le_refl _

/-- The keys that lead back to a part are the known ones. -/
theorem isSome_origin_iff {key : String} :
    (origin settings past key).isSome ↔ key ∈ known past := by
  induction past generalizing key with
  | nil =>
    simp only [origin, known, usualKeys, List.mem_cons, List.not_mem_nil]
    grind
  | cons call past ih =>
    cases call with
    | register held supply =>
      simp only [origin, known]
      by_cases hmake : supply.make.succeeds = true
      · by_cases hkey : key = held <;> simp [hmake, hkey, ih]
      · simp [hmake, ih]
    | share held other =>
      simp only [origin, known]
      by_cases hother : other ∈ known past
      · by_cases hkey : key = held <;> simp [hother, hkey, ih]
      · simp [hother, ih]
    | _ => exact ih

theorem origin_eq_none_iff {key : String} : origin settings past key = none ↔ key ∉ known past := by
  rw [← isSome_origin_iff, Option.not_isSome_iff_eq_none]

/-- A key leads back to a part that was made. -/
theorem lt_length_of_origin {key : String} {id : Nat} (h : origin settings past key = some id) :
    id < (made settings past).length := by
  induction past generalizing key with
  | nil =>
    simp only [origin] at h
    simp only [made, List.length_cons, List.length_nil]
    grind
  | cons call past ih =>
    have hle : (made settings past).length ≤ (made settings (call :: past)).length :=
      length_made_le call past
    cases call with
    | register held supply =>
      rw [origin] at h
      split at h
      · next hcond =>
        obtain ⟨part, hmake⟩ := Attempt.succeeds_iff.mp hcond.2
        cases h
        rw [made_register_of_ok hmake, List.length_append]
        exact Nat.lt_succ_self _
      · exact Nat.lt_of_lt_of_le (ih h) hle
    | share held other =>
      rw [origin] at h
      split at h
      · exact ih h
      · exact ih h
    | _ => exact ih h

theorem ruleInForce_eq_some_iff {id : Nat} :
    ruleInForce settings past = some id ↔
      origin settings past ruleKey = some id ∧
        (made settings past)[id]?.any Part.isRule = true := by
  rw [ruleInForce, Option.filter_eq_some_iff]

/-- What was not made was not applied. -/
theorem firstArguments_eq_none {id : Nat} (h : (made settings past).length ≤ id) :
    firstArguments settings records past id = none := by
  induction past with
  | nil => rfl
  | cons call past ih =>
    have hle := Nat.le_trans (length_made_le call past) h
    cases call with
    | apply tree =>
      have hrule : ruleInForce settings past ≠ some id := fun hrule =>
        Nat.not_lt.mpr hle (lt_length_of_origin (ruleInForce_eq_some_iff.mp hrule).1)
      rw [firstArguments, ih hle, if_neg hrule]
      rfl
    | _ => exact ih hle

/-- The arguments that count for a rule that is applied. -/
theorem firstArguments_apply {tree : Node} {id : Nat} {vs : List Value}
    (hrule : ruleInForce settings past = some id) (hargs : inForce settings past = some vs) :
    firstArguments settings records (.apply tree :: past) id =
      (firstArguments settings records past id <|>
        if LimitRule.IsDecisive records vs then some vs else none) := by
  rw [firstArguments, if_pos hrule, hargs, Option.filter_some]
  simp only [decide_eq_true_eq]

/-- What counts for all other parts stays. -/
theorem firstArguments_apply_of_ne {tree : Node} {id : Nat}
    (hid : ruleInForce settings past ≠ some id) :
    firstArguments settings records (.apply tree :: past) id =
      firstArguments settings records past id := by
  rw [firstArguments, if_neg hid]
  cases firstArguments settings records past id <;> rfl

/-- Without arguments in force an application counts for no part. -/
theorem firstArguments_apply_of_none {tree : Node} {id : Nat}
    (hargs : inForce settings past = none) :
    firstArguments settings records (.apply tree :: past) id =
      firstArguments settings records past id := by
  rw [firstArguments, hargs]
  cases firstArguments settings records past id <;> simp

/-! ### Parts as they have become -/

theorem Stays.isRule_eq {first : Option (List Value)} {new part : Part}
    (h : Stays records first new part) : new.isRule = part.isRule := by
  cases h <;> rfl

/-- What a rule has become is a rule. -/
theorem Stays.reached {first : Option (List Value)} {new : Part} {state : LimitRule}
    (h : Stays records first new (.rule state)) :
    new = .rule {} ∧ state.Reached records first := by
  cases h with
  | rule hreached => exact ⟨rfl, hreached⟩
  | other hno => cases hno

/-! ### What applications report -/

/-- An application gives findings exactly if there are a rule and arguments in force, and then
arguments that count. -/
theorem Answers.isOk_iff {tree : Node} {outcome : Except Fault Answer}
    (h : Answers settings records past (.apply tree) outcome) :
    (∃ answer, outcome = .ok answer) ↔
      ∃ id, ruleInForce settings past = some id ∧ (inForce settings past).isSome ∧
        (firstArguments settings records (.apply tree :: past) id).isSome := by
  cases h with
  | @applied _ id vs outcome hrule hargs hreports =>
    have hsome : (∃ id, ruleInForce settings past = some id ∧ (inForce settings past).isSome ∧
        (firstArguments settings records (.apply tree :: past) id).isSome) ↔
          (firstArguments settings records (.apply tree :: past) id).isSome := by
      simp [hrule, hargs]
    rw [hsome]
    cases hfirst : firstArguments settings records (.apply tree :: past) id with
    | some ws =>
      rw [hfirst] at hreports
      obtain ⟨o, -, rfl⟩ := hreports
      exact iff_of_true ⟨_, rfl⟩ rfl
    | none =>
      rw [hfirst] at hreports
      obtain ⟨fault, rfl⟩ := hreports
      exact iff_of_false (fun ⟨_, h⟩ => by cases h) Bool.false_ne_true
  | notApplied hnone =>
    refine iff_of_false (fun ⟨_, h⟩ => by cases h) ?_
    rintro ⟨id, hrule, hargs, -⟩
    obtain hno | hno := hnone
    · rw [hno] at hrule
      cases hrule
    · rw [hno] at hargs
      cases hargs

/-- What a rule reports that is applied in force, once it has arguments that count. -/
theorem Answers.eq_findings {tree : Node} {outcome : Except Fault Answer} {id : Nat}
    {vs ws : List Value} {o : Outcome}
    (h : Answers settings records past (.apply tree) outcome)
    (hrule : ruleInForce settings past = some id) (hargs : inForce settings past = some vs)
    (hfirst : firstArguments settings records (.apply tree :: past) id = some ws)
    (ho : Amounts ws o) : outcome = .ok (.findings (o.findings tree)) := by
  cases h with
  | applied hrule' _ hreports =>
    obtain rfl := Option.some.inj (hrule.symm.trans hrule')
    rw [hfirst] at hreports
    obtain ⟨o', ho', rfl⟩ := hreports
    rw [ho'.unique ho]
    rfl
  | notApplied hnone =>
    rw [hrule, hargs] at hnone
    simp at hnone

end Assembly

end ClassQuota
