import ClassQuota.Proofs.AssemblyPast

/-!
# Assemblies that are as their calls tell

A run of an assembly does what its calls tell: each call is answered as those before it tell, and
the assembly that is left has the keys, the parts and the states of rules that all of them tell.
Nothing else has to be known of the assembly, so one invariant carries the whole run.

## Main definitions

* `Assembly.Traces` — an assembly that is as its calls tell

## Main results

* `Assembly.Traces.perform`, `Assembly.Traces.performAll` — what one call and what calls tell
* `Assembly.Traces.answers` — what comes of each call of a run
* `Assembly.performAll_traces` — the answers, the keys and the parts after any calls
-/

namespace ClassQuota

theorem Attempt.outcome_bind_pure {α β : Type} (x : Attempt α) (f : α → β) :
    (x >>= fun a => pure (f a)).outcome = x.outcome.map f := by
  rcases x with ⟨_ | a, log⟩ <;> rfl

namespace Assembly

variable {settings : Settings} {records : Int → Bool} {past : List Call} {a : Assembly}

/-- An assembly that is as its calls tell. -/
structure Traces (settings : Settings) (records : Int → Bool) (past : List Call) (a : Assembly) :
    Prop where
  /-- Each key has the part that it leads back to. -/
  keys : ∀ key, a.keys.lookup key = origin settings past key
  /-- The parts are those that were made, as they have become. -/
  parts : ∀ id, Option.Rel (Stays records (firstArguments settings records past id))
    (made settings past)[id]? a.parts[id]?

/-- An assembly with its usual parts. -/
theorem traces_ofSettings (settings : Settings) (records : Int → Bool) :
    Traces settings records [] (ofSettings settings) where
  keys key := by
    have hstore : storeKey ≠ settingsKey := by decide
    have hrule : ruleKey ≠ settingsKey := by decide
    have hother : ruleKey ≠ storeKey := by decide
    simp only [ofSettings, add, hold, List.lookup_cons, origin, List.lookup_nil, beq_eq_decide]
    by_cases h2 : key = ruleKey
    · simp [h2, hrule, hother]
    · by_cases h1 : key = storeKey
      · simp [h1, hstore, hother.symm]
      · by_cases h0 : key = settingsKey <;> simp [h0, h1, h2, hstore.symm, hrule.symm]
  parts id := by
    rcases id with _ | _ | _ | n
    · exact .some (.other rfl)
    · exact .some (.other rfl)
    · exact .some (.rule (.new records))
    · exact .none

/-! ### Looking at parts -/

/-- A part that was made is there, as it has become. -/
theorem Traces.exists_part (h : Traces settings records past a) {id : Nat} {new : Part}
    (hmade : (made settings past)[id]? = some new) :
    ∃ part, a.parts[id]? = some part ∧
      Stays records (firstArguments settings records past id) new part := by
  have hrel := h.parts id
  rw [hmade] at hrel
  generalize a.parts[id]? = part? at hrel
  cases hrel with
  | some hstays => exact ⟨_, rfl, hstays⟩

/-- A part that is there was made. -/
theorem Traces.exists_made (h : Traces settings records past a) {id : Nat} {part : Part}
    (hpart : a.parts[id]? = some part) :
    ∃ new, (made settings past)[id]? = some new ∧
      Stays records (firstArguments settings records past id) new part := by
  have hrel := h.parts id
  rw [hpart] at hrel
  generalize (made settings past)[id]? = new? at hrel
  cases hrel with
  | some hstays => exact ⟨_, rfl, hstays⟩

theorem Traces.length_eq (h : Traces settings records past a) :
    a.parts.length = (made settings past).length := by
  have hnone : ∀ id, a.parts.length ≤ id ↔ (made settings past).length ≤ id := by
    intro id
    rw [← List.getElem?_eq_none_iff, ← List.getElem?_eq_none_iff]
    have hrel := h.parts id
    revert hrel
    generalize (made settings past)[id]? = made?
    generalize a.parts[id]? = part?
    rintro (_ | _) <;> simp
  exact Nat.le_antisymm ((hnone _).mpr (Nat.le_refl _)) ((hnone _).mp (Nat.le_refl _))

theorem id?_eq_ok_iff {key : String} {id : Nat} :
    a.id? key = .ok id ↔ a.keys.lookup key = some id := by
  rw [id?]
  cases a.keys.lookup key <;> simp

/-- A known key has the part that it leads back to, as it has become. -/
theorem Traces.leadsTo_of_mem (h : Traces settings records past a) {key : String}
    (hkey : key ∈ known past) :
    ∃ id part, LeadsTo settings records past key id part ∧ a.parts[id]? = some part ∧
      a.id? key = .ok id ∧ a.part key = .ok part := by
  obtain ⟨id, hid⟩ := Option.isSome_iff_exists.mp (isSome_origin_iff.mpr hkey)
  have hmade := List.getElem?_eq_getElem (lt_length_of_origin hid)
  obtain ⟨part, hpart, hstays⟩ := h.exists_part hmade
  have hfound : a.id? key = .ok id := id?_eq_ok_iff.mpr ((h.keys key).trans hid)
  refine ⟨id, part, ⟨hid, _, hmade, hstays⟩, hpart, hfound, ?_⟩
  rw [Assembly.part, hfound]
  simp only [bind, Except.bind, hpart]

/-- Any other key has none. -/
theorem Traces.of_not_mem (h : Traces settings records past a) {key : String}
    (hkey : key ∉ known past) :
    a.id? key = .error (.unregistered key) ∧ a.part key = .error (.unregistered key) := by
  have hid : a.id? key = .error (.unregistered key) := by
    rw [id?, h.keys, origin_eq_none_iff.mpr hkey]
  refine ⟨hid, ?_⟩
  rw [Assembly.part, hid]
  rfl

/-- The settings under their key give the arguments in force. -/
theorem Traces.toOption_ruleArguments (h : Traces settings records past a) :
    a.ruleArguments.toOption = inForce settings past := by
  rw [ruleArguments, inForce]
  by_cases hkey : settingsKey ∈ known past
  · obtain ⟨id, part, ⟨hid, new, hmade, hstays⟩, -, -, hpart⟩ := h.leadsTo_of_mem hkey
    rw [hpart, hid, Option.bind_some, hmade]
    cases hstays with
    | rule _ => rfl
    | other _ => cases part <;> rfl
  · rw [(h.of_not_mem hkey).2, origin_eq_none_iff.mpr hkey]
    rfl

/-- The rule in force is the one that is applied. -/
theorem Traces.rule_cases (h : Traces settings records past a) :
    (∃ id state, ruleInForce settings past = some id ∧ a.parts[id]? = some (.rule state) ∧
        a.rule = .ok (id, state)) ∨
      (ruleInForce settings past = none ∧ ∃ fault, a.rule = .error fault) := by
  rw [Assembly.rule]
  by_cases hkey : ruleKey ∈ known past
  · obtain ⟨id, part, ⟨hid, new, hmade, hstays⟩, hthere, hfound, hpart⟩ := h.leadsTo_of_mem hkey
    have hany : (made settings past)[id]?.any Part.isRule = part.isRule := by
      rw [hmade, Option.any_some, hstays.isRule_eq]
    rw [hpart, ruleInForce, hid, Option.filter_some, hany]
    cases part with
    | rule state => exact .inl ⟨id, state, rfl, hthere, by rw [hfound]; rfl⟩
    | _ => exact .inr ⟨rfl, _, rfl⟩
  · rw [(h.of_not_mem hkey).2, ruleInForce, origin_eq_none_iff.mpr hkey]
    exact .inr ⟨rfl, _, rfl⟩

/-- What an application starts from. -/
theorem Traces.application_cases (h : Traces settings records past a) :
    (∃ vs id state, inForce settings past = some vs ∧ ruleInForce settings past = some id ∧
        a.parts[id]? = some (.rule state) ∧ a.application = .ok (vs, id, state)) ∨
      ((ruleInForce settings past = none ∨ inForce settings past = none) ∧
        ∃ fault, a.application = .error fault) := by
  rw [application, ← h.toOption_ruleArguments]
  cases a.ruleArguments with
  | error fault => exact .inr ⟨.inr rfl, fault, rfl⟩
  | ok vs =>
    obtain ⟨id, state, hrule, hpart, hfound⟩ | ⟨hrule, fault, hfound⟩ := h.rule_cases
    · exact .inl ⟨vs, id, state, rfl, hrule, hpart, by rw [hfound]; rfl⟩
    · exact .inr ⟨.inl hrule, fault, by rw [hfound]; rfl⟩

/-! ### What calls tell, call by call -/

/-- A call that changes nothing. -/
theorem Traces.cons_of_same (h : Traces settings records past a) {call : Call}
    (hmade : made settings (call :: past) = made settings past)
    (horigin : ∀ key, origin settings (call :: past) key = origin settings past key)
    (hfirst : ∀ id, firstArguments settings records (call :: past) id =
      firstArguments settings records past id) : Traces settings records (call :: past) a where
  keys key := (h.keys key).trans (horigin key).symm
  parts id := by
    rw [hmade, hfirst]
    exact h.parts id

theorem Traces.lookup_hold (h : Traces settings records past a) (held : String) (id : Nat)
    (key : String) : ((held, id) :: a.keys).lookup key =
      if key = held then some id else origin settings past key := by
  rw [List.lookup_cons, h.keys, beq_eq_decide]
  by_cases hkey : key = held <;> simp [hkey]

/-- A part that was just made is as it was made. -/
theorem stays_of_make {supply : Supply} {part : Part} (h : supply.make.outcome = .ok part) :
    Stays records none part part := by
  cases supply with
  | rule =>
    cases h
    exact .rule (.new records)
  | settings config =>
    rw [Supply.make] at h
    rcases hload : Settings.load config with ⟨_ | s, log⟩ <;> rw [hload] at h <;> cases h
    exact .other rfl
  | store path file =>
    rw [Supply.make] at h
    rcases hload : Registry.Store.load path file with ⟨_ | s, log⟩ <;> rw [hload] at h <;> cases h
    exact .other rfl
  | packagedStore | value v =>
    cases h
    exact .other rfl

/-- A part that is registered is the last one. -/
theorem Traces.register (h : Traces settings records past a) {key : String} {supply : Supply}
    {part : Part} (hmake : supply.make.outcome = .ok part) :
    Traces settings records (.register key supply :: past) (a.add key part) := by
  refine ⟨fun key' => ?_, fun id => ?_⟩
  · refine (h.lookup_hold key a.parts.length key').trans ?_
    rw [origin, Attempt.succeeds_of_outcome hmake, h.length_eq]
    simp
  · -- The parts from before, the one that was made, and nothing beyond it.
    have hfirst : firstArguments settings records (.register key supply :: past) id =
        firstArguments settings records past id := rfl
    rw [made_register_of_ok hmake, hfirst, add, hold]
    rcases Nat.lt_trichotomy id (made settings past).length with hlt | rfl | hgt
    · rw [List.getElem?_append_left hlt, List.getElem?_append_left (h.length_eq ▸ hlt)]
      exact h.parts id
    · rw [firstArguments_eq_none (Nat.le_refl _), List.getElem?_concat_length, ← h.length_eq,
        List.getElem?_concat_length]
      exact .some (stays_of_make hmake)
    · have hlen : ∀ (parts : List Part) (new : Part), parts.length = (made settings past).length →
          (parts ++ [new])[id]? = none := fun parts new hparts => by
        rw [List.getElem?_eq_none_iff, List.length_append, hparts]
        exact hgt
      rw [hlen _ _ rfl, hlen _ _ h.length_eq]
      exact .none

theorem Traces.share (h : Traces settings records past a) {key other : String} {id : Nat}
    (hother : other ∈ known past) (hid : origin settings past other = some id) :
    Traces settings records (.share key other :: past) (a.hold key id) := by
  refine ⟨fun key' => ?_, h.parts⟩
  refine (h.lookup_hold key id key').trans ?_
  rw [origin, hid]
  simp [hother]

/-- A rule that was applied: the other parts have stayed, and the rule has come to what it came
to. -/
theorem Traces.set_rule (h : Traces settings records past a) {id : Nat} {state state' : LimitRule}
    (hstate : a.parts[id]? = some (.rule state)) {first : Option (List Value)}
    (hreached : state'.Reached records first) (other : Nat) :
    Option.Rel
      (Stays records (if other = id then first else firstArguments settings records past other))
      (made settings past)[other]? (a.parts.set id (.rule state'))[other]? := by
  by_cases hother : other = id
  · subst hother
    obtain ⟨new, hmade, hstays⟩ := h.exists_made hstate
    obtain ⟨rfl, -⟩ := hstays.reached
    rw [if_pos rfl, hmade, List.getElem?_set_self (List.getElem?_eq_some_iff.mp hstate).1]
    exact .some (.rule hreached)
  · rw [if_neg hother, List.getElem?_set_ne (Ne.symm hother)]
    exact h.parts other

/-- **What an application tells.** -/
theorem Traces.apply (h : Traces settings records past a) (tree : Node) :
    Traces settings records (.apply tree :: past) (a.apply tree records).1 ∧
      Answers settings records past (.apply tree)
        ((a.apply tree records).2.outcome.map .findings) := by
  rw [Assembly.apply]
  obtain ⟨vs, id, state, hargs, hrule, hstate, happ⟩ | ⟨hnone, fault, happ⟩ := h.application_cases
  · obtain ⟨new, -, hstays⟩ := h.exists_made hstate
    obtain ⟨hreached, hreports⟩ := hstays.reached.2.apply tree vs
    rw [happ]
    rw [← firstArguments_apply hrule hargs] at hreached hreports
    refine ⟨⟨h.keys, fun other => ?_⟩, .applied hrule hargs hreports⟩
    have hrel := h.set_rule hstate hreached other
    have hother : (if other = id then firstArguments settings records (.apply tree :: past) id
        else firstArguments settings records past other) =
          firstArguments settings records (.apply tree :: past) other := by
      split
      · next heq => rw [heq]
      · next hne =>
        rw [firstArguments_apply_of_ne fun hid => hne (Option.some.inj (hid.symm.trans hrule))]
    rwa [hother] at hrel
  · rw [happ]
    refine ⟨h.cons_of_same rfl (fun _ => rfl) fun id => ?_, .notApplied hnone⟩
    obtain hrule | hargs := hnone
    · exact firstArguments_apply_of_ne (by rw [hrule]; simp)
    · exact firstArguments_apply_of_none hargs

/-- Two keys hold one part if they lead back to the same one, or to one and the same plain value. -/
theorem Traces.holdsSame_of_mem (h : Traces settings records past a) {first second : String}
    (hfirst : first ∈ known past) (hsecond : second ∈ known past) :
    ∃ id id' p q, LeadsTo settings records past first id p ∧
      LeadsTo settings records past second id' q ∧ a.parts[id]? = some p ∧
      a.holdsSame first second = .ok (id == id' || p.coincides q) := by
  obtain ⟨id, p, hp, hthere, hid, hfound⟩ := h.leadsTo_of_mem hfirst
  obtain ⟨id', q, hq, -, hid', hfound'⟩ := h.leadsTo_of_mem hsecond
  refine ⟨id, id', p, q, hp, hq, hthere, ?_⟩
  rw [Assembly.holdsSame, hfound, hfound', hid, hid']
  rfl

theorem Traces.holdsSame (h : Traces settings records past a) (first second : String) :
    Answers settings records past (.same first second)
      ((a.holdsSame first second).map .same) := by
  by_cases hfirst : first ∈ known past
  · by_cases hsecond : second ∈ known past
    · obtain ⟨id, id', p, q, hp, hq, -, hsame⟩ := h.holdsSame_of_mem hfirst hsecond
      rw [hsame]
      exact .same hp hq
    · obtain ⟨id, p, -, -, -, hfound⟩ := h.leadsTo_of_mem hfirst
      rw [Assembly.holdsSame, hfound, (h.of_not_mem hsecond).2]
      exact .noSecond hfirst hsecond
  · rw [Assembly.holdsSame, (h.of_not_mem hfirst).2]
    exact .noFirst hfirst

/-- The usual keys stay known. -/
theorem mem_known_of_usual {key : String} (h : key ∈ usualKeys) : key ∈ known past := by
  induction past with
  | nil => exact h
  | cons call past ih =>
    cases call with
    | register held supply =>
      rw [known]
      split
      · exact List.mem_cons_of_mem _ ih
      · exact ih
    | share held other =>
      rw [known]
      split
      · exact List.mem_cons_of_mem _ ih
      · exact ih
    | _ => exact ih

theorem Traces.registry (h : Traces settings records past a) :
    Answers settings records past .registry (a.registry.map .registry) := by
  have hkey : storeKey ∈ known past := mem_known_of_usual (by simp [usualKeys])
  obtain ⟨id, part, hpart, -, -, hfound⟩ := h.leadsTo_of_mem hkey
  rw [Assembly.registry, hfound]
  cases part with
  | store store => exact .registry hpart
  | _ => exact .noRegistry hpart (by simp)

/-- **What a call tells,** and what comes of it. -/
theorem Traces.perform (h : Traces settings records past a) (call : Call) :
    Traces settings records (call :: past) (a.perform call records).1 ∧
      Answers settings records past call (a.perform call records).2.outcome := by
  cases call with
  | get key =>
    refine ⟨h.cons_of_same rfl (fun _ => rfl) fun _ => rfl, ?_⟩
    rw [Assembly.perform]
    by_cases hkey : key ∈ known past
    · obtain ⟨id, part, hpart, -, -, hfound⟩ := h.leadsTo_of_mem hkey
      rw [hfound]
      exact .part hpart
    · rw [(h.of_not_mem hkey).2]
      exact .noPart hkey
  | same first second =>
    exact ⟨h.cons_of_same rfl (fun _ => rfl) fun _ => rfl, h.holdsSame first second⟩
  | registry => exact ⟨h.cons_of_same rfl (fun _ => rfl) fun _ => rfl, h.registry⟩
  | register key supply =>
    have hanswer : Answers settings records past (.register key supply)
        (supply.make.outcome.map fun _ => .done) := .registered
    rw [Assembly.perform]
    rcases hmake : supply.make with ⟨fault | part, log⟩ <;> rw [hmake] at hanswer
    · have hfails : supply.make.succeeds = false := by rw [hmake]; rfl
      refine ⟨h.cons_of_same (made_register_of_fails hfails) (fun key' => ?_) fun _ => rfl, hanswer⟩
      rw [origin, hfails]
      simp
    · exact ⟨h.register (congrArg Attempt.outcome hmake), hanswer⟩
  | share key other =>
    rw [Assembly.perform]
    by_cases hother : other ∈ known past
    · obtain ⟨id, part, hpart, -, hid, -⟩ := h.leadsTo_of_mem hother
      rw [hid]
      exact ⟨h.share hother hpart.origin, .shared hother⟩
    · rw [(h.of_not_mem hother).1]
      refine ⟨h.cons_of_same rfl (fun key' => ?_) fun _ => rfl, .notShared hother⟩
      rw [origin, if_neg fun hand => hother hand.2]
  | apply tree =>
    rw [Assembly.perform, Attempt.outcome_bind_pure]
    exact h.apply tree

/-! ### Runs -/

/-- **What calls tell,** after others that told of the assembly before. -/
theorem Traces.performAll (h : Traces settings records past a) (calls : List Call) :
    Traces settings records (calls.reverse ++ past) (a.performAll calls records).1 := by
  induction calls generalizing past a with
  | nil => exact h
  | cons call rest ih =>
    rw [Assembly.performAll, List.reverse_cons, List.append_assoc]
    exact ih (h.perform call).1

theorem length_performAll (a : Assembly) (calls : List Call) (records : Int → Bool) :
    (a.performAll calls records).2.length = calls.length := by
  induction calls generalizing a with
  | nil => rfl
  | cons call rest ih => rw [Assembly.performAll, List.length_cons, List.length_cons, ih]

theorem performAll_append (a : Assembly) (before after : List Call) (records : Int → Bool) :
    a.performAll (before ++ after) records =
      let first := a.performAll before records
      let others := first.1.performAll after records
      (others.1, first.2 ++ others.2) := by
  induction before generalizing a with
  | nil => rfl
  | cons call before ih => simp only [List.cons_append, Assembly.performAll, ih]

/-- **What comes of each call of a run** is told by the calls before it. -/
theorem Traces.answers (h : Traces settings records past a) (before : List Call) (call : Call)
    (after : List Call) :
    ∃ answer, (a.performAll (before ++ call :: after) records).2[before.length]? = some answer ∧
      Answers settings records (before.reverse ++ past) call answer.outcome := by
  rw [performAll_append]
  simp only
  rw [List.getElem?_append_right (Nat.le_of_eq (length_performAll ..)), length_performAll,
    Nat.sub_self]
  exact ⟨_, rfl, ((h.performAll before).perform call).2⟩

/-! ### What is left after a run -/

/-- A key has no part exactly if it is not known. -/
theorem Traces.get_eq_unregistered_iff (h : Traces settings records past a) {key : String} :
    (a.perform (.get key) records).2.outcome = .error (.unregistered key) ↔ key ∉ known past := by
  rw [Assembly.perform]
  by_cases hkey : key ∈ known past
  · obtain ⟨id, part, -, -, -, hfound⟩ := h.leadsTo_of_mem hkey
    simp [hfound, hkey, Attempt.ofExcept, Except.map]
  · simp [(h.of_not_mem hkey).2, hkey, Attempt.ofExcept, Except.map]

/-- Otherwise it has the part that it leads back to. -/
theorem Traces.get_of_mem (h : Traces settings records past a) {key : String}
    (hkey : key ∈ known past) :
    ∃ id part, origin settings past key = some id ∧ a.parts[id]? = some part ∧
      (a.perform (.get key) records).2.outcome = .ok (.part part) := by
  obtain ⟨id, part, hleads, hpart, -, hfound⟩ := h.leadsTo_of_mem hkey
  refine ⟨id, part, hleads.origin, hpart, ?_⟩
  rw [Assembly.perform, hfound]
  rfl

/-- Two keys hold one part that is no plain value exactly if they lead back to the same one. -/
theorem Traces.same_of_origin (h : Traces settings records past a) {first second : String}
    {id id' : Nat} {part : Part} (hfirst : origin settings past first = some id)
    (hsecond : origin settings past second = some id') (hpart : a.parts[id]? = some part)
    (hvalue : ∀ v, part ≠ .value v) :
    (a.perform (.same first second) records).2.outcome = .ok (.same (id == id')) := by
  obtain ⟨i, j, p, q, hp, hq, hthere, hsame⟩ :=
    h.holdsSame_of_mem (isSome_origin_iff.mp (Option.isSome_of_eq_some hfirst))
      (isSome_origin_iff.mp (Option.isSome_of_eq_some hsecond))
  obtain rfl : id = i := Option.some.inj (hfirst.symm.trans hp.origin)
  obtain rfl : id' = j := Option.some.inj (hsecond.symm.trans hq.origin)
  obtain rfl : part = p := Option.some.inj (hpart.symm.trans hthere)
  have happart : part.coincides q = false := by
    cases part with
    | value v => exact absurd rfl (hvalue v)
    | _ => rfl
  rw [Assembly.perform, hsame, happart, Bool.or_false]
  rfl

/-- A part that is no rule is as it was made. -/
theorem Traces.part_of_not_rule (h : Traces settings records past a) {id : Nat} {part : Part}
    (hmade : (made settings past)[id]? = some part) (hpart : part.isRule = false) :
    a.parts[id]? = some part := by
  obtain ⟨part', hpart', hstays⟩ := h.exists_part hmade
  cases hstays with
  | rule _ => cases hpart
  | other _ => exact hpart'

/-- A rule has come to what its first application made of it. -/
theorem Traces.exists_rule (h : Traces settings records past a) {id : Nat} {new : LimitRule}
    (hmade : (made settings past)[id]? = some (.rule new)) :
    ∃ state : LimitRule, a.parts[id]? = some (.rule state) ∧
      state.Reached records (firstArguments settings records past id) := by
  obtain ⟨part, hpart, hstays⟩ := h.exists_part hmade
  cases hstays with
  | rule hreached => exact ⟨_, hpart, hreached⟩
  | other hno => cases hno

/-- **The answers, the keys and the parts after any calls.** For any settings, any log and any
calls, some of which may fail,

* each call is answered, and its answer is told by the calls before it;
* an application gives findings exactly if the key of the rule leads back to a rule, the settings
  give arguments, and the rule has settled before or can settle on these;
* a key has no part exactly if it is none of the usual keys and nothing was registered or shared
  under it;
* otherwise it has the part that it leads back to;
* two keys hold one part, which is no plain value, exactly if they lead back to the same one;
* the parts are those that were made, and all but the rules are as they were made;
* a rule is configured exactly if it was once applied to arguments that it can settle on, and has
  then settled on what those arguments amount to that were in force at the first such application.
  With a log that takes down every maximum that is all there is to its state.
-/
theorem performAll_traces (settings : Settings) (records : Int → Bool) (calls : List Call) :
    let run := (ofSettings settings).performAll calls records
    let a := run.1
    let past := calls.reverse
    run.2.length = calls.length ∧
    (∀ before call after, calls = before ++ call :: after →
      ∃ answer, run.2[before.length]? = some answer ∧
        Answers settings records before.reverse call answer.outcome) ∧
    (∀ before tree after, calls = before ++ .apply tree :: after →
      ∀ answer, run.2[before.length]? = some answer →
        ((∃ result, answer.outcome = .ok result) ↔
          ∃ id, ruleInForce settings before.reverse = some id ∧
            (inForce settings before.reverse).isSome ∧
            (firstArguments settings records (.apply tree :: before.reverse) id).isSome)) ∧
    (∀ key, (a.perform (.get key) records).2.outcome = .error (.unregistered key) ↔
      key ∉ known past) ∧
    (∀ key ∈ known past, ∃ id part, origin settings past key = some id ∧
      a.parts[id]? = some part ∧ (a.perform (.get key) records).2.outcome = .ok (.part part)) ∧
    (∀ first second id id' part, origin settings past first = some id →
      origin settings past second = some id' → a.parts[id]? = some part →
      (∀ v, part ≠ .value v) →
        (a.perform (.same first second) records).2.outcome = .ok (.same (id == id'))) ∧
    a.parts.length = (made settings past).length ∧
    (∀ (id : Nat) (part : Part), (made settings past)[id]? = some part → part.isRule = false →
      a.parts[id]? = some part) ∧
    ∀ (id : Nat) (new : LimitRule), (made settings past)[id]? = some (.rule new) →
      ∃ state : LimitRule, a.parts[id]? = some (.rule state) ∧
        state.configured = (firstArguments settings records past id).isSome ∧
        state.Reached records (firstArguments settings records past id) ∧
        ((∀ n, records n = true) →
          (firstArguments settings records past id = none → state = {}) ∧
          ∀ vs, firstArguments settings records past id = some vs →
            ∃ o, Amounts vs o ∧ state = LimitRule.settled o) := by
  intro run a past
  have hstart := traces_ofSettings settings records
  have h : Traces settings records past a := by
    have h := hstart.performAll calls
    rwa [List.append_nil] at h
  have hanswers : ∀ before call after, calls = before ++ call :: after →
      ∃ answer, run.2[before.length]? = some answer ∧
        Answers settings records before.reverse call answer.outcome := by
    rintro before call after rfl
    have hanswers := hstart.answers before call after
    rwa [List.append_nil] at hanswers
  refine ⟨length_performAll .., hanswers, ?applications, fun key => h.get_eq_unregistered_iff,
    fun key hkey => h.get_of_mem hkey,
    fun first second id id' part hfirst hsecond => h.same_of_origin hfirst hsecond, h.length_eq,
    fun id part hmade hpart => h.part_of_not_rule hmade hpart, fun id new hmade => ?rules⟩
  case applications =>
    intro before tree after hcalls answer hanswer
    obtain ⟨found, hfound, htold⟩ := hanswers before (.apply tree) after hcalls
    obtain rfl : found = answer := Option.some.inj (hfound.symm.trans hanswer)
    exact htold.isOk_iff
  case rules =>
    obtain ⟨state, hstate, hreached⟩ := h.exists_rule hmade
    refine ⟨state, hstate, hreached.configured_eq, hreached, fun hlog => ⟨fun hnone => ?_, ?_⟩⟩
    · exact (hnone ▸ hreached).eq_fresh hlog
    · exact fun vs hvs => (hvs ▸ hreached).eq_settled hlog

/-- A rule is shared, displaced by another one, and put back once other settings have come: each of
the two rules keeps the arguments that were in force when it was first applied. What is not there
cannot be shared, and what cannot be made cannot be registered. -/
theorem performAll_traces_displaced :
    let tree := Node.file none [.classDef (some "A") [] [] [], .classDef (some "B") [] [] []]
    let config := Value.table [(.text "rules", .table [(.text "max-public-classes", .int 1)])]
    let calls := [.share "spare" ruleKey, .register ruleKey .rule, .apply tree,
      .register settingsKey (.settings config), .share ruleKey "spare", .share "other" "missing",
      .register "other" (.settings (.int 1)), .apply tree]
    let run := (ofSettings ⟨.table []⟩).performAll calls fun _ => true
    run.2.length = 8 ∧
      run.1.parts[2]? = some (.rule (LimitRule.settled (.limit 1))) ∧
      run.1.parts[3]? = some (.rule (LimitRule.settled (.limit 5))) ∧
      (∃ answer, run.2[2]? = some answer ∧ answer.outcome = .ok (.findings [])) ∧
      (∃ answer, run.2[7]? = some answer ∧
        answer.outcome = .ok (.findings [LimitRule.excess 1 tree])) ∧
      (run.1.perform (.same ruleKey "spare") fun _ => true).2.outcome = .ok (.same true) ∧
      (run.1.perform (.get "other") fun _ => true).2.outcome =
        .error (.unregistered "other") := by
  intro tree config calls run
  obtain ⟨hlength, hanswers, -, hunknown, -, hsame, -, -, hrules⟩ :=
    performAll_traces ⟨.table []⟩ (fun _ => true) calls
  have hsettled : ∀ (id : Nat) (vs : List Value) {o : Outcome},
      (made ⟨.table []⟩ calls.reverse)[id]? = some (.rule {}) →
      firstArguments ⟨.table []⟩ (fun _ => true) calls.reverse id = some vs → Amounts vs o →
      run.1.parts[id]? = some (.rule (LimitRule.settled o)) := by
    intro id vs o hmade hfirst ho
    obtain ⟨state, hstate, -, -, hlog⟩ := hrules id {} hmade
    obtain ⟨o', ho', rfl⟩ := (hlog fun _ => rfl).2 vs hfirst
    rw [← ho'.unique ho]
    exact hstate
  have hshared : run.1.parts[2]? = some (.rule (LimitRule.settled (.limit 1))) :=
    hsettled 2 [.int 1] rfl rfl (.integer rfl)
  refine ⟨hlength, hshared, hsettled 3 [] rfl rfl .default, ?before, ?after,
    hsame ruleKey "spare" 2 2 _ rfl rfl hshared (by simp), (hunknown "other").mpr (by decide)⟩
  case before =>
    obtain ⟨answer, hanswer, htold⟩ := hanswers (calls.take 2) (.apply tree) (calls.drop 3) rfl
    exact ⟨answer, hanswer, htold.eq_findings rfl rfl rfl .default⟩
  case after =>
    obtain ⟨answer, hanswer, htold⟩ := hanswers (calls.take 7) (.apply tree) [] rfl
    exact ⟨answer, hanswer, htold.eq_findings rfl rfl rfl (.integer rfl)⟩

end Assembly

end ClassQuota
