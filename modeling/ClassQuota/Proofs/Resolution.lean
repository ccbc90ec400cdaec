import ClassQuota.Rule.Outcome

/-!
# Resolving arguments

Resolving a list of arguments gives its outcome, and the only other end is the fault of an
argument that cannot be shown.

## Main results

* `resolve_eq_result_iff` — resolving gives exactly what the arguments amount to
* `resolve_eq_error_iff` — the one fault of resolving a list
* `resolve_config_cases` — the configuration errors of resolving any arguments
-/

namespace ClassQuota

theorem resolve_nil : resolve (.list []) = .ok defaultMaximum := rfl

theorem resolve_singleton (v : Value) : resolve (.list [v]) = readInteger ruleName v := rfl

theorem resolve_cons_cons (v w : Value) (vs : List Value) :
    resolve (.list (v :: w :: vs)) =
      .error (.config (.argumentCount ruleName 1 (vs.length + 2 : Nat))) := by
  have hne : ¬(vs.length : Int) + 2 = 1 := by omega
  simp only [resolve, countArguments, Value.length?, List.length_cons, checkCount]
  rw [show vs.length + 1 + 1 = vs.length + 2 from rfl]
  simp [bind, Except.bind, hne]

section Reading

variable {rule : String} {v : Value}

theorem readInteger_of_some {n : Int} (h : v.asInteger? = some n) :
    readInteger rule v = .ok n := by
  rw [readInteger, h]

theorem readInteger_of_literal {shown : String} (h : v.asInteger? = none)
    (hs : v.literal? = some shown) :
    readInteger rule v = .error (.config (.invalidValue rule v shown)) := by
  rw [readInteger, h]
  simp only [ConfigError.ofValue, hs]
  rfl

theorem readInteger_of_none (h : v.asInteger? = none) (hs : v.literal? = none) :
    readInteger rule v = .error (.tooManyDigits none) := by
  rw [readInteger, h]
  simp only [ConfigError.ofValue, hs]
  rfl

/-- Reading an argument gives an integer exactly if the argument stands for it. -/
theorem readInteger_eq_ok_iff {n : Int} : readInteger rule v = .ok n ↔ v.asInteger? = some n := by
  refine ⟨fun hread => ?_, readInteger_of_some⟩
  cases h : v.asInteger? with
  | some m =>
    rw [readInteger_of_some h] at hread
    exact congrArg some (Except.ok.inj hread)
  | none =>
    cases hs : v.literal? with
    | some shown =>
      rw [readInteger_of_literal h hs] at hread
      cases hread
    | none =>
      rw [readInteger_of_none h hs] at hread
      cases hread

end Reading

/-- What arguments amount to is what resolving them gives. -/
theorem Amounts.resolve_eq {vs : List Value} {o : Outcome} (h : Amounts vs o) :
    resolve (.list vs) = o.result := by
  cases h with
  | default => exact resolve_nil
  | integer h => exact readInteger_of_some h
  | noInteger h hs => exact readInteger_of_literal h hs
  | several h =>
    match vs, h with
    | v :: w :: vs, _ => exact resolve_cons_cons v w vs

/-- Resolving a list gives its outcome, or there is a single argument that is no integer and
cannot be shown. -/
theorem resolve_cases (vs : List Value) :
    (∃ o, Amounts vs o) ∨ ∃ v, vs = [v] ∧ v.asInteger? = none ∧ v.literal? = none := by
  match vs with
  | [] => exact .inl ⟨_, .default⟩
  | [v] =>
    cases h : v.asInteger? with
    | some n => exact .inl ⟨_, .integer h⟩
    | none =>
      cases hs : v.literal? with
      | some shown => exact .inl ⟨_, .noInteger h hs⟩
      | none => exact .inr ⟨v, rfl, h, hs⟩
  | v :: w :: vs => exact .inl ⟨_, .several (by simp)⟩

/-- **Resolving gives exactly what the arguments amount to.** -/
theorem resolve_eq_result_iff {vs : List Value} {o : Outcome} :
    resolve (.list vs) = o.result ↔ Amounts vs o := by
  refine ⟨fun h => ?_, Amounts.resolve_eq⟩
  obtain ⟨o', h'⟩ | ⟨v, rfl, hi, hs⟩ := resolve_cases vs
  · rw [h'.resolve_eq] at h
    rwa [← Outcome.result_injective h]
  · rw [resolve_singleton, readInteger_of_none hi hs] at h
    cases o <;> simp [Outcome.result] at h

/-- The one fault of resolving a list, which is no configuration error. -/
theorem resolve_eq_error_iff {vs : List Value} {fault : Fault}
    (hf : ∀ e, fault ≠ .config e) :
    resolve (.list vs) = .error fault ↔
      fault = .tooManyDigits none ∧ ∃ v, vs = [v] ∧ v.asInteger? = none ∧ v.literal? = none := by
  constructor
  · intro h
    obtain ⟨o, ho⟩ | ⟨v, rfl, hi, hs⟩ := resolve_cases vs
    · rw [ho.resolve_eq] at h
      cases o with
      | limit n => simp [Outcome.result] at h
      | refused e =>
        simp only [Outcome.result, Except.error.injEq] at h
        exact absurd h.symm (hf e)
    · rw [resolve_singleton, readInteger_of_none hi hs, Except.error.injEq] at h
      exact ⟨h.symm, v, rfl, hi, hs⟩
  · rintro ⟨rfl, v, rfl, hi, hs⟩
    rw [resolve_singleton, readInteger_of_none hi hs]

/-! ### Refusals -/

section Refusal

variable {rule : String} {arguments v : Value} {e : ConfigError}

theorem countArguments_ne_config : countArguments arguments ≠ .error (.config e) := by
  unfold countArguments
  split <;> simp

/-- Counting refuses arguments by their number. -/
theorem checkCount_eq_config {expected : Int}
    (h : checkCount rule expected arguments = .error (.config e)) :
    ∃ actual, e = .argumentCount rule expected actual := by
  obtain h | ⟨actual, -, h⟩ := Fault.bind_eq_error_iff.mp h
  · exact absurd h countArguments_ne_config
  · split at h
    · cases h
    · cases h
      exact ⟨actual, rfl⟩

/-- Reading refuses an argument by its literal. -/
theorem readInteger_eq_config (h : readInteger rule v = .error (.config e)) :
    ∃ shown, v.literal? = some shown ∧ e = .invalidValue rule v shown := by
  cases hi : v.asInteger? with
  | some n =>
    rw [readInteger_of_some hi] at h
    cases h
  | none =>
    cases hs : v.literal? with
    | none =>
      rw [readInteger_of_none hi hs] at h
      cases h
    | some shown =>
      rw [readInteger_of_literal hi hs] at h
      cases h
      exact ⟨shown, rfl, rfl⟩

/-- A configuration error of resolving arguments tells their number, or shows one of them. -/
theorem resolve_config_cases (h : resolve arguments = .error (.config e)) :
    (∃ actual, e = .argumentCount ruleName 1 actual) ∨
      ∃ v shown, v.literal? = some shown ∧ e = .invalidValue ruleName v shown := by
  obtain h | ⟨count, -, h⟩ := Fault.bind_eq_error_iff.mp h
  · exact absurd h countArguments_ne_config
  split at h
  · cases h
  obtain h | ⟨-, -, h⟩ := Fault.bind_eq_error_iff.mp h
  · exact .inl (checkCount_eq_config h)
  split at h
  · next v _ =>
    obtain ⟨shown, hs, rfl⟩ := readInteger_eq_config h
    exact .inr ⟨v, shown, hs, rfl⟩
  · cases h

end Refusal

end ClassQuota
