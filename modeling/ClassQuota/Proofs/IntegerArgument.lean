import ClassQuota.Proofs.DecimalNumeral
import ClassQuota.Proofs.Resolution
import ClassQuota.Proofs.Showable
import Mathlib.Algebra.Order.Field.Rat

/-!
# Arguments that stand for an integer

Three kinds of values stand for an integer: the integer itself, a finite floating-point number
whose exact value it is, and a text that is a decimal numeral of it between blanks. What stands for
an integer is read as that integer, and whatever else can be shown is refused by an error that
carries it.

## Main definitions

* `Binary64.rational?` — the exact value of a floating-point number
* `Value.StandsFor` — a value stands for an integer

## Main results

* `Binary64.toInt?_eq_some_iff_rational?` — a number is read as its exact value, if an integer
* `Value.asInteger?_eq_some_iff` — which values are read as an integer
* `readInteger_total_iff_standsFor` — reading an argument gives its integer or the error
-/

namespace ClassQuota

namespace Binary64

/-- The exact value of a number, if it is finite. -/
def rational? : Binary64 → Option ℚ
  | .finite negative mantissa exponent =>
    some ((if negative then -1 else 1) * mantissa * 2 ^ exponent)
  | .infinite _ => none
  | .nan => none

/-- The exact value of a number is its quotient. -/
theorem rational?_of_ratio? {x : Binary64} {num : Int} {den : Nat}
    (h : x.ratio? = some (num, den)) :
    den ≠ 0 ∧ x.rational? = some ((num : ℚ) / den) := by
  cases x with
  | infinite negative => cases h
  | nan => cases h
  | finite negative mantissa exponent =>
    obtain ⟨rfl, rfl⟩ := Prod.mk.inj (Option.some.inj h)
    -- The power of two stands below the fraction line or above it.
    by_cases hexp : 0 ≤ -exponent
    · obtain ⟨k, hk⟩ := Int.eq_ofNat_of_zero_le hexp
      obtain rfl : exponent = -k := by omega
      cases negative <;> simp [rational?, scaleBinary, div_eq_mul_inv]
    · obtain ⟨k, rfl⟩ := Int.eq_ofNat_of_zero_le (show 0 ≤ exponent by omega)
      have hk : k ≠ 0 := by omega
      cases negative <;> simp [rational?, scaleBinary, hk]

/-- A number is read as an integer exactly if that is its exact value. -/
theorem toInt?_eq_some_iff_rational? {x : Binary64} {n : Int} :
    x.toInt? = some n ↔ x.rational? = some (n : ℚ) := by
  rw [toInt?_eq_some_iff]
  constructor
  · rintro ⟨num, den, h, hmod, rfl⟩
    obtain ⟨hden, hvalue⟩ := rational?_of_ratio? h
    rw [hvalue, Int.cast_div (Int.dvd_of_emod_eq_zero hmod) (by exact_mod_cast hden)]
    rfl
  · intro hvalue
    rcases hratio : x.ratio? with _ | ⟨num, den⟩
    · cases x <;> cases hratio <;> cases hvalue
    · obtain ⟨hden, hquotient⟩ := rational?_of_ratio? hratio
      have hnum : num = n * den := by
        rw [hvalue, Option.some.injEq, eq_div_iff (by exact_mod_cast hden)] at hquotient
        exact_mod_cast hquotient.symm
      refine ⟨num, den, rfl, ?_, ?_⟩
      · rw [hnum, Int.mul_emod_left]
      · rw [hnum, Int.mul_ediv_cancel _ (by exact_mod_cast hden)]

end Binary64

namespace Value

/-- A value stands for an integer. -/
inductive StandsFor : Value → Int → Prop
  /-- The integer itself. -/
  | integer (n : Int) : StandsFor (.int n) n
  /-- A finite number whose exact value is the integer. -/
  | whole {x : Binary64} {n : Int} (h : x.rational? = some (n : ℚ)) : StandsFor (.float x) n
  /-- A decimal numeral of the integer between blanks. -/
  | numeral {s : String} {before core after : List Char} {n : Int}
      (hs : s.toList = before ++ core ++ after) (hbefore : ∀ c ∈ before, Text.isBlank c = true)
      (hafter : ∀ c ∈ after, Text.isBlank c = true) (h : Numeral.IsDecimal core n) :
      StandsFor (.text s) n

/-- **Which values are read as an integer.** -/
theorem asInteger?_eq_some_iff {v : Value} {n : Int} : v.asInteger? = some n ↔ v.StandsFor n := by
  constructor
  · intro h
    cases v with
    | int m =>
      obtain rfl := Option.some.inj h
      exact .integer m
    | float x => exact .whole (Binary64.toInt?_eq_some_iff_rational?.mp h)
    | text s =>
      rcases hread : Numeral.decimal (Text.trim Text.isBlank s.toList) with flaw | m
      · simp [asInteger?, hread, Except.toOption] at h
      · obtain rfl : m = n := by simpa [asInteger?, hread, Except.toOption] using h
        obtain ⟨before, core, after, hs, hbefore, hafter, hcore⟩ :=
          Numeral.decimal_trim_eq_ok_iff.mp hread
        exact .numeral hs hbefore hafter hcore
    | _ => cases h
  · rintro (_ | h | ⟨hs, hbefore, hafter, h⟩)
    · rfl
    · exact Binary64.toInt?_eq_some_iff_rational?.mpr h
    · rw [asInteger?, Numeral.decimal_trim_eq_ok_iff.mpr ⟨_, _, _, hs, hbefore, hafter, h⟩]
      rfl

end Value

/-- **Reading an argument.** It gives an integer exactly if the argument stands for it. Any other
argument that can be shown is refused by an error that carries it and the name of the rule. In
particular an integer that can be written is read back from its decimal text between any blanks. -/
theorem readInteger_total_iff_standsFor (rule : String) (v : Value) :
    (∀ n, readInteger rule v = .ok n ↔ v.StandsFor n) ∧
      ((¬∃ n, v.StandsFor n) → v.IsShowable →
        ∃ shown, v.literal? = some shown ∧
          readInteger rule v = .error (.config (.invalidValue rule v shown))) ∧
      ∀ (n : Int) (before after : String), n.natAbs < 10 ^ Numeral.limit →
        (∀ c ∈ before.toList, Text.isBlank c = true) →
        (∀ c ∈ after.toList, Text.isBlank c = true) →
        readInteger rule (.text (before ++ toString n ++ after)) = .ok n := by
  have hiff (w : Value) (n : Int) : readInteger rule w = .ok n ↔ w.StandsFor n :=
    readInteger_eq_ok_iff.trans Value.asInteger?_eq_some_iff
  refine ⟨hiff v, fun hnone hshow => ?_, fun n before after hn hbefore hafter => ?_⟩
  · have hread : v.asInteger? = none := by
      rw [Option.eq_none_iff_forall_ne_some]
      exact fun n hn => hnone ⟨n, Value.asInteger?_eq_some_iff.mp hn⟩
    obtain ⟨shown, hshown⟩ := Option.isSome_iff_exists.mp (v.literal?_isSome_iff.mpr hshow)
    exact ⟨shown, hshown, readInteger_of_literal hread hshown⟩
  · refine (hiff _ n).mpr (.numeral ?_ hbefore hafter (Numeral.isDecimal_toString hn))
    rw [String.toList_append, String.toList_append]

/-- A numeral with digits of two scripts, an underscore and blanks is read, and so is a whole
number; a truth value is refused. -/
theorem readInteger_total_iff_standsFor_mixed :
    (Value.text "\u00a0-1_\u0663\n").StandsFor (-13) ∧
      readInteger "r" (.text "\u00a0-1_\u0663\n") = .ok (-13) ∧
      (Value.float (.finite true 13 0)).StandsFor (-13) ∧
      readInteger "r" (.float (.finite true 13 0)) = .ok (-13) ∧
      readInteger "r" (.text (" " ++ toString (-13 : Int) ++ "\t")) = .ok (-13) ∧
      (¬∃ n, (Value.bool true).StandsFor n) ∧ (Value.bool true).IsShowable ∧
      ∃ shown, readInteger "r" (.bool true) =
        .error (.config (.invalidValue "r" (.bool true) shown)) := by
  have hdigits : Numeral.Spells ['1', '_', '\u0663'] [1, 3] := .underscore rfl (.digit rfl)
  have hcore : Numeral.IsDecimal ['-', '1', '_', '\u0663'] (-13) := .minus hdigits (by decide)
  have hpadded : "\u00a0-1_\u0663\n".toList = ['\u00a0'] ++ ['-', '1', '_', '\u0663'] ++ ['\n'] :=
    rfl
  have htext : (Value.text "\u00a0-1_\u0663\n").StandsFor (-13) :=
    .numeral hpadded (List.forall_mem_singleton.mpr rfl) (List.forall_mem_singleton.mpr rfl) hcore
  have hwhole : (Value.float (.finite true 13 0)).StandsFor (-13) :=
    .whole (by simp [Binary64.rational?])
  have hnone : ¬∃ n, (Value.bool true).StandsFor n := by
    rintro ⟨n, ⟨⟩⟩
  have hshow : (Value.bool true).IsShowable := fun _ hn => nomatch hn
  obtain ⟨shown, -, hrefused⟩ := (readInteger_total_iff_standsFor "r" (.bool true)).2.1 hnone hshow
  refine ⟨htext, ((readInteger_total_iff_standsFor "r" _).1 _).mpr htext, hwhole,
    ((readInteger_total_iff_standsFor "r" _).1 _).mpr hwhole, ?_, hnone, hshow, shown, hrefused⟩
  refine (readInteger_total_iff_standsFor "r" .null).2.2 (-13) " " "\t" ?_
    (List.forall_mem_singleton.mpr rfl) (List.forall_mem_singleton.mpr rfl)
  have hpow : 10 ^ 2 ≤ 10 ^ Numeral.limit := Nat.pow_le_pow_right (by decide) (by decide)
  exact Nat.lt_of_lt_of_le (show (-13 : Int).natAbs < 10 ^ 2 by decide) hpow

end ClassQuota
