import ClassQuota.Rule
import Mathlib.Algebra.Group.Nat.Defs

/-!
# Values that can be shown

An integer can be written if it has at most `Numeral.limit` digits, and a value has a literal if
every integer in it can be written, at whatever depth it stands. Nothing else keeps a value from
being shown.

## Main definitions

* `Value.integers` — the integers that stand in a value

## Main results

* `Numeral.write_isSome_iff` — which integers can be written
* `Value.literal?_isSome_iff` — which values can be shown
-/

namespace ClassQuota

theorem Numeral.write_isSome_iff (n : Int) :
    (Numeral.write n).isSome ↔ n.natAbs < 10 ^ Numeral.limit := by
  have hlen : (Nat.repr n.natAbs).length ≤ Numeral.limit ↔ n.natAbs < 10 ^ Numeral.limit :=
    Nat.length_repr_le_iff (by decide)
  rw [← hlen, Numeral.write]
  by_cases h : (Nat.repr n.natAbs).length ≤ Numeral.limit
  · rw [if_pos h]
    exact iff_of_true rfl h
  · rw [if_neg h]
    exact iff_of_false (by simp) h

theorem LimitRule.isRecordable_iff (n : Int) :
    LimitRule.isRecordable n = true ↔ n.natAbs < 10 ^ Numeral.limit :=
  Numeral.write_isSome_iff n

theorem LimitRule.isRecordable_of_lt_ten {n : Int} (h : n.natAbs < 10) :
    LimitRule.isRecordable n = true := by
  refine (LimitRule.isRecordable_iff n).mpr (Nat.lt_of_lt_of_le h ?_)
  exact Nat.le_self_pow (by decide) 10

namespace Value

mutual

/-- The integers that stand in a value, at any depth. -/
def integers : Value → List Int
  | .int n => [n]
  | .list xs => itemIntegers xs
  | .tuple xs => itemIntegers xs
  | .set xs => itemIntegers xs
  | .table entries => entryIntegers entries
  | _ => []

/-- The integers that stand in the items of a sequence. -/
def itemIntegers : List Value → List Int
  | [] => []
  | x :: xs => x.integers ++ itemIntegers xs

/-- The integers that stand in the keys and values of entries. -/
def entryIntegers : Entries → List Int
  | [] => []
  | (k, v) :: es => k.integers ++ v.integers ++ entryIntegers es

end

/-- A value all of whose integers can be written. -/
def IsShowable (v : Value) : Prop := ∀ n ∈ v.integers, n.natAbs < 10 ^ Numeral.limit

theorem itemLiterals?_cons_isSome (x : Value) (xs : List Value) :
    (itemLiterals? (x :: xs)).isSome ↔ x.literalChars?.isSome ∧ (itemLiterals? xs).isSome := by
  rw [itemLiterals?]
  cases x.literalChars? <;> cases itemLiterals? xs <;> simp

theorem entryLiterals?_cons_isSome (k v : Value) (es : Entries) :
    (entryLiterals? ((k, v) :: es)).isSome ↔
      (k.literalChars?.isSome ∧ v.literalChars?.isSome) ∧ (entryLiterals? es).isSome := by
  rw [entryLiterals?]
  cases k.literalChars? <;> cases v.literalChars? <;> cases entryLiterals? es <;> simp

mutual

theorem literalChars?_isSome_iff : ∀ v : Value,
    v.literalChars?.isSome ↔ ∀ n ∈ v.integers, n.natAbs < 10 ^ Numeral.limit
  | .int n => by simp [literalChars?, integers, Numeral.write_isSome_iff]
  | .list xs => by simpa [literalChars?, integers] using itemLiterals?_isSome_iff xs
  | .tuple xs => by simpa [literalChars?, integers] using itemLiterals?_isSome_iff xs
  | .set xs => by simpa [literalChars?, integers] using itemLiterals?_isSome_iff xs
  | .table es => by simpa [literalChars?, integers] using entryLiterals?_isSome_iff es
  | .recurrence true => by simp [literalChars?, integers]
  | .recurrence false => by simp [literalChars?, integers]
  | .null => by simp [literalChars?, integers]
  | .bool _ => by simp [literalChars?, integers]
  | .float _ => by simp [literalChars?, integers]
  | .text _ => by simp [literalChars?, integers]
  | .brokenText _ => by simp [literalChars?, integers]
  | .bytes _ => by simp [literalChars?, integers]
  | .date _ => by simp [literalChars?, integers]
  | .dateTime _ => by simp [literalChars?, integers]
  | .time _ => by simp [literalChars?, integers]

theorem itemLiterals?_isSome_iff : ∀ xs : List Value,
    (itemLiterals? xs).isSome ↔ ∀ n ∈ itemIntegers xs, n.natAbs < 10 ^ Numeral.limit
  | [] => by simp [itemLiterals?, itemIntegers]
  | x :: xs => by
    rw [itemLiterals?_cons_isSome, literalChars?_isSome_iff x, itemLiterals?_isSome_iff xs,
      itemIntegers, List.forall_mem_append]

theorem entryLiterals?_isSome_iff : ∀ es : Entries,
    (entryLiterals? es).isSome ↔ ∀ n ∈ entryIntegers es, n.natAbs < 10 ^ Numeral.limit
  | [] => by simp [entryLiterals?, entryIntegers]
  | (k, v) :: es => by
    rw [entryLiterals?_cons_isSome, literalChars?_isSome_iff k, literalChars?_isSome_iff v,
      entryLiterals?_isSome_iff es, entryIntegers, List.forall_mem_append, List.forall_mem_append]

end

/-- **A value can be shown exactly when every integer in it can be written.** -/
theorem literal?_isSome_iff (v : Value) : v.literal?.isSome ↔ v.IsShowable := by
  rw [literal?, Option.isSome_map, literalChars?_isSome_iff, IsShowable]

theorem literal?_eq_none_iff (v : Value) : v.literal? = none ↔ ¬v.IsShowable := by
  rw [← literal?_isSome_iff, Option.not_isSome_iff_eq_none]

end Value

end ClassQuota
