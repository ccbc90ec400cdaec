/-!
# Ranges of code points

A character class of the Unicode standard is a list of closed ranges of code points in
ascending order. Membership walks the list and stops at the first range that begins past the
code point.

## Main definitions

* `inRanges` — membership in such a list
-/

namespace ClassQuota

namespace Text

/-- Whether a code point lies in one of the ranges, which are closed and ascending. -/
def inRanges : List (Nat × Nat) → Nat → Bool
  | [], _ => false
  | (first, last) :: rest, n => if n < first then false else n ≤ last || inRanges rest n

/-- A code point before every range is in none of them. -/
theorem inRanges_of_lt {first last n : Nat} (rest : List (Nat × Nat)) (h : n < first) :
    inRanges ((first, last) :: rest) n = false := by
  simp [inRanges, h]

/-- A code point of the first range is in the list. -/
theorem inRanges_of_le {first last n : Nat} (rest : List (Nat × Nat)) (hfirst : first ≤ n)
    (hlast : n ≤ last) : inRanges ((first, last) :: rest) n = true := by
  simp [inRanges, Nat.not_lt.mpr hfirst, hlast]

/-- Membership in a list of ranges is membership in one of its ranges. -/
theorem exists_of_inRanges {ranges : List (Nat × Nat)} {n : Nat} (h : inRanges ranges n = true) :
    ∃ r ∈ ranges, r.1 ≤ n ∧ n ≤ r.2 := by
  induction ranges with
  | nil => simp [inRanges] at h
  | cons r rest ih =>
    obtain ⟨first, last⟩ := r
    by_cases hn : n < first
    · simp [inRanges, hn] at h
    · simp only [inRanges, hn, if_false, Bool.or_eq_true, decide_eq_true_eq] at h
      rcases h with h | h
      · exact ⟨(first, last), List.mem_cons_self .., by omega, h⟩
      · obtain ⟨r, hr, h⟩ := ih h
        exact ⟨r, List.mem_cons_of_mem _ hr, h⟩

end Text

end ClassQuota
