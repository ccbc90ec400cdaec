import ClassQuota.Number.Numeral
import Mathlib.Data.Nat.Digits.Defs

/-!
# Decimal numerals

A decimal numeral is an optional sign and digits of any script, with at most single underscores
between them. It is read as the integer that its digits denote by their positions. Neither end of
a numeral is blank, so blanks around one can be told from it.

## Main definitions

* `Numeral.Spells` — a text spells a sequence of digits
* `Numeral.IsDecimal` — a text is a decimal numeral of an integer

## Main results

* `Numeral.digitRun_eq_iff_spells` — digits are read to the end of a text exactly if it spells them
* `Numeral.decimal_trim_eq_ok_iff` — the texts that are read as an integer between blanks
* `Numeral.isDecimal_toString` — the decimal text of an integer is a numeral of it
-/

namespace ClassQuota

namespace Numeral

/-- A text spells digits, most significant first: each is a decimal digit of some script, and
between two of them a single underscore may stand. -/
inductive Spells : List Char → List Nat → Prop
  | digit {c : Char} {d : Nat} (h : Text.digitValue? c = some d) : Spells [c] [d]
  | next {c : Char} {d : Nat} {cs : List Char} {ds : List Nat} (h : Text.digitValue? c = some d)
      (rest : Spells cs ds) : Spells (c :: cs) (d :: ds)
  | underscore {c : Char} {d : Nat} {cs : List Char} {ds : List Nat}
      (h : Text.digitValue? c = some d) (rest : Spells cs ds) : Spells (c :: '_' :: cs) (d :: ds)

/-- A text is a decimal numeral of an integer: the number that its digits denote by their
positions, or, after a minus sign, the opposite number. -/
inductive IsDecimal : List Char → Int → Prop
  | unsigned {cs : List Char} {ds : List Nat} (h : Spells cs ds) (hlen : ds.length ≤ limit) :
      IsDecimal cs (Nat.ofDigits 10 ds.reverse : Nat)
  | plus {cs : List Char} {ds : List Nat} (h : Spells cs ds) (hlen : ds.length ≤ limit) :
      IsDecimal ('+' :: cs) (Nat.ofDigits 10 ds.reverse : Nat)
  | minus {cs : List Char} {ds : List Nat} (h : Spells cs ds) (hlen : ds.length ≤ limit) :
      IsDecimal ('-' :: cs) (-(Nat.ofDigits 10 ds.reverse : Nat))

variable {cs : List Char} {ds : List Nat} {c : Char} {n : Int}

/-! ### Digits -/

/-- What digits denote is what they denote by their positions. -/
theorem ofDigits_eq (base : Nat) (ds : List Nat) :
    ofDigits base ds = Nat.ofDigits base ds.reverse := by
  rw [Nat.ofDigits_eq_foldr, List.foldr_reverse, ofDigits]
  simp only [Nat.cast_id, Nat.add_comm]

/-- The first character of digits is a digit. -/
theorem Spells.exists_head (h : Spells cs ds) :
    ∃ c d, cs.head? = some c ∧ Text.digitValue? c = some d := by
  cases h with
  | digit h => exact ⟨_, _, rfl, h⟩
  | next h rest => exact ⟨_, _, rfl, h⟩
  | underscore h rest => exact ⟨_, _, rfl, h⟩

/-- The last character of digits is a digit. -/
theorem Spells.exists_getLast (h : Spells cs ds) :
    ∃ c d, cs.getLast? = some c ∧ Text.digitValue? c = some d := by
  induction h with
  | digit h => exact ⟨_, _, rfl, h⟩
  | next h rest ih =>
    obtain ⟨c, d, hlast, hd⟩ := ih
    exact ⟨c, d, by simp [List.getLast?_cons, hlast], hd⟩
  | underscore h rest ih =>
    obtain ⟨c, d, hlast, hd⟩ := ih
    exact ⟨c, d, by simp [List.getLast?_cons, hlast], hd⟩

theorem Spells.ne_nil (h : Spells cs ds) : ds ≠ [] := by
  cases h <;> simp

/-- A digit may be put after the last one. -/
theorem Spells.append_digit (h : Spells cs ds) {d : Nat} (hd : Text.digitValue? c = some d) :
    Spells (cs ++ [c]) (ds ++ [d]) := by
  induction h with
  | digit h => exact .next h (.digit hd)
  | next h _ ih => exact .next h ih
  | underscore h _ ih => exact .underscore h ih

/-- Digits are read to their end. -/
theorem Spells.digitRun_eq (h : Spells cs ds) (after : Bool) :
    digitRun Text.digitValue? after cs = (ds, []) := by
  induction h generalizing after with
  | digit h => simp [digitRun, h]
  | next h _ ih => simp [digitRun, h, ih]
  | @underscore c d cs ds h rest ih =>
    obtain ⟨first, e, hhead, he⟩ := rest.exists_head
    have hbar : Text.digitValue? '_' = none := by decide
    simp [digitRun, h, hbar, hhead, he, ih]

/-- A text that is read as digits to its end spells them, or is empty, or begins with the
underscore after a digit. -/
theorem spells_of_digitRun {after : Bool} (h : digitRun Text.digitValue? after cs = (ds, [])) :
    (cs = [] ∧ ds = []) ∨ Spells cs ds ∨
      after = true ∧ ∃ rest, cs = '_' :: rest ∧ Spells rest ds := by
  fun_induction digitRun Text.digitValue? after cs generalizing ds with
  | case1 after =>
    obtain rfl : [] = ds := congrArg Prod.fst h
    exact .inl ⟨rfl, rfl⟩
  | case2 after c rest d hd run =>
    rename_i ih
    obtain ⟨rfl, hend⟩ := Prod.mk.inj h
    refine .inr (.inl ?_)
    rcases ih (Prod.ext rfl hend) with ⟨rfl, -⟩ | hrest | ⟨-, tail, rfl, htail⟩
    · exact .digit hd
    · exact .next hd hrest
    · exact .underscore hd htail
  | case3 after c rest hd hbar ih =>
    simp only [Bool.and_eq_true, decide_eq_true_eq] at hbar
    obtain ⟨⟨rfl, rfl⟩, hdigit⟩ := hbar
    refine .inr (.inr ⟨rfl, rest, rfl, ?_⟩)
    rcases ih h with ⟨rfl, -⟩ | hrest | ⟨hfalse, -⟩
    · cases hdigit
    · exact hrest
    · cases hfalse
  | case4 after c rest hd hbar =>
    cases congrArg Prod.snd h

/-- **Digits are read to the end of a text exactly if it spells them.** -/
theorem digitRun_eq_iff_spells (h : ds ≠ []) :
    digitRun Text.digitValue? false cs = (ds, []) ↔ Spells cs ds := by
  refine ⟨fun hrun => ?_, fun hspells => hspells.digitRun_eq false⟩
  rcases spells_of_digitRun hrun with ⟨-, hnil⟩ | hspells | ⟨hfalse, -⟩
  · exact absurd hnil h
  · exact hspells
  · cases hfalse

/-! ### Numerals -/

/-- A text is read as the integer of its sign and its digits. -/
theorem decimal_eq_ok_iff_digitRun :
    decimal cs = .ok n ↔ ∃ ds, ds ≠ [] ∧ ds.length ≤ limit ∧
      digitRun Text.digitValue? false (splitSign (Text.trim Text.isSpace cs)).2 = (ds, []) ∧
      withSign (splitSign (Text.trim Text.isSpace cs)).1 (ofDigits 10 ds) = n := by
  rw [decimal]
  rcases digitRun Text.digitValue? false (splitSign (Text.trim Text.isSpace cs)).2 with ⟨ds, rest⟩
  cases ds with
  | nil => simp
  | cons d ds =>
    by_cases hlen : ds.length + 1 ≤ limit
    · cases rest with
      | nil => simp [Nat.not_lt.mpr hlen, hlen]
      | cons c rest => by_cases hc : c = '_' <;> simp [hc, Nat.not_lt.mpr hlen]
    · cases rest with
      | nil => simp [Nat.not_le.mp hlen, hlen]
      | cons c rest => by_cases hc : c = '_' <;> simp [hc, Nat.not_le.mp hlen]

/-- A digit is no sign, so the digits of a text without one are all of it. -/
theorem Spells.splitSign_eq (h : Spells cs ds) : splitSign cs = (false, cs) := by
  obtain ⟨c, d, hhead, hd⟩ := h.exists_head
  have hminus : c ≠ '-' := by
    rintro rfl
    cases hd
  have hplus : c ≠ '+' := by
    rintro rfl
    cases hd
  unfold splitSign
  split
  · exact absurd (Option.some.inj hhead).symm hminus
  · exact absurd (Option.some.inj hhead).symm hplus
  · rfl

/-- A numeral by what is left of it after its sign. -/
theorem isDecimal_iff_splitSign :
    IsDecimal cs n ↔ ∃ ds, Spells (splitSign cs).2 ds ∧ ds.length ≤ limit ∧
      withSign (splitSign cs).1 (ofDigits 10 ds) = n := by
  constructor
  · intro h
    cases h with
    | unsigned h hlen =>
      rw [h.splitSign_eq]
      exact ⟨_, h, hlen, congrArg Nat.cast (ofDigits_eq 10 _)⟩
    | plus h hlen => exact ⟨_, h, hlen, congrArg Nat.cast (ofDigits_eq 10 _)⟩
    | minus h hlen => exact ⟨_, h, hlen, congrArg (fun m : Nat => -(m : Int)) (ofDigits_eq 10 _)⟩
  · rintro ⟨ds, h, hlen, rfl⟩
    rw [ofDigits_eq]
    unfold splitSign at h ⊢
    split at h
    · exact .minus h hlen
    · exact .plus h hlen
    · exact .unsigned h hlen

/-- A text is read as an integer exactly if it is a numeral of it between white space. -/
theorem decimal_eq_ok_iff : decimal cs = .ok n ↔ IsDecimal (Text.trim Text.isSpace cs) n := by
  rw [decimal_eq_ok_iff_digitRun, isDecimal_iff_splitSign]
  refine exists_congr fun ds => ?_
  constructor
  · rintro ⟨hne, hlen, hrun, hn⟩
    exact ⟨(digitRun_eq_iff_spells hne).mp hrun, hlen, hn⟩
  · rintro ⟨hspells, hlen, hn⟩
    exact ⟨hspells.ne_nil, hlen, hspells.digitRun_eq false, hn⟩

/-! ### Numerals between blanks -/

/-- No digit is blank. -/
theorem not_isBlank_of_digitValue? {d : Nat} (h : Text.digitValue? c = some d) :
    Text.isBlank c = false := by
  have hspace : ∀ z ∈ Text.digitZeros, ∀ r ∈ Text.spaceRanges, r.2 < z ∨ z + 10 ≤ r.1 := by decide
  have hseparator : ∀ z ∈ Text.digitZeros, 0x1f < z := by decide
  rw [Text.digitValue?, Option.map_eq_some_iff] at h
  obtain ⟨z, hfind, -⟩ := h
  have hz : z ∈ Text.digitZeros := List.mem_of_find?_eq_some hfind
  have hrun := List.find?_some hfind
  simp only [Bool.and_eq_true, decide_eq_true_eq] at hrun
  refine Bool.eq_false_iff.mpr fun hblank => ?_
  simp only [Text.isBlank, Bool.or_eq_true, Bool.and_eq_true, decide_eq_true_eq] at hblank
  rcases hblank with hin | ⟨-, hlast⟩
  · obtain ⟨r, hr, hfirst, hlast⟩ := Text.exists_of_inRanges hin
    have := hspace z hz r hr
    omega
  · have := hseparator z hz
    omega

/-- The first character of a numeral is not blank. -/
theorem IsDecimal.not_isBlank_head (h : IsDecimal cs n) (hc : cs.head? = some c) :
    Text.isBlank c = false := by
  cases h with
  | unsigned h hlen =>
    obtain ⟨first, d, hfirst, hd⟩ := h.exists_head
    obtain rfl : first = c := Option.some.inj (hfirst.symm.trans hc)
    exact not_isBlank_of_digitValue? hd
  | plus h hlen =>
    obtain rfl := Option.some.inj hc
    decide
  | minus h hlen =>
    obtain rfl := Option.some.inj hc
    decide

/-- The last character of a numeral is a digit, and so not blank. -/
theorem IsDecimal.not_isBlank_getLast (h : IsDecimal cs n) (hc : cs.getLast? = some c) :
    Text.isBlank c = false := by
  obtain ⟨d, hd⟩ : ∃ d, Text.digitValue? c = some d := by
    cases h with
    | unsigned h hlen =>
      obtain ⟨last, d, hlast, hd⟩ := h.exists_getLast
      exact ⟨d, by simp_all⟩
    | plus h hlen =>
      obtain ⟨last, d, hlast, hd⟩ := h.exists_getLast
      exact ⟨d, by simp_all [List.getLast?_cons]⟩
    | minus h hlen =>
      obtain ⟨last, d, hlast, hd⟩ := h.exists_getLast
      exact ⟨d, by simp_all [List.getLast?_cons]⟩
  exact not_isBlank_of_digitValue? hd

/-- **Which texts are read as an integer.** A text is, once blanks are trimmed off, exactly if it
is a numeral of the integer between blanks. -/
theorem decimal_trim_eq_ok_iff :
    decimal (Text.trim Text.isBlank cs) = .ok n ↔
      ∃ before core after, cs = before ++ core ++ after ∧
        (∀ c ∈ before, Text.isBlank c = true) ∧ (∀ c ∈ after, Text.isBlank c = true) ∧
        IsDecimal core n := by
  rw [decimal_eq_ok_iff, Text.trim_trim fun c => Text.isBlank_of_isSpace]
  constructor
  · intro h
    obtain ⟨before, after, hcs, hbefore, hafter⟩ := Text.exists_trim Text.isBlank cs
    exact ⟨before, _, after, hcs, hbefore, hafter, h⟩
  · rintro ⟨before, core, after, rfl, hbefore, hafter, h⟩
    rwa [Text.trim_append hbefore hafter (fun _ => h.not_isBlank_head)
      fun _ => h.not_isBlank_getLast]

/-! ### The decimal text of an integer -/

/-- The decimal digits of a number spell it. -/
theorem exists_spells_toDigits (m : Nat) :
    ∃ ds, Spells (Nat.toDigits 10 m) ds ∧ ofDigits 10 ds = m ∧
      ds.length = (Nat.toDigits 10 m).length := by
  have hdigit : ∀ d ∈ List.range 10, Text.digitValue? d.digitChar = some d := by decide
  induction m using Nat.strongRecOn with
  | ind m ih =>
    by_cases hm : m < 10
    · rw [Nat.toDigits_of_lt_base hm]
      exact ⟨[m], .digit (hdigit m (List.mem_range.mpr hm)), by simp [ofDigits], rfl⟩
    · obtain ⟨ds, hspells, hvalue, hlen⟩ := ih (m / 10) (by omega)
      have hlast := hdigit (m % 10) (List.mem_range.mpr (Nat.mod_lt m (by decide)))
      rw [Nat.toDigits_of_base_le (by decide) (Nat.not_lt.mp hm)]
      refine ⟨ds ++ [m % 10], hspells.append_digit hlast, ?_, by simp [hlen]⟩
      calc ofDigits 10 (ds ++ [m % 10]) = 10 * ofDigits 10 ds + m % 10 := by
            rw [ofDigits, List.foldl_append]
            rfl
        _ = m := by rw [hvalue, Nat.div_add_mod]

/-- **An integer that can be written is read back from its decimal text.** -/
theorem isDecimal_toString (h : n.natAbs < 10 ^ limit) : IsDecimal (toString n).toList n := by
  obtain ⟨ds, hspells, hvalue, hdigits⟩ := exists_spells_toDigits n.natAbs
  have hlen : ds.length ≤ limit := by
    rw [hdigits, ← Nat.toList_repr, String.length_toList]
    exact (Nat.length_repr_le_iff (by decide)).mpr h
  rw [ofDigits_eq] at hvalue
  cases n with
  | ofNat m =>
    have hnumeral := IsDecimal.unsigned hspells hlen
    rw [hvalue] at hnumeral
    rwa [Int.toString_eq_repr, Int.repr, Nat.toList_repr]
  | negSucc m =>
    have hnumeral := IsDecimal.minus hspells hlen
    rw [hvalue] at hnumeral
    rwa [Int.toString_eq_repr, Int.repr, String.toList_append, Nat.toList_repr]

end Numeral

end ClassQuota
