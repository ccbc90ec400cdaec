import ClassQuota.Value.Literal

/-!
# Printable literals

The literal of a value is written in printable characters, whatever characters stand in the value
and however deep. Numbers, dates and the brackets around items are ASCII. A text is escaped
character by character, and there a character that is not printable gives way to hexadecimal
digits; the quotes around it and the backslash are printable themselves.

Printable characters stay on their line: none of them ends a line, moves or hides what is written,
or separates words without being a space. That is checked on the two tables once: the printable
ranges leave out every hidden one.

## Main definitions

* `Text.AllPrintable` — all of some characters are printable
* `Text.hiddenRanges` — controls, formats, separators other than the space, and private use
* `Text.IsPlainLine` — a text of printable characters, none of which is hidden

## Main results

* `Text.not_hidden_of_isPrintable` — no printable character is hidden
* `Text.allPrintable_quoted`, `Text.allPrintable_quotedBytes` — what is quoted is printable
* `Value.literalChars?_allPrintable` — so are the literals of all values
-/

namespace ClassQuota

namespace Text

/-- All of some characters are printable. -/
def AllPrintable (cs : List Char) : Prop := ∀ c ∈ cs, isPrintable c = true

-- The instance is given, since a search may find the one that goes through all characters.
instance (cs : List Char) : Decidable (AllPrintable cs) :=
  List.decidableBAll (fun c => isPrintable c = true) cs

section Characters

variable {c : Char} {cs ds : List Char}

@[simp] theorem allPrintable_nil : AllPrintable [] := List.forall_mem_nil _

@[simp] theorem allPrintable_cons :
    AllPrintable (c :: cs) ↔ isPrintable c = true ∧ AllPrintable cs :=
  List.forall_mem_cons

@[simp] theorem allPrintable_append :
    AllPrintable (cs ++ ds) ↔ AllPrintable cs ∧ AllPrintable ds :=
  List.forall_mem_append

theorem AllPrintable.mono (h : AllPrintable ds) (hsub : cs ⊆ ds) : AllPrintable cs :=
  fun c hc => h c (hsub hc)

theorem allPrintable_flatMap {α : Type} {xs : List α} {f : α → List Char}
    (h : ∀ x ∈ xs, AllPrintable (f x)) : AllPrintable (xs.flatMap f) := by
  intro c hc
  obtain ⟨x, hx, hcx⟩ := List.mem_flatMap.mp hc
  exact h x hx c hcx

theorem allPrintable_replicate (n : Nat) (h : isPrintable c = true) :
    AllPrintable (List.replicate n c) := by
  intro d hd
  rwa [List.eq_of_mem_replicate hd]

/-- Printable items stay printable with a printable separator between them. -/
theorem allPrintable_intercalate {separator : List Char} {items : List (List Char)}
    (hseparator : AllPrintable separator) (h : ∀ item ∈ items, AllPrintable item) :
    AllPrintable (separator.intercalate items) := by
  induction items with
  | nil => exact allPrintable_nil
  | cons item rest ih =>
    obtain ⟨hitem, hrest⟩ := List.forall_mem_cons.mp h
    cases rest with
    | nil => simpa [List.intercalate] using hitem
    | cons next others =>
      rw [List.intercalate_cons_cons, allPrintable_append, allPrintable_append]
      exact ⟨⟨hitem, hseparator⟩, ih hrest⟩

theorem isPrintable_of_isDigit (h : c.isDigit = true) : isPrintable c = true := by
  obtain ⟨hlow, hhigh⟩ := Char.isDigit_iff_toNat.mp h
  exact isPrintable_of_ascii ⟨Nat.le_trans (by decide) hlow, Nat.le_trans hhigh (by decide)⟩

end Characters

/-! ### Hidden characters -/

/-- The code points of controls, formats, separators other than the space, halves of surrogate
pairs and private use. -/
def hiddenRanges : List (Nat × Nat) := [
    (0x0, 0x1f), (0x7f, 0xa0), (0xad, 0xad), (0x600, 0x605), (0x61c, 0x61c), (0x6dd, 0x6dd),
    (0x70f, 0x70f), (0x890, 0x891), (0x8e2, 0x8e2), (0x1680, 0x1680), (0x180e, 0x180e),
    (0x2000, 0x200f), (0x2028, 0x202f), (0x205f, 0x2064), (0x2066, 0x206f), (0x3000, 0x3000),
    (0xd800, 0xf8ff), (0xfeff, 0xfeff), (0xfff9, 0xfffb), (0x110bd, 0x110bd), (0x110cd, 0x110cd),
    (0x13430, 0x13438), (0x1bca0, 0x1bca3), (0x1d173, 0x1d17a), (0xe0001, 0xe0001),
    (0xe0020, 0xe007f), (0xf0000, 0xffffd), (0x100000, 0x10fffd)]

/-- Whether a character is hidden. -/
def isHidden (c : Char) : Bool :=
  inRanges hiddenRanges c.toNat

/-- Whether ascending ranges leave out all code points from `low` to `high`. -/
def leavesOut : List (Nat × Nat) → (low high : Nat) → Bool
  | [], _, _ => true
  | (first, last) :: rest, low, high =>
    Nat.blt high first || (Nat.blt last low && leavesOut rest low high)

theorem inRanges_of_leavesOut {ranges : List (Nat × Nat)} {low high n : Nat}
    (h : leavesOut ranges low high = true) (hlow : low ≤ n) (hhigh : n ≤ high) :
    inRanges ranges n = false := by
  induction ranges with
  | nil => rfl
  | cons range rest ih =>
    obtain ⟨first, last⟩ := range
    simp only [leavesOut, Bool.or_eq_true, Bool.and_eq_true, Nat.blt_eq] at h
    by_cases hn : n < first
    · exact inRanges_of_lt rest hn
    · obtain hbefore | ⟨hafter, hrest⟩ := h
      · omega
      · have hlast : ¬n ≤ last := by omega
        simp [inRanges, hn, hlast, ih hrest]

theorem leavesOut_hiddenRanges :
    (hiddenRanges.all fun range => leavesOut printableRanges range.1 range.2) = true := by
  decide +kernel

/-- No printable character is hidden. -/
theorem not_hidden_of_isPrintable {c : Char} (h : isPrintable c = true) : isHidden c = false := by
  refine Bool.eq_false_iff.mpr fun hhidden => ?_
  obtain ⟨range, hrange, hlow, hhigh⟩ := exists_of_inRanges hhidden
  have hout := List.all_eq_true.mp leavesOut_hiddenRanges range hrange
  rw [isPrintable, inRanges_of_leavesOut hout hlow hhigh] at h
  cases h

/-- A text that stays on its line: its characters are printable, and so none of them is hidden. -/
structure IsPlainLine (s : String) : Prop where
  printable : ∀ c ∈ s.toList, isPrintable c = true
  visible : ∀ c ∈ s.toList, isHidden c = false

theorem IsPlainLine.of_allPrintable {s : String} (h : AllPrintable s.toList) : IsPlainLine s :=
  ⟨h, fun c hc => not_hidden_of_isPrintable (h c hc)⟩

/-! ### Quoted text -/

theorem isPrintable_hexDigit : ∀ n < 16, isPrintable (hexDigit n) = true := by decide

theorem allPrintable_hex (width n : Nat) : AllPrintable (hex width n) := by
  induction width with
  | zero => exact allPrintable_nil
  | succ width ih =>
    rw [hex, allPrintable_cons]
    exact ⟨isPrintable_hexDigit _ (Nat.mod_lt _ (by decide)), ih⟩

theorem isPrintable_quoteFor (cs : List Char) : isPrintable (quoteFor cs) = true := by
  rcases quoteFor_eq cs with h | h <;> rw [h] <;> decide

section Quoted

variable {quote : Char}

/-- A backslash and a printable character are printable. -/
theorem allPrintable_escaped {c : Char} (h : isPrintable c = true) : AllPrintable ['\\', c] := by
  simpa using ⟨by decide, h⟩

/-- A backslash, a letter and hexadecimal digits are printable. -/
theorem allPrintable_coded {mark : Char} (h : isPrintable mark = true) (width n : Nat) :
    AllPrintable ('\\' :: mark :: hex width n) := by
  rw [allPrintable_cons, allPrintable_cons]
  exact ⟨by decide, h, allPrintable_hex width n⟩

theorem allPrintable_escape (hquote : isPrintable quote = true) (c : Char) :
    AllPrintable (escape quote c) := by
  unfold escape
  split
  case isTrue h =>
    refine allPrintable_escaped ?_
    rcases h with rfl | rfl
    · exact hquote
    · decide
  split
  · decide
  split
  · decide
  split
  · decide
  split
  case isTrue h => simpa using h
  split
  · exact allPrintable_coded (by decide) 2 _
  split
  · exact allPrintable_coded (by decide) 4 _
  · exact allPrintable_coded (by decide) 8 _

/-- Half of a surrogate pair is written by its code point. -/
theorem allPrintable_escapeCode (hquote : isPrintable quote = true) (n : Nat) :
    AllPrintable (escapeCode quote n) := by
  unfold escapeCode
  split
  · exact allPrintable_escape hquote _
  · exact allPrintable_coded (by decide) 4 n

theorem allPrintable_escapeByte (hquote : isPrintable quote = true) (b : UInt8) :
    AllPrintable (escapeByte quote b) := by
  simp only [escapeByte]
  split
  case isTrue h =>
    refine allPrintable_escaped ?_
    rcases h with h | h <;> rw [h]
    · exact hquote
    · decide
  split
  · decide
  split
  · decide
  split
  · decide
  split
  case isTrue h =>
    have htoNat : (Char.ofNat b.toNat).toNat = b.toNat := by
      rw [Char.ofNat, dif_pos (.inl (by omega))]
      rfl
    have hascii : 0x20 ≤ (Char.ofNat b.toNat).toNat ∧ (Char.ofNat b.toNat).toNat ≤ 0x7e := by
      omega
    simpa using isPrintable_of_ascii hascii
  · exact allPrintable_coded (by decide) 2 _

/-- **A quoted text is printable.** -/
theorem allPrintable_quoted (cs : List Char) : AllPrintable (quoted cs) := by
  have hquote := isPrintable_quoteFor cs
  have hbody := allPrintable_flatMap fun c (_ : c ∈ cs) => allPrintable_escape hquote c
  simp [quoted, hquote, hbody]

theorem allPrintable_quotedCodes (ns : List Nat) : AllPrintable (quotedCodes ns) := by
  have hquote := isPrintable_quoteFor (ns.filterMap char?)
  have hbody := allPrintable_flatMap fun n (_ : n ∈ ns) => allPrintable_escapeCode hquote n
  simp [quotedCodes, hquote, hbody]

theorem allPrintable_quotedBytes (bs : List UInt8) : AllPrintable (quotedBytes bs) := by
  have hquote := isPrintable_quoteFor (bs.map fun b => Char.ofNat b.toNat)
  have hbody := allPrintable_flatMap fun b (_ : b ∈ bs) => allPrintable_escapeByte hquote b
  have hmark : isPrintable 'b' = true := by decide
  simp [quotedBytes, hquote, hbody, hmark]

end Quoted

end Text

open Text (AllPrintable allPrintable_append allPrintable_cons allPrintable_replicate
  allPrintable_intercalate isPrintable_of_isDigit)

/-! ### Numbers -/

theorem Numeral.allPrintable_repr (n : Nat) : AllPrintable n.repr.toList := by
  intro c hc
  rw [Nat.toList_repr] at hc
  exact isPrintable_of_isDigit (Nat.isDigit_of_mem_toDigits (by decide) (by decide) hc)

theorem Numeral.allPrintable_toString (n : Int) : AllPrintable (toString n).toList := by
  rw [Int.toString_eq_repr, Int.repr_eq_if]
  split
  · exact allPrintable_repr n.toNat
  · rw [String.toList_append, allPrintable_append]
    exact ⟨by decide, allPrintable_repr (-n).toNat⟩

namespace Binary64

/-- Digits, with zeros, a point and an exponent where they are called for. -/
theorem allPrintable_layOut (l : FloatLayout) (digits : Nat) (exponent : Int) :
    AllPrintable (layOut l digits exponent).toList := by
  have hdigits := Numeral.allPrintable_repr digits
  have hzeros (n : Nat) : AllPrintable (List.replicate n '0') :=
    allPrintable_replicate n (by decide)
  have hpoint : Text.isPrintable '.' = true := by decide
  simp only [layOut]
  split
  · split
    · simp only [String.toList_ofList, allPrintable_append]
      exact ⟨⟨by decide, hzeros _⟩, hdigits⟩
    · generalize hpadded : (Nat.repr digits).toList ++ List.replicate _ '0' = padded
      have h : AllPrintable padded := by
        rw [← hpadded, allPrintable_append]
        exact ⟨hdigits, hzeros _⟩
      simp only [String.toList_ofList, allPrintable_append, allPrintable_cons]
      refine ⟨h.mono (List.take_subset ..), hpoint, ?_⟩
      split
      · decide
      · exact h.mono (List.drop_subset ..)
  · have hfraction : AllPrintable (if (Nat.repr digits).toList.length = 1 then []
        else '.' :: (Nat.repr digits).toList.drop 1) := by
      split
      · exact Text.allPrintable_nil
      · exact allPrintable_cons.mpr ⟨hpoint, hdigits.mono (List.drop_subset ..)⟩
    have hsign (p : Prop) [Decidable p] : Text.isPrintable (if p then '-' else '+') = true := by
      split <;> decide
    simp only [String.toList_ofList, allPrintable_append, allPrintable_cons]
    exact ⟨⟨⟨hdigits.mono (List.take_subset ..), hfraction⟩, by decide, hsign _, hzeros _⟩,
      Numeral.allPrintable_repr _⟩

theorem allPrintable_text (x : Binary64) : AllPrintable x.text.toList := by
  cases x with
  | nan => decide
  | infinite negative => cases negative <;> decide
  | finite negative mantissa exponent =>
    have hsign : AllPrintable (if negative then "-" else "").toList := by
      cases negative <;> decide
    simp only [text]
    split
    · rw [String.toList_append, allPrintable_append]
      exact ⟨hsign, by decide⟩
    · rw [String.toList_append, allPrintable_append]
      exact ⟨hsign, allPrintable_layOut layout _ _⟩

end Binary64

/-! ### Dates and times -/

theorem allPrintable_numberList (ns : List Nat) : AllPrintable (numberList ns).toList := by
  rw [numberList, String.toList_intercalate, List.map_map]
  refine allPrintable_intercalate (by decide) ?_
  simp only [List.forall_mem_map, Function.comp_apply]
  exact fun n _ => Numeral.allPrintable_repr n

namespace Offset

/-- A length of time is written as integers after their names. -/
theorem allPrintable_lengthLiteral (seconds : Int) :
    AllPrintable (lengthLiteral seconds).toList := by
  have hpart (name : String) (hname : AllPrintable name.toList) (n : Int) :
      ∀ part ∈ (if n = 0 then [] else [name ++ toString n]), AllPrintable part.toList := by
    split
    · exact List.forall_mem_nil _
    · rw [List.forall_mem_singleton, String.toList_append, allPrintable_append]
      exact ⟨hname, Numeral.allPrintable_toString n⟩
  have hparts := List.forall_mem_append.mpr
    ⟨hpart "days=" (by decide) (seconds / 86400), hpart "seconds=" (by decide) (seconds % 86400)⟩
  unfold lengthLiteral
  extract_lets days rest parts
  have hlist : AllPrintable (if parts.isEmpty then "0" else ", ".intercalate parts).toList := by
    split
    · decide
    · rw [String.toList_intercalate]
      exact allPrintable_intercalate (by decide) (List.forall_mem_map.mpr hparts)
  simp only [String.toList_append, allPrintable_append]
  exact ⟨⟨by decide, hlist⟩, by decide⟩

theorem allPrintable_argument (offset : Option Int) : AllPrintable (argument offset).toList := by
  cases offset with
  | none => decide
  | some seconds =>
    simp only [argument, String.toList_append, allPrintable_append]
    refine ⟨by decide, ?_⟩
    rw [literal]
    split
    · decide
    · simp only [String.toList_append, allPrintable_append]
      exact ⟨⟨by decide, allPrintable_lengthLiteral seconds⟩, by decide⟩

end Offset

/-- A date or time is written as the call that builds it. -/
theorem allPrintable_call {name : String} (hname : AllPrintable name.toList) (ns : List Nat)
    (offset : Option Int) :
    AllPrintable (name ++ numberList ns ++ Offset.argument offset ++ ")").toList := by
  simp only [String.toList_append, allPrintable_append]
  exact ⟨⟨⟨hname, allPrintable_numberList ns⟩, Offset.allPrintable_argument offset⟩, by decide⟩

theorem Date.allPrintable_literal (d : Date) : AllPrintable d.literal.toList := by
  have hname : AllPrintable "datetime.date(".toList := by decide
  have h := allPrintable_call hname [d.year, d.month, d.day] none
  rwa [Offset.argument, String.append_empty] at h

theorem TimeOfDay.allPrintable_literal (t : TimeOfDay) : AllPrintable t.literal.toList :=
  allPrintable_call (by decide) t.arguments t.offset

theorem DateTime.allPrintable_literal (d : DateTime) : AllPrintable d.literal.toList :=
  allPrintable_call (by decide) _ d.time.offset

/-! ### Values -/

/-- Items with commas between them are items with a separator between them. -/
theorem commaSeparated_eq_intercalate (items : List (List Char)) :
    commaSeparated items = [',', ' '].intercalate items := by
  induction items with
  | nil => rfl
  | cons item rest ih =>
    cases rest with
    | nil => simp [commaSeparated, List.intercalate]
    | cons next others =>
      rw [List.intercalate_cons_cons, List.append_assoc, ← ih]
      rfl

theorem allPrintable_commaSeparated {items : List (List Char)}
    (h : ∀ item ∈ items, AllPrintable item) : AllPrintable (commaSeparated items) := by
  rw [commaSeparated_eq_intercalate]
  exact allPrintable_intercalate (by decide) h

namespace Value

/-- The items of a set are shown in some order, and no others are. -/
theorem mem_of_mem_inPlaces {α : Type} {items : List Value} {parts : List α} {part : α}
    (h : part ∈ inPlaces items parts) : part ∈ parts := by
  unfold inPlaces at h
  split at h
  · obtain ⟨placed, hplaced, rfl⟩ := List.mem_map.mp h
    exact (List.of_mem_zip (List.mem_mergeSort.mp hplaced)).2
  · exact h

mutual

/-- **The literal of a value is printable.** -/
theorem literalChars?_allPrintable : ∀ (v : Value) {cs : List Char},
    v.literalChars? = some cs → AllPrintable cs
  | .null, cs, h => by
    obtain rfl := Option.some.inj h
    decide
  | .bool b, cs, h => by
    obtain rfl := Option.some.inj h
    cases b <;> decide
  | .int n, cs, h => by
    obtain ⟨s, hs, rfl⟩ := Option.map_eq_some_iff.mp h
    obtain ⟨-, hwritten⟩ := Option.ite_none_right_eq_some.mp hs
    obtain rfl := Option.some.inj hwritten
    exact Numeral.allPrintable_toString n
  | .float x, cs, h => by
    obtain rfl := Option.some.inj h
    exact x.allPrintable_text
  | .text s, cs, h => by
    obtain rfl := Option.some.inj h
    exact Text.allPrintable_quoted _
  | .brokenText codes, cs, h => by
    obtain rfl := Option.some.inj h
    exact Text.allPrintable_quotedCodes codes
  | .bytes bs, cs, h => by
    obtain rfl := Option.some.inj h
    exact Text.allPrintable_quotedBytes bs
  | .list xs, cs, h => by
    obtain ⟨items, hitems, rfl⟩ := Option.map_eq_some_iff.mp h
    have hinside := allPrintable_commaSeparated (itemLiterals?_allPrintable xs hitems)
    simp only [allPrintable_append, allPrintable_cons]
    exact ⟨⟨by decide, hinside⟩, by decide⟩
  | .tuple xs, cs, h => by
    obtain ⟨items, hitems, rfl⟩ := Option.map_eq_some_iff.mp h
    have hinside := allPrintable_commaSeparated (itemLiterals?_allPrintable xs hitems)
    simp only [allPrintable_append, allPrintable_cons]
    refine ⟨⟨by decide, hinside⟩, ?_⟩
    split <;> decide
  | .set xs, cs, h => by
    obtain ⟨items, hitems, rfl⟩ := Option.map_eq_some_iff.mp h
    have hinside : AllPrintable (commaSeparated (inPlaces xs items)) :=
      allPrintable_commaSeparated fun item hitem =>
        itemLiterals?_allPrintable xs hitems item (mem_of_mem_inPlaces hitem)
    split
    · decide
    · simp only [allPrintable_append, allPrintable_cons]
      exact ⟨⟨by decide, hinside⟩, by decide⟩
  | .table es, cs, h => by
    obtain ⟨items, hitems, rfl⟩ := Option.map_eq_some_iff.mp h
    have hinside := allPrintable_commaSeparated (entryLiterals?_allPrintable es hitems)
    simp only [allPrintable_append, allPrintable_cons]
    exact ⟨⟨by decide, hinside⟩, by decide⟩
  | .recurrence ofTable, cs, h => by
    cases ofTable <;> obtain rfl := Option.some.inj h <;> decide
  | .date d, cs, h => by
    obtain rfl := Option.some.inj h
    exact d.allPrintable_literal
  | .dateTime d, cs, h => by
    obtain rfl := Option.some.inj h
    exact d.allPrintable_literal
  | .time t, cs, h => by
    obtain rfl := Option.some.inj h
    exact t.allPrintable_literal

/-- So are the literals of the items of a sequence. -/
theorem itemLiterals?_allPrintable : ∀ (xs : List Value) {items : List (List Char)},
    itemLiterals? xs = some items → ∀ item ∈ items, AllPrintable item
  | [], items, h => by
    obtain rfl := Option.some.inj h
    exact List.forall_mem_nil _
  | x :: xs, items, h => by
    rw [itemLiterals?] at h
    split at h
    next first others hfirst hothers =>
      obtain rfl := Option.some.inj h
      exact List.forall_mem_cons.mpr
        ⟨literalChars?_allPrintable x hfirst, itemLiterals?_allPrintable xs hothers⟩
    next => cases h

/-- So are the literals of the entries of a table. -/
theorem entryLiterals?_allPrintable : ∀ (es : Entries) {items : List (List Char)},
    entryLiterals? es = some items → ∀ item ∈ items, AllPrintable item
  | [], items, h => by
    obtain rfl := Option.some.inj h
    exact List.forall_mem_nil _
  | (k, v) :: es, items, h => by
    rw [entryLiterals?] at h
    split at h
    next key value others hkey hvalue hothers =>
      obtain rfl := Option.some.inj h
      refine List.forall_mem_cons.mpr ⟨?_, entryLiterals?_allPrintable es hothers⟩
      simp only [allPrintable_append, allPrintable_cons]
      exact ⟨literalChars?_allPrintable k hkey, by decide, by decide,
        literalChars?_allPrintable v hvalue⟩
    next => cases h

end

end Value

end ClassQuota
