import ClassQuota.Text.Ranges

/-!
# Blanks

Two classes of blank characters differ by four information separators. Text that comes from a
configuration is trimmed of the wider class before it is read; a number written on a command
line may be surrounded by the narrower class only.

## Main definitions

* `isSpace` — the characters with the property White_Space
* `isBlank` — those and the information separators U+001C to U+001F
* `trim` — text without leading and trailing characters of a class
-/

namespace ClassQuota

namespace Text

/-- The code points with the property White_Space. -/
def spaceRanges : List (Nat × Nat) :=
  [(0x09, 0x0d), (0x20, 0x20), (0x85, 0x85), (0xa0, 0xa0), (0x1680, 0x1680), (0x2000, 0x200a),
    (0x2028, 0x2029), (0x202f, 0x202f), (0x205f, 0x205f), (0x3000, 0x3000)]

/-- Whether a character has the property White_Space. -/
def isSpace (c : Char) : Bool :=
  inRanges spaceRanges c.toNat

/-- Whether a character is white space or one of the four information separators. -/
def isBlank (c : Char) : Bool :=
  isSpace c || (0x1c ≤ c.toNat && c.toNat ≤ 0x1f)

/-- The characters without those of the class `p` at either end. -/
def trim (p : Char → Bool) (cs : List Char) : List Char :=
  ((cs.dropWhile p).reverse.dropWhile p).reverse

theorem isBlank_of_isSpace {c : Char} (h : isSpace c = true) : isBlank c = true := by
  simp [isBlank, h]

variable {p q : Char → Bool} {cs : List Char}

theorem not_of_head?_dropWhile {c : Char} (h : (cs.dropWhile p).head? = some c) : p c = false := by
  have hnot := List.head?_dropWhile_not p cs
  rwa [h] at hnot

theorem dropWhile_eq_self (h : ∀ c, cs.head? = some c → p c = false) : cs.dropWhile p = cs := by
  cases cs with
  | nil => rfl
  | cons c rest => simp [List.dropWhile, h c rfl]

/-- What trimming takes off at the back follows what it leaves. -/
theorem trim_append_takeWhile (p : Char → Bool) (cs : List Char) :
    trim p cs ++ ((cs.dropWhile p).reverse.takeWhile p).reverse = cs.dropWhile p := by
  rw [trim, ← List.reverse_append, List.takeWhile_append_dropWhile, List.reverse_reverse]

/-- A text is what trimming leaves of it between characters of the class. -/
theorem exists_trim (p : Char → Bool) (cs : List Char) :
    ∃ before after, cs = before ++ trim p cs ++ after ∧
      (∀ c ∈ before, p c = true) ∧ ∀ c ∈ after, p c = true := by
  have htake (xs : List Char) : ∀ c ∈ xs.takeWhile p, p c = true :=
    List.all_eq_true.mp List.all_takeWhile
  refine ⟨cs.takeWhile p, ((cs.dropWhile p).reverse.takeWhile p).reverse, ?_, htake cs, ?_⟩
  · rw [List.append_assoc, trim_append_takeWhile, List.takeWhile_append_dropWhile]
  · exact fun c hc => htake _ c (List.mem_reverse.mp hc)

theorem not_of_head?_trim {c : Char} (h : (trim p cs).head? = some c) : p c = false := by
  have hfirst : (cs.dropWhile p).head? = some c := by
    rw [← trim_append_takeWhile, List.head?_append, h]
    rfl
  exact not_of_head?_dropWhile hfirst

theorem not_of_getLast?_trim {c : Char} (h : (trim p cs).getLast? = some c) : p c = false := by
  rw [trim, List.getLast?_reverse] at h
  exact not_of_head?_dropWhile h

/-- Trimming takes all characters of the class off a text that has none at its ends. -/
theorem trim_append {before core after : List Char} (hbefore : ∀ c ∈ before, p c = true)
    (hafter : ∀ c ∈ after, p c = true) (hfirst : ∀ c, core.head? = some c → p c = false)
    (hlast : ∀ c, core.getLast? = some c → p c = false) :
    trim p (before ++ core ++ after) = core := by
  have hfront : (before ++ core ++ after).dropWhile p = (core ++ after).dropWhile p := by
    rw [List.append_assoc, List.dropWhile_append_of_pos hbefore]
  have hback : (core ++ after).reverse.dropWhile p = core.reverse := by
    rw [List.reverse_append,
      List.dropWhile_append_of_pos fun c hc => hafter c (List.mem_reverse.mp hc)]
    exact dropWhile_eq_self fun c hc => hlast c (by rwa [List.head?_reverse] at hc)
  cases core with
  | nil =>
    have hnone : after.dropWhile p = [] := by
      rw [← List.append_nil after, List.dropWhile_append_of_pos hafter, List.dropWhile_nil]
    rw [trim, hfront, List.nil_append, hnone]
    rfl
  | cons c rest =>
    have hself : (c :: rest ++ after).dropWhile p = c :: rest ++ after :=
      dropWhile_eq_self fun d hd => hfirst d (by simpa using hd)
    rw [trim, hfront, hself, hback, List.reverse_reverse]

/-- Characters already free of the class at both ends are kept as they are. -/
theorem trim_eq_self (hfirst : ∀ c, cs.head? = some c → p c = false)
    (hlast : ∀ c, cs.getLast? = some c → p c = false) : trim p cs = cs := by
  have h : trim p ([] ++ cs ++ []) = cs := trim_append (by simp) (by simp) hfirst hlast
  rwa [List.nil_append, List.append_nil] at h

/-- Once a wider class is trimmed off, trimming a narrower one changes nothing. -/
theorem trim_trim (h : ∀ c, q c = true → p c = true) : trim q (trim p cs) = trim p cs := by
  have hnot (c : Char) (hc : p c = false) : q c = false :=
    Bool.eq_false_iff.mpr fun hq => by simp [h c hq] at hc
  exact trim_eq_self (fun c hc => hnot c (not_of_head?_trim hc))
    fun c hc => hnot c (not_of_getLast?_trim hc)

end Text

end ClassQuota
