/-!
# Fields of a text

A separator divides a text into fields. There is always at least one field, and separators side
by side have an empty field between them. A text may be given by characters or by code points.

## Main definitions

* `Text.fields` — the fields of a text

## Main results

* `Text.fields_of_not_mem` — a text without separators is its only field
-/

namespace ClassQuota

namespace Text

variable {α : Type}

/-- A character in front of the first of some fields. -/
def extendFirst (c : α) : List (List α) → List (List α)
  | [] => [[c]]
  | field :: others => (c :: field) :: others

variable [DecidableEq α]

/-- The parts of a text between separators. -/
def fields (separator : α) : List α → List (List α)
  | [] => [[]]
  | c :: cs =>
    if c = separator then [] :: fields separator cs else extendFirst c (fields separator cs)

/-- A text without separators is its only field. -/
theorem fields_of_not_mem {separator : α} {cs : List α} (h : separator ∉ cs) :
    fields separator cs = [cs] := by
  induction cs with
  | nil => rfl
  | cons c cs ih =>
    rw [List.mem_cons, not_or] at h
    rw [fields, if_neg (Ne.symm h.1), ih h.2, extendFirst]

end Text

end ClassQuota
