import ClassQuota.Registry

/-!
# The plain text of a value

A value that is shown leaves a mark: its literal is never the empty text, and its plain text is
empty only for the empty text itself. So a value that counts as present is shown as something, in
whichever way it is read.

## Main definitions

* `Registry.Reader.IsStandard` — the two ways in which values are read

## Main results

* `Value.literal?_ne_empty`, `Value.plain?_ne_empty` — what is shown is not empty
* `Registry.Reader.IsStandard.plain?_ne_empty` — the same for values that are read
-/

namespace ClassQuota

theorem Binary64.layOut_ne_empty (l : FloatLayout) (digits : Nat) (exponent : Int) :
    layOut l digits exponent ≠ "" := by
  rw [layOut]
  split
  · split <;> simp
  · simp

theorem Binary64.text_ne_empty (x : Binary64) : x.text ≠ "" := by
  cases x with
  | nan => decide
  | infinite negative => cases negative <;> decide
  | finite negative mantissa exponent =>
    simp only [text]
    split
    · simp
    · simp [layOut_ne_empty]

theorem append_ne_empty {s : String} (h : s ≠ "") (t : String) : s ++ t ≠ "" :=
  fun happend => h (String.append_eq_empty_iff.mp happend).1

/-- A date or time is written as the call that builds it, which has a name. -/
theorem call_ne_empty {name : String} (h : name ≠ "") (arguments rest : String) :
    name ++ arguments ++ rest ≠ "" :=
  append_ne_empty (append_ne_empty h arguments) rest

theorem Date.literal_ne_empty (d : Date) : d.literal ≠ "" :=
  call_ne_empty (by decide) _ _

theorem TimeOfDay.literal_ne_empty (t : TimeOfDay) : t.literal ≠ "" :=
  append_ne_empty (call_ne_empty (by decide) _ _) _

theorem DateTime.literal_ne_empty (d : DateTime) : d.literal ≠ "" :=
  append_ne_empty (call_ne_empty (by decide) _ _) _

theorem Numeral.repr_ne_empty (n : Int) : n.repr ≠ "" := by
  rw [Int.repr_eq_if]
  split <;> simp [Nat.repr_ne_empty]

/-- A text with code points is shown as some characters. -/
theorem Text.joined_ne_nil {codes : List Nat} (h : codes ≠ []) : Text.joined codes ≠ [] := by
  match codes with
  | [n] => exact List.cons_ne_nil _ _
  | m :: n :: ns =>
    rw [Text.joined]
    split <;> exact List.cons_ne_nil _ _

namespace Value

/-- No value is shown as nothing. -/
theorem literalChars?_ne_some_nil (v : Value) : v.literalChars? ≠ some [] := by
  cases v with
  | null => simp [literalChars?]
  | bool b => cases b <;> simp [literalChars?]
  | int n => simp [literalChars?, Numeral.write, Numeral.repr_ne_empty]
  | float x => simp [literalChars?, Binary64.text_ne_empty]
  | text s => simp [literalChars?, Text.quoted]
  | brokenText codes => simp [literalChars?, Text.quotedCodes]
  | bytes bs => simp [literalChars?, Text.quotedBytes]
  | list xs | tuple xs | table entries => simp [literalChars?]
  | set xs =>
    simp only [literalChars?, ne_eq, Option.map_eq_some_iff, not_exists, not_and]
    intro items _
    split <;> simp
  | recurrence ofTable => cases ofTable <;> simp [literalChars?]
  | date d => simp [literalChars?, Date.literal_ne_empty]
  | dateTime d => simp [literalChars?, DateTime.literal_ne_empty]
  | time t => simp [literalChars?, TimeOfDay.literal_ne_empty]

theorem literal?_ne_empty {v : Value} {s : String} (h : v.literal? = some s) : s ≠ "" := by
  rintro rfl
  obtain ⟨cs, hcs, hnil⟩ := Option.map_eq_some_iff.mp h
  obtain rfl : cs = [] := by simpa using hnil
  exact literalChars?_ne_some_nil v hcs

/-- A value that counts as present is shown plain as some text. -/
theorem plain?_ne_empty {v : Value} (htrue : v.isTrue = true) {s : String}
    (h : v.plain? = some s) : s ≠ "" := by
  cases v with
  | text t =>
    obtain rfl := Option.some.inj h
    simpa [isTrue] using htrue
  | brokenText codes =>
    obtain rfl := Option.some.inj h
    have hcodes : codes ≠ [] := by simpa [isTrue] using htrue
    simpa using Text.joined_ne_nil hcodes
  | date d =>
    obtain rfl := Option.some.inj h
    simp [Date.iso]
  | dateTime d =>
    obtain rfl := Option.some.inj h
    simp [DateTime.iso]
  | time t =>
    obtain rfl := Option.some.inj h
    simp [TimeOfDay.iso]
  | _ => exact literal?_ne_empty h

end Value

namespace Registry

/-- The two ways in which the values of a registry are read. -/
inductive Reader.IsStandard : {α : Type} → Reader α → Prop
  | plain : IsStandard .plain
  | shared (objects : Objects) : IsStandard (.shared objects)

/-- What an object stands for is no text, and no date or time. -/
theorem plain?_outline_object {objects : Objects} {id : Nat} {s : String}
    (h : ((Ref.object id).outline objects).plain? = some s) : s ≠ "" := by
  simp only [Ref.outline, Ref.depthBound, Ref.outlineFrom, List.contains_nil] at h
  cases hid : objects[id]? with
  | none =>
    rw [hid] at h
    exact Value.literal?_ne_empty h
  | some object =>
    rw [hid] at h
    cases object <;> exact Value.literal?_ne_empty h

/-- A value that counts as present is shown plain as some text, in whichever way it is read. -/
theorem Reader.IsStandard.plain?_ne_empty {α : Type} {reader : Reader α} (h : reader.IsStandard)
    {v : α} (htrue : reader.isTrue v = true) {s : String} (hs : reader.plain? v = some s) :
    s ≠ "" := by
  cases h with
  | plain => exact Value.plain?_ne_empty htrue hs
  | shared objects =>
    cases v with
    | value v => exact Value.plain?_ne_empty htrue hs
    | pair first second => exact Value.literal?_ne_empty (v := .tuple [_, _]) hs
    | object id => exact plain?_outline_object hs

end Registry

end ClassQuota
