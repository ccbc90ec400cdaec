import ClassQuota.Registry

/-!
# Looking up an entry

A registry answers a code with the entry under the key of the code. If nothing there is an entry,
its items are passed one by one, up to the first entry that has the code as its symbol, or to the
first key that is no text, where the look-up fails. An item that is passed does not matter, and
neither does what comes after the end of the search. An answer is the fields of an entry, not the
place that holds them. All of this is said for any way of reading a registry, so for plain values
and for those that share objects alike.

The order of the items then matters only where two entries have the same symbol or a key is no
text.

## Main definitions

* `Registry.IsText`, `Registry.IsMarked` — the keys that are texts, and those of messages
* `Registry.Named` — the items that are entries with a symbol
* `Registry.Passed` — the items that a search goes on from
* `Registry.Ends` — the three ways in which a search can end
* `Registry.direct?` — the entry under the key of a code

## Main results

* `Registry.findSymbol?_cons_of_passed`, `Registry.findSymbol?_cons_of_named`,
  `Registry.findSymbol?_cons_of_not_isText` — a search, item by item
* `Registry.findSymbol?_ends` — how a search ends
* `Registry.findSymbol?_of_mem` — where symbols are not repeated, any entry is found by its own
* `Registry.findBy_eq_first_named` — what a look-up answers, and when the order does not matter
-/

namespace ClassQuota

/-! ### Keys that are held once -/

/-- Where no key is held twice, a name is found with what it is held with. -/
theorem Value.find?_eq_some_iff_mem {α : Type} {entries : List (Value × α)}
    (hn : (entries.map Prod.fst).Nodup) {name : String} {value : α} :
    Value.find? name entries = some value ↔ (.text name, value) ∈ entries := by
  induction entries with
  | nil => simp [Value.find?]
  | cons e rest ih =>
    obtain ⟨k, v⟩ := e
    rw [List.map_cons, List.nodup_cons] at hn
    by_cases hk : k = .text name
    · subst hk
      have hrest : (.text name, value) ∉ rest := fun h => hn.1 (List.mem_map.mpr ⟨_, h, rfl⟩)
      simp [Value.find?, hrest, eq_comm]
    · have hskip : Value.find? name ((k, v) :: rest) = Value.find? name rest := by
        cases k <;> simp_all [Value.find?]
      rw [hskip, ih hn.2, List.mem_cons, Prod.mk.injEq]
      exact ⟨.inr, fun h => h.resolve_left fun hkey => hk hkey.1.symm⟩

/-- Where no key is held twice, the order of the entries does not matter. -/
theorem Value.find?_eq_of_perm {α : Type} {entries others : List (Value × α)}
    (hn : (entries.map Prod.fst).Nodup) (hp : others.Perm entries) (name : String) :
    Value.find? name others = Value.find? name entries := by
  have hn' : (others.map Prod.fst).Nodup := ((hp.map Prod.fst).nodup_iff).mpr hn
  refine Option.ext fun value => ?_
  rw [Value.find?_eq_some_iff_mem hn', Value.find?_eq_some_iff_mem hn, hp.mem_iff]

namespace Registry

/-! ### Keys and entries -/

/-- The keys that are texts. -/
inductive IsText : Value → Prop
  | text (s : String) : IsText (.text s)
  | brokenText (codes : List Nat) : IsText (.brokenText codes)

/-- The keys that begin as the keys of messages do. -/
inductive IsMarked : Value → Prop
  | text (rest : String) : IsMarked (.text (keyBeginning ++ rest))
  | brokenText (rest : List Nat) :
    IsMarked (.brokenText (Text.codes keyBeginning.toList ++ rest))

theorem isMarked_text_iff {key : String} : IsMarked (.text key) ↔ isMessageKey key = true := by
  rw [isMessageKey, List.isPrefixOf_iff_prefix]
  constructor
  · intro h
    cases h with
    | text rest => exact ⟨rest.toList, by rw [String.toList_append]⟩
  · rintro ⟨rest, h⟩
    obtain rfl : key = keyBeginning ++ String.ofList rest := by
      rw [← String.toList_inj, ← h, String.toList_append, String.toList_ofList]
    exact .text _

/-- Only texts can be asked how they begin. -/
theorem beginsAsMessageKey_of_not_isText {key : Value} (h : ¬IsText key) :
    ∃ fault, beginsAsMessageKey key = .error fault := by
  cases key with
  | text s => exact absurd (.text s) h
  | brokenText codes => exact absurd (.brokenText codes) h
  | _ => exact ⟨_, rfl⟩

theorem beginsAsMessageKey_of_isText {key : Value} (h : IsText key) :
    ∃ isMarked, beginsAsMessageKey key = .ok isMarked ∧ (isMarked = true ↔ IsMarked key) := by
  cases h with
  | text s => exact ⟨_, rfl, isMarked_text_iff.symm⟩
  | brokenText codes =>
    refine ⟨_, rfl, List.isPrefixOf_iff_prefix.trans ⟨?_, ?_⟩⟩
    · rintro ⟨rest, rfl⟩
      exact .brokenText rest
    · intro hmarked
      cases hmarked with
      | brokenText rest => exact ⟨rest, rfl⟩

theorem IsMarked.isText {key : Value} (h : IsMarked key) : IsText key := by
  cases h with
  | text rest => exact .text _
  | brokenText rest => exact .brokenText _

section Reading

variable {α : Type} {reader : Reader α} {symbol code : String} {e : Value × α}
  {fields : List (Value × α)} {rest entries : List (Value × α)}

/-- An item that is an entry with a symbol: its key is that of a message, its value is a table, and
the field for the symbol is that text. -/
structure Named (reader : Reader α) (symbol : String) (e : Value × α)
    (fields : List (Value × α)) : Prop where
  key : IsMarked e.1
  value : reader.fields? e.2 = some fields
  symbol : ∃ v, Value.find? "symbol" fields = some v ∧ reader.text? v = some symbol

/-- An item that a search for a symbol goes on from. -/
structure Passed (reader : Reader α) (symbol : String) (e : Value × α) : Prop where
  key : IsText e.1
  other : ∀ fields, ¬Named reader symbol e fields

theorem hasSymbol_iff :
    hasSymbol reader symbol fields = true ↔
      ∃ v, Value.find? "symbol" fields = some v ∧ reader.text? v = some symbol := by
  simp only [hasSymbol, Option.any_eq_true, Option.bind_eq_some_iff, beq_iff_eq]
  constructor
  · rintro ⟨s, ⟨v, hv, hs⟩, rfl⟩
    exact ⟨v, hv, hs⟩
  · rintro ⟨v, hv, hs⟩
    exact ⟨symbol, ⟨v, hv, hs⟩, rfl⟩

/-! ### One item of a search -/

theorem findSymbol?_cons_of_not_isText (h : ¬IsText e.1) :
    ∃ fault, findSymbol? reader symbol (e :: rest) = .error fault := by
  obtain ⟨fault, hfault⟩ := beginsAsMessageKey_of_not_isText h
  exact ⟨fault, by rw [findSymbol?, hfault]; rfl⟩

theorem findSymbol?_cons_of_named (h : Named reader symbol e fields) :
    findSymbol? reader symbol (e :: rest) = .ok (some fields) := by
  obtain ⟨isMarked, hbegins, hmarked⟩ := beginsAsMessageKey_of_isText h.key.isText
  rw [findSymbol?, hbegins, h.value]
  simp only [bind, Except.bind, hmarked.mpr h.key, hasSymbol_iff.mpr h.symbol, Bool.and_self,
    if_true]

theorem findSymbol?_cons_of_passed (h : Passed reader symbol e) :
    findSymbol? reader symbol (e :: rest) = findSymbol? reader symbol rest := by
  obtain ⟨isMarked, hbegins, hmarked⟩ := beginsAsMessageKey_of_isText h.key
  rw [findSymbol?, hbegins]
  cases hvalue : reader.fields? e.2 with
  | none => rfl
  | some fields =>
    have hother : ¬(isMarked && hasSymbol reader symbol fields) = true := by
      rw [Bool.and_eq_true, hmarked, hasSymbol_iff]
      exact fun ⟨hkey, hsymbol⟩ => h.other fields ⟨hkey, hvalue, hsymbol⟩
    simp only [bind, Except.bind, if_neg hother]

/-- An item ends a search with an entry or with a fault, or it is passed. -/
theorem passed_or (reader : Reader α) (symbol : String) (e : Value × α) :
    Passed reader symbol e ∨ (∃ fields, Named reader symbol e fields) ∨ ¬IsText e.1 := by
  by_cases hkey : IsText e.1
  · by_cases hnamed : ∃ fields, Named reader symbol e fields
    · exact .inr (.inl hnamed)
    · exact .inl ⟨hkey, not_exists.mp hnamed⟩
  · exact .inr (.inr hkey)

/-! ### A search -/

theorem findSymbol?_append {before : List (Value × α)}
    (h : ∀ x ∈ before, Passed reader symbol x) :
    findSymbol? reader symbol (before ++ rest) = findSymbol? reader symbol rest := by
  induction before with
  | nil => rfl
  | cons x before ih =>
    rw [List.forall_mem_cons] at h
    rw [List.cons_append, findSymbol?_cons_of_passed h.1, ih h.2]

/-- How a search can end: all items are passed, or an entry with the symbol or a key that is no text
stands behind items that are. -/
def Ends (reader : Reader α) (symbol : String) (entries : List (Value × α)) :
    Except Fault (Option (List (Value × α))) → Prop
  | .ok none => ∀ x ∈ entries, Passed reader symbol x
  | .ok (some fields) => ∃ before e after, entries = before ++ e :: after ∧
      (∀ x ∈ before, Passed reader symbol x) ∧ Named reader symbol e fields
  | .error _ => ∃ before e after, entries = before ++ e :: after ∧
      (∀ x ∈ before, Passed reader symbol x) ∧ ¬IsText e.1

/-- An item that is passed may be put before the others. -/
theorem Ends.cons {outcome : Except Fault (Option (List (Value × α)))}
    (h : Ends reader symbol entries outcome) (he : Passed reader symbol e) :
    Ends reader symbol (e :: entries) outcome := by
  match outcome, h with
  | .ok none, h => exact List.forall_mem_cons.mpr ⟨he, h⟩
  | .ok (some _), ⟨before, x, after, hsplit, hbefore, hx⟩
  | .error _, ⟨before, x, after, hsplit, hbefore, hx⟩ =>
    exact ⟨e :: before, x, after, congrArg (e :: ·) hsplit,
      List.forall_mem_cons.mpr ⟨he, hbefore⟩, hx⟩

/-- **How a search ends.** -/
theorem findSymbol?_ends (reader : Reader α) (symbol : String) (entries : List (Value × α)) :
    Ends reader symbol entries (findSymbol? reader symbol entries) := by
  induction entries with
  | nil => exact List.forall_mem_nil _
  | cons e rest ih =>
    obtain hpassed | ⟨fields, hnamed⟩ | hkey := passed_or reader symbol e
    · rw [findSymbol?_cons_of_passed hpassed]
      exact ih.cons hpassed
    · rw [findSymbol?_cons_of_named hnamed]
      exact ⟨[], e, rest, rfl, List.forall_mem_nil _, hnamed⟩
    · obtain ⟨fault, hfault⟩ := findSymbol?_cons_of_not_isText hkey
      rw [hfault]
      exact ⟨[], e, rest, rfl, List.forall_mem_nil _, hkey⟩

theorem findSymbol?_eq_some_iff :
    findSymbol? reader symbol entries = .ok (some fields) ↔
      ∃ before e after, entries = before ++ e :: after ∧
        (∀ x ∈ before, Passed reader symbol x) ∧ Named reader symbol e fields := by
  constructor
  · intro h
    have hends := findSymbol?_ends reader symbol entries
    rwa [h] at hends
  · rintro ⟨before, e, after, rfl, hbefore, hnamed⟩
    rw [findSymbol?_append hbefore, findSymbol?_cons_of_named hnamed]

theorem findSymbol?_eq_none_iff :
    findSymbol? reader symbol entries = .ok none ↔ ∀ x ∈ entries, Passed reader symbol x := by
  constructor
  · intro h
    have hends := findSymbol?_ends reader symbol entries
    rwa [h] at hends
  · intro h
    have hend : findSymbol? reader symbol (entries ++ []) = findSymbol? reader symbol [] :=
      findSymbol?_append h
    rwa [List.append_nil] at hend

/-- A search fails exactly if a key is no text that stands before any entry with the symbol. -/
theorem findSymbol?_eq_error_iff :
    (∃ fault, findSymbol? reader symbol entries = .error fault) ↔
      ∃ before e after, entries = before ++ e :: after ∧
        (∀ x ∈ before, ∀ fields, ¬Named reader symbol x fields) ∧ ¬IsText e.1 := by
  constructor
  · rintro ⟨fault, h⟩
    have hends := findSymbol?_ends reader symbol entries
    rw [h] at hends
    obtain ⟨before, e, after, hsplit, hbefore, hkey⟩ := hends
    exact ⟨before, e, after, hsplit, fun x hx => (hbefore x hx).other, hkey⟩
  · -- Some of the keys before may be no texts either; the search then fails at the first of them.
    rintro ⟨before, e, after, rfl, hbefore, hkey⟩
    induction before with
    | nil => exact findSymbol?_cons_of_not_isText hkey
    | cons x before ih =>
      rw [List.forall_mem_cons] at hbefore
      obtain hpassed | ⟨found, hnamed⟩ | hxkey := passed_or reader symbol x
      · rw [List.cons_append, findSymbol?_cons_of_passed hpassed]
        exact ih hbefore.2
      · exact absurd hnamed (hbefore.1 found)
      · exact findSymbol?_cons_of_not_isText hxkey

/-! ### Symbols that are not repeated -/

/-- At most one item is an entry with the symbol. -/
def NamedOnce (reader : Reader α) (symbol : String) (entries : List (Value × α)) : Prop :=
  ∀ x ∈ entries, ∀ y ∈ entries, ∀ f g,
    Named reader symbol x f → Named reader symbol y g → x = y

/-- Where all keys are texts a search does not fail. -/
theorem findSymbol?_ne_error (htext : ∀ x ∈ entries, IsText x.1) (fault : Fault) :
    findSymbol? reader symbol entries ≠ .error fault := by
  intro h
  obtain ⟨before, e, after, rfl, -, hkey⟩ := findSymbol?_eq_error_iff.mp ⟨fault, h⟩
  exact hkey (htext e (by simp))

/-- Where all keys are texts, the one entry with a symbol is found by it. -/
theorem findSymbol?_of_mem (htext : ∀ x ∈ entries, IsText x.1)
    (honce : NamedOnce reader symbol entries) (he : e ∈ entries)
    (hnamed : Named reader symbol e fields) :
    findSymbol? reader symbol entries = .ok (some fields) := by
  rcases hend : findSymbol? reader symbol entries with fault | _ | found
  · exact absurd hend (findSymbol?_ne_error htext fault)
  · exact absurd hnamed ((findSymbol?_eq_none_iff.mp hend e he).other fields)
  · obtain ⟨before, x, after, rfl, -, hxnamed⟩ := findSymbol?_eq_some_iff.mp hend
    obtain rfl : x = e := honce x (by simp) e he found fields hxnamed hnamed
    rw [← hxnamed.value, hnamed.value]

/-- Where all keys are texts and the symbol is not repeated, a search comes to the same end in any
order of the items. -/
theorem findSymbol?_eq_of_perm (htext : ∀ x ∈ entries, IsText x.1)
    (honce : NamedOnce reader symbol entries) {others : List (Value × α)}
    (hp : others.Perm entries) :
    findSymbol? reader symbol others = findSymbol? reader symbol entries := by
  rcases hend : findSymbol? reader symbol entries with fault | _ | found
  · exact absurd hend (findSymbol?_ne_error htext fault)
  · rw [findSymbol?_eq_none_iff] at hend ⊢
    exact fun x hx => hend x (hp.mem_iff.mp hx)
  · obtain ⟨before, e, after, rfl, -, hnamed⟩ := findSymbol?_eq_some_iff.mp hend
    refine findSymbol?_of_mem ?_ ?_ (hp.mem_iff.mpr (by simp)) hnamed
    · exact fun x hx => htext x (hp.mem_iff.mp hx)
    · exact fun x hx y hy => honce x (hp.mem_iff.mp hx) y (hp.mem_iff.mp hy)

/-! ### A look-up -/

/-- The entry under the key of a code. -/
def direct? (reader : Reader α) (code : String) (entries : List (Value × α)) :
    Option (List (Value × α)) :=
  (Value.find? (keyBeginning ++ code) entries).bind reader.fields?

theorem findBy_of_direct {registry : α} (hr : reader.fields? registry = some entries)
    (hd : direct? reader code entries = some fields) :
    findBy reader registry code = .ok (some fields) := by
  rw [direct?] at hd
  rw [findBy, hr]
  simp only [hd]

theorem findBy_of_no_direct {registry : α} (hr : reader.fields? registry = some entries)
    (hd : direct? reader code entries = none) :
    findBy reader registry code = findSymbol? reader code entries := by
  rw [direct?] at hd
  rw [findBy, hr]
  simp only [hd]

/-- **What a look-up answers.** For any registry and code,

* an entry under the key of the code is the answer, whatever else the registry holds;
* without one, the answer is the first entry that has the code as its symbol, if all keys before it
  are texts;
* the look-up fails exactly if there is no entry under the key of the code and a key is no text
  that stands before any entry with that symbol;
* there is no answer exactly if there is no entry of either kind and all keys are texts.

Where all keys are texts, none is held twice, and at most one entry has the code as its symbol, the
answer is the same in any order of the items, and that one entry is found unless another is under
the key of the code. -/
theorem findBy_eq_first_named (reader : Reader α) {registry : α} {entries : List (Value × α)}
    (hr : reader.fields? registry = some entries) (code : String) :
    (∀ fields, direct? reader code entries = some fields →
        findBy reader registry code = .ok (some fields)) ∧
      (direct? reader code entries = none → ∀ fields,
        (findBy reader registry code = .ok (some fields) ↔
          ∃ before e after, entries = before ++ e :: after ∧
            (∀ x ∈ before, Passed reader code x) ∧ Named reader code e fields)) ∧
      ((∃ fault, findBy reader registry code = .error fault) ↔
        direct? reader code entries = none ∧
          ∃ before e after, entries = before ++ e :: after ∧
            (∀ x ∈ before, ∀ fields, ¬Named reader code x fields) ∧ ¬IsText e.1) ∧
      (findBy reader registry code = .ok none ↔
        direct? reader code entries = none ∧ ∀ x ∈ entries, Passed reader code x) ∧
      ((∀ x ∈ entries, IsText x.1) → (entries.map Prod.fst).Nodup →
        NamedOnce reader code entries →
          (∀ other others, reader.fields? other = some others → others.Perm entries →
            findBy reader other code = findBy reader registry code) ∧
          (direct? reader code entries = none → ∀ e ∈ entries, ∀ fields,
            Named reader code e fields → findBy reader registry code = .ok (some fields))) := by
  cases hd : direct? reader code entries with
  | some found =>
    have hfound := findBy_of_direct hr hd
    refine ⟨?_, by simp, by simp [hfound], by simp [hfound], fun _ hn _ => ⟨?_, by simp⟩⟩
    · rintro fields ⟨⟩
      exact hfound
    · intro other others hother hp
      have hd' : direct? reader code others = some found := by
        rw [← hd, direct?, direct?, Value.find?_eq_of_perm hn hp]
      rw [hfound, findBy_of_direct hother hd']
  | none =>
    rw [findBy_of_no_direct hr hd]
    refine ⟨by simp, fun _ fields => findSymbol?_eq_some_iff, ?_, ?_,
      fun htext hn honce => ⟨?_, ?_⟩⟩
    · rw [findSymbol?_eq_error_iff, eq_self, true_and]
    · rw [findSymbol?_eq_none_iff, eq_self, true_and]
    · intro other others hother hp
      have hd' : direct? reader code others = none := by
        rw [← hd, direct?, direct?, Value.find?_eq_of_perm hn hp]
      rw [findBy_of_no_direct hother hd', findSymbol?_eq_of_perm htext honce hp]
    · exact fun _ e he fields hnamed => findSymbol?_of_mem htext honce he hnamed

end Reading

/-- The value under the key of the code is no entry, and the entry with the symbol under another
kind of key does not count. The third item is found, before the key that is no text; and without
that key it is found in the reverse order too. -/
theorem findBy_eq_first_named_too_many :
    let fields := [(Value.text "symbol", Value.text "too-many")]
    let items := [(Value.text "public-types.too-many", Value.int 1),
      (.text "other.C1", .table fields), (.text "public-types.C1", .table fields)]
    Reader.plain.fields? (.table (items ++ [(.int 3, .null)])) =
        some (items ++ [(.int 3, .null)]) ∧
      Reader.plain.fields? (.table items) = some items ∧
      direct? .plain "too-many" items = none ∧
      (∀ x ∈ items, IsText x.1) ∧ (items.map Prod.fst).Nodup ∧
      NamedOnce .plain "too-many" items ∧
      findBy .plain (.table (items ++ [(.int 3, .null)])) "too-many" = .ok (some fields) ∧
      findBy .plain (.table items) "too-many" = .ok (some fields) ∧
      findBy .plain (.table items.reverse) "too-many" = .ok (some fields) := by
  intro fields items
  have hitems : Reader.plain.fields? (.table items) = some items := rfl
  have hmixed : Reader.plain.fields? (.table (items ++ [(.int 3, .null)])) =
      some (items ++ [(.int 3, .null)]) := rfl
  have htext : ∀ x ∈ items, IsText x.1 := by
    simp only [items, List.forall_mem_cons]
    exact ⟨.text _, .text _, .text _, by simp⟩
  have hnodup : (items.map Prod.fst).Nodup := by simp [items]
  have hnamed : Named .plain "too-many" (.text "public-types.C1", .table fields) fields :=
    ⟨isMarked_text_iff.mpr (by decide), rfl, _, rfl, rfl⟩
  have hnot : ∀ f, ¬Named .plain "too-many" (.text "public-types.too-many", .int 1) f :=
    fun f h => by cases h.value
  have hother : ∀ f, ¬Named .plain "too-many" (.text "other.C1", .table fields) f :=
    fun f h => absurd (isMarked_text_iff.mp h.key) (by decide)
  have honce : NamedOnce .plain "too-many" items := by
    have hthird : ∀ x ∈ items, ∀ f, Named .plain "too-many" x f →
        x = (.text "public-types.C1", .table fields) := by
      refine List.forall_mem_cons.mpr ⟨fun f h => absurd h (hnot f), ?_⟩
      refine List.forall_mem_cons.mpr ⟨fun f h => absurd h (hother f), ?_⟩
      exact List.forall_mem_singleton.mpr fun _ _ => rfl
    intro x hx y hy f g hf hg
    rw [hthird x hx f hf, hthird y hy g hg]
  obtain ⟨-, hfirst, -⟩ := findBy_eq_first_named .plain hmixed "too-many"
  obtain ⟨-, -, -, -, hany⟩ := findBy_eq_first_named .plain hitems "too-many"
  obtain ⟨horder, hfound⟩ := hany htext hnodup honce
  have hmember := hfound rfl _ (by simp [items]) fields hnamed
  refine ⟨hmixed, hitems, rfl, htext, hnodup, honce, ?_, hmember, ?_⟩
  · refine (hfirst rfl fields).mpr ⟨items.take 2, _, [(.int 3, .null)], rfl, ?_, hnamed⟩
    simp only [items, List.take, List.forall_mem_cons]
    exact ⟨⟨.text _, hnot⟩, ⟨.text _, hother⟩, by simp⟩
  · rw [horder (.table items.reverse) items.reverse rfl items.reverse_perm, hmember]

end Registry

end ClassQuota
