import ClassQuota.Proofs.PlainText
import Mathlib.Data.List.Induction
import Mathlib.Data.List.Nodup
import Mathlib.Data.List.Perm.Basic

/-!
# The table of messages

The messages of several codes are collected one by one, but each of them depends on its own code
and the entry of that code alone. So the table is known without the collecting: it has each code
once that has an entry with a template, in the order in which the codes come first, and under each
code the message of its entry. Tables of two lists of codes are joined by storing the second in the
first.

## Main definitions

* `Registry.HasTemplate` — the codes that get a message
* `Registry.FirstShown`, `Registry.Worded` — the texts of a message, field by field
* `Registry.extend` — a table with another one stored in it
* `Registry.table` — the table of a list of codes, without the collecting

## Main results

* `Registry.messageBy?_eq_some_iff` — the message of an entry
* `Registry.messagesBy_eq_ok_iff` — collecting gives the table
* `Registry.extend_table` — tables of two lists of codes
* `Registry.messagesBy_eq_each` — what the messages of several codes are
-/

namespace ClassQuota

namespace Registry

variable {α : Type} {reader : Reader α} {registry : α} {code : String}
  {fields : List (Value × α)}

/-! ### The message of an entry -/

/-- The codes that get a message: they have an entry, whose template counts as present. -/
def HasTemplate (reader : Reader α) (registry : α) (code : String) : Prop :=
  ∃ fields template, findBy reader registry code = .ok (some fields) ∧
    Value.find? "message_template" fields = some template ∧ reader.isTrue template = true

instance : Decidable (HasTemplate reader registry code) :=
  match hfind : findBy reader registry code with
  | .ok (some fields) =>
    match hfield : field? reader "message_template" fields with
    | some template =>
      have hpresent := Option.filter_eq_some_iff.mp hfield
      .isTrue ⟨fields, template, hfind, hpresent.1, hpresent.2⟩
    | none => .isFalse fun ⟨fields', template, hfind', hv, htrue⟩ => by
      obtain rfl : fields = fields' := by simpa using hfind.symm.trans hfind'
      exact absurd hfield (by simp [field?, hv, htrue])
  | .ok none => .isFalse fun ⟨_, _, hfind', _⟩ => by simp [hfind'] at hfind
  | .error _ => .isFalse fun ⟨_, _, hfind', _⟩ => by simp [hfind'] at hfind

/-- The plain text of the first of some fields that counts as present, or else the code. -/
inductive FirstShown (reader : Reader α) (fields : List (Value × α)) (code : String) :
    List String → String → Prop
  | code : FirstShown reader fields code [] code
  | field {name : String} {names : List String} {v : α} {shown : String}
      (hv : Value.find? name fields = some v) (htrue : reader.isTrue v = true)
      (hs : reader.plain? v = some shown) : FirstShown reader fields code (name :: names) shown
  | skip {name : String} {names : List String} {shown : String}
      (hv : ∀ v, Value.find? name fields = some v → reader.isTrue v = false)
      (h : FirstShown reader fields code names shown) :
      FirstShown reader fields code (name :: names) shown

/-- The texts of the message that an entry gives for a code. -/
structure Worded (reader : Reader α) (code : String) (fields : List (Value × α))
    (m : MessageText) : Prop where
  template : ∃ v, Value.find? "message_template" fields = some v ∧ reader.isTrue v = true ∧
    reader.plain? v = some m.template
  symbol : FirstShown reader fields code ["symbol"] m.symbol
  description : FirstShown reader fields code ["short_description", "display_name"] m.description

theorem field?_eq_some_iff {name : String} {v : α} :
    field? reader name fields = some v ↔
      Value.find? name fields = some v ∧ reader.isTrue v = true := by
  rw [field?, Option.filter_eq_some_iff]

theorem field?_eq_none_iff {name : String} :
    field? reader name fields = none ↔
      ∀ v, Value.find? name fields = some v → reader.isTrue v = false := by
  simp [field?, Option.filter_eq_none_iff]

theorem plainText_eq_ok_iff {v : α} {shown : String} :
    plainText reader v = .ok shown ↔ reader.plain? v = some shown := by
  rw [plainText]
  cases reader.plain? v <;> simp

/-- The text of the first field that there is, or else the code. -/
theorem textOr_eq_ok_iff {names : List String} {shown : String} :
    textOr reader code (names.findSome? fun name => field? reader name fields) = .ok shown ↔
      FirstShown reader fields code names shown := by
  induction names with
  | nil =>
    constructor
    · intro h
      obtain rfl := Except.ok.inj h
      exact .code
    · rintro ⟨⟩
      rfl
  | cons name names ih =>
    rw [List.findSome?_cons]
    cases hfield : field? reader name fields with
    | none =>
      have hskip := field?_eq_none_iff.mp hfield
      rw [ih]
      refine ⟨.skip hskip, fun h => ?_⟩
      cases h with
      | field hv htrue hs =>
        rw [hskip _ hv] at htrue
        cases htrue
      | skip hv h => exact h
    | some v =>
      obtain ⟨hv, htrue⟩ := field?_eq_some_iff.mp hfield
      change plainText reader v = .ok shown ↔ _
      rw [plainText_eq_ok_iff]
      refine ⟨.field hv htrue, fun h => ?_⟩
      cases h with
      | field hw hwtrue hs =>
        obtain rfl := Option.some.inj (hv.symm.trans hw)
        exact hs
      | skip hw h =>
        rw [hw v hv] at htrue
        cases htrue

/-- The texts are determined by the code and the entry. -/
theorem FirstShown.unique {names : List String} {s t : String}
    (hs : FirstShown reader fields code names s) (ht : FirstShown reader fields code names t) :
    s = t :=
  Except.ok.inj ((textOr_eq_ok_iff.mpr hs).symm.trans (textOr_eq_ok_iff.mpr ht))

/-- For a code that is not empty, what is shown is not. -/
theorem FirstShown.ne_empty (hreader : reader.IsStandard) (hc : code ≠ "") {names : List String}
    {shown : String} (h : FirstShown reader fields code names shown) : shown ≠ "" := by
  induction h with
  | code => exact hc
  | field hv htrue hs => exact hreader.plain?_ne_empty htrue hs
  | skip hv h ih => exact ih

theorem Worded.unique {m m' : MessageText} (h : Worded reader code fields m)
    (h' : Worded reader code fields m') : m = m' := by
  obtain ⟨template, symbol, description⟩ := m
  obtain ⟨v, hv, -, hs⟩ := h.template
  obtain ⟨v', hv', -, hs'⟩ := h'.template
  obtain rfl := Option.some.inj (hv.symm.trans hv')
  obtain rfl := Option.some.inj (hs.symm.trans hs')
  obtain rfl := h.symbol.unique h'.symbol
  obtain rfl := h.description.unique h'.description
  rfl

/-- An entry gives no message exactly if it has no template. -/
theorem messageBy?_eq_none_iff :
    messageBy? reader code fields = .ok none ↔ field? reader "message_template" fields = none := by
  rw [messageBy?]
  cases field? reader "message_template" fields with
  | none => simp
  | some template =>
    refine iff_of_false (fun h => ?_) (by simp)
    obtain ⟨t, -, h⟩ := Fault.bind_eq_ok_iff.mp h
    obtain ⟨s, -, h⟩ := Fault.bind_eq_ok_iff.mp h
    obtain ⟨d, -, h⟩ := Fault.bind_eq_ok_iff.mp h
    cases h

/-- **The message of an entry** has the texts of its fields. -/
theorem messageBy?_eq_some_iff {m : MessageText} :
    messageBy? reader code fields = .ok (some m) ↔ Worded reader code fields m := by
  have hsymbol : field? reader "symbol" fields =
      ["symbol"].findSome? fun name => field? reader name fields := by
    rw [List.findSome?_cons, List.findSome?_nil]
    split <;> simp [*]
  have hdescription : (field? reader "short_description" fields <|>
      field? reader "display_name" fields) =
      ["short_description", "display_name"].findSome? fun name => field? reader name fields := by
    rw [List.findSome?_cons]
    split <;> simp [*]
  rw [messageBy?, hsymbol, hdescription]
  constructor
  · intro h
    cases hfield : field? reader "message_template" fields with
    | none =>
      rw [hfield] at h
      cases h
    | some template =>
      rw [hfield] at h
      obtain ⟨t, ht, h⟩ := Fault.bind_eq_ok_iff.mp h
      obtain ⟨s, hs, h⟩ := Fault.bind_eq_ok_iff.mp h
      obtain ⟨d, hd, h⟩ := Fault.bind_eq_ok_iff.mp h
      obtain rfl := Option.some.inj (Except.ok.inj h)
      obtain ⟨hv, htrue⟩ := field?_eq_some_iff.mp hfield
      exact ⟨⟨template, hv, htrue, plainText_eq_ok_iff.mp ht⟩, textOr_eq_ok_iff.mp hs,
        textOr_eq_ok_iff.mp hd⟩
  · rintro ⟨⟨template, hv, htrue, ht⟩, hs, hd⟩
    rw [field?_eq_some_iff.mpr ⟨hv, htrue⟩]
    simp only [plainText_eq_ok_iff.mpr ht, textOr_eq_ok_iff.mpr hs, textOr_eq_ok_iff.mpr hd, bind,
      Except.bind]

/-! ### The message of a code -/

/-- The message that a registry has for a code. -/
def messageOf (reader : Reader α) (registry : α) (code : String) :
    Except Fault (Option MessageText) := do
  match ← findBy reader registry code with
  | none => .ok none
  | some fields => messageBy? reader code fields

theorem messageOf_eq_some_iff {m : MessageText} :
    messageOf reader registry code = .ok (some m) ↔
      ∃ fields, findBy reader registry code = .ok (some fields) ∧ Worded reader code fields m := by
  rw [messageOf]
  cases findBy reader registry code with
  | error fault => simp [bind, Except.bind]
  | ok found =>
    cases found with
    | none => simp [bind, Except.bind]
    | some fields => simp [bind, Except.bind, messageBy?_eq_some_iff]

/-- A code that has a message is one that has an entry with a template. -/
theorem messageOf_isSome_iff {m? : Option MessageText}
    (h : messageOf reader registry code = .ok m?) :
    m?.isSome = true ↔ HasTemplate reader registry code := by
  constructor
  · intro hsome
    obtain ⟨m, rfl⟩ := Option.isSome_iff_exists.mp hsome
    obtain ⟨fields, hfind, hworded⟩ := messageOf_eq_some_iff.mp h
    obtain ⟨template, hv, htrue, -⟩ := hworded.template
    exact ⟨fields, template, hfind, hv, htrue⟩
  · rintro ⟨fields, template, hfind, hv, htrue⟩
    cases m? with
    | some m => rfl
    | none =>
      rw [messageOf, hfind] at h
      have hnone := messageBy?_eq_none_iff.mp h
      rw [field?_eq_some_iff.mpr ⟨hv, htrue⟩] at hnone
      cases hnone

/-! ### Storing in a table -/

/-- A table of messages with another one stored in it, message by message. -/
def extend {β : Type} (first second : List (String × β)) : List (String × β) :=
  second.foldl (fun found e => store e.1 e.2 found) first

theorem extend_append {β : Type} (first second third : List (String × β)) :
    extend first (second ++ third) = extend (extend first second) third :=
  List.foldl_append

theorem store_of_notMem {β : Type} {key : String} {entries : List (String × β)}
    (h : key ∉ entries.map Prod.fst) (value : β) :
    store key value entries = entries ++ [(key, value)] := by
  induction entries with
  | nil => rfl
  | cons e rest ih =>
    obtain ⟨k, v⟩ := e
    rw [List.map_cons, List.mem_cons, not_or] at h
    rw [store, if_neg (Ne.symm h.1), ih h.2, List.cons_append]

/-- Storing what is there already changes nothing. -/
theorem store_of_mem {β : Type} {key : String} {value : β} {entries : List (String × β)}
    (hn : (entries.map Prod.fst).Nodup) (h : (key, value) ∈ entries) :
    store key value entries = entries := by
  induction entries with
  | nil => cases h
  | cons e rest ih =>
    obtain ⟨k, v⟩ := e
    rw [List.map_cons, List.nodup_cons] at hn
    rw [store]
    split
    · next hk =>
      subst hk
      rcases List.mem_cons.mp h with heq | hrest
      · rw [Prod.mk.inj heq |>.2]
      · exact absurd (List.mem_map_of_mem hrest) hn.1
    · next hk =>
      rcases List.mem_cons.mp h with heq | hrest
      · exact absurd (Prod.mk.inj heq).1.symm hk
      · rw [ih hn.2 hrest]

/-! ### First occurrences -/

theorem eraseDups_concat_of_mem {c : String} {codes : List String} (h : c ∈ codes) :
    (codes ++ [c]).eraseDups = codes.eraseDups := by
  simp [List.eraseDups_append, List.removeAll, h]

theorem eraseDups_concat_of_notMem {c : String} {codes : List String} (h : c ∉ codes) :
    (codes ++ [c]).eraseDups = codes.eraseDups ++ [c] := by
  simp [List.eraseDups_append, List.removeAll, List.eraseDups_cons, h]

theorem nodup_eraseDups (codes : List String) : codes.eraseDups.Nodup := by
  induction codes using List.reverseRecOn with
  | nil => simp
  | append_singleton codes c ih =>
    by_cases hc : c ∈ codes
    · rwa [eraseDups_concat_of_mem hc]
    · rw [eraseDups_concat_of_notMem hc, List.nodup_append]
      refine ⟨ih, List.nodup_singleton c, fun x hx y hy => ?_⟩
      rw [List.mem_singleton.mp hy]
      rintro rfl
      exact hc (List.mem_eraseDups.mp hx)

/-! ### The table of a list of codes -/

/-- What is in a table under a code. -/
def row? (reader : Reader α) (registry : α) (code : String) : Option (String × MessageText) :=
  (messageOf reader registry code).toOption.join.map fun m => (code, m)

/-- The table of a list of codes: each code that has a message once, where it comes first. -/
def table (reader : Reader α) (registry : α) (codes : List String) :
    List (String × MessageText) :=
  codes.eraseDups.filterMap (row? reader registry)

theorem row?_of_ok {m? : Option MessageText} (h : messageOf reader registry code = .ok m?) :
    row? reader registry code = m?.map fun m => (code, m) := by
  rw [row?, h]
  rfl

theorem row?_eq_some_iff {e : String × MessageText} :
    row? reader registry code = some e ↔
      e.1 = code ∧ messageOf reader registry code = .ok (some e.2) := by
  obtain ⟨c, m⟩ := e
  rw [row?]
  cases messageOf reader registry code with
  | error fault => simp [Except.toOption]
  | ok m? => cases m? <;> simp [Except.toOption, and_comm, eq_comm]

theorem mem_table_iff {codes : List String} {m : MessageText} :
    (code, m) ∈ table reader registry codes ↔
      code ∈ codes ∧ messageOf reader registry code = .ok (some m) := by
  simp only [table, List.mem_filterMap, List.mem_eraseDups, row?_eq_some_iff]
  constructor
  · rintro ⟨c, hc, rfl, hm⟩
    exact ⟨hc, hm⟩
  · rintro ⟨hc, hm⟩
    exact ⟨code, hc, rfl, hm⟩

/-- The keys of a table are the codes that have a message, as they come first. -/
theorem map_fst_table (codes : List String) :
    (table reader registry codes).map Prod.fst =
      codes.eraseDups.filter fun c => (row? reader registry c).isSome := by
  have hkey : (fun c => (row? reader registry c).map Prod.fst) =
      Option.guard fun c => (row? reader registry c).isSome := by
    funext c
    cases hrow : row? reader registry c with
    | none => simp [Option.guard, hrow]
    | some e => simp [Option.guard, hrow, (row?_eq_some_iff.mp hrow).1]
  rw [table, List.map_filterMap, hkey, List.filterMap_eq_filter]

theorem nodup_map_fst_table (codes : List String) :
    ((table reader registry codes).map Prod.fst).Nodup := by
  rw [map_fst_table]
  exact (nodup_eraseDups codes).filter _

theorem table_concat_of_none {codes : List String}
    (h : messageOf reader registry code = .ok none) :
    table reader registry (codes ++ [code]) = table reader registry codes := by
  by_cases hc : code ∈ codes
  · rw [table, eraseDups_concat_of_mem hc, table]
  · rw [table, eraseDups_concat_of_notMem hc, List.filterMap_append, table]
    simp [row?_of_ok h]

theorem table_concat_of_notMem {codes : List String} {m : MessageText}
    (h : messageOf reader registry code = .ok (some m)) (hc : code ∉ codes) :
    table reader registry (codes ++ [code]) = table reader registry codes ++ [(code, m)] := by
  rw [table, eraseDups_concat_of_notMem hc, List.filterMap_append, table]
  simp [row?_of_ok h]

/-- Storing the message of a code is adding the code at the end of the list. -/
theorem store_table {codes : List String} {m : MessageText}
    (h : messageOf reader registry code = .ok (some m)) :
    store code m (table reader registry codes) = table reader registry (codes ++ [code]) := by
  by_cases hc : code ∈ codes
  · have hmem : (code, m) ∈ table reader registry codes := mem_table_iff.mpr ⟨hc, h⟩
    rw [store_of_mem (nodup_map_fst_table codes) hmem, table, table, eraseDups_concat_of_mem hc]
  · have hkey : code ∉ (table reader registry codes).map Prod.fst := by
      rw [map_fst_table, List.mem_filter, List.mem_eraseDups]
      exact fun hmem => hc hmem.1
    rw [store_of_notMem hkey, table_concat_of_notMem h hc]

/-! ### Collecting -/

theorem addMessages_cons (found : List (String × MessageText)) (codes : List String) :
    addMessages reader registry found (code :: codes) =
      messageOf reader registry code >>= fun m? =>
        addMessages reader registry (m?.elim found fun m => store code m found) codes := by
  rw [addMessages, messageOf]
  cases findBy reader registry code with
  | error fault => rfl
  | ok entry =>
    cases entry with
    | none => rfl
    | some fields =>
      simp only [bind, Except.bind]
      cases messageBy? reader code fields with
      | error fault => rfl
      | ok m? => cases m? <;> rfl

theorem addMessages_append (found : List (String × MessageText)) (xs ys : List String) :
    addMessages reader registry found (xs ++ ys) =
      addMessages reader registry found xs >>= fun before =>
        addMessages reader registry before ys := by
  induction xs generalizing found with
  | nil => rfl
  | cons c xs ih =>
    rw [List.cons_append, addMessages_cons, addMessages_cons]
    cases messageOf reader registry c with
    | error fault => rfl
    | ok m? => exact ih _

theorem addMessages_concat (found : List (String × MessageText)) (codes : List String) :
    addMessages reader registry found (codes ++ [code]) =
      addMessages reader registry found codes >>= fun before =>
        messageOf reader registry code >>= fun m? =>
          .ok (m?.elim before fun m => store code m before) := by
  rw [addMessages_append]
  refine congrArg _ (funext fun before => ?_)
  rw [addMessages_cons]
  rfl

/-- **Collecting gives the table,** if no code fails. -/
theorem messagesBy_eq_ok_iff {codes : List String} {found : List (String × MessageText)} :
    messagesBy reader registry codes = .ok found ↔
      (∀ c ∈ codes, ∃ m?, messageOf reader registry c = .ok m?) ∧
        found = table reader registry codes := by
  rw [messagesBy]
  induction codes using List.reverseRecOn generalizing found with
  | nil => simp [addMessages, table, eq_comm]
  | append_singleton codes c ih =>
    have hstep : ∀ m?, messageOf reader registry c = .ok m? →
        m?.elim (table reader registry codes) (store c · (table reader registry codes)) =
          table reader registry (codes ++ [c]) := by
      intro m? hm
      cases m? with
      | none => exact (table_concat_of_none hm).symm
      | some m => exact store_table hm
    simp only [addMessages_concat, Fault.bind_eq_ok_iff, ih, List.forall_mem_append,
      List.forall_mem_singleton]
    constructor
    · rintro ⟨before, ⟨hcodes, rfl⟩, m?, hm, h⟩
      exact ⟨⟨hcodes, m?, hm⟩, by rw [← hstep m? hm, Except.ok.inj h]⟩
    · rintro ⟨⟨hcodes, m?, hm⟩, rfl⟩
      exact ⟨_, ⟨hcodes, rfl⟩, m?, hm, by rw [hstep m? hm]⟩

/-! ### Two lists of codes -/

/-- **The table of two lists of codes** is that of the first with that of the second stored in
it. -/
theorem extend_table (xs : List String) {ys : List String}
    (h : ∀ c ∈ ys, ∃ m?, messageOf reader registry c = .ok m?) :
    extend (table reader registry xs) (table reader registry ys) =
      table reader registry (xs ++ ys) := by
  induction ys using List.reverseRecOn with
  | nil => simp [extend, table]
  | append_singleton ys c ih =>
    rw [List.forall_mem_append, List.forall_mem_singleton] at h
    obtain ⟨hys, m?, hm⟩ := h
    have hbefore := ih hys
    rw [← List.append_assoc]
    cases m? with
    | none => rw [table_concat_of_none hm, table_concat_of_none hm, hbefore]
    | some m =>
      by_cases hc : c ∈ ys
      · -- A code that has come already is stored no second time, on either side.
        have hcodes : c ∈ xs ++ ys := List.mem_append_right xs hc
        rw [← store_table hm, ← store_table hm,
          store_of_mem (nodup_map_fst_table ys) (mem_table_iff.mpr ⟨hc, hm⟩),
          store_of_mem (nodup_map_fst_table _) (mem_table_iff.mpr ⟨hcodes, hm⟩), hbefore]
      · rw [table_concat_of_notMem hm hc, extend_append, hbefore, ← store_table hm]
        rfl

/-- Lists with the same codes have the same table, up to the order. -/
theorem table_perm {xs ys : List String} (h : ∀ c, c ∈ xs ↔ c ∈ ys) :
    (table reader registry xs).Perm (table reader registry ys) := by
  refine List.Perm.filterMap _ ?_
  refine (List.perm_ext_iff_of_nodup (nodup_eraseDups xs) (nodup_eraseDups ys)).mpr fun c => ?_
  rw [List.mem_eraseDups, List.mem_eraseDups, h]

/-- **The messages of several codes.** For any registry and codes of which none fails,

* the keys are the codes that have an entry with a template, each once, as they first come;
* under each code stand the texts of its entry;
* they are the same among any other codes, and in any other registry where the code has the same
  entry;
* the messages of two lists of codes are those of the first with those of the second stored in them;
* codes that are repeated or put in another order have the same messages, up to the order;
* none of the texts is empty, except for the empty code.
-/
theorem messagesBy_eq_each (hreader : reader.IsStandard) {codes : List String}
    {found : List (String × MessageText)} (h : messagesBy reader registry codes = .ok found) :
    found.map Prod.fst = codes.eraseDups.filter (fun c => HasTemplate reader registry c) ∧
      (found.map Prod.fst).Nodup ∧
      (∀ c m, (c, m) ∈ found → ∃ fields,
        findBy reader registry c = .ok (some fields) ∧ Worded reader c fields m) ∧
      (∀ c m, (c, m) ∈ found → ∀ other others found',
        messagesBy reader other others = .ok found' → c ∈ others →
          findBy reader other c = findBy reader registry c → (c, m) ∈ found') ∧
      (∀ xs ys, codes = xs ++ ys → ∃ first second,
        messagesBy reader registry xs = .ok first ∧ messagesBy reader registry ys = .ok second ∧
          found = extend first second) ∧
      (∀ others : List String, (∀ c, c ∈ others ↔ c ∈ codes) → ∃ found',
        messagesBy reader registry others = .ok found' ∧ found'.Perm found) ∧
      (∀ c m, (c, m) ∈ found → c ≠ "" →
        m.template ≠ "" ∧ m.symbol ≠ "" ∧ m.description ≠ "") := by
  obtain ⟨hcodes, rfl⟩ := messagesBy_eq_ok_iff.mp h
  refine ⟨?keys, nodup_map_fst_table codes, fun c m hm => ?texts, ?elsewhere, ?parts, ?order, ?full⟩
  case keys =>
    rw [map_fst_table]
    refine List.filter_congr fun c hc => ?_
    obtain ⟨m?, hm⟩ := hcodes c (List.mem_eraseDups.mp hc)
    rw [row?_of_ok hm, Option.isSome_map, Bool.eq_iff_iff, messageOf_isSome_iff hm,
      decide_eq_true_iff]
  case texts => exact messageOf_eq_some_iff.mp (mem_table_iff.mp hm).2
  case elsewhere =>
    intro c m hm other others found' hother hc hfind
    obtain ⟨-, rfl⟩ := messagesBy_eq_ok_iff.mp hother
    refine mem_table_iff.mpr ⟨hc, ?_⟩
    rw [messageOf, hfind]
    exact (mem_table_iff.mp hm).2
  case parts =>
    rintro xs ys rfl
    rw [List.forall_mem_append] at hcodes
    exact ⟨_, _, messagesBy_eq_ok_iff.mpr ⟨hcodes.1, rfl⟩, messagesBy_eq_ok_iff.mpr ⟨hcodes.2, rfl⟩,
      (extend_table xs hcodes.2).symm⟩
  case order =>
    intro others hothers
    refine ⟨_, messagesBy_eq_ok_iff.mpr ⟨fun c hc => hcodes c ((hothers c).mp hc), rfl⟩, ?_⟩
    exact table_perm hothers
  case full =>
    intro c m hm hc
    obtain ⟨fields, -, hworded⟩ := messageOf_eq_some_iff.mp (mem_table_iff.mp hm).2
    obtain ⟨v, -, htrue, hshown⟩ := hworded.template
    exact ⟨hreader.plain?_ne_empty htrue hshown, hworded.symbol.ne_empty hreader hc,
      hworded.description.ne_empty hreader hc⟩

/-- The entry is reached by its code and by its symbol, and its short description does not count as
present. The code that comes twice has its message once, and the code of no entry has none. -/
theorem messagesBy_eq_each_repeated :
    let registry := Value.table [(.text "public-types.C1", .table [
      (.text "message_template", .text "Too many"), (.text "symbol", .text "too-many"),
      (.text "short_description", .int 0), (.text "display_name", .int 7)])]
    let message : MessageText := ⟨"Too many", "too-many", "7"⟩
    let found := [("too-many", message), ("C1", message)]
    messagesBy .plain registry ["too-many", "C1", "C2", "too-many"] = .ok found ∧
      (found.map Prod.fst).Nodup ∧
      (∃ found', messagesBy .plain registry ["C1", "C1", "C2", "too-many"] = .ok found' ∧
        found'.Perm found) := by
  intro registry message found
  have hfound : messagesBy .plain registry ["too-many", "C1", "C2", "too-many"] = .ok found :=
    rfl
  obtain ⟨-, hnodup, -, -, -, horder, -⟩ := messagesBy_eq_each .plain hfound
  exact ⟨hfound, hnodup, horder _ (by simp)⟩

end Registry

end ClassQuota
