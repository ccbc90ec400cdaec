import ClassQuota.Proofs.MessageTable
import ClassQuota.Registry.Store
import Mathlib.Data.List.Forall2

/-!
# Entries that are objects

A store keeps the entries of its registry as objects, so that they can be changed. Reading such a
registry comes to the same as reading the plain one: a code has the same entry in both, and several
codes have the same messages.

## Main definitions

* `Registry.Stands` — what stands in a place for a value
* `Registry.Shows` — the same for entries

## Main results

* `Registry.findBy_of_shows` — the entry of a code or symbol
* `Registry.messagesBy_of_shows` — the messages of several codes
* `Registry.boxAll_shows` — the objects that entries are made into
-/

namespace ClassQuota

namespace Registry

variable {objects : Objects} {ref : Ref} {v : Value} {entries : Entries} {fields : Fields}

/-! ### What stands under a name -/

theorem find?_cons_of_ne {α : Type} {name : String} {key : Value} {x : α}
    {rest : List (Value × α)} (h : key ≠ .text name) :
    Value.find? name ((key, x) :: rest) = Value.find? name rest := by
  cases key with
  | text s => exact if_neg fun hs => h (congrArg Value.text hs)
  | _ => rfl

theorem find?_cons_self {α : Type} {name : String} {x : α} {rest : List (Value × α)} :
    Value.find? name ((.text name, x) :: rest) = some x :=
  if_pos rfl

theorem mem_of_find? {α : Type} {name : String} {x : α} {items : List (Value × α)}
    (h : Value.find? name items = some x) : (.text name, x) ∈ items := by
  induction items with
  | nil => cases h
  | cons e rest ih =>
    obtain ⟨key, y⟩ := e
    by_cases hkey : key = .text name
    · subst hkey
      rw [find?_cons_self] at h
      rw [Option.some.inj h]
      exact List.mem_cons_self
    · rw [find?_cons_of_ne hkey] at h
      exact List.mem_cons_of_mem _ (ih h)

/-! ### Fields that hold their own values -/

theorem field?_fieldsOf (name : String) :
    field? (.shared objects) name (fieldsOf entries) =
      (field? .plain name entries).map .value := by
  rw [field?, field?, find?_fieldsOf, Option.filter_map]
  rfl

theorem textOr_map_value (code : String) (v? : Option Value) :
    textOr (.shared objects) code (v?.map .value) = textOr .plain code v? := by
  cases v? <;> rfl

/-- The message of an entry is the same in both ways of reading. -/
theorem messageBy?_fieldsOf (code : String) :
    messageBy? (.shared objects) code (fieldsOf entries) = messageBy? .plain code entries := by
  simp only [messageBy?, field?_fieldsOf]
  cases field? .plain "message_template" entries with
  | none => rfl
  | some template =>
    have hdescription : ((field? .plain "short_description" entries).map Ref.value <|>
        (field? .plain "display_name" entries).map Ref.value) =
        (field? .plain "short_description" entries <|>
          field? .plain "display_name" entries).map Ref.value := by
      cases field? .plain "short_description" entries <;> rfl
    rw [hdescription, textOr_map_value, textOr_map_value]
    rfl

/-! ### Tables that are objects -/

/-- What stands in a place for a value: an object for a table, and else the value itself. -/
inductive Stands (objects : Objects) : Value → Ref → Prop
  | plain {v : Value} (h : ∀ entries, v ≠ .table entries) : Stands objects v (.value v)
  | table {entries : Entries} {id : Nat} (h : objects[id]? = some (.table (fieldsOf entries))) :
      Stands objects (.table entries) (.object id)

/-- What stands for an entry, under the same key. -/
structure Shows (objects : Objects) (e : Value × Value) (f : Value × Ref) : Prop where
  key : f.1 = e.1
  value : Stands objects e.2 f.2

theorem Stands.fields? (h : Stands objects v ref) :
    (Reader.shared objects).fields? ref = (Reader.plain.fields? v).map fieldsOf := by
  cases h with
  | plain h => exact fields?_shared_value objects v
  | table h =>
    change Ref.fields? objects (.object _) = _
    rw [Ref.fields?, h]
    rfl

/-- A reference stands for its outline. -/
theorem Stands.outline (h : Stands objects v ref) : ref.outline objects = v := by
  cases h with
  | plain h => exact Ref.outline_value objects v
  | table h =>
    have hpart : ∀ within (entry : Value),
        Ref.outlineFrom objects (2 * objects.size + 1) within (.value entry) = entry :=
      fun _ _ => rfl
    rw [Ref.outline, Ref.depthBound, Ref.outlineFrom, h]
    simp [fieldsOf, Function.comp_def, hpart]

theorem map_outline_of_shows (h : List.Forall₂ (Shows objects) entries fields) :
    fields.map (fun f => (f.1, f.2.outline objects)) = entries := by
  induction h with
  | nil => rfl
  | cons hshows hrest ih => rw [List.map_cons, ih, hshows.value.outline, hshows.key]

/-! ### Looking up -/

/-- What stands under a name stands for the value under it. -/
theorem find?_of_shows (h : List.Forall₂ (Shows objects) entries fields) (name : String) :
    Option.Rel (Stands objects) (Value.find? name entries) (Value.find? name fields) := by
  induction h with
  | nil => exact .none
  | @cons e f entries fields hshows hrest ih =>
    obtain ⟨k, v⟩ := e
    obtain ⟨k', ref⟩ := f
    obtain ⟨rfl, hstands⟩ := hshows
    by_cases hkey : k' = .text name
    · subst hkey
      rw [find?_cons_self, find?_cons_self]
      exact .some hstands
    · rw [find?_cons_of_ne hkey, find?_cons_of_ne hkey]
      exact ih

theorem find?_fields?_of_shows (h : List.Forall₂ (Shows objects) entries fields) (name : String) :
    (Value.find? name fields).bind (Reader.shared objects).fields? =
      ((Value.find? name entries).bind Reader.plain.fields?).map fieldsOf := by
  have hrel := find?_of_shows h name
  revert hrel
  generalize Value.find? name entries = v?
  generalize Value.find? name fields = ref?
  rintro (hstands | _)
  · exact hstands.fields?
  · rfl

/-- Searching a symbol finds the same entry in both ways. -/
theorem findSymbol?_of_shows (h : List.Forall₂ (Shows objects) entries fields) (symbol : String) :
    findSymbol? (.shared objects) symbol fields =
      (findSymbol? .plain symbol entries).map (·.map fieldsOf) := by
  induction h with
  | nil => rfl
  | @cons e f entries fields hshows hrest ih =>
    obtain ⟨k, v⟩ := e
    obtain ⟨k', ref⟩ := f
    obtain ⟨rfl, hstands⟩ := hshows
    simp only [findSymbol?]
    cases beginsAsMessageKey k' with
    | error fault => rfl
    | ok isMarked =>
      simp only [bind, Except.bind, hstands.fields?]
      cases Reader.plain.fields? v with
      | none => simpa using ih
      | some found =>
        simp only [Option.map_some, hasSymbol_fieldsOf]
        split
        · rfl
        · simpa using ih

/-- **Looking up a code** finds the same entry in both ways. -/
theorem findBy_of_shows (hr : ref.fields? objects = some fields)
    (h : List.Forall₂ (Shows objects) entries fields) (code : String) :
    findBy (.shared objects) ref code =
      (find (.table entries) code).map (·.map fieldsOf) := by
  have hshared : (Reader.shared objects).fields? ref = some fields := hr
  have hplain : Reader.plain.fields? (.table entries) = some entries := rfl
  simp only [findBy, find, hshared, hplain, find?_fields?_of_shows h]
  cases (Value.find? (keyBeginning ++ code) entries).bind Reader.plain.fields? with
  | none => exact findSymbol?_of_shows h code
  | some found => rfl

/-! ### Messages -/

theorem messageOf_of_shows (hr : ref.fields? objects = some fields)
    (h : List.Forall₂ (Shows objects) entries fields) (code : String) :
    messageOf (.shared objects) ref code = messageOf .plain (.table entries) code := by
  rw [messageOf, messageOf, findBy_of_shows hr h, find]
  cases findBy .plain (.table entries) code with
  | error fault => rfl
  | ok found =>
    cases found with
    | none => rfl
    | some found => exact messageBy?_fieldsOf code

/-- **The messages of several codes** are the same in both ways. -/
theorem messagesBy_of_shows (hr : ref.fields? objects = some fields)
    (h : List.Forall₂ (Shows objects) entries fields) (codes : List String) :
    messagesBy (.shared objects) ref codes = messages (.table entries) codes := by
  rw [messages, messagesBy, messagesBy]
  generalize ([] : List (String × MessageText)) = found
  induction codes generalizing found with
  | nil => rfl
  | cons code codes ih =>
    rw [addMessages_cons, addMessages_cons, messageOf_of_shows hr h]
    refine congrArg _ (funext fun m? => ih _)

/-! ### The objects among fields -/

/-- The number of the object that a reference is. -/
def object? : Ref → Option Nat
  | .object id => some id
  | _ => none

theorem object?_eq_some_iff {id : Nat} : object? ref = some id ↔ ref = .object id := by
  cases ref <;> simp [object?]

/-- The numbers of the objects among fields. -/
def tables (fields : Fields) : List Nat :=
  fields.filterMap fun f => object? f.2

theorem mem_tables_iff {id : Nat} : id ∈ tables fields ↔ ∃ f ∈ fields, f.2 = .object id := by
  simp only [tables, List.mem_filterMap, object?_eq_some_iff]

theorem mem_tables_cons {f : Value × Ref} {id : Nat} :
    id ∈ tables (f :: fields) ↔ f.2 = .object id ∨ id ∈ tables fields := by
  simp only [mem_tables_iff, List.mem_cons, exists_eq_or_imp]

theorem nodup_tables_cons {f : Value × Ref} :
    (tables (f :: fields)).Nodup ↔
      (∀ id, f.2 = .object id → id ∉ tables fields) ∧ (tables fields).Nodup := by
  obtain ⟨key, ref⟩ := f
  cases ref with
  | object id => simp [tables, object?]
  | _ => simp [tables, object?]

/-- What stands for a value does so still where its object has not changed. -/
theorem Stands.mono {objects' : Objects} (h : Stands objects v ref)
    (hsame : ∀ id, ref = .object id → objects'[id]? = objects[id]?) : Stands objects' v ref := by
  cases h with
  | plain h => exact .plain h
  | table h => exact .table ((hsame _ rfl).trans h)

theorem shows_mono {objects' : Objects} (h : List.Forall₂ (Shows objects) entries fields)
    (hsame : ∀ id ∈ tables fields, objects'[id]? = objects[id]?) :
    List.Forall₂ (Shows objects') entries fields := by
  induction h with
  | nil => exact .nil
  | cons hshows hrest ih =>
    refine .cons ⟨hshows.key, hshows.value.mono fun id hid => ?_⟩ (ih fun id hid => ?_)
    · exact hsame id (mem_tables_cons.mpr (.inl hid))
    · exact hsame id (mem_tables_cons.mpr (.inr hid))

theorem Stands.lt_size {id : Nat} (h : Stands objects v (.object id)) : id < objects.size := by
  cases h with
  | table h => exact (Array.getElem?_eq_some_iff.mp h).1

theorem lt_size_of_shows (h : List.Forall₂ (Shows objects) entries fields) {id : Nat}
    (hid : id ∈ tables fields) : id < objects.size := by
  induction h with
  | nil => cases hid
  | cons hshows hrest ih =>
    rcases mem_tables_cons.mp hid with hf | hid
    · exact (hf ▸ hshows.value).lt_size
    · exact ih hid

/-! ### Making objects -/

theorem size_le_size_box (objects : Objects) (v : Value) :
    objects.size ≤ (box objects v).1.size := by
  cases v with
  | table entries => simp [box]
  | _ => exact Nat.le_refl _

theorem getElem?_box_of_lt (v : Value) {id : Nat} (h : id < objects.size) :
    (box objects v).1[id]? = objects[id]? := by
  cases v with
  | table entries => simp [box, Array.getElem?_push, Nat.ne_of_lt h]
  | _ => rfl

theorem box_stands (objects : Objects) (v : Value) :
    Stands (box objects v).1 v (box objects v).2 := by
  cases v with
  | table entries => exact .table Array.getElem?_push_size
  | _ => exact .plain (by simp)

/-- The object that a value is made into comes after those that there are. -/
theorem box_eq_object {id : Nat} (h : (box objects v).2 = .object id) :
    id = objects.size ∧ (box objects v).1.size = objects.size + 1 := by
  cases v with
  | table entries =>
    obtain rfl := Ref.object.inj h
    simp [box]
  | _ => cases h

theorem getElem?_boxAll_of_lt (entries : Entries) {id : Nat} (h : id < objects.size) :
    (boxAll objects entries).1[id]? = objects[id]? := by
  induction entries generalizing objects with
  | nil => rfl
  | cons e rest ih =>
    rw [boxAll, ih (Nat.lt_of_lt_of_le h (size_le_size_box objects e.2)), getElem?_box_of_lt e.2 h]

theorem le_of_mem_tables_boxAll {id : Nat} (h : id ∈ tables (boxAll objects entries).2) :
    objects.size ≤ id := by
  induction entries generalizing objects with
  | nil => cases h
  | cons e rest ih =>
    rcases mem_tables_cons.mp h with hid | hid
    · exact Nat.le_of_eq (box_eq_object hid).1.symm
    · exact Nat.le_trans (size_le_size_box objects e.2) (ih hid)

/-- No two entries are made into one object. -/
theorem nodup_tables_boxAll (objects : Objects) (entries : Entries) :
    (tables (boxAll objects entries).2).Nodup := by
  induction entries generalizing objects with
  | nil => exact List.nodup_nil
  | cons e rest ih =>
    refine nodup_tables_cons.mpr ⟨fun id hid hmem => ?_, ih _⟩
    obtain ⟨rfl, hsize⟩ := box_eq_object hid
    have hle := le_of_mem_tables_boxAll hmem
    omega

/-- **Entries are shown by the objects that they are made into.** -/
theorem boxAll_shows (objects : Objects) (entries : Entries) :
    List.Forall₂ (Shows (boxAll objects entries).1) entries (boxAll objects entries).2 := by
  induction entries generalizing objects with
  | nil => exact .nil
  | cons e rest ih =>
    refine .cons ⟨rfl, (box_stands objects e.2).mono fun id hid => ?_⟩ (ih _)
    refine getElem?_boxAll_of_lt rest ?_
    obtain ⟨rfl, hsize⟩ := box_eq_object hid
    omega

end Registry

end ClassQuota
