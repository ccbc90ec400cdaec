import ClassQuota.Proofs.BoxedEntries

/-!
# What callers change in a store

Callers of a store work on copies. A copy of the registry is a new table, but its entries are those
of the store, so a field that is set in one of them is set in the store. Nothing else that callers
do reaches the store: a copy that is emptied or stored into is a table of its own, and so is the
copy of an entry.

As long as the entries of the registry are different objects and none of them is a copy, all of this
stays so, and the store holds what it was made with, up to the fields that were set.

## Main definitions

* `Registry.Assignment` — a field that is set in an entry
* `Registry.assignments` — those of some calls that were successful
* `Registry.Store.Holds` — a store that holds entries apart from all copies
* `Registry.Store.Loaded` — the stores of registries that hold no object twice

## Main results

* `Registry.Store.Holds.answer` — what a caller gets
* `Registry.Store.Holds.perform`, `Registry.Store.Holds.performAll` — what one call and what calls
  leave of a store
* `Registry.Store.Holds.answers_filter` — calls about copies may be left out
* `Registry.Store.performAll_of_loaded` — the registry after any calls
-/

namespace ClassQuota

/-- Only a text equals a text. -/
theorem Value.same_text_iff {k : Value} {name : String} :
    k.same (.text name) = true ↔ k = .text name := by
  cases k <;> simp [same, asInt?]

namespace Registry

/-! ### Fields that are set -/

/-- A field that is set in the entry under a key. -/
structure Assignment where
  key : String
  field : String
  new : Value

/-- A value with a field set, if it has fields. -/
def setField (field : String) (new : Value) : Value → Value
  | .table fields => .table (Value.insert (.text field) new fields)
  | v => v

/-- The entries with the field set in the one under the key. -/
def Assignment.apply (a : Assignment) : Entries → Entries
  | [] => []
  | (key, v) :: rest =>
    if key.same (.text a.key) then (key, setField a.field a.new v) :: rest
    else (key, v) :: a.apply rest

/-- The entries with several fields set, one after another. -/
def assignAll (entries : Entries) (as : List Assignment) : Entries :=
  as.foldl (fun entries a => a.apply entries) entries

/-- The field that a call sets in the registry. -/
def Call.assignment? : Call → Option Assignment
  | .setField key field new => some ⟨key, field, new⟩
  | _ => none

/-- Whether a call is about a copy that is changed. -/
def Call.changesCopy : Call → Bool
  | .clear | .put _ _ | .setEntryField _ _ _ | .clearCopy _ | .putCopy _ _ _ => true
  | .registry | .entry _ | .messages _ | .setField _ _ _ => false

/-- The fields that calls have set, of those calls that did not fail. -/
def assignments : List Call → List (Except Fault Answer) → List Assignment
  | call :: calls, .ok _ :: answers => call.assignment?.toList ++ assignments calls answers
  | _ :: calls, .error _ :: answers => assignments calls answers
  | _, _ => []

/-- Whether there is an entry with fields under a key. -/
def hasEntry (entries : Entries) (key : String) : Bool :=
  (Value.find? key entries).any Value.isTable

/-- Setting fields changes no key. -/
theorem Assignment.map_fst_apply (a : Assignment) (entries : Entries) :
    (a.apply entries).map Prod.fst = entries.map Prod.fst := by
  induction entries with
  | nil => rfl
  | cons e rest ih =>
    rw [apply]
    split
    · rfl
    · rw [List.map_cons, List.map_cons, ih]

/-- Setting fields makes no entry and takes none away. -/
theorem Assignment.hasEntry_apply (a : Assignment) (entries : Entries) (name : String) :
    hasEntry (a.apply entries) name = hasEntry entries name := by
  induction entries with
  | nil => rfl
  | cons e rest ih =>
    obtain ⟨key, v⟩ := e
    have hset : (setField a.field a.new v).isTable = v.isTable := by cases v <;> rfl
    rw [apply]
    by_cases hkey : key = .text name
    · subst hkey
      split
      · simp [hasEntry, find?_cons_self, hset]
      · simp [hasEntry, find?_cons_self]
    · split
      · simp [hasEntry, find?_cons_of_ne hkey]
      · simpa [hasEntry, find?_cons_of_ne hkey] using ih

theorem map_fst_assignAll (entries : Entries) (as : List Assignment) :
    (assignAll entries as).map Prod.fst = entries.map Prod.fst := by
  induction as generalizing entries with
  | nil => rfl
  | cons a as ih => exact (ih _).trans (a.map_fst_apply entries)

theorem hasEntry_assignAll (entries : Entries) (as : List Assignment) (name : String) :
    hasEntry (assignAll entries as) name = hasEntry entries name := by
  induction as generalizing entries with
  | nil => rfl
  | cons a as ih => exact (ih _).trans (a.hasEntry_apply entries name)

theorem assignAll_append (entries : Entries) (as bs : List Assignment) :
    assignAll entries (as ++ bs) = assignAll (assignAll entries as) bs :=
  List.foldl_append

/-- What a call gets that is not about a copy that is changed. -/
def answerOf (entries : Entries) : Call → Except Fault Answer
  | .registry => .ok (.registry entries)
  | .entry code => (find (.table entries) code).map .entry
  | .messages codes => (messages (.table entries) codes).map .messages
  | .setField key _ _ =>
    match Value.find? key entries with
    | none => .error .missingKey
    | some (.table _) => .ok .done
    | some _ => .error .notAssignable
  | _ => .ok .done

/-- The field that a call sets in the registry, if there is an entry to set it in. -/
def Call.assignmentIn? (entries : Entries) (call : Call) : Option Assignment :=
  call.assignment?.filter fun a => hasEntry entries a.key

theorem Call.assignment?_of_changesCopy {call : Call} (h : call.changesCopy = true) :
    call.assignment? = none := by
  cases call <;> first | rfl | cases h

theorem assignments_singleton {call : Call} (h : call.assignment? = none)
    (answer : Except Fault Answer) : assignments [call] [answer] = [] := by
  cases answer <;> simp [assignments, h]

theorem assignments_cons (call : Call) (answer : Except Fault Answer) (calls : List Call)
    (answers : List (Except Fault Answer)) :
    assignments (call :: calls) (answer :: answers) =
      assignments [call] [answer] ++ assignments calls answers := by
  cases answer <;> simp [assignments]

/-- A field is set exactly if there is an entry with fields under the key. -/
theorem assignments_answerOf (entries : Entries) (call : Call) :
    assignments [call] [answerOf entries call] = (call.assignmentIn? entries).toList := by
  cases call with
  | setField key field new =>
    rw [answerOf, Call.assignmentIn?, Call.assignment?, Option.filter_some, hasEntry]
    rcases Value.find? key entries with _ | v
    · rfl
    · cases v <;> rfl
  | _ => exact assignments_singleton rfl _

/-! ### Objects with a field set -/

variable {objects objects' : Objects} {entries : Entries} {fields : Fields}

theorem insert_fieldsOf (key v : Value) (entries : Entries) :
    Value.insert key (.value v) (fieldsOf entries) = fieldsOf (Value.insert key v entries) := by
  induction entries with
  | nil => rfl
  | cons e rest ih =>
    simp only [fieldsOf, List.map_cons, Value.insert] at ih ⊢
    split
    · rfl
    · rw [ih, List.map_cons]

/-- Setting a field of the object that shows an entry is setting it in the entry. -/
theorem apply_shows (h : List.Forall₂ (Shows objects) entries fields)
    (hn : (tables fields).Nodup) {a : Assignment} {old : Entries} {inner : Nat}
    (hold : Value.find? a.key entries = some (.table old))
    (hinner : Value.find? a.key fields = some (.object inner))
    (hnew : objects'[inner]? = some (.table (fieldsOf (Value.insert (.text a.field) a.new old))))
    (hsame : ∀ id ∈ tables fields, id ≠ inner → objects'[id]? = objects[id]?) :
    List.Forall₂ (Shows objects') (a.apply entries) fields := by
  induction h with
  | nil => cases hold
  | @cons e f entries fields hshows hrest ih =>
    obtain ⟨key, v⟩ := e
    obtain ⟨key', ref⟩ := f
    obtain ⟨rfl, hstands⟩ := hshows
    obtain ⟨hhead, hn⟩ := nodup_tables_cons.mp hn
    simp only [mem_tables_cons] at hsame
    by_cases hkey : key' = .text a.key
    · subst hkey
      rw [find?_cons_self] at hold hinner
      obtain rfl := Option.some.inj hold
      obtain rfl := Option.some.inj hinner
      rw [Assignment.apply, if_pos (Value.same_text_iff.mpr rfl)]
      refine .cons ⟨rfl, .table hnew⟩ (shows_mono hrest fun id hid => ?_)
      exact hsame id (.inr hid) fun heq => hhead inner rfl (heq ▸ hid)
    · rw [find?_cons_of_ne hkey] at hold hinner
      rw [Assignment.apply, if_neg (Value.same_text_iff.not.mpr hkey)]
      refine .cons ⟨rfl, hstands.mono fun id hid => ?_⟩
        (ih hn hold hinner fun id hid => hsame id (.inr hid))
      refine hsame id (.inl hid) ?_
      rintro rfl
      exact hhead id hid (mem_tables_iff.mpr ⟨_, mem_of_find? hinner, rfl⟩)

/-! ### What a store holds -/

namespace Store

variable {s : Store}

/-- A store whose registry shows entries by objects of their own, which are no copies. -/
structure Holds (s : Store) (entries : Entries) (fields : Fields) : Prop where
  registry : s.objects[s.registry]? = some (.table fields)
  shows : List.Forall₂ (Shows s.objects) entries fields
  apart : (s.registry :: tables fields).Nodup
  copies : ∀ id ∈ s.copies, id ∉ s.registry :: tables fields

theorem fieldsAt_of_getElem? {id : Nat} (h : s.objects[id]? = some (.table fields)) :
    s.fieldsAt id = fields := by
  rw [fieldsAt, Ref.fields?, h]
  rfl

theorem Holds.fieldsAt (h : s.Holds entries fields) : s.fieldsAt s.registry = fields :=
  fieldsAt_of_getElem? h.registry

theorem Holds.entries_eq (h : s.Holds entries fields) : s.entries = entries := by
  rw [Store.entries, h.fieldsAt]
  exact map_outline_of_shows h.shows

theorem Holds.lt_size (h : s.Holds entries fields) {id : Nat}
    (hid : id ∈ s.registry :: tables fields) : id < s.objects.size := by
  rcases List.mem_cons.mp hid with rfl | hid
  · exact (Array.getElem?_eq_some_iff.mp h.registry).1
  · exact lt_size_of_shows h.shows hid

/-- The number of the next object is free. -/
theorem Holds.size_notMem (h : s.Holds entries fields) :
    s.objects.size ∉ s.registry :: tables fields :=
  fun hid => Nat.lt_irrefl _ (h.lt_size hid)

/-- **A store holds what it held** as long as the registry and its entries do not change and none of
them becomes a copy. -/
theorem Holds.frame (h : s.Holds entries fields) {s' : Store} (hr : s'.registry = s.registry)
    (hsame : ∀ id ∈ s.registry :: tables fields, s'.objects[id]? = s.objects[id]?)
    (hcopies : ∀ id ∈ s'.copies, id ∉ s.registry :: tables fields) : s'.Holds entries fields where
  registry := by rw [hr, hsame _ List.mem_cons_self, h.registry]
  shows := shows_mono h.shows fun id hid => hsame id (List.mem_cons_of_mem _ hid)
  apart := hr ▸ h.apart
  copies := hr ▸ hcopies

/-! ### Copies -/

theorem Holds.handOut (h : s.Holds entries fields) (other : Fields) :
    (s.handOut other).Holds entries fields := by
  refine h.frame rfl (fun id hid => ?_) (List.forall_mem_cons.mpr ⟨h.size_notMem, h.copies⟩)
  simp [Store.handOut, Array.getElem?_push, Nat.ne_of_lt (h.lt_size hid)]

theorem Holds.clearAt (h : s.Holds entries fields) {id : Nat}
    (hid : id ∉ s.registry :: tables fields) : (s.clearAt id).Holds entries fields := by
  refine h.frame rfl (fun other hother => ?_) h.copies
  refine Array.getElem?_setIfInBounds_ne ?_
  rintro rfl
  exact hid hother

theorem Holds.putAt (h : s.Holds entries fields) {id : Nat}
    (hid : id ∉ s.registry :: tables fields) (key : String) (new : Value) :
    (s.putAt id key new).Holds entries fields := by
  have hne : id ≠ s.registry := fun heq => hid (heq ▸ List.mem_cons_self)
  rw [Store.putAt, if_neg hne]
  refine h.frame rfl (fun other hother => ?_) h.copies
  refine Array.getElem?_setIfInBounds_ne ?_
  rintro rfl
  exact hid hother

theorem fieldsAt_handOut (s : Store) (fields : Fields) :
    (s.handOut fields).fieldsAt s.objects.size = fields :=
  fieldsAt_of_getElem? Array.getElem?_push_size

theorem Holds.copy (h : s.Holds entries fields) : s.copy.Holds entries fields :=
  h.handOut _

theorem Holds.fieldsAt_copy (h : s.Holds entries fields) :
    s.copy.fieldsAt s.objects.size = fields := by
  rw [Store.copy, fieldsAt_handOut, h.fieldsAt]

/-! ### Setting a field -/

/-- What stands under a key of the registry: nothing, an object for an entry with fields, or another
value. -/
theorem Holds.find?_cases (h : s.Holds entries fields) (key : String) :
    (Value.find? key entries = none ∧ Value.find? key fields = none) ∨
      (∃ old inner, Value.find? key entries = some (.table old) ∧
        Value.find? key fields = some (.object inner) ∧
        s.objects[inner]? = some (.table (fieldsOf old))) ∨
      ∃ v, (∀ old, v ≠ .table old) ∧ Value.find? key entries = some v ∧
        Value.find? key fields = some (.value v) := by
  have hrel := find?_of_shows h.shows key
  revert hrel
  generalize Value.find? key entries = v?
  generalize Value.find? key fields = ref?
  rintro (hstands | _)
  · cases hstands with
    | plain hv => exact .inr (.inr ⟨_, hv, rfl, rfl⟩)
    | table hobject => exact .inr (.inl ⟨_, _, rfl, rfl, hobject⟩)
  · exact .inl ⟨rfl, rfl⟩

/-- Setting a field through a table with the fields of the registry. -/
theorem Holds.assignAt (h : s.Holds entries fields) {id : Nat} (hid : s.fieldsAt id = fields)
    (a : Assignment) :
    (∃ s', s.assignAt id a.key a.field a.new = .ok s' ∧ s'.Holds (a.apply entries) fields ∧
      answerOf entries (.setField a.key a.field a.new) = .ok .done) ∨
    ∃ fault, s.assignAt id a.key a.field a.new = .error fault ∧
      answerOf entries (.setField a.key a.field a.new) = .error fault := by
  rw [Store.assignAt, hid, Value.lookup?_text, answerOf]
  obtain ⟨hnone, hnone'⟩ | ⟨old, inner, hold, hinner, hobject⟩ | ⟨v, hv, hfind, hfind'⟩ :=
    h.find?_cases a.key
  · rw [hnone, hnone']
    exact .inr ⟨.missingKey, rfl, rfl⟩
  · rw [hold, hinner]
    refine .inl ⟨s.putAt inner a.field a.new, by simp only [hobject], ?_, rfl⟩
    have hmem : inner ∈ tables fields := mem_tables_iff.mpr ⟨_, mem_of_find? hinner, rfl⟩
    have hne : inner ≠ s.registry := by
      rintro rfl
      exact (List.nodup_cons.mp h.apart).1 hmem
    have hlt : inner < s.objects.size := (Array.getElem?_eq_some_iff.mp hobject).1
    rw [Store.putAt, if_neg hne, fieldsAt_of_getElem? hobject, insert_fieldsOf]
    exact {
      registry := (Array.getElem?_setIfInBounds_ne hne).trans h.registry
      shows := apply_shows h.shows (List.nodup_cons.mp h.apart).2 hold hinner
        (Array.getElem?_setIfInBounds_self_of_lt hlt) fun id _ hid =>
          Array.getElem?_setIfInBounds_ne hid.symm
      apart := h.apart
      copies := h.copies }
  · rw [hfind, hfind']
    cases v with
    | table old => exact absurd rfl (hv old)
    | _ => exact .inr ⟨.notAssignable, rfl, rfl⟩

/-! ### Calls -/

theorem Holds.find_eq (h : s.Holds entries fields) (code : String) :
    s.find code = (Registry.find (.table entries) code).map (·.map fieldsOf) := by
  refine findBy_of_shows ?_ h.shows code
  rw [Ref.fields?, h.registry]

/-- **What a caller gets** for a call that is not about a copy that is changed. -/
theorem Holds.answer (h : s.Holds entries fields) {call : Call}
    (hcall : call.changesCopy = false) : (s.perform call).2 = answerOf entries call := by
  cases call with
  | registry =>
    change Except.ok (Answer.registry (s.copy.entriesOf (s.copy.fieldsAt s.objects.size))) = _
    rw [h.fieldsAt_copy, entriesOf, map_outline_of_shows h.copy.shows, answerOf]
  | entry code =>
    rw [perform, h.find_eq, answerOf]
    rcases Registry.find (.table entries) code with fault | _ | found
    · rfl
    · rfl
    · simp only [Except.map, Option.map_some, fieldsAt_handOut, entriesOf_fieldsOf]
  | messages codes =>
    have hcopied : (Ref.object s.objects.size).fields? s.copy.objects = some fields := by
      rw [Ref.fields?, Store.copy, Store.handOut, Array.getElem?_push_size, h.fieldsAt]
    rw [perform, reader, messagesBy_of_shows hcopied h.copy.shows, answerOf]
  | setField key field new =>
    rw [perform]
    obtain ⟨s', hs', -, hok⟩ | ⟨fault, hfault, herror⟩ :=
      h.copy.assignAt h.fieldsAt_copy ⟨key, field, new⟩
    · rw [hs', hok]
    · rw [hfault, herror]
  | _ => cases hcall

/-- What a call sets is told by the entries. -/
theorem Holds.assignments_perform (h : s.Holds entries fields) (call : Call) :
    assignments [call] [(s.perform call).2] = (call.assignmentIn? entries).toList := by
  cases hcall : call.changesCopy with
  | true =>
    have hnone := call.assignment?_of_changesCopy hcall
    rw [assignments_singleton hnone, Call.assignmentIn?, hnone]
    rfl
  | false => rw [h.answer hcall, assignments_answerOf]

/-- **What a call leaves of a store:** the entries, with the field set that it has set. -/
theorem Holds.perform (h : s.Holds entries fields) (call : Call) :
    (s.perform call).1.Holds
      (assignAll entries (assignments [call] [(s.perform call).2])) fields := by
  have hcopy : ∀ {id back : Nat}, s.copies[back]? = some id → id ∉ s.registry :: tables fields :=
    fun hid => h.copies _ (List.mem_of_getElem? hid)
  cases call with
  | setField key field new =>
    rw [Store.perform]
    obtain ⟨s', hs', hholds, -⟩ | ⟨fault, hfault, -⟩ :=
      h.copy.assignAt h.fieldsAt_copy ⟨key, field, new⟩
    · rw [hs']
      exact hholds
    · rw [hfault]
      exact h.copy
  | registry | messages codes =>
    rw [assignments_singleton rfl]
    exact h.copy
  | clear => exact h.copy.clearAt h.size_notMem
  | put key new => exact h.copy.putAt h.size_notMem key new
  | entry code =>
    rw [assignments_singleton rfl, Store.perform]
    split
    · exact h.handOut _
    · exact h
    · exact h
  | setEntryField code field new =>
    rw [assignments_singleton rfl, Store.perform]
    split
    · exact (h.handOut _).putAt h.size_notMem field new
    · exact h
    · exact h
  | clearCopy back =>
    rw [assignments_singleton rfl, Store.perform]
    split
    · next id hid => exact h.clearAt (hcopy hid)
    · exact h
  | putCopy back key new =>
    rw [assignments_singleton rfl, Store.perform]
    split
    · next id hid => exact h.putAt (hcopy hid) key new
    · exact h

/-- The fields that are set successfully are those for which there is an entry, which may be told
from the start. -/
theorem Holds.assignments_eq (h : s.Holds entries fields) (calls : List Call) :
    assignments calls (s.performAll calls).2 = calls.filterMap (Call.assignmentIn? entries) := by
  induction calls generalizing s entries with
  | nil => rfl
  | cons call rest ih =>
    have hrest : Call.assignmentIn? (assignAll entries
        (assignments [call] [(s.perform call).2])) = Call.assignmentIn? entries := by
      funext call
      simp only [Call.assignmentIn?, hasEntry_assignAll]
    rw [Store.performAll, assignments_cons, ih (h.perform call), hrest, h.assignments_perform,
      List.filterMap_cons]
    cases call.assignmentIn? entries <;> rfl

/-- **What calls leave of a store:** the entries, with the fields set that they have set. -/
theorem Holds.performAll (h : s.Holds entries fields) (calls : List Call) :
    (s.performAll calls).1.Holds
      (assignAll entries (assignments calls (s.performAll calls).2)) fields := by
  induction calls generalizing s entries with
  | nil => exact h
  | cons call rest ih =>
    rw [Store.performAll, assignments_cons, assignAll_append]
    exact ih (h.perform call)

/-- Without the calls about copies that are changed, the others get the same answers, also from
another store that holds the same entries. -/
theorem Holds.answers_filter {t : Store} {others : Fields} (hs : s.Holds entries fields)
    (ht : t.Holds entries others) (calls : List Call) :
    ((calls.zip (s.performAll calls).2).filter fun c => !c.1.changesCopy).map Prod.snd =
      (t.performAll (calls.filter fun call => !call.changesCopy)).2 := by
  induction calls generalizing s t entries with
  | nil => rfl
  | cons call rest ih =>
    have hnext := hs.perform call
    rw [Store.performAll, List.zip_cons_cons]
    cases hcall : call.changesCopy with
    | true =>
      rw [assignments_singleton (call.assignment?_of_changesCopy hcall)] at hnext
      simpa [hcall] using ih hnext ht
    | false =>
      have hanswer : (s.perform call).2 = (t.perform call).2 :=
        (hs.answer hcall).trans (ht.answer hcall).symm
      have hnext' := ht.perform call
      rw [← hanswer] at hnext'
      simpa [hcall, Store.performAll, hanswer] using ih hnext hnext'

/-! ### Loaded stores -/

theorem holds_ofEntries (entries : Entries) :
    (ofEntries entries).Holds entries (boxAll #[] entries).2 where
  registry := Array.getElem?_push_size
  shows := shows_mono (boxAll_shows #[] entries) fun id hid => by
    have hlt := lt_size_of_shows (boxAll_shows #[] entries) hid
    simp [ofEntries, Array.getElem?_push, Nat.ne_of_lt hlt]
  apart := by
    refine List.nodup_cons.mpr ⟨fun hid => ?_, nodup_tables_boxAll #[] entries⟩
    exact Nat.lt_irrefl _ (lt_size_of_shows (boxAll_shows #[] entries) hid)
  copies := List.forall_mem_nil _

/-- The stores that are loaded from registries that hold no object twice, with the entries that they
are loaded with: the packaged ones, those of a file, and none for a file that is missing or holds no
table. Files may be read in any way. -/
inductive Loaded : Store → Entries → Prop
  | packaged : Loaded .packaged Registry.packaged
  | missing {path : String} {read : List UInt8 → Except Fault (Objects × Ref)} {s : Store}
      (h : (load path none read).outcome = .ok s) : Loaded s []
  | table {path : String} {bytes : List UInt8} {read : List UInt8 → Except Fault (Objects × Ref)}
      {s : Store} {objects : Objects} {ref : Ref} {fields : Fields} {entries : Entries}
      (h : (load path (some bytes) read).outcome = .ok s)
      (hread : read bytes = .ok (objects, ref)) (htable : ref.fields? objects = some fields)
      (htree : ref.tree? objects = some (.table entries)) : Loaded s entries
  | other {path : String} {bytes : List UInt8} {read : List UInt8 → Except Fault (Objects × Ref)}
      {s : Store} {objects : Objects} {ref : Ref}
      (h : (load path (some bytes) read).outcome = .ok s)
      (hread : read bytes = .ok (objects, ref)) (hother : ref.fields? objects = none) : Loaded s []

theorem Loaded.eq_ofEntries (h : Loaded s entries) : s = ofEntries entries := by
  cases h with
  | packaged => rfl
  | missing h => exact (Except.ok.inj h).symm
  | table h hread htable htree =>
    rw [load, hread] at h
    obtain rfl := Except.ok.inj h
    simp only [ofShared, htable, htree]
  | other h hread hother =>
    rw [load, hread] at h
    obtain rfl := Except.ok.inj h
    simp only [ofShared, hother]

/-- **The registry after any calls.** For every store that is loaded from a registry without shared
objects and any calls, some of which may fail,

* the registry is the one that was loaded, with the fields set, one after another, that were set
  successfully through copies of the registry;
* these are the fields for which the registry that was loaded has an entry;
* the keys are those that were loaded, in their order;
* a further call that sets no field of the registry, or fails, leaves it as it is;
* the callers' copies, entries and messages are those of that registry;
* without the calls about copies that are changed, all other calls get the same answers.
-/
theorem performAll_of_loaded {loaded : Entries} (h : s.Loaded loaded) (calls : List Call) :
    let last := (s.performAll calls).1
    let answers := (s.performAll calls).2
    last.entries = assignAll loaded (assignments calls answers) ∧
      assignments calls answers = calls.filterMap (Call.assignmentIn? loaded) ∧
      last.entries.map Prod.fst = loaded.map Prod.fst ∧
      (∀ call, call.assignment? = none ∨ (∃ fault, (last.perform call).2 = .error fault) →
        (last.perform call).1.entries = last.entries) ∧
      (last.perform .registry).2 = .ok (.registry last.entries) ∧
      (∀ code, (last.perform (.entry code)).2 =
        (Registry.find (.table last.entries) code).map .entry) ∧
      (∀ codes, (last.perform (.messages codes)).2 =
        (messages (.table last.entries) codes).map .messages) ∧
      ((calls.zip answers).filter fun c => !c.1.changesCopy).map Prod.snd =
        (s.performAll (calls.filter fun call => !call.changesCopy)).2 := by
  intro last answers
  obtain rfl := h.eq_ofEntries
  have hstart := holds_ofEntries loaded
  have hlast := hstart.performAll calls
  have hentries : last.entries = assignAll loaded (assignments calls answers) := hlast.entries_eq
  rw [← hentries] at hlast
  refine ⟨hentries, hstart.assignments_eq calls, ?keys, fun call hcall => ?frame,
    hlast.answer rfl, fun code => hlast.answer rfl, fun codes => hlast.answer rfl,
    hstart.answers_filter hstart calls⟩
  case keys => rw [hentries, map_fst_assignAll]
  case frame =>
    have hnone : assignments [call] [(last.perform call).2] = [] := by
      obtain hnone | ⟨fault, hfault⟩ := hcall
      · exact assignments_singleton hnone _
      · simp [hfault, assignments]
    have hnext := hlast.perform call
    rw [hnone] at hnext
    exact hnext.entries_eq

/-- Of the fields that are set through copies of the registry one is set, although entries have been
taken out of other copies before. The copy that is emptied last is that of the registry. -/
theorem performAll_of_loaded_packaged :
    let calls := [Call.clear, .put "public-types.C9501" .null, .clearCopy 1,
      .setField "public-types.E9502" "symbol" (.text "other"),
      .setField "public-types.E1" "symbol" (.text "other"),
      .setEntryField "other" "symbol" (.text "none"), .registry, .clearCopy 0, .messages ["other"]]
    let last := (Store.packaged.performAll calls).1
    Store.packaged.Loaded Registry.packaged ∧
      last.entries = assignAll Registry.packaged
        [⟨"public-types.E9502", "symbol", .text "other"⟩] ∧
      last.entries.map Prod.fst = [.text "public-types.C9501", .text "public-types.E9502"] ∧
      (last.perform (.entry "other")).2 =
        (Registry.find (.table last.entries) "other").map .entry := by
  intro calls last
  obtain ⟨hentries, hset, hkeys, -, -, hentry, -⟩ := performAll_of_loaded .packaged calls
  have hcalls : calls.filterMap (Call.assignmentIn? Registry.packaged) =
      [⟨"public-types.E9502", "symbol", .text "other"⟩] := rfl
  rw [hset, hcalls] at hentries
  exact ⟨.packaged, hentries, hkeys, hentry "other"⟩

end Store

end Registry

end ClassQuota
