import ClassQuota.Assembly
import ClassQuota.Proofs.RuleTable
import ClassQuota.Proofs.UpwardSearch

/-!
# The levels of a document

Three levels of a document lead to the entries for the rules: the table of tools, in it the section
of the linter, and in that the table of rules. Each can be missing, and each can be a value of any
kind in place of a table. Where the table of rules is another value, it is ignored. At the two
levels above it only values that count as false are read as empty tables: a value that counts as
true is taken for the table that it is not, and loading ends in a fault.

## Main definitions

* `subentries` — the entries of a table inside a table
* `Settings.IsNearest` — a document is the first one of the search from a directory
* `Settings.levels` — what a document has at the three levels
* `Settings.Degrades`, `Settings.DegradesAbove` — a level, and the two upper levels, can be read
  as tables

## Main results

* `Settings.findFrom_of_isNearest` — the search ends with the section of the nearest document
* `Settings.load_of_degradesAbove`, `Settings.load_of_not_degradesAbove` — the assembly of the
  nearest document, in the two cases
* `Settings.load_total_iff_degradesAbove` — loading and all questions about rules have answers
  exactly if the two upper levels can be read as tables
-/

namespace ClassQuota

/-- The entries of the table under a name, none where there is no table. -/
def subentries (name : String) (entries : Entries) : Entries :=
  match Value.find? name entries with
  | some (.table inner) => inner
  | _ => []

theorem subentries_of_not_isTable {name : String} {entries : Entries} {v : Value}
    (hfind : Value.find? name entries = some v) (h : v.isTable = false) :
    subentries name entries = [] := by
  rw [subentries, hfind]
  cases v with
  | table inner => cases h
  | _ => rfl

@[simp] theorem subentries_nil (name : String) : subentries name [] = [] := rfl

theorem ruleTable_eq_subentries (entries : Entries) :
    ruleTable entries = subentries "rules" entries := rfl

namespace Settings

variable {tree : FileTree} {directory : FilePath} {document : Entries}

/-! ### The nearest document -/

/-- A document is the first one that a search from a directory meets, above at most some malformed
files. -/
def IsNearest (tree : FileTree) (directory : FilePath) (document : Entries) : Prop :=
  ∃ before place after, searched tree directory none = before ++ place :: after ∧
    (∀ d ∈ before, (sight tree d).passes = true) ∧ sight tree place = .document document

/-- The search from a directory ends with the section of the nearest document. -/
theorem findFrom_of_isNearest (h : IsNearest tree directory document) :
    (findFrom tree directory none).outcome =
      sectionOf (orEmpty (Value.find? "tool" document)) := by
  obtain ⟨before, place, after, hsearched, hbefore, hplace⟩ := h
  have hne : searched tree directory none ≠ [] := by
    rw [hsearched]
    simp
  rw [findFrom_eq_search hne, hsearched, search_append hbefore, search_cons, hplace]

/-! ### Levels that can be read as tables -/

/-- What is under a name at one level can be read as a table: it is missing, or a table, or counts
as false. -/
def Degrades (level : Option Value) : Prop :=
  ∀ v, level = some v → v.isTable = true ∨ v.isTrue = false

/-- The entries of the section of a document, none where there is no section. -/
def sectionEntries (document : Entries) : Entries :=
  subentries sectionName (subentries "tool" document)

/-- What a document has at the three levels, from the top. -/
def levels (document : Entries) : List (Option Value) :=
  [Value.find? "tool" document, Value.find? sectionName (subentries "tool" document),
    Value.find? "rules" (sectionEntries document)]

/-- The two levels of a document above the table of rules can be read as tables. -/
structure DegradesAbove (document : Entries) : Prop where
  tools : Degrades (Value.find? "tool" document)
  settings : Degrades (Value.find? sectionName (subentries "tool" document))

theorem orEmpty_of_degrades {name : String} {entries : Entries}
    (h : Degrades (Value.find? name entries)) :
    orEmpty (Value.find? name entries) = .table (subentries name entries) := by
  rw [subentries]
  rcases hfind : Value.find? name entries with _ | v
  · rfl
  · rcases h v hfind with htable | hfalse
    · cases v with
      | table inner => cases inner <;> rfl
      | _ => cases htable
    · have hempty : orEmpty (some v) = .table [] := by simp [orEmpty, Option.filter, hfalse]
      cases v with
      | table inner => cases inner with
        | nil => rfl
        | cons e rest => cases hfalse
      | _ => exact hempty

theorem exists_of_not_degrades {level : Option Value} (h : ¬Degrades level) :
    ∃ v, level = some v ∧ v.isTable = false ∧ v.isTrue = true := by
  simpa [Degrades] using h

/-- A level that cannot be read as a table is read as the value that is there. -/
theorem orEmpty_of_isTrue {v : Value} (h : v.isTrue = true) : orEmpty (some v) = v := by
  simp [orEmpty, Option.filter, h]

theorem fieldOf_of_not_isTable {v : Value} (h : v.isTable = false) (name : String) :
    fieldOf v name = .error .notTable := by
  cases v with
  | table entries => cases h
  | _ => rfl

/-- Settings that count as present and are no table do not load. -/
theorem load_of_not_isTable {v : Value} (htable : v.isTable = false) (htrue : v.isTrue = true) :
    (load v).outcome = .error .notTable := by
  simp [load, htrue, validate, fieldOf_of_not_isTable htable, Attempt.ofExcept]

/-! ### The assembly of the nearest document -/

/-- What an assembly is loaded from decides what is loaded. -/
theorem outcome_load (tree : FileTree) (directory : FilePath) :
    (Assembly.load tree directory).outcome = (do
      let config ← (findFrom tree directory none).outcome
      let settings ← (load config).outcome
      .ok (.ofSettings settings)) := by
  rw [Assembly.load]
  rcases findFrom tree directory none with ⟨fault | config, log⟩
  · rfl
  · rw [Attempt.bind_ok]
    rcases hload : load config with ⟨fault | settings, loadLog⟩
    · simp only [bind, Except.bind, hload]
      rfl
    · simp only [bind, Except.bind, hload]
      rfl

/-- Where the upper levels can be read as tables, the section is a table and loads. -/
theorem load_of_degradesAbove (h : IsNearest tree directory document)
    (hlevels : DegradesAbove document) :
    (findFrom tree directory none).outcome = .ok (.table (sectionEntries document)) ∧
      (Assembly.load tree directory).outcome =
        .ok (.ofSettings ⟨.table (sectionEntries document)⟩) := by
  have hfind : (findFrom tree directory none).outcome =
      .ok (.table (sectionEntries document)) := by
    rw [findFrom_of_isNearest h, orEmpty_of_degrades hlevels.tools, sectionEntries,
      ← orEmpty_of_degrades hlevels.settings]
    rfl
  refine ⟨hfind, ?_⟩
  simp only [outcome_load, hfind, load_table, bind, Except.bind]

/-- Where one of the upper levels cannot be read as a table, the search gives no table, and nothing
is loaded. -/
theorem load_of_not_degradesAbove (h : IsNearest tree directory document)
    (hlevels : ¬DegradesAbove document) :
    (∀ entries, (findFrom tree directory none).outcome ≠ .ok (.table entries)) ∧
      (Assembly.load tree directory).outcome = .error .notTable := by
  rw [outcome_load, findFrom_of_isNearest h]
  by_cases htools : Degrades (Value.find? "tool" document)
  · have hsettings : ¬Degrades (Value.find? sectionName (subentries "tool" document)) :=
      fun hsettings => hlevels ⟨htools, hsettings⟩
    -- The section is found as it is, and only its loading asks it for an entry.
    obtain ⟨v, hfind, htable, htrue⟩ := exists_of_not_degrades hsettings
    have hsection : sectionOf (.table (subentries "tool" document)) = .ok v := by
      simp only [sectionOf, fieldOf, hfind, orEmpty_of_isTrue htrue, bind, Except.bind]
    rw [orEmpty_of_degrades htools, hsection]
    refine ⟨fun entries hentries => ?_, ?_⟩
    · obtain rfl := Except.ok.inj hentries
      cases htable
    · simp only [load_of_not_isTable htable htrue, bind, Except.bind]
  · -- The search asks the tools themselves for an entry.
    obtain ⟨v, hfind, htable, htrue⟩ := exists_of_not_degrades htools
    have hsection : sectionOf v = .error .notTable := by
      simp only [sectionOf, fieldOf_of_not_isTable htable, bind, Except.bind]
    rw [hfind, orEmpty_of_isTrue htrue, hsection]
    exact ⟨fun entries => by simp, rfl⟩

theorem degradesAbove_of_load (h : IsNearest tree directory document) {assembly : Assembly}
    (hload : (Assembly.load tree directory).outcome = .ok assembly) : DegradesAbove document := by
  by_cases hlevels : DegradesAbove document
  · exact hlevels
  · rw [(load_of_not_degradesAbove h hlevels).2] at hload
    cases hload

/-- Where one of the three levels is no table, no rule has an entry. -/
theorem ruleTable_of_not_isTable {v : Value} (h : some v ∈ levels document)
    (htable : v.isTable = false) : ruleTable (sectionEntries document) = [] := by
  rw [ruleTable_eq_subentries]
  simp only [levels, List.mem_cons, List.not_mem_nil, or_false] at h
  rcases h with htools | hsettings | hrules
  · rw [sectionEntries, subentries_of_not_isTable htools.symm htable, subentries_nil,
      subentries_nil]
  · rw [sectionEntries, subentries_of_not_isTable hsettings.symm htable, subentries_nil]
  · exact subentries_of_not_isTable hrules.symm htable

/-- Questions about rules always have answers in settings that are a table. -/
theorem exists_answers (entries : Entries) (rule : String) :
    (∃ on, (⟨.table entries⟩ : Settings).isEnabled rule = .ok on) ∧
      ∃ arguments, (⟨.table entries⟩ : Settings).argumentsFor rule = .ok arguments := by
  refine ⟨?_, _, argumentsFor_table rule entries⟩
  by_cases hoff : ruleSetting? rule entries = some (.bool false)
  · exact ⟨false, isEnabled_of_off hoff⟩
  · exact ⟨true, isEnabled_of_ne hoff⟩

/-- Without a table of rules every rule is on and has no arguments. -/
theorem answers_of_ruleTable_nil {entries : Entries} (h : ruleTable entries = [])
    (rule : String) :
    (⟨.table entries⟩ : Settings).isEnabled rule = .ok true ∧
      (⟨.table entries⟩ : Settings).argumentsFor rule = .ok [] := by
  have hnone : ruleSetting? rule entries = none := by
    rw [ruleSetting?, h]
    rfl
  constructor
  · exact isEnabled_of_ne (by simp [hnone])
  · rw [argumentsFor_table, hnone]
    rfl

theorem part_ofSettings (settings : Settings) :
    (Assembly.ofSettings settings).part settingsKey = .ok (.settings settings) := rfl

/-- **Oddly shaped documents.** With a nearest document, the search gives a table, an assembly is
loaded, and its settings answer every question about a rule, exactly if each of the two levels
above the table of rules is missing, a table, or counts as false. If so, and one of the three
levels is no table, every rule is on and has no arguments. If not, the search gives no table, and
loading ends in a fault. -/
theorem load_total_iff_degradesAbove (tree : FileTree) (directory : FilePath)
    (document : Entries) (h : IsNearest tree directory document) :
    (DegradesAbove document ↔
      ∃ entries assembly settings,
        (findFrom tree directory none).outcome = .ok (.table entries) ∧
        (Assembly.load tree directory).outcome = .ok assembly ∧
        assembly.part settingsKey = .ok (.settings settings) ∧
        ∀ rule, (∃ on, settings.isEnabled rule = .ok on) ∧
          ∃ arguments, settings.argumentsFor rule = .ok arguments) ∧
      (∀ assembly settings, (Assembly.load tree directory).outcome = .ok assembly →
        assembly.part settingsKey = .ok (.settings settings) →
        (∃ v, some v ∈ levels document ∧ v.isTable = false) →
        ∀ rule, settings.isEnabled rule = .ok true ∧ settings.argumentsFor rule = .ok []) ∧
      (¬DegradesAbove document →
        (∀ entries, (findFrom tree directory none).outcome ≠ .ok (.table entries)) ∧
          (Assembly.load tree directory).outcome = .error .notTable) := by
  refine ⟨⟨fun hlevels => ?_, ?_⟩, ?_, load_of_not_degradesAbove h⟩
  · obtain ⟨hfind, hload⟩ := load_of_degradesAbove h hlevels
    exact ⟨_, _, _, hfind, hload, part_ofSettings _, exists_answers _⟩
  · rintro ⟨entries, assembly, settings, -, hload, -⟩
    exact degradesAbove_of_load h hload
  · rintro assembly settings hload hpart ⟨v, hlevel, htable⟩
    rw [(load_of_degradesAbove h (degradesAbove_of_load h hload)).2] at hload
    obtain rfl := Except.ok.inj hload
    rw [part_ofSettings] at hpart
    obtain rfl : (⟨.table (sectionEntries document)⟩ : Settings) = settings := by
      simpa using hpart
    exact answers_of_ruleTable_nil (ruleTable_of_not_isTable hlevel htable)

end Settings

/-! ### Documents of one assignment -/

/-- The table of a text that is one assignment. -/
theorem Toml.document_of_assignment {cs : List Char} {entries : Entries} (path : Path)
    (rest : List Char) (item : Value) (hlines : unixLines cs = cs)
    (hfront : cs.head?.any isBare = true) (hkey : keyAndEquals cs = .ok (path, rest))
    (hitem : value (rest.length + 1) nestingRoom rest = .ok (item, []))
    (hentries : (({} : Draft).assign? path item).map Draft.entries = some entries) :
    document cs = .ok entries := by
  cases cs with
  | nil => cases hfront
  | cons c cs =>
    have hbare : isBare c = true := hfront
    obtain ⟨draft, hdraft, rfl⟩ := Option.map_eq_some_iff.mp hentries
    have hblank : ¬isBlank c = true := by
      intro h
      obtain rfl | rfl : c = ' ' ∨ c = '\t' := by simpa [isBlank] using h
      all_goals cases hbare
    have hblanks : skipBlanks (c :: cs) = c :: cs := List.dropWhile_cons_of_neg hblank
    have hassignment : assignment {} (c :: cs) = .ok (draft, []) := by
      simp [assignment, hkey, hitem, hdraft, accept, bind, Except.bind]
    have hstatement : statement {} (c :: cs) = .ok (draft, []) := by
      rw [statement]
      · have hno : ¬(c = '\n' ∨ c = '#') := by rintro (rfl | rfl) <;> cases hbare
        rw [if_neg hno, if_pos (.inl hbare), hassignment]
      · rintro rfl
        cases hbare
    rw [document, hlines, lines, hblanks, hstatement]
    rfl

namespace Settings

/-- A root that holds one document. -/
def rootDocument (text : String) : FileTree :=
  .directory [(fileName, .file (Text.encodeUtf8 text.toList))]

theorem isNearest_rootDocument {text : String} {document : Entries}
    (hbytes : Text.decodeUtf8 (Text.encodeUtf8 text.toList) = some text.toList)
    (htext : Toml.document text.toList = .ok document) :
    IsNearest (rootDocument text) [] document := by
  have hfile : (rootDocument text).readFile [fileName] =
      .ok (.content (Text.encodeUtf8 text.toList)) := rfl
  have hread : Toml.read (Text.encodeUtf8 text.toList) = .ok document := by
    rw [Toml.read, hbytes]
    exact congrArg (Except.mapError Toml.FileFlaw.text) htext
  refine ⟨[], [], [], rfl, List.forall_mem_nil _, ?_⟩
  simp only [sight, List.nil_append, hfile, Sight.ofReading, hread]

theorem load_total_iff_degradesAbove_rules_int :
    IsNearest (rootDocument "tool.public-types.rules=3") []
        [(.text "tool", .table [(.text "public-types", .table [(.text "rules", .int 3)])])] ∧
      ∃ assembly settings,
        (Assembly.load (rootDocument "tool.public-types.rules=3") []).outcome = .ok assembly ∧
        assembly.part settingsKey = .ok (.settings settings) ∧
        ∀ rule, settings.isEnabled rule = .ok true ∧ settings.argumentsFor rule = .ok [] := by
  have hnearest : IsNearest (rootDocument "tool.public-types.rules=3") []
      [(.text "tool", .table [(.text "public-types", .table [(.text "rules", .int 3)])])] :=
    isNearest_rootDocument rfl (Toml.document_of_assignment ["tool", "public-types", "rules"] ['3']
      (.int 3) rfl rfl rfl rfl rfl)
  have hlevels : DegradesAbove
      [(.text "tool", .table [(.text "public-types", .table [(.text "rules", .int 3)])])] := by
    constructor
    · rintro v ⟨⟩
      exact .inl rfl
    · rintro v ⟨⟩
      exact .inl rfl
  obtain ⟨hiff, hodd, -⟩ := load_total_iff_degradesAbove _ _ _ hnearest
  obtain ⟨-, assembly, settings, -, hload, hpart, -⟩ := hiff.mp hlevels
  refine ⟨hnearest, assembly, settings, hload, hpart, ?_⟩
  exact hodd assembly settings hload hpart ⟨.int 3, by simp [levels, sectionEntries, subentries,
    Value.find?, sectionName], rfl⟩

/-- Tools that count as true and are no table end the search in a fault. A section of that kind is
found, but is no table, and does not load. -/
theorem load_faults_on_true_scalars :
    IsNearest (rootDocument "tool=1") [] [(.text "tool", .int 1)] ∧
      (findFrom (rootDocument "tool=1") [] none).outcome = .error .notTable ∧
      IsNearest (rootDocument "tool.public-types=1") []
        [(.text "tool", .table [(.text "public-types", .int 1)])] ∧
      (findFrom (rootDocument "tool.public-types=1") [] none).outcome = .ok (.int 1) ∧
      (Assembly.load (rootDocument "tool.public-types=1") []).outcome = .error .notTable := by
  have htools : IsNearest (rootDocument "tool=1") [] [(.text "tool", .int 1)] :=
    isNearest_rootDocument rfl
      (Toml.document_of_assignment ["tool"] ['1'] (.int 1) rfl rfl rfl rfl rfl)
  have hsection : IsNearest (rootDocument "tool.public-types=1") []
      [(.text "tool", .table [(.text "public-types", .int 1)])] :=
    isNearest_rootDocument rfl
      (Toml.document_of_assignment ["tool", "public-types"] ['1'] (.int 1) rfl rfl rfl rfl rfl)
  have hfound : (findFrom (rootDocument "tool.public-types=1") [] none).outcome = .ok (.int 1) :=
    (findFrom_of_isNearest hsection).trans rfl
  refine ⟨htools, (findFrom_of_isNearest htools).trans rfl, hsection, hfound, ?_⟩
  rw [outcome_load, hfound]
  rfl

end Settings

end ClassQuota
