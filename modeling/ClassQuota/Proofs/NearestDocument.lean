import ClassQuota.Proofs.DocumentLevels
import ClassQuota.Proofs.UnreadableFiles
import Mathlib.Data.String.Basic

/-!
# The nearest document

A search is answered by the first of its directories that has a document: the section of that
document is its result, and its log has a warning for each file below that cannot be read. What lies
above the document or elsewhere is not looked at. The one obstacle is a path that is too long to be
followed: met below the document, it ends the search in a fault.

## Main definitions

* `Settings.beforeDocument` — the directories of a search before the first that has a document
* `Settings.nearest?` — that directory with its document
* `Settings.answer` — the section of the nearest document, and the records on the way to it
* `FileTree.FilesChanged` — two trees are the same but for some files in each

## Main results

* `Settings.search_eq_answer_iff` — a search has that answer unless it meets an obstacle
* `Settings.search_of_blocked` — how it ends if it does
* `Settings.findFrom_congr` — what is not looked at may change
* `Settings.findFrom_eq_answer_iff_unblocked` — all of this, for searches from a text
-/

namespace ClassQuota

namespace Settings

/-- The document that is met, if one is. -/
def Sight.document? : Sight → Option Entries
  | document entries => some entries
  | _ => none

/-- Whether an obstacle is met: a path that is too long to be followed. -/
def Sight.isBlocked : Sight → Bool
  | blocked _ => true
  | _ => false

/-- The directories before the first that has a document. -/
def beforeDocument (tree : FileTree) (directories : List FilePath) : List FilePath :=
  directories.takeWhile fun directory => (sight tree directory).document?.isNone

/-- The first directory that has a document, with the document. -/
def nearest? (tree : FileTree) (directories : List FilePath) : Option (FilePath × Entries) :=
  directories.findSome? fun directory =>
    (sight tree directory).document?.map fun document => (directory, document)

/-- The directories that a search has to look at: those up to the first that has a document. -/
def examined (tree : FileTree) (directories : List FilePath) : List FilePath :=
  beforeDocument tree directories ++ (nearest? tree directories).toList.map Prod.fst

/-- The section of the linter in a document, empty where there is none or it counts as false. -/
def sectionIn (document : Entries) : Value :=
  orEmpty (Value.find? sectionName (subentries "tool" document))

/-- What the nearest document answers: its section, or an empty table where there is no document,
after a warning for each file below that cannot be read. -/
def answer (tree : FileTree) (directories : List FilePath) : Attempt Value where
  outcome := .ok (((nearest? tree directories).map fun found => sectionIn found.2).getD (.table []))
  log := skipRecords tree (beforeDocument tree directories) ++
    (nearest? tree directories).toList.map fun found => loadRecord found.1

variable {tree : FileTree} {directories : List FilePath} {directory : FilePath}

/-- There is no document, or the directories split at the first that has one. -/
theorem nearest?_cases (tree : FileTree) (directories : List FilePath) :
    (nearest? tree directories = none ∧ beforeDocument tree directories = directories) ∨
      ∃ directory document after,
        directories = beforeDocument tree directories ++ directory :: after ∧
        sight tree directory = .document document ∧
        nearest? tree directories = some (directory, document) := by
  induction directories with
  | nil => exact .inl ⟨rfl, rfl⟩
  | cons first rest ih =>
    cases hdocument : (sight tree first).document? with
    | some document =>
      have hsight : sight tree first = .document document := by
        cases hsight : sight tree first <;> simp [hsight, Sight.document?] at hdocument
        rw [hdocument]
      refine .inr ⟨first, document, rest, ?_, hsight, ?_⟩
      · simp [beforeDocument, hdocument]
      · simp [nearest?, hdocument]
    | none =>
      have hbefore : beforeDocument tree (first :: rest) = first :: beforeDocument tree rest := by
        simp [beforeDocument, hdocument]
      have hnearest : nearest? tree (first :: rest) = nearest? tree rest := by
        simp [nearest?, hdocument]
      rw [hbefore, hnearest]
      rcases ih with ⟨hnone, hall⟩ | ⟨directory, document, after, hsplit, hsight, hfound⟩
      · exact .inl ⟨hnone, congrArg (first :: ·) hall⟩
      · exact .inr ⟨directory, document, after, congrArg (first :: ·) hsplit, hsight, hfound⟩

theorem document?_eq_none_of_mem (h : directory ∈ beforeDocument tree directories) :
    (sight tree directory).document? = none :=
  Option.isNone_iff_eq_none.mp (List.all_eq_true.mp List.all_takeWhile directory h)

/-! ### The answer of a search -/

/-- What a search reads in a document whose tools can be read as a table is its section. -/
theorem sectionOf_of_degrades {document : Entries}
    (h : Degrades (Value.find? "tool" document)) :
    sectionOf (orEmpty (Value.find? "tool" document)) = .ok (sectionIn document) := by
  rw [orEmpty_of_degrades h]
  rfl

/-- A search passes by what is no document and no obstacle, if only malformed files are no
documents. -/
theorem passes_of_mem (hmem : directory ∈ beforeDocument tree directories)
    (hflaw : ∀ flaw, sight tree directory = .flawed flaw → flaw = .text .malformed)
    (hclear : (sight tree directory).isBlocked = false) :
    (sight tree directory).passes = true := by
  have hnone := document?_eq_none_of_mem hmem
  cases hsight : sight tree directory with
  | nothing | locked => rfl
  | flawed flaw =>
    rw [hflaw flaw hsight]
    rfl
  | document entries =>
    rw [hsight] at hnone
    cases hnone
  | blocked fault =>
    rw [hsight] at hclear
    cases hclear

section Answer

variable (hflaw : ∀ d ∈ beforeDocument tree directories, ∀ flaw,
    sight tree d = .flawed flaw → flaw = .text .malformed)
include hflaw

/-- Without an obstacle before it a search has the answer of the nearest document. -/
theorem search_eq_answer
    (htools : ∀ d document, nearest? tree directories = some (d, document) →
      Degrades (Value.find? "tool" document))
    (hclear : ∀ d ∈ beforeDocument tree directories, (sight tree d).isBlocked = false) :
    search readDocument tree directories = answer tree directories := by
  have hpasses : ∀ d ∈ beforeDocument tree directories, (sight tree d).passes = true :=
    fun d hd => passes_of_mem hd (hflaw d hd) (hclear d hd)
  rcases nearest?_cases tree directories with
    ⟨hnone, hall⟩ | ⟨d, document, after, hsplit, hsight, hfound⟩
  · have hsearch := search_append hpasses []
    rw [List.append_nil, hall] at hsearch
    rw [hsearch, answer, hnone, hall]
    rfl
  · have hsearch := search_append hpasses (d :: after)
    rw [← hsplit, search_cons, hsight] at hsearch
    simp only [sectionOf_of_degrades (htools d document hfound)] at hsearch
    rw [hsearch, answer, hfound]
    rfl

/-- At the first obstacle before a document a search ends, after the warnings of the directories
before the obstacle. -/
theorem search_of_blocked {before after : List FilePath}
    (hsplit : beforeDocument tree directories = before ++ directory :: after)
    (hclear : ∀ d ∈ before, (sight tree d).isBlocked = false)
    (hblocked : (sight tree directory).isBlocked = true) :
    search readDocument tree directories = ⟨.error .nameTooLong, skipRecords tree before⟩ := by
  obtain ⟨fault, hsight⟩ : ∃ fault, sight tree directory = .blocked fault := by
    cases hsight : sight tree directory with
    | blocked fault => exact ⟨fault, rfl⟩
    | _ =>
      rw [hsight] at hblocked
      cases hblocked
  have hpasses : ∀ d ∈ before, (sight tree d).passes = true := by
    intro d hd
    have hmem : d ∈ beforeDocument tree directories := by
      rw [hsplit]
      exact List.mem_append_left _ hd
    exact passes_of_mem hmem (hflaw d hmem) (hclear d hd)
  obtain ⟨rest, hdirectories⟩ : beforeDocument tree directories <+: directories :=
    List.takeWhile_prefix _
  rw [← hdirectories, hsplit, List.append_assoc, search_append hpasses, List.cons_append,
    search_cons, hsight, eq_nameTooLong_of_blocked hsight]
  simp [Attempt.fail]

/-- **A search has the answer of the nearest document unless it meets an obstacle before it.** -/
theorem search_eq_answer_iff
    (htools : ∀ d document, nearest? tree directories = some (d, document) →
      Degrades (Value.find? "tool" document)) :
    search readDocument tree directories = answer tree directories ↔
      ∀ d ∈ beforeDocument tree directories, (sight tree d).isBlocked = false := by
  refine ⟨fun hanswer => ?_, search_eq_answer hflaw htools⟩
  by_contra hsome
  obtain ⟨d, hd⟩ : ∃ d, (beforeDocument tree directories).find?
      (fun d => (sight tree d).isBlocked) = some d := by
    rw [← Option.isSome_iff_exists, List.find?_isSome]
    simpa using hsome
  obtain ⟨hblocked, before, after, hsplit, hclear⟩ := List.find?_eq_some_iff_append.mp hd
  rw [search_of_blocked hflaw hsplit (by simpa using hclear) hblocked] at hanswer
  cases congrArg Attempt.outcome hanswer

end Answer

end Settings

/-! ### Changes elsewhere -/

/-- A tree and a changed one are the same but for files: those at `gone` of the tree and those at
`come` of the changed one. A file that is rewritten is among both. -/
structure FileTree.FilesChanged (tree changed : FileTree) (gone come : List FilePath) : Prop where
  removed : tree.HoldsFiles gone
  added : changed.HoldsFiles come
  rest : tree.without gone [] = changed.without come []

namespace Settings

variable {tree changed : FileTree} {directory : FilePath} {directories : List FilePath}
  {gone come : List FilePath}

/-- The file of a directory is none of those that change: it is not to be found at their places,
neither before nor after the change. -/
def IsUntouched (tree changed : FileTree) (gone come : List FilePath) (directory : FilePath) :
    Prop :=
  FileTree.endsAmong gone (tree.follow FileTree.maxLinks [] (directory ++ [fileName])) = false ∧
    FileTree.endsAmong come (changed.follow FileTree.maxLinks [] (directory ++ [fileName])) = false

/-- The first directory is looked at, and the others unless it has a document. -/
theorem examined_cons (tree : FileTree) (first : FilePath) (rest : List FilePath) :
    examined tree (first :: rest) =
      first :: if (sight tree first).document? = none then examined tree rest else [] := by
  cases hdocument : (sight tree first).document? <;>
    simp [examined, beforeDocument, nearest?, hdocument]

/-- A search is the same in two trees if it meets the same up to the first document. -/
theorem search_congr (h : ∀ d ∈ examined tree directories, sight changed d = sight tree d) :
    search readDocument changed directories = search readDocument tree directories := by
  induction directories with
  | nil => rfl
  | cons first rest ih =>
    rw [examined_cons, List.forall_mem_cons] at h
    obtain ⟨hfirst, hrest⟩ := h
    rw [search_cons, search_cons, hfirst]
    cases hsight : sight tree first with
    | document entries => rfl
    | blocked fault => rfl
    | nothing => exact ih (by simpa [hsight, Sight.document?] using hrest)
    | locked | flawed _ =>
      have hsame := ih (by simpa [hsight, Sight.document?] using hrest)
      simp only [hsame]

/-- The file of a directory reads the same if it is none of those that change. -/
theorem readFile_of_filesChanged (htree : tree.IsFileSystem) (hchanged : changed.IsFileSystem)
    (h : tree.FilesChanged changed gone come) {directory : FilePath}
    (hd : IsUntouched tree changed gone come directory) :
    changed.readFile (directory ++ [fileName]) = tree.readFile (directory ++ [fileName]) := by
  have hkept (read : Except Fault FileTree.Reading) :
      read.map (fun found => if false then .nothing else found) = read := by
    cases read <;> rfl
  have hbefore := FileTree.readFile_without htree h.removed (directory ++ [fileName])
  have hafter := FileTree.readFile_without hchanged h.added (directory ++ [fileName])
  rw [hd.1, hkept] at hbefore
  rw [hd.2, hkept] at hafter
  rw [← hbefore, ← hafter, h.rest]

/-- A text means the same path when files have changed. -/
theorem resolve?_of_filesChanged (htree : tree.IsFileSystem) (hchanged : changed.IsFileSystem)
    (h : tree.FilesChanged changed gone come) (directory : FilePath) (text : String) :
    changed.resolve? directory text = tree.resolve? directory text := by
  rw [← FileTree.resolve?_without hchanged h.added, ← h.rest,
    FileTree.resolve?_without htree h.removed]

section Path

variable {start : Option String} {path : FilePath}
  (hpath : tree.resolve? directory (start.getD "") = some path)
  (hzero : '\x00' ∉ (start.getD "").toList)
include hpath hzero

/-- A search from a text that means a path goes through the path and the directories above. -/
theorem findFrom_of_resolve : findFrom tree directory start =
    search readDocument tree path.ancestors := by
  simp [findFrom, hpath, hzero, find]

/-- Whatever changes, a search is the same if the text means the same path and the files that are
looked at read the same. -/
theorem findFrom_congr (hsame : changed.resolve? directory (start.getD "") = some path)
    (hread : ∀ d ∈ examined tree path.ancestors,
      changed.readFile (d ++ [fileName]) = tree.readFile (d ++ [fileName])) :
    findFrom changed directory start = findFrom tree directory start := by
  rw [findFrom_of_resolve hpath hzero, findFrom_of_resolve hsame hzero]
  refine search_congr fun d hd => ?_
  rw [sight, sight, hread d hd]

end Path

/-- **Searches from a text.** Let a text mean a path, let only malformed files among those that are
looked at be no documents, and let the tools of the nearest document be readable as a table. Then

* the search has the answer of the nearest document at or above the path exactly if no path that
  is too long comes before it;
* if one does, the search ends in a fault at the first, after the warnings of the files before it;
* whatever changes, the search is the same if the text means the same path and the files up to the
  nearest document read the same;
* they do after any change to files that none of them is or leads to. -/
theorem findFrom_eq_answer_iff_unblocked (tree : FileTree) (h : tree.IsFileSystem)
    (directory : FilePath) (start : Option String) (path : FilePath)
    (hpath : tree.resolve? directory (start.getD "") = some path)
    (hzero : '\x00' ∉ (start.getD "").toList)
    (hflaw : ∀ d ∈ beforeDocument tree path.ancestors, ∀ flaw,
      sight tree d = .flawed flaw → flaw = .text .malformed)
    (htools : ∀ d document, nearest? tree path.ancestors = some (d, document) →
      Degrades (Value.find? "tool" document)) :
    (findFrom tree directory start = answer tree path.ancestors ↔
        ∀ d ∈ beforeDocument tree path.ancestors, (sight tree d).isBlocked = false) ∧
      (∀ before d after, beforeDocument tree path.ancestors = before ++ d :: after →
        (∀ d ∈ before, (sight tree d).isBlocked = false) → (sight tree d).isBlocked = true →
        findFrom tree directory start = ⟨.error .nameTooLong, skipRecords tree before⟩) ∧
      (∀ changed : FileTree, changed.resolve? directory (start.getD "") = some path →
        (∀ d ∈ examined tree path.ancestors,
          changed.readFile (d ++ [fileName]) = tree.readFile (d ++ [fileName])) →
        findFrom changed directory start = findFrom tree directory start) ∧
      ∀ changed gone come, changed.IsFileSystem → tree.FilesChanged changed gone come →
        (∀ d ∈ examined tree path.ancestors, IsUntouched tree changed gone come d) →
        findFrom changed directory start = findFrom tree directory start := by
  have hfind := findFrom_of_resolve hpath hzero
  refine ⟨?_, ?_, ?_, ?_⟩
  · rw [hfind]
    exact search_eq_answer_iff hflaw htools
  · intro before d after hsplit hclear hblocked
    rw [hfind]
    exact search_of_blocked hflaw hsplit hclear hblocked
  · intro changed hsame hread
    exact findFrom_congr hpath hzero hsame hread
  · intro changed gone come hchanged hfiles huntouched
    have hsame := resolve?_of_filesChanged h hchanged hfiles directory (start.getD "")
    refine findFrom_congr hpath hzero (hsame.trans hpath) fun d hd => ?_
    exact readFile_of_filesChanged h hchanged hfiles (huntouched d hd)

/-- A malformed file below an empty document, and a file that is put beside them. -/
theorem findFrom_eq_answer_iff_unblocked_nested :
    let tree := nestedFiles [0x3d]
    let changed := FileTree.put (.file [0x31]) ["x"] (some tree)
    (∀ d ∈ beforeDocument tree [["c"], []], ∀ flaw, sight tree d = .flawed flaw →
        flaw = .text .malformed) ∧
      (∀ d document, nearest? tree [["c"], []] = some (d, document) →
        Degrades (Value.find? "tool" document)) ∧
      (∀ d ∈ beforeDocument tree [["c"], []], (sight tree d).isBlocked = false) ∧
      findFrom tree ["c"] none = ⟨.ok (.table []), [skipRecord ["c"], loadRecord []]⟩ ∧
      tree.FilesChanged changed [] [["x"]] ∧
      findFrom changed ["c"] none = findFrom tree ["c"] none := by
  intro tree changed
  have hbefore : beforeDocument tree [["c"], []] = [["c"]] := rfl
  have hflaw : ∀ d ∈ beforeDocument tree [["c"], []], ∀ flaw, sight tree d = .flawed flaw →
      flaw = .text .malformed := by
    rw [hbefore]
    rintro d hd flaw hsight
    obtain rfl := List.mem_singleton.mp hd
    cases hsight
    rfl
  have htools : ∀ d document, nearest? tree [["c"], []] = some (d, document) →
      Degrades (Value.find? "tool" document) := by
    rintro d document ⟨⟩ v ⟨⟩
  have hclear : ∀ d ∈ beforeDocument tree [["c"], []], (sight tree d).isBlocked = false := by
    rw [hbefore]
    rintro d hd
    obtain rfl := List.mem_singleton.mp hd
    rfl
  have htree := isFileSystem_nestedFiles [0x3d]
  have hchanged : changed.IsFileSystem :=
    ⟨⟨_, rfl⟩, .put (.file [0x31]) _ _ fun s hs => Option.some.inj hs ▸ htree.names⟩
  have hcome : changed.HoldsFiles [["x"]] := by
    intro place hplace
    obtain rfl := List.mem_singleton.mp hplace
    exact ⟨_, rfl, rfl⟩
  have hfiles : tree.FilesChanged changed [] [["x"]] := ⟨List.forall_mem_nil _, hcome, rfl⟩
  have huntouched : ∀ d ∈ examined tree [["c"], []], IsUntouched tree changed [] [["x"]] d := by
    intro d hd
    obtain rfl | rfl : d = ["c"] ∨ d = [] := by simpa using show d ∈ [["c"], []] from hd
    · exact ⟨rfl, rfl⟩
    · exact ⟨rfl, rfl⟩
  obtain ⟨hanswer, -, -, hsame⟩ :=
    findFrom_eq_answer_iff_unblocked tree htree ["c"] none ["c"] rfl (by simp) hflaw htools
  exact ⟨hflaw, htools, hclear, hanswer.mpr hclear, hfiles,
    hsame changed [] [["x"]] hchanged hfiles huntouched⟩

/-! ### A name that is too long -/

section LongName

variable {name : String}

theorem ne_of_long (h : FileTree.maxNameBytes < name.utf8ByteSize) {other : String}
    (hother : other.utf8ByteSize ≤ FileTree.maxNameBytes) : name ≠ other := by
  rintro rfl
  exact absurd h (Nat.not_lt.mpr hother)

/-- No path leads through a name that is too long. -/
theorem follow_of_long (h : FileTree.maxNameBytes < name.utf8ByteSize) (tree : FileTree)
    (rest : FilePath) :
    tree.follow FileTree.maxLinks [] (name :: rest) = .error .nameTooLong := by
  have hadvance : tree.advance [] (name :: rest) = .nameTooLong := by
    have hdots : ¬(name = "" ∨ name = ".") :=
      not_or.mpr ⟨ne_of_long h (by decide), ne_of_long h (by decide)⟩
    rw [FileTree.advance, if_neg hdots, if_neg (ne_of_long h (by decide)), if_pos h]
  unfold FileTree.follow
  rw [hadvance]

theorem sight_of_long (h : FileTree.maxNameBytes < name.utf8ByteSize) (tree : FileTree) :
    sight tree [name] = .blocked .nameTooLong := by
  have hread : tree.readFile [name, fileName] = .error .nameTooLong := by
    rw [FileTree.readFile, follow_of_long h]
    exact ite_self _
  rw [sight, List.singleton_append, hread]

end LongName

/-- A root that holds an empty document. -/
def emptyDocument : FileTree :=
  .directory [(fileName, .file [])]

/-- A name of a given length. -/
def nameOfLength (n : Nat) : String :=
  String.ofList (List.replicate n 'a')

theorem utf8ByteSize_nameOfLength (n : Nat) : (nameOfLength n).utf8ByteSize = n := by
  rw [nameOfLength, String.utf8ByteSize_ofList]
  induction n with
  | zero => rfl
  | succ n ih =>
    have ha : Char.utf8Size 'a' = 1 := by decide
    rw [List.replicate_succ, String.utf8Len_cons, ih, ha]

theorem ofText_nameOfLength (n : Nat) :
    FilePath.ofText (nameOfLength n) = (false, [nameOfLength n]) := by
  have hslash : '/' ∉ List.replicate n 'a' := by
    intro h
    cases List.eq_of_mem_replicate h
  rw [FilePath.ofText, nameOfLength, String.toList_ofList, Text.fields_of_not_mem hslash]
  cases n <;> rfl

theorem contains_nameOfLength (n : Nat) : (nameOfLength n).toList.contains '\x00' = false := by
  simp [nameOfLength]

/-- A name that is too long means a path that does not exist, and is kept as it is written. -/
theorem resolve?_nameOfLength {n : Nat} (h : FileTree.maxNameBytes < n) :
    emptyDocument.resolve? [] (nameOfLength n) = some [nameOfLength n] := by
  have hlong : FileTree.maxNameBytes < (nameOfLength n).utf8ByteSize := by
    rwa [utf8ByteSize_nameOfLength]
  have hdots : ¬(nameOfLength n = "" ∨ nameOfLength n = ".") :=
    not_or.mpr ⟨ne_of_long hlong (by decide), ne_of_long hlong (by decide)⟩
  have hmissing : emptyDocument.lookup? ([] ++ [nameOfLength n]) = none := by
    have hne : (nameOfLength n == fileName) = false :=
      beq_false_of_ne (ne_of_long hlong (by decide))
    rw [emptyDocument, List.nil_append, FileTree.lookup?, List.lookup_cons, hne]
    rfl
  have hsteps : emptyDocument.resolveSteps [] [] [.name (nameOfLength n)] =
      .finished [nameOfLength n] := by
    rw [FileTree.resolveSteps, if_neg hdots, if_neg (ne_of_long hlong (by decide)), hmissing]
    rfl
  have hpath : emptyDocument.resolveFrom emptyDocument.linkCount [] [] [.name (nameOfLength n)] =
      [nameOfLength n] := by
    unfold FileTree.resolveFrom
    rw [hsteps]
  simp only [FileTree.resolve?, ofText_nameOfLength, Bool.false_eq_true, if_false, List.map_cons,
    List.map_nil, hpath, follow_of_long hlong]

/-- **A name that is too long ends a search below a document.** The document above it is not
reached. -/
theorem findFrom_ends_at_long_name :
    emptyDocument.resolve? [] (nameOfLength 256) = some [nameOfLength 256] ∧
      answer emptyDocument [[nameOfLength 256], []] = ⟨.ok (.table []), [loadRecord []]⟩ ∧
      findFrom emptyDocument [] (some (nameOfLength 256)) = ⟨.error .nameTooLong, []⟩ := by
  have hlong : FileTree.maxNameBytes < (nameOfLength 256).utf8ByteSize := by
    rw [utf8ByteSize_nameOfLength]
    decide
  have hresolve := resolve?_nameOfLength (show FileTree.maxNameBytes < 256 by decide)
  have hsight := sight_of_long hlong emptyDocument
  have hdocument : sight emptyDocument [] = .document [] := rfl
  refine ⟨hresolve, ?_, ?_⟩
  · simp [answer, nearest?, beforeDocument, hsight, hdocument, Sight.document?, skipRecords,
      Sight.unreadable?, sectionIn, subentries, Value.find?, orEmpty]
  · have hancestors : FilePath.ancestors [nameOfLength 256] = [[nameOfLength 256], []] := rfl
    simp only [findFrom, Option.getD_some, contains_nameOfLength, hresolve, find, hancestors,
      search_cons, hsight]
    rfl

end Settings

end ClassQuota
