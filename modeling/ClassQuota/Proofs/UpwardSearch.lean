import ClassQuota.Settings.Search

/-!
# What a search meets

In each directory a search meets nothing, or a file that is locked or no document, or a document,
or a path that cannot be followed. It passes by nothing, and by locked files and malformed texts, of
which it warns, and whatever else it meets ends it. So a search is the warnings of the directories
that it passes, followed by its end.

## Main definitions

* `Toml.FileFlaw.fault?` — the fault in which a search ends at a file that is no document
* `Settings.Sight`, `Settings.sight` — what a search meets in a directory
* `Settings.Sight.passes` — whether it goes on from there
* `Settings.skipRecords` — the warnings of the files that cannot be read
* `Settings.searched` — the directories of a search, for a text that it starts from

## Main results

* `Settings.search_cons` — the beginning of a search, by what it meets
* `Settings.search_append` — the directories that it passes only add their warnings
* `Settings.passes_or_split` — a search passes by all directories, or there is a first one that
  ends it
* `Settings.findFrom_eq_search` — the search from a text is that through its directories
-/

namespace ClassQuota

/-- The fault in which a search ends at a file that is no document. A malformed text ends none. -/
def Toml.FileFlaw.fault? : Toml.FileFlaw → Option Fault
  | .text .malformed => none
  | .notUtf8 => some .notUtf8
  | .text (.tooManyDigits digits) => some (.tooManyDigits (some digits))
  | .text .tooDeep => some .tooDeep

namespace Settings

/-- What a search meets in a directory. -/
inductive Sight where
  /-- No regular file of the name. -/
  | nothing
  /-- A file that may not be opened. -/
  | locked
  /-- A file that is no document. -/
  | flawed (flaw : Toml.FileFlaw)
  | document (entries : Entries)
  /-- A path that cannot be followed. -/
  | blocked (fault : Fault)

/-- What is met where something is found. -/
def Sight.ofReading : FileTree.Reading → Sight
  | .nothing => .nothing
  | .locked => .locked
  | .content bytes =>
    match Toml.read bytes with
    | .ok entries => .document entries
    | .error flaw => .flawed flaw

/-- What a search meets in a directory. -/
def sight (tree : FileTree) (directory : FilePath) : Sight :=
  match tree.readFile (directory ++ [fileName]) with
  | .error fault => .blocked fault
  | .ok found => .ofReading found

namespace Sight

/-- Whether a search goes on to the next directory. -/
def passes : Sight → Bool
  | nothing => true
  | locked => true
  | flawed flaw => flaw.fault?.isNone
  | document _ => false
  | blocked _ => false

/-- Why the file that is met cannot be read. -/
def unreadable? : Sight → Option SkipReason
  | locked => some .locked
  | flawed _ => some .malformed
  | _ => none

/-- Whether a file is met that is locked or no document. -/
def isUnreadable (s : Sight) : Bool :=
  s.unreadable?.isSome

end Sight

variable {tree : FileTree}

/-- The warning of a file that cannot be read. -/
def skipRecord (directory : FilePath) (reason : SkipReason := .malformed) : Event :=
  .fileSkipped (FilePath.text (directory ++ [fileName])) reason

/-- The record of the document that was found. -/
def loadRecord (directory : FilePath) : Event :=
  .configurationLoaded (FilePath.text (directory ++ [fileName]))

/-- The warnings of the files in some directories that cannot be read, in order. -/
def skipRecords (tree : FileTree) (directories : List FilePath) : List Event :=
  directories.filterMap fun directory =>
    (sight tree directory).unreadable?.map fun reason => skipRecord directory reason

theorem readDocument_eq (bytes : List UInt8) :
    readDocument bytes =
      match Toml.read bytes with
      | .ok entries => .ok (some entries)
      | .error flaw =>
        match flaw.fault? with
        | none => .ok none
        | some fault => .error fault := by
  rw [readDocument]
  rcases Toml.read bytes with flaw | entries
  · cases flaw with
    | notUtf8 => rfl
    | text flaw => cases flaw <;> rfl
  · rfl

/-- The beginning of a search, by what it meets in the first directory. -/
theorem search_cons (tree : FileTree) (directory : FilePath) (others : List FilePath) :
    search readDocument tree (directory :: others) =
      match sight tree directory with
      | .nothing => search readDocument tree others
      | .locked =>
        ⟨(search readDocument tree others).outcome,
          skipRecord directory .locked :: (search readDocument tree others).log⟩
      | .flawed flaw =>
        match flaw.fault? with
        | none =>
          ⟨(search readDocument tree others).outcome,
            skipRecord directory :: (search readDocument tree others).log⟩
        | some fault => .fail fault
      | .document entries =>
        ⟨sectionOf (orEmpty (Value.find? "tool" entries)), [loadRecord directory]⟩
      | .blocked fault => .fail fault := by
  rw [search, sight]
  rcases tree.readFile (directory ++ [fileName]) with fault | found
  · rfl
  · cases found with
    | nothing => rfl
    | locked => simp [Sight.ofReading, Attempt.record, skipRecord]
    | content bytes =>
      simp only [readDocument_eq, Sight.ofReading]
      rcases Toml.read bytes with flaw | entries
      · rcases hfault : flaw.fault? with _ | fault
        · simp [hfault, Attempt.ofExcept, Attempt.record, skipRecord]
        · simp [hfault, Attempt.ofExcept, Attempt.fail]
      · simp [Attempt.ofExcept, Attempt.record, loadRecord]

/-- A search passes by a directory and at most adds its warning. -/
theorem search_cons_of_passes {directory : FilePath} (h : (sight tree directory).passes = true)
    (others : List FilePath) :
    search readDocument tree (directory :: others) =
      ⟨(search readDocument tree others).outcome,
        skipRecords tree [directory] ++ (search readDocument tree others).log⟩ := by
  rw [search_cons, skipRecords]
  cases hsight : sight tree directory with
  | nothing => simp [hsight, Sight.unreadable?]
  | locked => simp [hsight, Sight.unreadable?]
  | flawed flaw =>
    have hfault : flaw.fault? = none := by simpa [hsight, Sight.passes] using h
    simp [hsight, hfault, Sight.unreadable?]
  | document entries => simp [hsight, Sight.passes] at h
  | blocked fault => simp [hsight, Sight.passes] at h

/-- The directories that a search passes by only add their warnings. -/
theorem search_append {before : List FilePath}
    (h : ∀ directory ∈ before, (sight tree directory).passes = true) (others : List FilePath) :
    search readDocument tree (before ++ others) =
      ⟨(search readDocument tree others).outcome,
        skipRecords tree before ++ (search readDocument tree others).log⟩ := by
  induction before with
  | nil => rfl
  | cons directory before ih =>
    obtain ⟨hdirectory, hbefore⟩ := List.forall_mem_cons.mp h
    rw [List.cons_append, search_cons_of_passes hdirectory, ih hbefore]
    have hrecords : skipRecords tree (directory :: before) =
        skipRecords tree [directory] ++ skipRecords tree before := by
      rw [skipRecords, skipRecords, skipRecords, ← List.filterMap_append]
      rfl
    rw [hrecords, List.append_assoc]

/-- A search passes by all directories, or there is a first one that ends it. -/
theorem passes_or_split (tree : FileTree) (directories : List FilePath) :
    (∀ directory ∈ directories, (sight tree directory).passes = true) ∨
      ∃ before directory after, directories = before ++ directory :: after ∧
        (∀ d ∈ before, (sight tree d).passes = true) ∧
        (sight tree directory).passes = false := by
  induction directories with
  | nil => exact .inl (List.forall_mem_nil _)
  | cons first rest ih =>
    cases hfirst : (sight tree first).passes with
    | false => exact .inr ⟨[], first, rest, rfl, List.forall_mem_nil _, hfirst⟩
    | true =>
      rcases ih with hrest | ⟨before, directory, after, rfl, hbefore, hend⟩
      · exact .inl (List.forall_mem_cons.mpr ⟨hfirst, hrest⟩)
      · exact .inr ⟨first :: before, directory, after, rfl,
          List.forall_mem_cons.mpr ⟨hfirst, hbefore⟩, hend⟩

/-- The directories of a search that starts from a text seen from a directory: none where the text
means no path. -/
def searched (tree : FileTree) (directory : FilePath) (start : Option String) : List FilePath :=
  if (start.getD "").toList.contains '\x00' then []
  else
    match tree.resolve? directory (start.getD "") with
    | some path => path.ancestors
    | none => []

/-- Where a search has a directory to start from, it is the search through all its directories. -/
theorem findFrom_eq_search {directory : FilePath} {start : Option String}
    (h : searched tree directory start ≠ []) :
    findFrom tree directory start =
      search readDocument tree (searched tree directory start) := by
  cases hzero : (start.getD "").toList.contains '\x00' with
  | true => exact absurd (by simp only [searched, hzero, if_true]) h
  | false =>
    rcases hpath : tree.resolve? directory (start.getD "") with _ | path
    · exact absurd (by simp only [searched, hzero, hpath, ite_self]) h
    · simp only [findFrom, searched, hzero, hpath, find, Bool.false_eq_true, if_false]

end Settings

end ClassQuota
