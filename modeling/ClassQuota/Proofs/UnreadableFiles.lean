import ClassQuota.Proofs.FileRemoval
import ClassQuota.Proofs.UpwardSearch
import Mathlib.Data.List.TakeWhile

/-!
# Files that cannot be read

A search warns of a locked or malformed file and goes on as if it were not there. Of the files that
are no documents it does so for malformed texts only: a file that is not UTF-8, holds an integer of
too many digits or nests too deep ends it in a fault. Whether a search is the same once all files
that cannot be read are taken out of the tree therefore depends on which of them it meets before its
end.

## Main definitions

* `Settings.unreadablePlaces` — where the files stand that are locked or no documents
* `Settings.withoutUnreadable` — the tree without those that a search would meet
* `Settings.StopsAt` — a search ends in a fault at a file that is no document
* `Settings.warnings` — the warnings of a search, up to its end

## Main results

* `Settings.sight_without` — what is met in the tree without them
* `Settings.search_of_not_stopsAt`, `Settings.search_of_stopsAt` — the two kinds of searches
* `Settings.outcome_withoutUnreadable_iff` — taking the files out changes the outcome exactly for
  searches that end at one of them
-/

namespace ClassQuota

namespace Settings

variable {tree : FileTree} {directories : List FilePath}

/-! ### Taking the files out -/

/-- The places of the files in some directories that cannot be read. -/
def unreadablePlaces (tree : FileTree) (directories : List FilePath) : List FilePath :=
  directories.filterMap fun directory =>
    if (sight tree directory).isUnreadable then
      (tree.follow FileTree.maxLinks [] (directory ++ [fileName])).toOption
    else none

/-- A tree without the files that cannot be read in the directories of a search. -/
def withoutUnreadable (tree : FileTree) (directory : FilePath) (start : Option String) :
    FileTree :=
  tree.without (unreadablePlaces tree (searched tree directory start)) []

/-- What is met once files that cannot be read are gone. -/
def Sight.cleared : Sight → Sight
  | .locked => .nothing
  | .flawed _ => .nothing
  | s => s

/-- Where a file is met that cannot be read, that is because of what is found there. -/
theorem exists_read_of_isUnreadable {directory : FilePath}
    (h : (sight tree directory).isUnreadable = true) :
    ∃ found, tree.readFile (directory ++ [fileName]) = .ok found ∧
      (Sight.ofReading found).isUnreadable = true := by
  rw [sight] at h
  rcases hread : tree.readFile (directory ++ [fileName]) with fault | found
  · rw [hread] at h
    cases h
  · rw [hread] at h
    exact ⟨found, rfl, h⟩

/-- The places are those to which the paths of files that cannot be read lead. -/
theorem mem_unreadablePlaces {place : FilePath} :
    place ∈ unreadablePlaces tree directories ↔
      ∃ directory ∈ directories, (sight tree directory).isUnreadable = true ∧
        tree.follow FileTree.maxLinks [] (directory ++ [fileName]) = .ok place := by
  rw [unreadablePlaces, List.mem_filterMap]
  refine exists_congr fun directory => and_congr_right fun _ => ?_
  cases hunreadable : (sight tree directory).isUnreadable with
  | false => simp
  | true =>
    rcases tree.follow FileTree.maxLinks [] (directory ++ [fileName]) with flaw | found
    · simp [Except.toOption]
    · simp [Except.toOption]

/-- At each of the places stands a file that cannot be read. -/
theorem exists_unreadable_of_mem {place : FilePath}
    (h : place ∈ unreadablePlaces tree directories) :
    ∃ t, tree.lookup? place = some t ∧ (Sight.ofReading t.reading).isUnreadable = true := by
  obtain ⟨directory, -, hunreadable, hfollow⟩ := mem_unreadablePlaces.mp h
  obtain ⟨found, hread, hfound⟩ := exists_read_of_isUnreadable hunreadable
  have hsome : found ≠ .nothing := by
    rintro rfl
    cases hfound
  obtain ⟨last, t, hlast, ht, rfl⟩ := FileTree.exists_follow_of_readFile hread hsome
  obtain rfl : last = place := Except.ok.inj (hlast.symm.trans hfollow)
  exact ⟨t, ht, hfound⟩

theorem holdsFiles_unreadablePlaces (tree : FileTree) (directories : List FilePath) :
    tree.HoldsFiles (unreadablePlaces tree directories) := by
  intro place hplace
  obtain ⟨t, ht, hunreadable⟩ := exists_unreadable_of_mem hplace
  refine ⟨t, ht, FileTree.isFile_of_reading fun hnothing => ?_⟩
  rw [hnothing] at hunreadable
  cases hunreadable

/-- A path with a file at its end ends among the places if and only if the file cannot be read. -/
theorem endsAmong_iff {directory : FilePath} (hmem : directory ∈ directories)
    {found : FileTree.Reading} (hread : tree.readFile (directory ++ [fileName]) = .ok found)
    (hfound : found ≠ .nothing) :
    FileTree.endsAmong (unreadablePlaces tree directories)
        (tree.follow FileTree.maxLinks [] (directory ++ [fileName])) = true ↔
      (Sight.ofReading found).isUnreadable = true := by
  obtain ⟨place, t, hfollow, ht, hreading⟩ := FileTree.exists_follow_of_readFile hread hfound
  rw [hfollow, FileTree.endsAmong, decide_eq_true_iff]
  constructor
  · intro hplace
    obtain ⟨s, hs, hunreadable⟩ := exists_unreadable_of_mem hplace
    obtain rfl : t = s := Option.some.inj (ht.symm.trans hs)
    rwa [hreading] at hunreadable
  · intro hunreadable
    have hsight : (sight tree directory).isUnreadable = true := by rwa [sight, hread]
    exact mem_unreadablePlaces.mpr ⟨directory, hmem, hsight, hfollow⟩

theorem Sight.cleared_of_isUnreadable {s : Sight} (h : s.isUnreadable = true) :
    s.cleared = .nothing := by
  cases s with
  | locked => rfl
  | flawed flaw => rfl
  | nothing | document _ | blocked _ => cases h

theorem Sight.cleared_of_not_isUnreadable {s : Sight} (h : s.isUnreadable = false) :
    s.cleared = s := by
  cases s with
  | locked | flawed _ => cases h
  | nothing | document _ | blocked _ => rfl

/-- In each of the directories the files that cannot be read are gone, and all else is met as
before. -/
theorem sight_without (h : tree.IsFileSystem) {directory : FilePath}
    (hmem : directory ∈ directories) :
    sight (tree.without (unreadablePlaces tree directories) []) directory =
      (sight tree directory).cleared := by
  have hread := FileTree.readFile_without h (holdsFiles_unreadablePlaces tree directories)
    (directory ++ [fileName])
  rw [sight, sight, hread]
  rcases hfound : tree.readFile (directory ++ [fileName]) with fault | found
  · rfl
  · simp only [Except.map]
    by_cases hsome : found = .nothing
    · subst hsome
      rw [ite_self]
      rfl
    · have hends := endsAmong_iff hmem hfound hsome
      cases hunreadable : (Sight.ofReading found).isUnreadable with
      | true =>
        rw [if_pos (hends.mpr hunreadable), Sight.cleared_of_isUnreadable hunreadable]
        rfl
      | false =>
        have hkept : ¬FileTree.endsAmong (unreadablePlaces tree directories)
            (tree.follow FileTree.maxLinks [] (directory ++ [fileName])) = true := by
          rw [hends, hunreadable]
          exact Bool.false_ne_true
        rw [if_neg hkept, Sight.cleared_of_not_isUnreadable hunreadable]

/-! ### Searches that end at such a file -/

/-- A search ends in a fault at a file that is no document: it is the first at which the search
does not go on. -/
def StopsAt (tree : FileTree) (directories : List FilePath) (fault : Fault) : Prop :=
  ∃ before directory after flaw, directories = before ++ directory :: after ∧
    (∀ d ∈ before, (sight tree d).passes = true) ∧
    sight tree directory = .flawed flaw ∧ flaw.fault? = some fault

/-- The warnings of a search: one for each file that cannot be read, up to the first directory at
which the search does not go on. -/
def warnings (tree : FileTree) (directories : List FilePath) : List Event :=
  skipRecords tree (directories.takeWhile fun directory => (sight tree directory).passes)

theorem warnings_of_passes (h : ∀ d ∈ directories, (sight tree d).passes = true) :
    warnings tree directories = skipRecords tree directories := by
  rw [warnings, List.takeWhile_eq_self_iff.mpr h]

theorem warnings_of_split {before after : List FilePath} {directory : FilePath}
    (hbefore : ∀ d ∈ before, (sight tree d).passes = true)
    (hend : (sight tree directory).passes = false) :
    warnings tree (before ++ directory :: after) = skipRecords tree before := by
  rw [warnings, List.takeWhile_append_of_pos hbefore, List.takeWhile_cons, hend]
  simp

theorem Sight.cleared_of_passes {s : Sight} (h : s.passes = true) : s.cleared = .nothing := by
  cases s with
  | nothing | locked | flawed _ => rfl
  | document _ | blocked _ => cases h

theorem skipRecords_of_nothing (h : ∀ d ∈ directories, sight tree d = .nothing) :
    skipRecords tree directories = [] := by
  rw [skipRecords, List.filterMap_eq_nil_iff]
  intro d hd
  rw [h d hd]
  rfl

/-- A search through directories with no file that it passes by goes on as if they were not
there. -/
theorem search_append_of_nothing {before : List FilePath}
    (h : ∀ d ∈ before, sight tree d = .nothing) (others : List FilePath) :
    search readDocument tree (before ++ others) = search readDocument tree others := by
  have hpasses : ∀ d ∈ before, (sight tree d).passes = true := fun d hd => by rw [h d hd]; rfl
  rw [search_append hpasses, skipRecords_of_nothing h, List.nil_append]

/-- What a search ends with at a document or a path that cannot be followed does not depend on the
tree. -/
theorem search_cons_congr {pruned : FileTree} {directory : FilePath}
    (hsame : sight pruned directory = sight tree directory)
    (hend : (sight tree directory).passes = false)
    (hread : (sight tree directory).isUnreadable = false) (others : List FilePath) :
    search readDocument tree (directory :: others) =
      search readDocument pruned (directory :: others) := by
  rw [search_cons, search_cons, hsame]
  cases hsight : sight tree directory with
  | nothing => simp [hsight, Sight.passes] at hend
  | locked => simp [hsight, Sight.passes] at hend
  | flawed flaw => simp [hsight, Sight.isUnreadable, Sight.unreadable?] at hread
  | document entries => rfl
  | blocked fault => rfl

/-- A search that does not end at a file that is no document has the outcome that it has without
the files that cannot be read, and its log is that log after its warnings. -/
theorem search_of_not_stopsAt {pruned : FileTree}
    (hcleared : ∀ d ∈ directories, sight pruned d = (sight tree d).cleared)
    (h : ¬∃ fault, StopsAt tree directories fault) :
    search readDocument tree directories =
      ⟨(search readDocument pruned directories).outcome,
        warnings tree directories ++ (search readDocument pruned directories).log⟩ := by
  have hnothing {before : List FilePath} (hmem : ∀ d ∈ before, d ∈ directories)
      (hbefore : ∀ d ∈ before, (sight tree d).passes = true) :
      ∀ d ∈ before, sight pruned d = .nothing := by
    intro d hd
    rw [hcleared d (hmem d hd), Sight.cleared_of_passes (hbefore d hd)]
  rcases passes_or_split tree directories with hall | ⟨before, directory, after, rfl, hbefore, hend⟩
  · have hsearch := search_append hall []
    have hpruned := search_append_of_nothing (hnothing (fun _ hd => hd) hall) []
    rw [List.append_nil] at hsearch hpruned
    rw [hsearch, hpruned, warnings_of_passes hall]
    rfl
  · have hpruned := search_append_of_nothing
      (hnothing (fun _ hd => List.mem_append_left _ hd) hbefore) (directory :: after)
    have hread : (sight tree directory).isUnreadable = false := by
      cases hsight : sight tree directory with
      | nothing | document _ | blocked _ => rfl
      | locked => simp [hsight, Sight.passes] at hend
      | flawed flaw =>
        -- The search would end at this file.
        rcases hfault : flaw.fault? with _ | fault
        · simp [hsight, Sight.passes, hfault] at hend
        · exact absurd ⟨fault, before, directory, after, flaw, rfl, hbefore, hsight, hfault⟩ h
    have hsame : sight pruned directory = sight tree directory := by
      rw [hcleared directory (by simp), Sight.cleared_of_not_isUnreadable hread]
    rw [search_append hbefore, hpruned, warnings_of_split hbefore hend,
      search_cons_congr hsame hend hread]

/-- A search that ends at a file that is no document ends in its fault, after the warnings of the
files before it. -/
theorem search_of_stopsAt {fault : Fault} (h : StopsAt tree directories fault) :
    search readDocument tree directories = ⟨.error fault, warnings tree directories⟩ := by
  obtain ⟨before, directory, after, flaw, rfl, hbefore, hsight, hfault⟩ := h
  have hend : (sight tree directory).passes = false := by simp [hsight, Sight.passes, hfault]
  rw [search_append hbefore, warnings_of_split hbefore hend, search_cons, hsight]
  simp [hfault, Attempt.fail]

/-! ### Faults of searches without such files -/

theorem eq_nameTooLong_of_blocked {directory : FilePath} {fault : Fault}
    (h : sight tree directory = .blocked fault) : fault = .nameTooLong := by
  rw [sight] at h
  rcases hread : tree.readFile (directory ++ [fileName]) with other | found
  · obtain rfl : other = fault := by simpa [hread] using h
    exact FileTree.eq_nameTooLong_of_readFile hread
  · rw [hread] at h
    cases found with
    | nothing | locked => cases h
    | content bytes =>
      rcases hbytes : Toml.read bytes with flaw | entries <;> simp [Sight.ofReading, hbytes] at h

theorem eq_notTable_of_sectionOf {tools : Value} {fault : Fault}
    (h : sectionOf tools = .error fault) : fault = .notTable := by
  cases tools with
  | table entries => cases h
  | _ => exact (Except.error.inj h).symm

/-- The fault in which a search ends at a file is none that it ends in for another reason. -/
theorem fault?_ne {flaw : Toml.FileFlaw} {fault : Fault} (h : flaw.fault? = some fault) :
    fault ≠ .notTable ∧ fault ≠ .nameTooLong ∧ fault ≠ .zeroInPath ∧ fault ≠ .linkLoop := by
  cases flaw with
  | notUtf8 =>
    obtain rfl : .notUtf8 = fault := Option.some.inj h
    simp
  | text flaw =>
    cases flaw with
    | malformed => cases h
    | tooManyDigits digits =>
      obtain rfl : .tooManyDigits (some digits) = fault := Option.some.inj h
      simp
    | tooDeep =>
      obtain rfl : .tooDeep = fault := Option.some.inj h
      simp

/-- Without files that cannot be read, a search never ends in the fault of one. -/
theorem outcome_ne_of_cleared {pruned : FileTree}
    (hcleared : ∀ d ∈ directories, sight pruned d = (sight tree d).cleared) {flaw : Toml.FileFlaw}
    {fault : Fault} (hfault : flaw.fault? = some fault) :
    (search readDocument pruned directories).outcome ≠ .error fault := by
  obtain ⟨hnotTable, hnameTooLong, -, -⟩ := fault?_ne hfault
  induction directories with
  | nil => simp [search]
  | cons directory others ih =>
    obtain ⟨hdirectory, hothers⟩ := List.forall_mem_cons.mp hcleared
    rw [search_cons]
    cases hsight : sight pruned directory with
    | nothing => exact ih hothers
    | locked =>
      rw [hsight] at hdirectory
      cases hs : sight tree directory <;> simp [hs, Sight.cleared] at hdirectory
    | flawed flaw =>
      rw [hsight] at hdirectory
      cases hs : sight tree directory <;> simp [hs, Sight.cleared] at hdirectory
    | document entries =>
      intro h
      exact hnotTable (eq_notTable_of_sectionOf h)
    | blocked found =>
      intro h
      obtain rfl : found = fault := Except.error.inj h
      exact hnameTooLong (eq_nameTooLong_of_blocked hsight)

/-! ### Searches from a text -/

/-- A search from a text either ends at once for want of a path, in the tree and in what is left of
it, or passes through the same directories in both. -/
theorem findFrom_without_cases (h : tree.IsFileSystem) {gone : List FilePath}
    (hgone : tree.HoldsFiles gone) (directory : FilePath) (start : Option String) :
    (searched tree directory start = [] ∧
        findFrom (tree.without gone []) directory start = findFrom tree directory start) ∨
      (findFrom tree directory start = search readDocument tree (searched tree directory start) ∧
        findFrom (tree.without gone []) directory start =
          search readDocument (tree.without gone []) (searched tree directory start)) := by
  simp only [findFrom, searched, FileTree.resolve?_without h hgone]
  cases hzero : (start.getD "").toList.contains '\x00' with
  | true => exact .inl ⟨rfl, rfl⟩
  | false =>
    rcases tree.resolve? directory (start.getD "") with _ | path
    · exact .inl ⟨rfl, rfl⟩
    · exact .inr ⟨rfl, rfl⟩

theorem not_stopsAt_nil (tree : FileTree) (fault : Fault) : ¬StopsAt tree [] fault := by
  rintro ⟨before, directory, after, -, h, -⟩
  simp at h

/-- **Which files a search passes by.** Once all files that cannot be read are taken out of the
directories of a search, all else in them is met as before. Taking them out changes the outcome of
the search exactly if it ends at one that is no document. If it does, its outcome is the fault of
that file; if not, its log has one warning more for each of them that it meets. -/
theorem outcome_withoutUnreadable_iff (tree : FileTree) (h : tree.IsFileSystem)
    (directory : FilePath) (start : Option String) :
    let directories := searched tree directory start
    let pruned := withoutUnreadable tree directory start
    (∀ d ∈ directories, sight pruned d = (sight tree d).cleared) ∧
      ((findFrom tree directory start).outcome = (findFrom pruned directory start).outcome ↔
        ¬∃ fault, StopsAt tree directories fault) ∧
      ((¬∃ fault, StopsAt tree directories fault) →
        (findFrom tree directory start).log =
          warnings tree directories ++ (findFrom pruned directory start).log) ∧
      ∀ fault, StopsAt tree directories fault →
        findFrom tree directory start = ⟨.error fault, warnings tree directories⟩ := by
  intro directories pruned
  have hcleared : ∀ d ∈ directories, sight pruned d = (sight tree d).cleared :=
    fun d hd => sight_without h hd
  refine ⟨hcleared, ?_⟩
  rcases findFrom_without_cases h (holdsFiles_unreadablePlaces tree directories) directory start
    with ⟨hnone, hsame⟩ | ⟨hsearch, hpruned⟩
  · have hnever : ∀ fault, ¬StopsAt tree directories fault := fun fault => by
      rw [show directories = [] from hnone]
      exact not_stopsAt_nil tree fault
    have hwarnings : warnings tree directories = [] := by
      rw [show directories = [] from hnone]
      rfl
    have hpruned : findFrom pruned directory start = findFrom tree directory start := hsame
    refine ⟨?_, fun _ => ?_, fun fault hstops => absurd hstops (hnever fault)⟩
    · rw [hpruned]
      exact iff_of_true rfl fun ⟨fault, hstops⟩ => hnever fault hstops
    · rw [hpruned, hwarnings, List.nil_append]
  · have hsearch : findFrom tree directory start = search readDocument tree directories := hsearch
    have hpruned : findFrom pruned directory start = search readDocument pruned directories :=
      hpruned
    rw [hsearch, hpruned]
    refine ⟨⟨?_, fun hnot => ?_⟩, fun hnot => ?_, fun fault hstops => ?_⟩
    · rintro hsame ⟨fault, hstops⟩
      have hfault : (search readDocument tree directories).outcome = .error fault := by
        rw [search_of_stopsAt hstops]
      obtain ⟨-, -, -, flaw, -, -, -, hflaw⟩ := hstops
      exact outcome_ne_of_cleared hcleared hflaw (hsame ▸ hfault)
    · rw [search_of_not_stopsAt hcleared hnot]
    · rw [search_of_not_stopsAt hcleared hnot]
    · exact search_of_stopsAt hstops

/-- An empty document at the root, and a directory whose file holds some bytes. -/
def nestedFiles (bytes : List UInt8) : FileTree :=
  FileTree.put (.file bytes) ["c", fileName] (some (.directory [(fileName, .file [])]))

theorem isFileSystem_nestedFiles (bytes : List UInt8) : (nestedFiles bytes).IsFileSystem where
  root := ⟨_, rfl⟩
  names := by
    refine FileTree.HasDistinctNames.put (.file bytes) _ _ fun s hs => ?_
    obtain rfl := Option.some.inj hs
    refine .directory (by decide) fun e he => ?_
    obtain rfl := List.mem_singleton.mp he
    exact .file []

theorem outcome_withoutUnreadable_iff_malformed :
    (nestedFiles [0x3d]).IsFileSystem ∧
      ¬(∃ fault, StopsAt (nestedFiles [0x3d]) [["c"], []] fault) ∧
      (findFrom (nestedFiles [0x3d]) ["c"] none).outcome = .ok (.table []) ∧
      (findFrom (nestedFiles [0x3d]) ["c"] none).log =
        [skipRecord ["c"], loadRecord []] := by
  have htree := isFileSystem_nestedFiles [0x3d]
  have hnot : ¬∃ fault, StopsAt (nestedFiles [0x3d]) [["c"], []] fault := by
    rintro ⟨fault, before, directory, after, flaw, hsplit, -, hsight, hfault⟩
    have hmem : directory ∈ [["c"], []] := by
      rw [hsplit]
      simp
    obtain rfl | rfl : directory = ["c"] ∨ directory = [] := by simpa using hmem
    · cases hsight
      cases hfault
    · cases hsight
  obtain ⟨-, houtcome, hlog, -⟩ :=
    outcome_withoutUnreadable_iff (nestedFiles [0x3d]) htree ["c"] none
  refine ⟨htree, hnot, (houtcome.mpr hnot).trans rfl, (hlog hnot).trans rfl⟩

/-- A file that is not UTF-8 is not skipped. -/
theorem findFrom_ends_at_not_utf8 :
    (findFrom (nestedFiles [0xff]) ["c"] none).outcome = .error .notUtf8 ∧
      (findFrom (withoutUnreadable (nestedFiles [0xff]) ["c"] none) ["c"] none).outcome =
        .ok (.table []) :=
  ⟨rfl, rfl⟩

end Settings

end ClassQuota
