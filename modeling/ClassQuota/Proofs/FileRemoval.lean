import ClassQuota.FileTree

/-!
# Taking files out of a tree

Files can be taken out of a file tree one place at a time, with all else left as it is. No way
leads through a regular file, so a way along a path is the same in what is left, unless it ends at
one of the places: then something is missing at its end. Paths are resolved alike, since only links
count there.

## Main definitions

* `FileTree.IsFileSystem` — a directory in which no directory has two entries of one name
* `FileTree.without` — a tree without the files at some places
* `FileTree.HoldsFiles` — every one of some places holds a file

## Main results

* `FileTree.HasDistinctNames.put` — putting something into a tree keeps names distinct
* `FileTree.lookup?_without` — what stands at a path in what is left
* `FileTree.follow_without` — where a path leads in what is left
* `FileTree.readFile_without` — what is read there
* `FileTree.resolve?_without` — paths mean the same
-/

namespace ClassQuota

namespace FileTree

/-! ### Trees with distinct names -/

/-- No directory of a tree has two entries of one name. -/
inductive HasDistinctNames : FileTree → Prop
  | file (content : List UInt8) : HasDistinctNames (.file content)
  | locked : HasDistinctNames .locked
  | link (target : String) : HasDistinctNames (.link target)
  | directory {entries : List (String × FileTree)} (names : (entries.map Prod.fst).Nodup)
      (each : ∀ e ∈ entries, HasDistinctNames e.2) : HasDistinctNames (.directory entries)

/-- A tree that can be the root of a file system. -/
structure IsFileSystem (tree : FileTree) : Prop where
  root : ∃ entries, tree = .directory entries
  names : tree.HasDistinctNames

theorem map_fst_alter (name : String) (f : Option FileTree → FileTree)
    (entries : List (String × FileTree)) :
    (alter name f entries).map Prod.fst =
      if name ∈ entries.map Prod.fst then entries.map Prod.fst
      else entries.map Prod.fst ++ [name] := by
  induction entries with
  | nil => rfl
  | cons e rest ih =>
    obtain ⟨n, t⟩ := e
    by_cases h : n = name
    · simp [alter, h]
    · simp only [alter, h, if_false, List.map_cons, ih, List.mem_cons, Ne.symm h, false_or]
      split <;> rfl

theorem mem_alter {name : String} {f : Option FileTree → FileTree}
    {entries : List (String × FileTree)} {e : String × FileTree} (h : e ∈ alter name f entries) :
    e ∈ entries ∨ e.2 = f none ∨ ∃ t, (name, t) ∈ entries ∧ e.2 = f (some t) := by
  induction entries with
  | nil =>
    obtain rfl : e = (name, f none) := by simpa [alter] using h
    exact .inr (.inl rfl)
  | cons first rest ih =>
    obtain ⟨n, t⟩ := first
    by_cases hn : n = name
    · subst hn
      rw [alter, if_pos rfl, List.mem_cons] at h
      rcases h with rfl | h
      · exact .inr (.inr ⟨t, List.mem_cons_self .., rfl⟩)
      · exact .inl (List.mem_cons_of_mem _ h)
    · rw [alter, if_neg hn, List.mem_cons] at h
      rcases h with rfl | h
      · exact .inl (List.mem_cons_self ..)
      · rcases ih h with h | h | ⟨s, hs, h⟩
        · exact .inl (List.mem_cons_of_mem _ h)
        · exact .inr (.inl h)
        · exact .inr (.inr ⟨s, List.mem_cons_of_mem _ hs, h⟩)

theorem HasDistinctNames.alter {name : String} {f : Option FileTree → FileTree}
    {entries : List (String × FileTree)} (h : (FileTree.directory entries).HasDistinctNames)
    (hnone : (f none).HasDistinctNames)
    (hsome : ∀ t : FileTree, t.HasDistinctNames → (f (some t)).HasDistinctNames) :
    (FileTree.directory (FileTree.alter name f entries)).HasDistinctNames := by
  cases h with
  | directory names each =>
    refine .directory ?_ fun e he => ?_
    · rw [map_fst_alter]
      split
      · exact names
      · next hname =>
        refine List.nodup_append.mpr ⟨names, List.pairwise_singleton _ _, fun a ha b hb => ?_⟩
        rw [List.mem_singleton] at hb
        rintro rfl
        exact hname (hb ▸ ha)
    · rcases mem_alter he with he | he | ⟨t, ht, he⟩
      · exact each e he
      · exact he ▸ hnone
      · exact he ▸ hsome t (each _ ht)

/-- Putting something into a tree keeps names distinct. -/
theorem HasDistinctNames.put {item : FileTree} (hitem : item.HasDistinctNames) (path : FilePath)
    (t : Option FileTree) (ht : ∀ s, t = some s → s.HasDistinctNames) :
    (FileTree.put item path t).HasDistinctNames := by
  induction path generalizing t with
  | nil => exact hitem
  | cons name path ih =>
    have hnone : (FileTree.put item path none).HasDistinctNames := ih none fun _ h => by cases h
    have hsome (s : FileTree) (hs : s.HasDistinctNames) :
        (FileTree.put item path (some s)).HasDistinctNames :=
      ih (some s) fun _ h => Option.some.inj h ▸ hs
    have hempty : (FileTree.directory []).HasDistinctNames :=
      .directory List.nodup_nil fun _ h => by cases h
    rcases t with _ | s
    · exact hempty.alter hnone hsome
    · cases s with
      | directory entries => exact (ht _ rfl).alter hnone hsome
      | file _ | locked | link _ => exact hempty.alter hnone hsome

/-! ### Taking files out -/

/-- Whether a tree is a single file, which may be locked. -/
def isFile : FileTree → Bool
  | .file _ => true
  | .locked => true
  | _ => false

mutual

/-- What stands at a place, without the files at the given places. -/
def without (gone : List FilePath) : FilePath → FileTree → FileTree
  | place, .directory entries => .directory (withoutEntries gone place entries)
  | _, .file content => .file content
  | _, .locked => .locked
  | _, .link target => .link target

/-- The entries of the directory at a place, without the files at the given places. -/
def withoutEntries (gone : List FilePath) :
    FilePath → List (String × FileTree) → List (String × FileTree)
  | _, [] => []
  | place, (name, t) :: rest =>
    if t.isFile = true ∧ place ++ [name] ∈ gone then withoutEntries gone place rest
    else (name, t.without gone (place ++ [name])) :: withoutEntries gone place rest

end

/-- What is left of what stood at a place. -/
def left? (gone : List FilePath) (place : FilePath) (t : FileTree) : Option FileTree :=
  if t.isFile = true ∧ place ∈ gone then none else some (t.without gone place)

section

variable {gone : List FilePath} {place : FilePath}

@[simp] theorem left?_link (target : String) : left? gone place (.link target) =
    some (.link target) := by
  simp [left?, isFile, without]

@[simp] theorem left?_directory (entries : List (String × FileTree)) :
    left? gone place (.directory entries) =
      some (.directory (withoutEntries gone place entries)) := by
  simp [left?, isFile, without]

section File

variable {t : FileTree} (ht : t.isFile = true)
include ht

theorem left?_of_mem (h : place ∈ gone) : left? gone place t = none := by
  simp [left?, ht, h]

theorem left?_of_not_mem (h : place ∉ gone) : left? gone place t = some t := by
  cases t with
  | file _ | locked => simp [left?, without, h]
  | directory _ | link _ => cases ht

/-- Nothing stands below a file. -/
theorem lookup?_cons_of_isFile (name : String) (path : FilePath) :
    t.lookup? (name :: path) = none := by
  cases t with
  | directory entries => cases ht
  | _ => rfl

end File

/-- Where names are distinct, an entry is left or gone by what it is itself. -/
theorem lookup_withoutEntries {entries : List (String × FileTree)}
    (h : (entries.map Prod.fst).Nodup) (name : String) :
    (withoutEntries gone place entries).lookup name =
      (entries.lookup name).bind (left? gone (place ++ [name])) := by
  induction entries with
  | nil => simp [withoutEntries]
  | cons e rest ih =>
    obtain ⟨n, t⟩ := e
    obtain ⟨hn, hrest⟩ := List.nodup_cons.mp h
    have hrest' := ih hrest
    by_cases hname : name = n
    · subst hname
      -- No later entry can take the place of one that is gone.
      have hnone : rest.lookup name = none := by
        rw [List.lookup_eq_none_iff]
        rintro ⟨m, s⟩ hms
        have hm : name ≠ m := fun hm => hn (List.mem_map.mpr ⟨(m, s), hms, hm.symm⟩)
        simpa using hm
      rw [hnone] at hrest'
      rw [withoutEntries, List.lookup_cons_self, Option.bind_some, left?]
      split
      · exact hrest'
      · rw [List.lookup_cons_self]
    · have hbeq : (name == n) = false := by simpa using hname
      rw [withoutEntries, List.lookup_cons, hbeq]
      split
      · exact hrest'
      · rw [List.lookup_cons, hbeq]
        exact hrest'

theorem HasDistinctNames.of_lookup {entries : List (String × FileTree)}
    (h : (FileTree.directory entries).HasDistinctNames) {name : String} {t : FileTree}
    (ht : entries.lookup name = some t) : t.HasDistinctNames := by
  cases h with
  | directory names each =>
    rw [List.lookup_eq_some_iff] at ht
    obtain ⟨before, after, rfl, -⟩ := ht
    exact each (name, t) (by simp)

/-- Below a tree that is no file, each path leads to what is left of what it led to. -/
theorem lookup?_without {t : FileTree} (h : t.HasDistinctNames) (ht : t.isFile = false)
    (path : FilePath) :
    (t.without gone place).lookup? path = (t.lookup? path).bind (left? gone (place ++ path)) := by
  induction path generalizing t place with
  | nil => simp [lookup?, left?, ht]
  | cons name rest ih =>
    cases t with
    | file _ | locked => cases ht
    | link target => simp [without, lookup?]
    | directory entries =>
      have hnames : (entries.map Prod.fst).Nodup := by
        cases h with
        | directory names _ => exact names
      rw [without, lookup?, lookup?, lookup_withoutEntries hnames]
      rcases hlookup : entries.lookup name with _ | s
      · rfl
      · have hplace : place ++ name :: rest = place ++ [name] ++ rest := by simp
        cases hs : s.isFile with
        | false =>
          have hleft : left? gone (place ++ [name]) s =
              some (s.without gone (place ++ [name])) := by
            simp [left?, hs]
          simp only [Option.bind_some, hleft]
          rw [hplace]
          exact ih (h.of_lookup hlookup) hs
        | true =>
          by_cases hmem : place ++ [name] ∈ gone
          · cases rest with
            | nil => simp [left?_of_mem hs hmem, lookup?]
            | cons next rest => simp [left?_of_mem hs hmem, lookup?_cons_of_isFile hs]
          · cases rest with
            | nil => simp [left?_of_not_mem hs hmem, lookup?]
            | cons next rest => simp [left?_of_not_mem hs hmem, lookup?_cons_of_isFile hs]

mutual

/-- Taking files out leaves all links. -/
theorem linkCount_without : ∀ (place : FilePath) (t : FileTree),
    (t.without gone place).linkCount = t.linkCount
  | _, .file _ => by rw [without]
  | _, .locked => by rw [without]
  | _, .link _ => by rw [without]
  | place, .directory entries => by
    rw [without, linkCount, linkCount, linkCountOf_withoutEntries place entries]

theorem linkCountOf_withoutEntries : ∀ (place : FilePath) (entries : List (String × FileTree)),
    linkCountOf (withoutEntries gone place entries) = linkCountOf entries
  | _, [] => by rw [withoutEntries]
  | place, (name, t) :: rest => by
    have hrest := linkCountOf_withoutEntries place rest
    have ht := linkCount_without (place ++ [name]) t
    rw [withoutEntries]
    split
    · next h =>
      have hfile : t.linkCount = 0 := by
        cases t with
        | file _ | locked => rfl
        | directory _ | link _ => cases h.1
      rw [linkCountOf, hrest, hfile, Nat.zero_add]
    · rw [linkCountOf, linkCountOf, hrest, ht]

end

end

/-! ### Ways through what is left -/

/-- Every one of the places holds a file. -/
def HoldsFiles (tree : FileTree) (gone : List FilePath) : Prop :=
  ∀ place ∈ gone, ∃ t, tree.lookup? place = some t ∧ t.isFile = true

/-- There is a directory at a place. -/
def IsDirectoryAt (tree : FileTree) (place : FilePath) : Prop :=
  ∃ entries, tree.lookup? place = some (.directory entries)

section

variable {tree : FileTree} {gone : List FilePath}

theorem lookup?_append (t : FileTree) (path rest : FilePath) :
    t.lookup? (path ++ rest) = (t.lookup? path).bind fun s => s.lookup? rest := by
  induction path generalizing t with
  | nil => rfl
  | cons name path ih =>
    cases t with
    | file _ | locked | link _ => rfl
    | directory entries =>
      simp only [List.cons_append, lookup?]
      cases entries.lookup name with
      | none => rfl
      | some s => exact ih s

/-- What has something below it is a directory. -/
theorem isDirectoryAt_of_lookup?_append {path : FilePath} {name : String} {t : FileTree}
    (h : tree.lookup? (path ++ [name]) = some t) : tree.IsDirectoryAt path := by
  rw [lookup?_append] at h
  rcases hpath : tree.lookup? path with _ | s
  · simp [hpath] at h
  · cases s with
    | directory entries => exact ⟨entries, hpath⟩
    | file _ | locked | link _ => simp [hpath, lookup?] at h

theorem IsFileSystem.isDirectoryAt_nil (h : tree.IsFileSystem) : tree.IsDirectoryAt [] := by
  obtain ⟨entries, rfl⟩ := h.root
  exact ⟨entries, rfl⟩

theorem IsDirectoryAt.dropLast {path : FilePath} (hpath : tree.IsDirectoryAt path) :
    tree.IsDirectoryAt path.dropLast := by
  rcases List.eq_nil_or_concat path with rfl | ⟨before, name, rfl⟩
  · exact hpath
  · obtain ⟨entries, hentries⟩ := hpath
    rw [List.concat_eq_append] at hentries
    rw [List.concat_eq_append, List.dropLast_concat]
    exact isDirectoryAt_of_lookup?_append hentries

theorem HoldsFiles.not_mem (h : tree.HoldsFiles gone) {path : FilePath}
    (hpath : tree.IsDirectoryAt path) : path ∉ gone := by
  intro hmem
  obtain ⟨t, ht, hfile⟩ := h path hmem
  obtain ⟨entries, hdirectory⟩ := hpath
  obtain rfl := Option.some.inj (ht.symm.trans hdirectory)
  cases hfile

/-- What stands at a path in what is left of a file system. -/
theorem IsFileSystem.lookup?_without (h : tree.IsFileSystem) (path : FilePath) :
    (tree.without gone []).lookup? path = (tree.lookup? path).bind (left? gone path) := by
  have hroot : tree.isFile = false := by
    obtain ⟨entries, rfl⟩ := h.root
    rfl
  rw [FileTree.lookup?_without h.names hroot, List.nil_append]

/-- The progress along a path, with nothing at the end if that is one of the places. -/
def Progress.without (gone : List FilePath) : Progress → Progress
  | .finished path => if path ∈ gone then .missing else .finished path
  | .linked base rest => .linked base rest
  | .missing => .missing
  | .nameTooLong => .nameTooLong

/-- Names are taken alike from a directory on. -/
theorem advance_without (h : tree.IsFileSystem) (hgone : tree.HoldsFiles gone)
    {path : FilePath} (hpath : tree.IsDirectoryAt path) (rest : FilePath) :
    (tree.without gone []).advance path rest = (tree.advance path rest).without gone := by
  induction rest generalizing path with
  | nil => simp [advance, Progress.without, hgone.not_mem hpath]
  | cons name rest ih =>
    rw [advance, advance]
    split
    · exact ih hpath
    · split
      · exact ih hpath.dropLast
      · split
        · rfl
        · rw [h.lookup?_without]
          rcases hlookup : tree.lookup? (path ++ [name]) with _ | s
          · rfl
          · cases s with
            | link target => simp [Progress.without]
            | directory entries => simpa using ih ⟨entries, hlookup⟩
            | file _ | locked =>
              by_cases hmem : path ++ [name] ∈ gone
              · cases rest <;> simp [left?, isFile, Progress.without, hmem]
              · cases rest <;> simp [left?, isFile, without, Progress.without, hmem]

/-- A link that is met stands in a directory. -/
theorem isDirectoryAt_of_linked (h : tree.IsFileSystem) {path rest base names : FilePath}
    (hpath : tree.IsDirectoryAt path) (hlinked : tree.advance path rest = .linked base names) :
    tree.IsDirectoryAt base := by
  induction rest generalizing path with
  | nil => simp [advance] at hlinked
  | cons name rest ih =>
    rw [advance] at hlinked
    split at hlinked
    · exact ih hpath hlinked
    · split at hlinked
      · exact ih hpath.dropLast hlinked
      · split at hlinked
        · cases hlinked
        · split at hlinked
          · simp only [Progress.linked.injEq] at hlinked
            rw [← hlinked.1]
            split
            · exact h.isDirectoryAt_nil
            · exact hpath
          · next entries hlookup => exact ih ⟨entries, hlookup⟩ hlinked
          · split at hlinked <;> cases hlinked
          · split at hlinked <;> cases hlinked
          · cases hlinked

/-- The end of a path, with nothing there if that is one of the places. -/
def endWithout (gone : List FilePath) : Except PathFlaw FilePath → Except PathFlaw FilePath
  | .ok path => if path ∈ gone then .error .missing else .ok path
  | .error flaw => .error flaw

/-- A path leads where it led, unless it ends at one of the places. -/
theorem follow_without (h : tree.IsFileSystem) (hgone : tree.HoldsFiles gone) (links : Nat)
    {base : FilePath} (hbase : tree.IsDirectoryAt base) (path : FilePath) :
    (tree.without gone []).follow links base path =
      endWithout gone (tree.follow links base path) := by
  induction links generalizing base path with
  | zero =>
    rw [follow, follow, advance_without h hgone hbase]
    cases tree.advance base path with
    | finished place => by_cases hmem : place ∈ gone <;> simp [Progress.without, endWithout, hmem]
    | linked base rest => rfl
    | missing => rfl
    | nameTooLong => rfl
  | succ links ih =>
    rw [follow, follow, advance_without h hgone hbase]
    cases hadvance : tree.advance base path with
    | finished place => by_cases hmem : place ∈ gone <;> simp [Progress.without, endWithout, hmem]
    | linked base' rest => exact ih (isDirectoryAt_of_linked h hbase hadvance) rest
    | missing => rfl
    | nameTooLong => rfl

/-- Whether a path has ended at one of the places. -/
def endsAmong (gone : List FilePath) : Except PathFlaw FilePath → Bool
  | .ok place => place ∈ gone
  | .error _ => false

/-- What is read at a path is the same, or nothing if it has led to one of the places. -/
theorem readFile_without (h : tree.IsFileSystem) (hgone : tree.HoldsFiles gone) (path : FilePath) :
    (tree.without gone []).readFile path =
      (tree.readFile path).map fun reading =>
        if endsAmong gone (tree.follow maxLinks [] path) then .nothing else reading := by
  rw [readFile, readFile, follow_without h hgone maxLinks h.isDirectoryAt_nil]
  split
  · rfl
  · rcases tree.follow maxLinks [] path with flaw | place
    · cases flaw <;> rfl
    · by_cases hmem : place ∈ gone
      · simp [endWithout, endsAmong, hmem, Except.map]
      · simp only [endWithout, endsAmong, hmem, if_false, h.lookup?_without]
        rcases tree.lookup? place with _ | t
        · rfl
        · cases t with
          | file _ | locked => simp [left?, without, hmem, Except.map]
          | directory entries => simp [Except.map, reading]
          | link target => simp [Except.map]

/-- The file that is read at a path stands at the place where the path leads. -/
theorem exists_follow_of_readFile {path : FilePath} {found : Reading}
    (h : tree.readFile path = .ok found) (hfound : found ≠ .nothing) :
    ∃ place t, tree.follow maxLinks [] path = .ok place ∧ tree.lookup? place = some t ∧
      t.reading = found := by
  rw [readFile] at h
  split at h
  · cases h
  · split at h
    · next place hfollow =>
      rcases hlookup : tree.lookup? place with _ | t
      · rw [hlookup] at h
        exact absurd (Except.ok.inj h).symm hfound
      · rw [hlookup] at h
        exact ⟨place, t, hfollow, hlookup, Except.ok.inj h⟩
    · cases h
    · exact absurd (Except.ok.inj h).symm hfound

/-- Only a file reads as more than nothing. -/
theorem isFile_of_reading {t : FileTree} (h : t.reading ≠ .nothing) : t.isFile = true := by
  cases t with
  | file _ | locked => rfl
  | directory _ | link _ => exact absurd rfl h

/-- The only fault of reading a file. -/
theorem eq_nameTooLong_of_readFile {path : FilePath} {fault : Fault}
    (h : tree.readFile path = .error fault) : fault = .nameTooLong := by
  rw [readFile] at h
  split at h
  · exact (Except.error.inj h).symm
  · split at h
    · cases h
    · exact (Except.error.inj h).symm
    · cases h

/-! ### Resolving paths in what is left -/

/-- Steps of a resolution are taken alike, since only links count. -/
theorem resolveSteps_without (h : tree.IsFileSystem) (known : KnownLinks) (path : FilePath)
    (steps : List PathStep) :
    (tree.without gone []).resolveSteps known path steps =
      tree.resolveSteps known path steps := by
  induction steps generalizing known path with
  | nil => rfl
  | cons step rest ih =>
    cases step with
    | linkEnd met =>
      rw [resolveSteps, resolveSteps]
      exact ih ..
    | name name =>
      rw [resolveSteps, resolveSteps]
      split
      · exact ih ..
      · split
        · exact ih ..
        · rw [h.lookup?_without]
          rcases tree.lookup? (path ++ [name]) with _ | t
          · exact ih ..
          · cases t with
            | link target =>
              simp only [Option.bind_some, left?_link]
              split
              · exact ih ..
              · rfl
              · rfl
            | directory entries =>
              simp only [Option.bind_some, left?_directory]
              exact ih ..
            | file _ | locked =>
              by_cases hmem : path ++ [name] ∈ gone
              · simp only [Option.bind_some, left?, isFile, hmem, and_self, if_true]
                exact ih ..
              · simp only [Option.bind_some, left?, hmem, and_false, if_false, without]
                exact ih ..

theorem resolveFrom_without (h : tree.IsFileSystem) (links : Nat) (known : KnownLinks)
    (path : FilePath) (steps : List PathStep) :
    (tree.without gone []).resolveFrom links known path steps =
      tree.resolveFrom links known path steps := by
  induction links generalizing known path steps with
  | zero => rw [resolveFrom, resolveFrom, resolveSteps_without h]
  | succ links ih =>
    rw [resolveFrom, resolveFrom, resolveSteps_without h]
    split
    · rfl
    · rfl
    · exact ih ..

/-- A path means the same in what is left. -/
theorem resolve?_without (h : tree.IsFileSystem) (hgone : tree.HoldsFiles gone)
    (directory : FilePath) (text : String) :
    (tree.without gone []).resolve? directory text = tree.resolve? directory text := by
  simp only [resolve?, linkCount_without, resolveFrom_without h,
    follow_without h hgone maxLinks h.isDirectoryAt_nil]
  rcases tree.follow maxLinks [] (tree.resolveFrom tree.linkCount []
    (if (FilePath.ofText text).1 = true then [] else directory)
    ((FilePath.ofText text).2.map .name)) with flaw | place
  · rfl
  · by_cases hmem : place ∈ gone <;> simp [endWithout, hmem]

end

end FileTree

end ClassQuota
