import ClassQuota.Fault
import ClassQuota.Text.Fields

/-!
# File trees

A file tree is a value: files with their bytes, directories with their entries, and symbolic
links with their targets. A file may be locked, so that nobody can open it; every directory may be
searched. A path is the list of names from the root.

Links are treated in two ways. On the way to a file they are followed one after another, a limited
number of times, and everything on the way must exist. In resolving a path each link is opened
once, what does not exist is kept as it is written, and a link inside itself ends the resolution.

A name and a path have a greatest number of bytes. A longer name is an obstacle only where the
directory exists in which it would stand.

## Main definitions

* `FileTree` — files, directories and links
* `FileTree.follow` — the place that a path leads to
* `FileTree.resolve?` — the path that a path means once links and dots are resolved
* `FileTree.readFile` — what is found at a path: the bytes of a regular file, through links
* `FileTree.put` — a tree with something added
-/

namespace ClassQuota

/-- A file, a directory with its entries, or a symbolic link. -/
inductive FileTree where
  | file (content : List UInt8)
  /-- A file that may not be opened. -/
  | locked
  | directory (entries : List (String × FileTree))
  | link (target : String)
  deriving Repr

/-- The names that lead from the root to a place in a file tree. -/
abbrev FilePath := List String

namespace FilePath

/-- The text of a path. -/
def text (path : FilePath) : String :=
  "/" ++ "/".intercalate path

/-- The names of a path text, with whether it begins at the root. -/
def ofText (text : String) : Bool × FilePath :=
  (text.toList.head? == some '/', (Text.fields '/' text.toList).map String.ofList)

/-- A directory and the directories above it, up to the root. -/
def ancestors (path : FilePath) : List FilePath :=
  (List.range (path.length + 1)).map fun n => path.take (path.length - n)

end FilePath

namespace FileTree

/-- What stands at a path, without following links. -/
def lookup? : FileTree → FilePath → Option FileTree
  | t, [] => some t
  | .directory entries, name :: path =>
    match entries.lookup name with
    | some t => lookup? t path
    | none => none
  | _, _ :: _ => none

/-! ### Following links -/

/-- How many links are followed on the way to a file. -/
def maxLinks : Nat := 40

/-- Where the way along a path has got to. -/
inductive Progress where
  /-- All names were taken. -/
  | finished (path : FilePath)
  /-- A link was met; its names come before those that are left. -/
  | linked (base rest : FilePath)
  /-- Something is missing on the way. -/
  | missing
  /-- A name was met that has too many bytes. -/
  | nameTooLong
  deriving DecidableEq, Repr

/-- How many bytes a name may have. -/
def maxNameBytes : Nat := 255

/-- How many bytes a path may have. -/
def maxPathBytes : Nat := 4095

/-- Take names up to the first link. Every name must exist, and all but the last must be
directories. -/
def advance (tree : FileTree) : FilePath → FilePath → Progress
  | path, [] => .finished path
  | path, name :: rest =>
    if name = "" ∨ name = "." then advance tree path rest
    else if name = ".." then advance tree path.dropLast rest
    else if maxNameBytes < name.utf8ByteSize then .nameTooLong
    else
      match tree.lookup? (path ++ [name]) with
      | some (.link target) =>
        let parsed := FilePath.ofText target
        .linked (if parsed.1 then [] else path) (parsed.2 ++ rest)
      | some (.directory _) => advance tree (path ++ [name]) rest
      | some (.file _) | some .locked =>
        if rest.isEmpty then .finished (path ++ [name]) else .missing
      | none => .missing

/-- Why there is nothing at the end of a path. -/
inductive PathFlaw where
  | missing
  | tooManyLinks
  | nameTooLong
  deriving DecidableEq, Repr

/-- The place without links that a path from a directory leads to. -/
def follow (tree : FileTree) : (links : Nat) → FilePath → FilePath → Except PathFlaw FilePath
  | links, base, path =>
    match tree.advance base path with
    | .finished path => .ok path
    | .missing => .error .missing
    | .nameTooLong => .error .nameTooLong
    | .linked base rest =>
      match links with
      | 0 => .error .tooManyLinks
      | links + 1 => follow tree links base rest

/-- What is found at a path. -/
inductive Reading where
  /-- No regular file. -/
  | nothing
  /-- A regular file that may not be opened. -/
  | locked
  /-- A regular file with its bytes. -/
  | content (bytes : List UInt8)
  deriving DecidableEq, Repr

/-- What is found where a tree stands. -/
def reading : FileTree → Reading
  | .file content => .content content
  | .locked => .locked
  | _ => .nothing

/-- What is found at a path, through links. -/
def readFile (tree : FileTree) (path : FilePath) : Except Fault Reading :=
  if maxPathBytes < (FilePath.text path).utf8ByteSize then .error .nameTooLong
  else
    match tree.follow maxLinks [] path with
    | .ok path => .ok (((tree.lookup? path).map reading).getD .nothing)
    | .error .nameTooLong => .error .nameTooLong
    | .error _ => .ok .nothing

/-! ### Resolving paths -/

/-- What is left of a path that is being resolved: names, and the ends of the links that were
met. -/
inductive PathStep where
  | name (name : String)
  | linkEnd (link : FilePath)
  deriving DecidableEq, Repr

/-- The links that were met, and what they stand for once that is known. -/
abbrev KnownLinks := List (FilePath × Option FilePath)

/-- Where the resolution of a path has got to. -/
inductive Resolution where
  /-- All names were taken. -/
  | finished (path : FilePath)
  /-- A link was met for the first time, in a directory. -/
  | linked (base : FilePath) (name target : String) (rest : List PathStep) (known : KnownLinks)
  /-- A link was met again before its end. It and all that is left are kept as they are written. -/
  | looped (path : FilePath)
  deriving DecidableEq, Repr

/-- A path with names after it, of which dots are taken literally. -/
def appendNames (path : FilePath) : List PathStep → FilePath
  | [] => path
  | .linkEnd _ :: rest => appendNames path rest
  | .name name :: rest =>
    if name = "" ∨ name = "." then appendNames path rest
    else if name = ".." then appendNames path.dropLast rest
    else appendNames (path ++ [name]) rest

/-- Take names up to the first new link. What does not exist is kept as it is written. -/
def resolveSteps (tree : FileTree) : KnownLinks → FilePath → List PathStep → Resolution
  | _, path, [] => .finished path
  | known, path, .linkEnd met :: rest => resolveSteps tree ((met, some path) :: known) path rest
  | known, path, .name name :: rest =>
    if name = "" ∨ name = "." then resolveSteps tree known path rest
    else if name = ".." then resolveSteps tree known path.dropLast rest
    else
      match tree.lookup? (path ++ [name]) with
      | some (.link target) =>
        match known.lookup (path ++ [name]) with
        | some (some place) => resolveSteps tree known place rest
        | some none => .looped (appendNames (path ++ [name]) rest)
        | none => .linked path name target rest known
      | _ => resolveSteps tree known (path ++ [name]) rest

mutual

/-- The number of links in a tree. -/
def linkCount : FileTree → Nat
  | .file _ => 0
  | .locked => 0
  | .link _ => 1
  | .directory entries => linkCountOf entries

/-- The number of links in the entries of a directory. -/
def linkCountOf : List (String × FileTree) → Nat
  | [] => 0
  | (_, t) :: rest => t.linkCount + linkCountOf rest

end

/-- The path without links and dots that a path from a directory means, where links do not loop.
Each link is opened at most once, so their number bounds the work. -/
def resolveFrom (tree : FileTree) :
    (links : Nat) → KnownLinks → FilePath → List PathStep → FilePath
  | links, known, path, steps =>
    match tree.resolveSteps known path steps with
    | .finished path => path
    | .looped path => path
    | .linked base name target rest known =>
      let met := base ++ [name]
      let parsed := FilePath.ofText target
      match links with
      | 0 => appendNames met rest
      | links + 1 =>
        resolveFrom tree links ((met, none) :: known) (if parsed.1 then [] else base)
          (parsed.2.map .name ++ .linkEnd met :: rest)

/-- The path that a path text means, seen from a directory. What does not exist is kept as it is
written. There is none where the links of the path never end. -/
def resolve? (tree : FileTree) (directory : FilePath) (text : String) : Option FilePath :=
  let parsed := FilePath.ofText text
  let path := tree.resolveFrom tree.linkCount [] (if parsed.1 then [] else directory)
    (parsed.2.map .name)
  match tree.follow maxLinks [] path with
  | .error .tooManyLinks => none
  | _ => some path

/-! ### Building trees -/

/-- The entries with one entry changed or added. -/
def alter (name : String) (f : Option FileTree → FileTree) :
    List (String × FileTree) → List (String × FileTree)
  | [] => [(name, f none)]
  | (n, t) :: rest => if n = name then (n, f (some t)) :: rest else (n, t) :: alter name f rest

/-- A tree with something put at a path. Directories that are missing on the way are made. -/
def put (item : FileTree) : FilePath → Option FileTree → FileTree
  | [], _ => item
  | name :: path, some (.directory entries) =>
    .directory (alter name (put item path) entries)
  | name :: path, _ => .directory (alter name (put item path) [])

/-- A tree with a directory made at a path, where there is none. -/
def makeDirectory (tree : FileTree) (path : FilePath) : FileTree :=
  match tree.lookup? path with
  | some _ => tree
  | none => put (.directory []) path (some tree)

end FileTree

end ClassQuota
