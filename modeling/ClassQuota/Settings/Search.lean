import ClassQuota.FileTree
import ClassQuota.Settings
import ClassQuota.Toml.Document

/-!
# The search for the configuration file

The configuration is read from the nearest `pyproject.toml` at or above a directory. A file that
is no document, or may not be opened, is skipped with a warning; what is no regular file is passed
over in silence. The first document ends the search, whether it has a section for the linter or
not.

## Main definitions

* `Settings.readDocument` — the document of a file, none where the file is to be skipped
* `Settings.sectionOf` — the section of a document
* `Settings.search` — the search through directories
* `Settings.find` — the search from a directory upwards
-/

namespace ClassQuota

namespace Settings

/-- The name of configuration files. -/
def fileName : String := "pyproject.toml"

/-- The document of a file, or nothing where the file is malformed. -/
def readDocument (bytes : List UInt8) : Except Fault (Option Entries) :=
  match Toml.read bytes with
  | .ok entries => .ok (some entries)
  | .error .notUtf8 => .error .notUtf8
  | .error (.text .malformed) => .ok none
  | .error (.text (.tooManyDigits digits)) => .error (.tooManyDigits (some digits))
  | .error (.text .tooDeep) => .error .tooDeep

/-- A value, or an empty table where it is missing or does not count as present. -/
def orEmpty (value : Option Value) : Value :=
  (value.filter Value.isTrue).getD (.table [])

/-- The section of the linter in the table of tools. -/
def sectionOf (tools : Value) : Except Fault Value := do
  .ok (orEmpty (← fieldOf tools sectionName))

/-- Search directories in order. `read` gives the document of a file. -/
def search (read : List UInt8 → Except Fault (Option Entries)) (tree : FileTree) :
    List FilePath → Attempt Value
  | [] => pure (.table [])
  | directory :: others =>
    let path := directory ++ [fileName]
    match tree.readFile path with
    | .error fault => .fail fault
    | .ok .nothing => search read tree others
    | .ok .locked => do
      .record (.fileSkipped path.text .locked)
      search read tree others
    | .ok (.content bytes) => do
      match ← .ofExcept (read bytes) with
      | none =>
        .record (.fileSkipped path.text)
        search read tree others
      | some document =>
        .record (.configurationLoaded path.text)
        .ofExcept (sectionOf (orEmpty (Value.find? "tool" document)))

/-- The configuration for a directory: that of the nearest file at or above it. -/
def find (tree : FileTree) (directory : FilePath) : Attempt Value :=
  search readDocument tree directory.ancestors

/-- The configuration for a path text, seen from a directory; without a text for the directory
itself. -/
def findFrom (tree : FileTree) (directory : FilePath) (start : Option String) : Attempt Value :=
  let text := start.getD ""
  if text.toList.contains '\x00' then .fail .zeroInPath
  else
    match tree.resolve? directory text with
    | some path => find tree path
    | none => .fail .linkLoop

end Settings

end ClassQuota
