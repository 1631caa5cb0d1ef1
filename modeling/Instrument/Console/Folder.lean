/-
# Folders in memory

Files by the names on their paths within a folder, as the program finds them when it runs there.  A
folder inside it is there as long as a file in it is; nothing outside of it is.
-/
import Instrument.Text.Blank
import Instrument.Transport.Fault

namespace Instrument.Console

/-- A path within a folder: the names on it, and whether it can only be that of a folder. -/
structure FolderPath where
  names : List String
  isFolder : Bool
  deriving DecidableEq, Repr

/-- A path of a text, unless it leads outside. -/
def FolderPath.ofText? (s : String) : Option FolderPath :=
  let pieces := (Text.splitOn '/' s.toList).map String.ofList
  let names := pieces.filter fun n => n ≠ "" && n ≠ "."
  if s.toList.head? = some '/' || names.contains ".." then none
  else some ⟨names, pieces.getLast?.any fun n => n = "" || n = "."⟩

/-- Files under the names on their paths. -/
structure Folder where
  files : List (List String × String)
  deriving DecidableEq, Repr

namespace Folder

/-- The folder of files under paths. -/
def ofFiles (files : List (String × String)) : Folder :=
  ⟨files.filterMap fun (path, text) => (FolderPath.ofText? path).map fun p => (p.names, text)⟩

/-- Is there a folder under these names? -/
def hasFolder (d : Folder) (names : List String) : Bool :=
  names.isEmpty || d.files.any fun (file, _) => file ≠ names && names.isPrefixOf file

/-- Do these names lead through a file? -/
def throughFile (d : Folder) (names : List String) : Bool :=
  d.files.any fun (file, _) => file ≠ names && file.isPrefixOf names

/-- Reads a file. -/
def read (d : Folder) (path : String) : Except IoFault String :=
  match FolderPath.ofText? path with
  | none => .error .noSuchFile
  | some p =>
    match d.files.lookup p.names with
    | some text => if p.isFolder then .error .notFolder else .ok text
    | none =>
      if d.hasFolder p.names then .error .folder
      else if d.throughFile p.names then .error .notFolder
      else .error .noSuchFile

/-- Writes a file, in place of one that is there. -/
def write (d : Folder) (path text : String) : Except IoFault Folder :=
  match FolderPath.ofText? path with
  | none => .error .noSuchFile
  | some p =>
    if d.throughFile p.names then .error .notFolder
    else if d.hasFolder p.names then .error .folder
    else if !d.hasFolder p.names.dropLast then .error .noSuchFile
    else if p.isFolder then .error (if (d.files.lookup p.names).isSome then .notFolder else .folder)
    else .ok ⟨(p.names, text) :: d.files.filter fun (file, _) => file ≠ p.names⟩

end Folder

end Instrument.Console
