import LabIndex.FileTree.Basic
import LabIndex.Search.Engine

/-!
# Indexes on disk

Each index lies in a directory of a file tree, and two paths to one directory name one index.
Opening makes the directory if it is not there; a directory in which nothing was written yet holds
the empty index.
-/

namespace LabIndex.Search

/-- The place of a directory: the names on the way to it. -/
abbrev Place := List String

/-- A file tree with the indexes in its directories. -/
structure Disk where
  files : FileTree
  indexes : List (Place × Index)

namespace Disk

/-- A file tree without any index. -/
def ofFiles (files : FileTree) : Disk := ⟨files, []⟩

/-- The failure for an index without a directory. -/
def noDirectory : Failure :=
  .storage "Failed to open index directory: Directory does not exist: ''."

/-- Opens a directory for an index, making it if need be. -/
def openPlace (d : Disk) (dir : Path) : Except Failure (Place × Disk) :=
  if dir.isEmpty then .error noDirectory
  else
    match d.files.makeDirectories dir with
    | .error f => .error f.toFailure
    | .ok files =>
      match files.location dir with
      | .ok place => .ok (place, { d with files })
      | .error f => .error f.toFailure

/-- The index in a place. -/
def indexAt (d : Disk) (place : Place) : Index :=
  ((d.indexes.find? (·.1 == place)).map (·.2)).getD []

/-- Keeps an index in a place. -/
def keep (d : Disk) (place : Place) (x : Index) : Disk :=
  { d with indexes := (place, x) :: d.indexes.filter (·.1 != place) }

end Disk

end LabIndex.Search
