import LabIndex.FileTree.Basic
import LabIndex.Json.Reader
import LabIndex.Store.Records

/-!
# Dumps of tables

A directory holds one file for each table: its name is the table's with the extension `json`, and
its contents are a JSON list of the rows. Other files in the directory are passed over.
-/

namespace LabIndex

namespace Store

/-- The table that a file of a dump holds, by its name. -/
def dumpedTable? (fileName : String) : Option String :=
  match Path.splitExtension fileName with
  | (stem, some "json") => some stem
  | _ => none

/-- The rows in the text of a dumped table. -/
def readRows (document : String) : Except Failure (List Json) :=
  match Json.parse? document with
  | some (.arr rows) => .ok rows
  | _ => .error .malformedJson

/-- The rows in a file of a dump. -/
def readDump (t : FileTree) (path : Path) : Except Failure (List Json) :=
  match t.read path with
  | .error f => .error f.toFailure
  | .ok bytes =>
    match Text.decode? bytes with
    | none => .error (.io "stream did not contain valid UTF-8")
    | some document => readRows document

/-- Adds the tables of a dump to a store, file by file. -/
def loadFiles (t : FileTree) (dir : Path) : List String → Store → Except Failure Store
  | [], s => .ok s
  | name :: rest, s =>
    match dumpedTable? name with
    | none => loadFiles t dir rest s
    | some table =>
      match readDump t (Path.join dir name) with
      | .error f => .error f
      | .ok rows => loadFiles t dir rest (s.insert table rows)

/-- The store that a directory holds; the first file that cannot be read is the failure. -/
def load (t : FileTree) (dir : Path) : Except Failure Store :=
  match t.list dir with
  | .error f => .error f.toFailure
  | .ok names => loadFiles t dir names empty

end Store

end LabIndex
