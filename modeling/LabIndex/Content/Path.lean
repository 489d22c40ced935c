import LabIndex.Text.Pieces

/-!
# Paths

A path is the text it is written as. Joining puts one slash between two parts where none is yet,
and an absolute part replaces everything before it. Two paths are the same location when they
have the same components: repeated slashes, a slash at the end and single dots inside do not count.

* `Path.join_absolute`: an absolute part stands alone;
* `Path.components`: the view in which locations are compared.
-/

namespace LabIndex

/-- A path, as written. -/
abbrev Path := String

namespace Path

/-- A path from the root of the file system. -/
def isAbsolute (p : Path) : Bool := p.toList.head? == some '/'

/-- One path below another. -/
def join (base part : Path) : Path :=
  if part.isAbsolute then part
  else if base.isEmpty || base.toList.getLast? == some '/' then base ++ part
  else base ++ "/" ++ part

theorem join_absolute {base part : Path} (h : part.isAbsolute = true) : base.join part = part := by
  unfold join
  rw [if_pos h]

/-- A step of a path. -/
inductive Component where
  | root
  | current
  | parent
  | name (s : String)
deriving DecidableEq, Repr

/-- The step that a piece between slashes stands for. A single dot counts only at the start. -/
def componentOf (isFirst : Bool) (piece : String) : Option Component :=
  if piece = "" then none
  else if piece = "." then (if isFirst then some .current else none)
  else if piece = ".." then some .parent
  else some (.name piece)

/-- The steps of a path. -/
def components (p : Path) : List Component :=
  match Text.split '/' p with
  | [] => []
  | first :: rest =>
    let lead := if p.isAbsolute then some .root else componentOf true first
    lead.toList ++ rest.filterMap (componentOf false)

/-- A step as it is written. -/
def Component.text : Component → String
  | root => "/"
  | current => "."
  | parent => ".."
  | name s => s

/-- The path that some steps make. -/
def ofComponents (steps : List Component) : Path := steps.foldl (fun p c => p.join c.text) ""

/-- A path without its last step. -/
def parent (p : Path) : Path := ofComponents p.components.dropLast

/-- The paths that lead to a path step by step, itself last. -/
def ancestors (p : Path) : List Path :=
  (List.range p.components.length).map fun i => ofComponents (p.components.take (i + 1))

/-- The last component of a path, if it is a name. -/
def fileName? (p : Path) : Option String :=
  match p.components.getLast? with
  | some (.name s) => some s
  | _ => none

/-- A file name split at its last dot; a name without one, or with its only one in front, has no
    extension. -/
def splitExtension (name : String) : String × Option String :=
  let rev := name.toList.reverse
  let ext := rev.takeWhile (· ≠ '.')
  match rev.drop ext.length with
  | [] => (name, none)
  | _ :: stem =>
    if stem.isEmpty || name = ".." then (name, none)
    else (String.ofList stem.reverse, some (String.ofList ext.reverse))

end Path

end LabIndex
