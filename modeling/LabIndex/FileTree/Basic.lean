import LabIndex.Content.Store

/-!
# File trees

A tree of directories with files, symbolic links and special files in it, the contents of the
files, and the directory that one is in: paths that are not absolute start there. Two entries
with one number are hard links to one file: they share their contents.

Names are texts, and so are paths. A system may have names of other bytes; trees with such names are
not described here, and nothing is said of what becomes of them where a name is matched or shown.

* `FileTree.find`: what is at a path, symbolic links on the way followed;
* `FileTree.read`: the bytes of a file;
* `FileTree.linkCount`: the number of entries of a file in the whole tree.
-/

namespace LabIndex

open Text (Bytes)

/-! ## 1. Trees -/

/-- An entry of a directory, whose names are texts. -/
inductive Node where
  /-- A regular file, by its number. -/
  | file (number : Nat)
  | directory (entries : List (String × Node))
  | symlink (target : Path)
  /-- A pipe, a socket or a device. -/
  | special
deriving Repr, Inhabited

/-- The entries of a directory. -/
abbrev Entries := List (String × Node)

/-- A tree, and the contents of its files by their numbers. -/
structure FileTree where
  entries : Entries
  contents : List Bytes
  /-- The names on the way from the top to the current directory. -/
  here : List String := []
deriving Repr, Inhabited

namespace Node

/-- The entry with a name. -/
def child? (name : String) : Entries → Option Node
  | [] => none
  | (n, node) :: rest => if n = name then some node else child? name rest

mutual

/-- The number of entries of a file in an entry. -/
def countFile (number : Nat) : Node → Nat
  | .file n => if n = number then 1 else 0
  | .directory entries => countFileIn number entries
  | _ => 0

/-- The number of entries of a file in a directory. -/
def countFileIn (number : Nat) : List (String × Node) → Nat
  | [] => 0
  | (_, node) :: rest => node.countFile number + countFileIn number rest

end

/-- Changes the entry at a path of names; directories on the way are made, and nothing happens
    where something else is in the way. -/
def alter (change : Option Node → Option Node) : List String → Entries → Entries
  | [], entries => entries
  | [name], entries =>
    match child? name entries, change (child? name entries) with
    | none, none => entries
    | none, some node => entries ++ [(name, node)]
    | some _, none => entries.filter (·.1 ≠ name)
    | some _, some node => entries.map fun e => if e.1 = name then (name, node) else e
  | name :: next :: rest, entries =>
    match child? name entries with
    | none => entries ++ [(name, .directory (alter change (next :: rest) []))]
    | some (.directory inner) =>
      entries.map fun e =>
        if e.1 = name then (name, .directory (alter change (next :: rest) inner)) else e
    | some _ => entries

end Node

namespace FileTree

/-- A tree without anything. -/
def empty : FileTree := ⟨[], [], []⟩

/-- A tree with nothing but the current directory and what that is in. -/
def startingIn (here : List String) : FileTree where
  entries := Node.alter (fun _ => some (.directory [])) here []
  contents := []
  here := here

/-! ## 2. Looking up -/

/-- The steps of a path. A slash or a dot at the end asks for a directory. -/
def steps (p : Path) : List Path.Component :=
  let trailing := p.toList.getLast? == some '/' || (Text.split '/' p).getLast? == some "."
  p.components ++ (if trailing then [.current] else [])

/-- The most symbolic links that are followed on one way. -/
def maxLinks : Nat := 40

/-- The most bytes of one name. -/
def maxNameBytes : Nat := 255

/-- The most bytes of a path. -/
def maxPathBytes : Nat := 4095

/-- The entries on the way to a place with their names, the innermost first. The last is the top
    of the tree, under no name. -/
abbrev Way := List (String × Node)

/-- The way on from a way through directories with these names; no way at all where there are
    none. -/
def along : Way → List String → Way
  | way, [] => way
  | (here, .directory entries) :: outer, name :: rest =>
    match Node.child? name entries with
    | some node => along ((name, node) :: (here, .directory entries) :: outer) rest
    | none => []
  | _, _ :: _ => []

/-- The way to the top. -/
def top (t : FileTree) : Way := [("", .directory t.entries)]

/-- Goes along steps, from the end of a way; at the very end a symbolic link is followed only if
    `follow` says so. Above the top is the top. -/
def walk (follow : Bool) (links : Nat) (way : Way) (todo : List Path.Component) :
    Except SystemFault Way :=
  match way, todo with
  | [], _ => .error .notFound
  | last :: outer, [] => .ok (last :: outer)
  | (here, node) :: outer, step :: rest =>
    match node with
    | .directory entries =>
      match step with
      | .root => walk follow links (((here, node) :: outer).drop outer.length) rest
      | .current => walk follow links ((here, node) :: outer) rest
      | .parent => walk follow links (if outer.isEmpty then [(here, node)] else outer) rest
      | .name s =>
        match Node.child? s entries with
        | none =>
          .error (if Text.byteLength s.toList ≤ maxNameBytes then .notFound else .nameTooLong)
        | some (.symlink target) =>
          if rest.isEmpty && !follow then .ok ((s, .symlink target) :: (here, node) :: outer)
          else
            match links with
            | 0 => .error .tooManyLinks
            | links + 1 => walk follow links ((here, node) :: outer) (steps target ++ rest)
        | some inner => walk follow links ((s, inner) :: (here, node) :: outer) rest
    | _ => .error .notDirectory
termination_by (links, todo.length)

/-- The way to a path; a symbolic link at its end counts as itself unless `follow` is set. -/
def wayTo (t : FileTree) (follow : Bool) (p : Path) : Except SystemFault Way :=
  if p.contains '\x00' then .error .nulInName
  else if p.isEmpty then .error .notFound
  else if maxPathBytes < Text.byteLength p.toList then .error .nameTooLong
  else walk follow maxLinks (along t.top t.here) (steps p)

/-- What is at a path; a symbolic link at its end counts as itself unless `follow` is set. -/
def find (t : FileTree) (follow : Bool) (p : Path) : Except SystemFault Node :=
  match t.wayTo follow p with
  | .ok ((_, node) :: _) => .ok node
  | .ok [] => .error .notFound
  | .error f => .error f

/-- The contents of a file by its number. -/
def contentsOf (t : FileTree) (number : Nat) : Bytes := (t.contents[number]?).getD []

/-- The number of entries of a file. -/
def linkCount (t : FileTree) (number : Nat) : Nat := Node.countFileIn number t.entries

/-- Something is at a path. -/
def contains (t : FileTree) (p : Path) : Bool :=
  match t.find true p with
  | .ok _ => true
  | .error _ => false

/-- A regular file is at a path. -/
def isFile (t : FileTree) (p : Path) : Bool :=
  match t.find true p with
  | .ok (.file _) => true
  | _ => false

/-- The bytes of the file at a path. -/
def read (t : FileTree) (p : Path) : Except SystemFault Bytes :=
  match t.find true p with
  | .error f => .error f
  | .ok (.file n) => .ok (t.contentsOf n)
  | .ok (.directory _) => .error .isDirectory
  | .ok _ => .ok []

/-- The names in a directory, in order. -/
def list (t : FileTree) (p : Path) : Except SystemFault (List String) :=
  match t.find true p with
  | .error f => .error f
  | .ok (.directory entries) => .ok ((entries.map (·.1)).mergeSort (· ≤ ·))
  | .ok _ => .error .notDirectory

/-- The files of a tree as a byte store. -/
def byteStore (t : FileTree) : ByteStore := fun p =>
  match t.find true p with
  | .ok (.file n) => some (.readable ⟨t.contentsOf n, false⟩)
  | _ => none

/-! ## 3. Changing -/

/-- The names on the way to a directory, from the top; the empty path is the current directory. -/
def location (t : FileTree) (dir : Path) : Except SystemFault (List String) :=
  if dir.isEmpty then .ok t.here
  else (t.wayTo true dir).map fun way => (way.dropLast.map (·.1)).reverse

/-- Changes the entry with the last name of a path; the directory that it is in has to exist. -/
def change (t : FileTree) (p : Path) (how : Option Node → Option Node) : FileTree :=
  match t.location (Path.parent p), Path.fileName? p with
  | .ok names, some name => { t with entries := Node.alter how (names ++ [name]) t.entries }
  | _, _ => t

/-- Makes one directory where there is none, or says what is there instead. The flag says that
    it is the last of a path. -/
def makeDirectory (t : FileTree) (isLast : Bool) (p : Path) : Except SystemFault FileTree :=
  match t.find true p with
  | .ok (.directory _) => .ok t
  | .ok _ => .error (if isLast then .alreadyExists else .notDirectory)
  | .error .notFound =>
    match t.find false p with
    | .ok _ => .error .alreadyExists
    | .error _ => .ok (t.change p fun _ => some (.directory []))
  | .error f => .error f

/-- Makes the directories of a path, one after another. -/
def makeEach (t : FileTree) : List Path → Except SystemFault FileTree
  | [] => .ok t
  | p :: rest =>
    match t.makeDirectory rest.isEmpty p with
    | .ok t => t.makeEach rest
    | .error f => .error f

/-- Makes a directory with all that it is in, unless it is there. -/
def makeDirectories (t : FileTree) (p : Path) : Except SystemFault FileTree :=
  t.makeEach (Path.ancestors p)

/-- The tree with the directories of a path where they can be made. -/
def withDirectories (t : FileTree) (p : Path) : FileTree :=
  match t.makeDirectories p with
  | .ok t => t
  | .error _ => t

/-- Adds an entry where there is none, with the directories that it is in. -/
def add (t : FileTree) (p : Path) (node : Node) : FileTree :=
  (t.withDirectories (Path.parent p)).change p fun old => some (old.getD node)

/-- Writes a file. An existing one keeps its number, and so all its links see the new contents. -/
def write (t : FileTree) (p : Path) (bytes : Bytes) : FileTree :=
  match t.find true p with
  | .ok (.file n) => { t with contents := t.contents.set n bytes }
  | _ => { t.add p (.file t.contents.length) with contents := t.contents ++ [bytes] }

/-- Makes a hard link to what is at another path. -/
def makeHardLink (t : FileTree) (p other : Path) : FileTree :=
  match t.find false other with
  | .ok (.directory _) => t
  | .ok node => t.add p node
  | .error _ => t

/-- Removes what is at a path, unless it is a directory; the answer says whether it did. -/
def remove (t : FileTree) (p : Path) : Bool × FileTree :=
  match t.find false p with
  | .ok (.directory _) => (false, t)
  | .ok _ => (true, t.change p fun _ => none)
  | .error _ => (false, t)

/-- What is to be put at a path. -/
inductive Planned where
  | data (bytes : Bytes)
  | directory
  | hardLink (other : Path)
  | symlink (target : Path)

/-- Puts something at a path. -/
def put (t : FileTree) (p : Path) : Planned → FileTree
  | .data bytes => t.write p bytes
  | .directory => t.withDirectories p
  | .hardLink other => t.makeHardLink p other
  | .symlink target => t.add p (.symlink target)

/-- A plan that can only be carried out when others have been. -/
def Planned.isLink : Planned → Bool
  | .hardLink _ | .symlink _ => true
  | _ => false

/-- Carries out plans, links last. -/
def putAll (t : FileTree) (plans : List (Path × Planned)) : FileTree :=
  let links := plans.filter (·.2.isLink)
  let others := plans.filter (!·.2.isLink)
  (others ++ links).foldl (fun t e => t.put e.1 e.2) t

end FileTree

end LabIndex
