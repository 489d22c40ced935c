import LabIndex.FileTree.Basic
import LabIndex.FileTree.Glob
import LabIndex.FileTree.Workers
import LabIndex.Settings.Basic

/-!
# Scanning directories

A scan finds the regular files below a directory, each once. A pattern leaves out what it fits: the
path from the directory, the whole path, or the name alone; what lies in a directory that is left
out is left out with it. Symbolic links are passed over, except the directory itself. The first place
that cannot be read ends the search.

A walker finds the files and a pool of workers processes them; the order of the results depends
on the workers, so nothing may depend on it.

Every name is a text. A pattern is held against the name itself, and a file is listed under the path
that it has. A name that is no text, which would be matched as the empty one and listed with other
characters for what is no text in it, has no counterpart here.
-/

namespace LabIndex

/-! ## 1. Scanners -/

/-- A scanner: how many workers it has, and what it leaves out. -/
structure Scanner where
  workers : Nat
  patterns : List (List Glob.Token)
  workers_pos : 0 < workers

namespace Scanner

/-- The failure for a text that is no pattern. -/
def badPattern (pattern : String) (f : Glob.Fault) : Failure :=
  .config ("Invalid exclude pattern '" ++ pattern ++ "': " ++ f.message)

/-- Reads patterns; the first bad one is the failure. -/
def readPatterns : List String → Except Failure (List (List Glob.Token))
  | [] => .ok []
  | p :: rest =>
    match Glob.parse p with
    | .error f => .error (badPattern p f)
    | .ok tokens =>
      match readPatterns rest with
      | .error f => .error f
      | .ok more => .ok (tokens :: more)

/-- A scanner, if it has workers and its patterns make sense. -/
def make (workers : Nat) (patterns : List String) : Except Failure Scanner :=
  if h : 0 < workers then
    match readPatterns patterns with
    | .ok ps => .ok ⟨workers, ps, h⟩
    | .error f => .error f
  else .error (.config "Scanner needs at least one worker")

/-- The scanner that settings ask for. -/
def ofSettings (s : ScannerSettings) : Except Failure Scanner := make s.workers s.excludePatterns

/-! ## 2. Finding files -/

/-- A regular file that a scan found. -/
structure Found where
  path : Path
  /-- The number that all hard links to the file share. -/
  number : Nat
deriving DecidableEq, Repr

/-- An entry is left out: its path below the root, its whole path or its name fits a pattern. -/
def excludes (s : Scanner) (relative path name : String) : Bool :=
  s.patterns.any fun p =>
    Glob.fits p relative.toList || Glob.fits p path.toList || Glob.fits p name.toList

/-- The path of an entry of a directory below the root, from the root. -/
def below (relative name : String) : String :=
  if relative.isEmpty then name else relative ++ "/" ++ name

/-- What a walker comes to: the files, in the order in which it does, and what stopped it before
    the end if something did. -/
structure Walked where
  files : List Found
  failure : Option Failure := none
deriving Repr

/-- The failure of a walk at a place that cannot be read. -/
def walkFailure (path : Path) (f : SystemFault) : Failure :=
  .walk ("IO error for operation on " ++ path ++ ": " ++ f.message)

namespace Walked

/-- A walk that stops at a place that cannot be read. -/
def stopped (path : Path) (f : SystemFault) : Walked := ⟨[], some (walkFailure path f)⟩

/-- One walk and then another, unless the first was stopped. -/
def andThen (first second : Walked) : Walked :=
  match first.failure with
  | some _ => first
  | none => ⟨first.files ++ second.files, second.failure⟩

/-- A walk of what is at a path, which cannot be read if the path is longer than the system
    takes. -/
def opening (path : Path) (inside : Walked) : Walked :=
  if FileTree.maxPathBytes < Text.byteLength path.toList then stopped path .nameTooLong else inside

end Walked

mutual

/-- The files in an entry that is not left out. -/
def filesOf (s : Scanner) (relative path : String) : Node → Walked
  | .file n => .opening path ⟨[⟨path, n⟩], none⟩
  | .directory entries => .opening path (s.filesIn relative path entries)
  | _ => ⟨[], none⟩

/-- The files in a directory. -/
def filesIn (s : Scanner) (relative path : String) : List (String × Node) → Walked
  | [] => ⟨[], none⟩
  | (name, node) :: rest =>
    let r := below relative name
    let p := Path.join path name
    if s.excludes r p name then s.filesIn relative path rest
    else (s.filesOf r p node).andThen (s.filesIn relative path rest)

end

/-- The files below a root. The root itself is never left out; a symbolic link there is followed
    to a directory. -/
def walk (s : Scanner) (t : FileTree) (root : Path) : Walked :=
  match t.find false root with
  | .error f => .stopped root f
  | .ok (.symlink _) =>
    match t.find true root with
    | .error f => .stopped root f
    | .ok (.directory entries) => s.filesIn "" root entries
    | .ok _ => ⟨[], none⟩
  | .ok node => s.filesOf "" root node

/-! ## 3. Scans -/

/-- What a scan delivers: the results, and the failure that stopped the walk. -/
structure Outcome (β : Type) where
  results : List β
  failure : Option Failure

/-- The walk of a scan. One that was cancelled before it began comes to nothing. -/
def walkOf (s : Scanner) (t : FileTree) (root : Path) (cancelled : Bool) : Walked :=
  if cancelled then ⟨[], some .cancelled⟩ else s.walk t root

/-- A scan after its threads have moved as a schedule says, with `process` applied to each file. -/
def scanUnder {β : Type} (s : Scanner) (t : FileTree) (root : Path) (cancelled : Bool)
    (process : Found → β) (schedule : List Move) : Pool Found β :=
  (Pool.start s.workers (s.walkOf t root cancelled).files).run process schedule

/-- Scans below a root, with `process` applied to each file, until all threads have ended. -/
def scan {β : Type} (s : Scanner) (t : FileTree) (root : Path) (cancelled : Bool)
    (process : Found → β) : Outcome β :=
  let walked := s.walkOf t root cancelled
  let schedule := Pool.inTurn s.workers walked.files.length
  ⟨(s.scanUnder t root cancelled process schedule).results, walked.failure⟩

/-! ## 4. What is told about a file -/

/-- What a system knows a file by, whatever path leads to it: the device that it lies on and its
    number there. Two of them are the same or not; nothing else can be asked of them. -/
structure FileNode where
  device : Nat
  number : Nat
deriving DecidableEq, Repr

/-- A file as it is listed, under its path as a text. -/
structure Listed where
  path : Path
  size : Nat
  /-- How many names the file has, in whatever directories. -/
  links : Nat
  /-- What the file is known by, on a system that tells. -/
  node : Option FileNode
deriving DecidableEq, Repr

/-- The device that a file tree lies on. -/
def treeDevice : Nat := 0

/-- A found file with its size and the number of its links. -/
def listed (t : FileTree) (f : Found) : Listed :=
  ⟨f.path, (t.contentsOf f.number).length, t.linkCount f.number, some ⟨treeDevice, f.number⟩⟩

/-- Adds a path to the group of a file, or opens one. -/
def addToGroup (node : FileNode) (path : Path) :
    List (FileNode × List Path) → List (FileNode × List Path)
  | [] => [(node, [path])]
  | (n, paths) :: rest =>
    if n = node then (n, paths ++ [path]) :: rest
    else (n, paths) :: addToGroup node path rest

/-- Adds a listed file to the groups, if it has several links and the system tells it apart. -/
def group (groups : List (FileNode × List Path)) (f : Listed) : List (FileNode × List Path) :=
  match f.node with
  | some n => if 1 < f.links then addToGroup n f.path groups else groups
  | none => groups

/-- The files of which a scan found several links, each as the list of their paths in order. -/
def hardLinkGroups (files : List Listed) : List (List Path) :=
  ((files.foldl group []).filter (1 < ·.2.length)).map fun g => g.2.mergeSort (· ≤ ·)

end Scanner

/-! ## 5. Cancelling -/

/-- Cancellation tokens. Each handle belongs to a token; all handles of one token see it
    cancelled once one of them cancels it. -/
structure CancelTokens where
  /-- The token of each handle. -/
  handles : List Nat
  /-- Whether each token was cancelled. -/
  cancelled : List Bool
deriving Repr

namespace CancelTokens

/-- One handle to one token. -/
def start : CancelTokens := ⟨[0], [false]⟩

/-- The token of a handle. -/
def tokenOf (c : CancelTokens) (handle : Nat) : Nat := (c.handles[handle]?).getD 0

/-- A new token with one handle, and that handle. -/
def fresh (c : CancelTokens) : Nat × CancelTokens :=
  (c.handles.length, ⟨c.handles ++ [c.cancelled.length], c.cancelled ++ [false]⟩)

/-- One more handle to the token of a handle. -/
def clone (c : CancelTokens) (handle : Nat) : Nat × CancelTokens :=
  (c.handles.length, { c with handles := c.handles ++ [c.tokenOf handle] })

/-- Cancels the token of a handle. -/
def cancel (c : CancelTokens) (handle : Nat) : CancelTokens :=
  { c with cancelled := c.cancelled.set (c.tokenOf handle) true }

/-- The token of a handle was cancelled. -/
def isCancelled (c : CancelTokens) (handle : Nat) : Bool :=
  (c.cancelled[c.tokenOf handle]?).getD false

end CancelTokens

end LabIndex
