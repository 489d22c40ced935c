import LabIndex.Command.Line
import LabIndex.Installation
import LabIndex.Store.Dump

/-!
# Running commands

What each command does to the disk, what it prints and how it ends. Settings are loaded first; a
command that needs the store loads it before the index is opened.

* `perform`: one command;
* `Invocation.run`: the settings, and then the command.
-/

namespace LabIndex.Command

open Search (Disk Hit IndexDirectory Place)
open Text (Bytes)

/-! ## 1. Surroundings and outcomes -/

/-- What a command finds when it is run, besides the disk. -/
structure Surroundings where
  env : Environment
  /-- The directory for the user's configuration. -/
  configHome : Path
  standardInput : Bytes

/-- How a command ends. -/
inductive Ending where
  | done
  | failed (f : Failure)
  /-- It gives up, for a reason in words. -/
  | refused (reason : String)
  /-- It goes on by answering requests. -/
  | serving (server : Serving.Server) (host : String) (port : Nat)

/-- How a command ended, and what it printed. -/
structure Outcome where
  ending : Ending
  output : Output := .none

namespace Outcome

/-- All went well. -/
def done (output : Output) : Outcome := ⟨.done, output⟩

/-- Nothing was printed before the failure. -/
def failed (f : Failure) : Outcome := ⟨.failed f, .none⟩

/-- Nothing was printed before it gave up. -/
def refused (reason : String) : Outcome := ⟨.refused reason, .none⟩

end Outcome

/-! ## 2. The index -/

/-- An installation whose index is open, with one engine on it. -/
structure Opened where
  installation : Installation
  disk : Disk
  place : Place
  directory : IndexDirectory
  engine : Nat

namespace Opened

/-- Opens the index that settings name, and puts the installation together. -/
def ofSettings (d : Disk) (s : Settings) (source : Source) : Except Failure Opened := do
  let (place, d) ← d.openPlace s.storage.indexDir
  let (engine, directory) :=
    (IndexDirectory.ofIndex (d.indexAt place)).openEngine s.indexing.writerHeapBytes
  let installation ← Installation.assemble s source d.files (Installation.namedTool s d.files)
  return ⟨installation, d, place, directory, engine⟩

/-- The disk with what has been published since. -/
def saved (x : Opened) (directory : IndexDirectory) : Disk :=
  x.disk.keep x.place directory.published

end Opened

/-- Opens the index of settings and the dump of a store, the store first. -/
def openWithData (d : Disk) (s : Settings) (data : Path) : Except Failure Opened := do
  let store ← Store.load d.files data
  Opened.ofSettings d s (.ofStore store)

/-! ## 3. Indexing -/

/-- Reports without a clock. -/
def untimed (reports : List Report) : List TimedReport := reports.map fun r => ⟨r, none⟩

/-- What is said after runs. -/
def indexOutcome (format : Format) (reports : List Report) : Outcome :=
  let output := reportsOutput format (untimed reports)
  let incomplete := reports.filter (!·.isComplete)
  if !incomplete.isEmpty then
    ⟨.refused ("Indexing incomplete for: " ++
      ", ".intercalate (incomplete.map (·.kind.label))), output⟩
  else
    match format with
    | .json => .done output
    | .human =>
      let total := reports.foldl (fun n r => n + r.committed) 0
      .done (output.append (.line ("Indexed " ++ toString total ++ " document(s)")))

/-- Runs one kind over some ids, or all kinds over everything. -/
def runIndex (x : Opened) (kind : Option Kind) (ids : List String) :
    Except Failure (List Report) × IndexDirectory :=
  let indexers := x.installation.indexers
  let backend := IndexDirectory.backend x.engine
  match kind with
  | none => indexers.rebuild backend x.directory
  | some kind =>
    let (r, directory) := indexers.run backend kind (.ofIds ids) x.directory
    (r.map fun report => [report], directory)

/-- The command that indexes. -/
def index (format : Format) (x : Opened) (kind : Option Kind) (ids : List String) :
    Outcome × Disk :=
  if kind.isNone && !ids.isEmpty then
    (.refused "Indexing specific ids requires --kind", x.disk)
  else
    let (r, directory) := runIndex x kind ids
    (match r with
      | .ok reports => indexOutcome format reports
      | .error f => .failed f, x.saved directory)

/-! ## 4. Searching -/

/-- The most results that are shown. -/
def mostResults : Nat := 100

/-- One result in a line. -/
def hitLine (rank : Nat) (h : Hit) : String :=
  let name := ((h.document.get? "name").bind Json.text?).getD ""
  "[" ++ toString rank ++ "] " ++ h.kind.label ++ " " ++ h.id ++ " " ++ name ++ " (score: " ++
    h.scoreText ++ ")"

/-- Lines for results, of which the first has a rank. -/
def hitLines (rank : Nat) : List Hit → List Output
  | [] => []
  | h :: rest => .line (hitLine rank h) :: hitLines (rank + 1) rest

/-- One result as JSON, its fields in the order in which they are printed. -/
def hitJson (h : Hit) : Json :=
  .obj [("score", h.scoreJson), ("doc_type", .str h.kind.label), ("id", .str h.id),
    ("document", h.document)]

/-- Results in a format. -/
def hitsOutput (format : Format) (query : String) (hits : List Hit) : Output :=
  match format with
  | .human =>
    if hits.isEmpty then .line ("No results found for '" ++ query ++ "'")
    else
      (Output.line ("Found " ++ toString hits.length ++ " result(s):\n")).append
        (.concat (hitLines 1 hits))
  | .json =>
    .line (Json.obj [("query", .str query), ("total_results", .ofNat hits.length),
      ("results", .arr (hits.map hitJson))]).pretty

/-- The command that searches. -/
def search (format : Format) (x : Opened) (query : String) (kind : Option Kind) (limit : Nat) :
    Outcome :=
  match (x.directory.search x.engine query kind (max 1 (min mostResults limit))).1 with
  | .ok hits => .done (hitsOutput format query hits)
  | .error (.failure f) => .failed f
  | .error .noRoom => .done .none

/-! ## 5. Scanning -/

/-- The settings of a scan, with what the command line says. -/
def scanSettings (s : ScannerSettings) (workers : Option Nat) (exclude : List String) :
    ScannerSettings where
  workers := workers.getD s.workers
  excludePatterns := s.excludePatterns ++ exclude

/-- A scan in a format. -/
def scanOutput (format : Format) (root : Path) (workers : Nat) (files : List Scanner.Listed) :
    Output :=
  let total := files.foldl (fun n f => n + f.size) 0
  let groups := Scanner.hardLinkGroups files
  match format with
  | .human =>
    let counts := "  " ++ toString files.length ++ " file(s), " ++ sizeText total ++ " with " ++
      toString workers ++ " worker(s)"
    let linked := groups.map fun g => Output.line ("  linked: " ++ ", ".intercalate g)
    .concat (.line ("Scanned " ++ root) :: .line counts :: linked)
  | .json =>
    .line (Json.obj [("root", .str root), ("workers", .ofNat workers),
      ("files", .ofNat files.length), ("total_bytes", .ofNat total),
      ("hard_links", .arr (groups.map .ofStrings))]).pretty

/-- The command that scans. -/
def scan (format : Format) (files : FileTree) (s : ScannerSettings) (root : Path) : Outcome :=
  match Scanner.ofSettings s with
  | .error f => .failed f
  | .ok scanner =>
    let found := scanner.scan files root false (Scanner.listed files)
    match found.failure with
    | some f => .failed f
    | none => .done (scanOutput format root scanner.workers found.results)

/-! ## 6. Following a feed -/

/-- The bytes of a feed; a dash stands for the standard input. -/
def feedBytes (files : FileTree) (input : Bytes) (feed : Path) : Except SystemFault Bytes :=
  if feed = "-" then .ok input else files.read feed

/-- Follows changes one after another; one that fails is skipped with a warning. -/
def follow (x : Indexers) (engine : Nat) :
    List ChangeEvent → IndexDirectory → List Report × Output × IndexDirectory
  | [], d => ([], .none, d)
  | e :: rest, d =>
    match x.apply (IndexDirectory.backend engine) e d with
    | (.ok reports, d) =>
      let (more, output, d) := follow x engine rest d
      (reports ++ more, output, d)
    | (.error f, d) =>
      let (more, output, d) := follow x engine rest d
      let warning := Output.warning ("Change " ++ e.summary ++ " not applied: " ++ f.message)
      (more, warning.append output, d)

/-- The command that follows a feed. A feed that cannot be read as a whole changes nothing. -/
def sync (format : Format) (x : Opened) (input : Bytes) (feed : Path)
    (remark : String → String := fun _ => "") : Outcome × Disk :=
  match feedBytes x.disk.files input feed with
  | .error f => (.refused f.message, x.disk)
  | .ok bytes =>
    match Feed.parse bytes with
    | .error f => (.refused (f.message remark), x.disk)
    | .ok events =>
      let (reports, warnings, directory) :=
        follow x.installation.indexers x.engine events x.directory
      (.done (warnings.append (reportsOutput format (untimed reports))), x.saved directory)

/-! ## 7. Serving -/

/-- The numbers of an address of four numbers with dots. -/
def fourNumbers? (host : String) : Option (List Nat) :=
  let parts := Text.split '.' host
  let number? (s : String) : Option Nat :=
    if s.startsWith "+" || (s.length ≠ 1 && s.startsWith "0") then none else parseCount 255 s
  if parts.length = 4 then parts.mapM number? else none

/-- Why nothing can listen on a host, if so. Only this machine's own addresses can be listened
    on. -/
def hostFault? (host : String) : Option SystemFault :=
  match fourNumbers? host with
  | some numbers =>
    if numbers.head? = some 127 || numbers.all (· = 0) then none else some .addressUnavailable
  | none => if host = "localhost" then none else some .unknownHost

/-- The command that serves files. -/
def serve (x : Opened) (host : Option String) (port : Option Nat) : Outcome :=
  let s := x.installation.settings.server
  let host := host.getD s.host
  match hostFault? host with
  | some f => .refused f.message
  | none => ⟨.serving x.installation.server host (port.getD s.port), .none⟩

/-! ## 8. Commands -/

/-- Runs a command with an open installation, or reports why it could not be opened. -/
def withOpened (d : Disk) (opened : Except Failure Opened) (run : Opened → Outcome × Disk) :
    Outcome × Disk :=
  match opened with
  | .ok x => run x
  | .error f => (.failed f, d)

/-- Runs a command under settings. -/
def perform (t : Task) (format : Format) (s : Settings) (input : Bytes) (d : Disk) :
    Outcome × Disk :=
  match t with
  | .index kind data ids => withOpened d (openWithData d s data) fun x => index format x kind ids
  | .search query kind limit =>
    withOpened d (Opened.ofSettings d s (.ofStore .empty)) fun x =>
      (search format x query kind limit, x.disk)
  | .scan root workers exclude =>
    (scan format d.files (scanSettings s.scanner workers exclude) root, d)
  | .sync feed data => withOpened d (openWithData d s data) fun x => sync format x input feed
  | .serve host port data =>
    withOpened d (openWithData d s data) fun x => (serve x host port, x.disk)

/-- Loads the settings and runs a command. -/
def Invocation.run (i : Invocation) (w : Surroundings) (d : Disk) : Outcome × Disk :=
  match Settings.load d.files w.env w.configHome with
  | .error f => (.failed f, d)
  | .ok s => perform i.task i.format s w.standardInput d

end LabIndex.Command
