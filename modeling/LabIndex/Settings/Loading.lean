import LabIndex.FileTree.Scan
import LabIndex.Settings.Json
import LabIndex.Text.Alphabet
import LabIndex.Toml.Document

/-!
# Where settings come from

Settings are read from one file, then overridden by environment variables, then checked. The file
is the one that a variable names, or else the user's own, or else the one in the current directory;
without any, the defaults hold.

* `Settings.ofEnvironment`: a variable that cannot be used leaves its setting as it is;
* `Settings.fault?`: the first thing that makes no sense;
* `Settings.load`: all of it.
-/

namespace LabIndex

/-- Environment variables with their values. -/
abbrev Environment := List (String × String)

/-- The value of a variable. -/
def Environment.get? (env : Environment) (name : String) : Option String :=
  (env.find? (·.1 == name)).map (·.2)

/-! ## 1. Numbers -/

/-- The number that a text spells: ASCII digits, after a plus sign if need be, and at most
    `high`. -/
def parseCount (high : Nat) (s : String) : Option Nat :=
  let digits := match s.toList with
    | '+' :: rest => rest
    | cs => cs
  if digits.isEmpty || !digits.all Char.isDigit then none
  else
    let n := digits.foldl (fun n c => 10 * n + (c.toNat - '0'.toNat)) 0
    if n ≤ high then some n else none

/-! ## 2. Files -/

namespace Settings

/-- A section written as a list, without what lies beyond its last field. -/
def cutSection (size : Nat) : Json → Json
  | .arr items => .arr (items.take size)
  | v => v

/-- The sizes of the sections. -/
def sectionSizes : List (String × Nat) := [
  ("storage", StorageSettings.shape.slots.length),
  ("extraction", ExtractionSettings.shape.slots.length),
  ("indexing", IndexingSettings.shape.slots.length),
  ("scanner", ScannerSettings.shape.slots.length),
  ("server", ServerSettings.shape.slots.length)]

/-- A document in which no section is too long. -/
def cutSections : Json → Json
  | .obj fields => .obj (fields.map fun f =>
    match sectionSizes.find? (·.1 == f.1) with
    | some (_, size) => (f.1, cutSection size f.2)
    | none => f)
  | v => v

/-- The settings that a TOML document holds. -/
def ofToml (document : String) : Except Failure Settings :=
  match Toml.parse? document with
  | none => .error .toml
  | some v =>
    match read (cutSections v) with
    | .ok s => .ok s
    | .error _ => .error .toml

/-- The failure for a settings file that cannot be read. -/
def unreadable (reason : String) : Failure := .config ("Failed to read config file: " ++ reason)

/-- The settings in a file. -/
def ofFile (t : FileTree) (path : Path) : Except Failure Settings :=
  match t.read path with
  | .error f => .error (unreadable f.message)
  | .ok bytes =>
    match Text.decode? bytes with
    | none => .error (unreadable "stream did not contain valid UTF-8")
    | some document => ofToml document

/-! ## 3. Variables -/

/-- The roots that a list with colons names, if it names any. -/
def rootsOf (s : String) : Option (List Path) :=
  let roots := (Text.split ':' s).filter (· ≠ "")
  if roots.isEmpty then none else some roots

/-- A variable's value as a setting, if there is one that can be used, and otherwise the setting
    as it is. -/
def override {α : Type} (env : Environment) (name : String) (read : String → Option α) (old : α) :
    α :=
  ((env.get? name).bind read).getD old

/-- Settings with environment variables over them. -/
def ofEnvironment (s : Settings) (env : Environment) : Settings where
  storage := { s.storage with
    mcdir := override env "MCDIR" rootsOf s.storage.mcdir
    indexDir := override env "MC_INDEX_DIR" some s.storage.indexDir }
  extraction := { s.extraction with
    tool := override env "MC_TIKA" some s.extraction.tool
    maxContentBytes := override env "MC_MAX_CONTENT_BYTES" (parseCount 0xFFFFFFFFFFFFFFFF)
      s.extraction.maxContentBytes }
  indexing := { s.indexing with
    indexName := override env "MC_INDEX_NAME" some s.indexing.indexName }
  scanner := { s.scanner with
    workers := override env "MC_SCAN_WORKERS" (parseCount 0xFFFFFFFFFFFFFFFF) s.scanner.workers }
  server := {
    host := override env "MC_SERVER_HOST" some s.server.host
    port := override env "MC_SERVER_PORT" (parseCount 0xFFFF) s.server.port }

/-- The variables that settings depend on. -/
def variableNames : List String := ["MCINDEX_CONFIG", "MCDIR", "MC_INDEX_DIR", "MC_TIKA",
  "MC_MAX_CONTENT_BYTES", "MC_INDEX_NAME", "MC_SCAN_WORKERS", "MC_SERVER_HOST", "MC_SERVER_PORT"]

/-! ## 4. Checks -/

/-- The first pattern that is none. -/
def patternFault? (patterns : List String) : Option Failure :=
  match Scanner.readPatterns patterns with
  | .ok _ => none
  | .error f => some f

/-- What is wrong with settings, if anything. -/
def fault? (s : Settings) : Option Failure :=
  if s.storage.mcdir.isEmpty then
    some (.config "At least one content root (mcdir) is required")
  else if s.extraction.maxContentBytes = 0 then
    some (.config "Max content bytes must be non-zero")
  else if Text.isAllBlank s.indexing.indexName.toList then
    some (.config "Index name cannot be empty")
  else
    match Kind.all.find? (s.indexing.batchSize · = 0) with
    | some kind => some (.config ("Batch size for " ++ kind.label ++ " must be non-zero"))
    | none =>
      if s.scanner.workers = 0 then some (.config "Scanner workers must be non-zero")
      else patternFault? s.scanner.excludePatterns

/-! ## 5. Loading -/

/-- The file in the current directory. -/
def localFile : Path := "mcindex.toml"

/-- The file in the directory for a user's configuration. -/
def userFile (configHome : Path) : Path := Path.join (Path.join configHome "mcindex") "config.toml"

/-- The file that settings are read from, if there is one. -/
def file? (t : FileTree) (env : Environment) (configHome : Path) : Option Path :=
  match env.get? "MCINDEX_CONFIG" with
  | some path => some path
  | none =>
    if t.contains (userFile configHome) then some (userFile configHome)
    else if t.contains localFile then some localFile
    else none

/-- The settings that hold: from a file, with the variables over them, checked. -/
def load (t : FileTree) (env : Environment) (configHome : Path) : Except Failure Settings := do
  let base ←
    match file? t env configHome with
    | some path => ofFile t path
    | none => .ok {}
  let s := base.ofEnvironment env
  match s.fault? with
  | some f => throw f
  | none => return s

end Settings

end LabIndex
