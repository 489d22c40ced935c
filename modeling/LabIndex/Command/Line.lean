import LabIndex.Command.Arguments
import LabIndex.Command.Summary
import LabIndex.Serving.Server
import LabIndex.Settings.Loading

/-!
# The command line

The commands of the program with their arguments. What holds for all commands, the format of
results and of logs, may stand before the command or after it; after it wins.

* `Invocation.parse`: arguments and variables as an invocation, or why they are none.
-/

namespace LabIndex.Command

/-! ## 1. Commands -/

/-- What the program is asked to do. -/
inductive Task where
  | index (kind : Option Kind) (data : Path) (ids : List String)
  | search (query : String) (kind : Option Kind) (limit : Nat)
  | scan (root : Path) (workers : Option Nat) (exclude : List String)
  /-- Follows a change feed. -/
  | sync (feed data : Path)
  | serve (host : Option String) (port : Option Nat) (data : Path)
deriving DecidableEq, Repr

/-- A task, and how its results and the logs are written. -/
structure Invocation where
  task : Task
  format : Format
  logJson : Bool
deriving DecidableEq, Repr

/-! ## 2. Values -/

/-- Any text. -/
def anyText : String → Option UsageFault := fun _ => none

/-- A path, which is never empty. -/
def pathText : String → Option UsageFault := fun s => if s.isEmpty then some .invalidValue else none

/-- A word for a kind. -/
def kindText : String → Option UsageFault := fun s =>
  if (Kind.ofName? s).isSome then none else some .valueValidation

/-- A number up to `high`. -/
def countText (high : Nat) : String → Option UsageFault := fun s =>
  if (parseCount high s).isSome then none else some .valueValidation

/-- One of some words. -/
def wordOf (words : List String) : String → Option UsageFault := fun s =>
  if words.contains s then none else some .invalidValue

/-- The largest count. -/
def maxCount : Nat := 0xFFFFFFFFFFFFFFFF

/-- The largest port. -/
def maxPort : Nat := 0xFFFF

/-! ## 3. Levels -/

/-- The options that every level has. -/
def sharedOptions : List OptionSpec := [
  { slot := ⟨"format", wordOf ["human", "json"], false⟩ },
  { slot := ⟨"log-json", wordOf ["true", "false"], false⟩, use := .flag,
    standIn := some "MC_LOG_JSON" },
  { slot := ⟨"help", anyText, false⟩, letter := some 'h', use := .help },
  { slot := ⟨"version", anyText, false⟩, letter := some 'V', use := .version }]

/-- The option for the directory with the dump of the store. -/
def dataOption : OptionSpec :=
  { slot := ⟨"data", pathText, false⟩, standIn := some "MC_DATA_DIR" }

/-- The option for a kind. -/
def kindOption (letter : Char) : OptionSpec :=
  { slot := ⟨"kind", kindText, false⟩, letter := some letter }

/-- The commands with what each level knows. -/
def taskLevels : List (String × Level) := [
  ("index", {
    options := kindOption 'k' :: dataOption :: sharedOptions
    positions := [{ slot := ⟨"ids", anyText, true⟩, needed := false }] }),
  ("search", {
    options := kindOption 't' ::
      { slot := ⟨"limit", countText maxCount, false⟩, letter := some 'k' } :: sharedOptions
    positions := [{ slot := ⟨"query", anyText, false⟩ }] }),
  ("scan", {
    options := { slot := ⟨"workers", countText maxCount, false⟩, letter := some 'w' } ::
      { slot := ⟨"exclude", anyText, true⟩, letter := some 'e' } :: sharedOptions
    positions := [{ slot := ⟨"root", pathText, false⟩ }] }),
  ("sync", {
    options := dataOption :: sharedOptions
    positions := [{ slot := ⟨"feed", pathText, false⟩ }] }),
  ("serve", {
    options := { slot := ⟨"host", anyText, false⟩ } ::
      { slot := ⟨"port", countText maxPort, false⟩, letter := some 'p' } :: dataOption ::
      sharedOptions })]

/-- The word that asks for help on a command. -/
def helpWord : String := "help"

/-- The level of the program itself. -/
def topLevel : Level :=
  { options := sharedOptions, below := taskLevels.map (·.1) ++ [helpWord] }

/-! ## 4. Invocations -/

/-- Where the dump of the store is unless something else is said. -/
def defaultData : Path := "./data/store"

/-- How many results are shown unless something else is said. -/
def defaultLimit : Nat := 10

/-- The task of a command from what was given. -/
def Task.ofGiven? (name : String) (g : Level.Given) : Option Task :=
  let kind := (g.first? "kind").bind Kind.ofName?
  let count (name : String) (high : Nat) := (g.first? name).bind (parseCount high)
  let data := (g.first? "data").getD defaultData
  match name with
  | "index" => some (.index kind data (g.values "ids"))
  | "search" =>
    (g.first? "query").map fun q => .search q kind ((count "limit" maxCount).getD defaultLimit)
  | "scan" => (g.first? "root").map fun r => .scan r (count "workers" maxCount) (g.values "exclude")
  | "sync" => (g.first? "feed").map fun f => .sync f data
  | "serve" => some (.serve (g.first? "host") (count "port" maxPort) data)
  | _ => none

/-- The format that a word names. -/
def Format.ofWord (s : String) : Format := if s = "json" then .json else .human

/-- What the words after the word for help ask for. -/
def helpFor : List String → UsageFault
  | [] => .help
  | [name] => if topLevel.below.contains name then .help else .invalidSubcommand
  | _ => .invalidSubcommand

/-- What the level of the program says when no command follows. -/
def topFault (g : Level.Given) : UsageFault :=
  if g.isEmpty then .helpForNothing else .missingSubcommand

/-- Reads a command and its arguments. -/
def readTask (env : Environment) (name : String) (args : List String) :
    Except UsageFault (Task × Level.Given) := do
  match taskLevels.find? (·.1 == name) with
  | none => throw .invalidSubcommand
  | some (_, level) =>
    let (r, _) ← level.read args {}
    let g ← level.close env r
    if level.isIncomplete g then throw .missingRequiredArgument
    match Task.ofGiven? name g with
    | some task => return (task, g)
    | none => throw .missingRequiredArgument

/-- The invocation that arguments and variables make. -/
def Invocation.parse (env : Environment) (args : List String) :
    Except UsageFault Invocation := do
  let (r, below) ← topLevel.read args {}
  match below with
  | none => throw (topFault (← topLevel.close env r))
  | some (name, rest) =>
    if name = helpWord then throw (helpFor rest)
    let (task, g) ← readTask env name rest
    let top ← topLevel.close env r
    let formats := valuesOf g.given "format" ++ valuesOf top.given "format"
    let logs := valuesOf g.given "log-json" ++ valuesOf top.given "log-json" ++
      valuesOf top.standIns "log-json"
    return {
      task
      format := Format.ofWord (formats.head?.getD "human")
      logJson := logs.head? == some "true" }

/-! ## 5. For people -/

/-- The words for a fault. -/
def UsageFault.message : UsageFault → String
  | .invalidValue => "a value is missing or not one of those allowed"
  | .valueValidation => "a value cannot be read"
  | .unknownArgument => "an argument is not known"
  | .argumentConflict => "an option is given more than once"
  | .tooManyValues => "an option without a value is given one"
  | .missingRequiredArgument => "an argument is missing"
  | .invalidSubcommand => "there is no such command"
  | .missingSubcommand => "a command is missing"
  | .helpForNothing => usage
  | .help => usage
  | .version => "mcindex " ++ Serving.Server.version
where
  usage : String := "Usage: mcindex [OPTIONS] <" ++ "|".intercalate topLevel.below ++ ">"

/-- A fault that is no answer to a question. -/
def UsageFault.isError : UsageFault → Bool
  | .help | .version => false
  | _ => true

/-- The paths that a task names. -/
def Task.paths : Task → List Path
  | .index _ data _ => [data]
  | .search .. => []
  | .scan root .. => [root]
  | .sync feed data => [feed, data]
  | .serve _ _ data => [data]

/-- The contents that a task needs besides what it names. -/
def Task.contentRoots (s : Settings) : Task → List Path
  | .search .. | .scan .. => []
  | _ => s.storage.mcdir

/-- The variables that are looked at. -/
def variableNames : List String := ["MC_LOG_JSON", "MC_DATA_DIR"] ++ Settings.variableNames

end LabIndex.Command
