import LabIndex.Command.Run
import LabIndex.Search.Saved

/-!
# The program

Reads what a command needs from the file system, runs the command, prints what it says and keeps
the index. Requests to the server are read from the standard input and answered on the standard
output, one after another.
-/

namespace LabIndex.Main

open Command Search

/-- Adds a directory or a file, with everything below it, to a tree. -/
partial def readInto (t : FileTree) (path : String) : IO FileTree := do
  match ← (((← IO.currentDir) / path).readDir).toBaseIO with
  | .ok entries =>
    entries.foldlM (fun t e => readInto t (Path.join path e.fileName)) (t.withDirectories path)
  | .error _ =>
    match ← (IO.FS.readBinFile path).toBaseIO with
    | .ok bytes => return t.write path bytes.toList
    | .error _ => return t

/-- The tree with some paths in it, read one after another. -/
def readAll (t : FileTree) (paths : List Path) : IO FileTree := paths.foldlM readInto t

/-- The variables that are set. -/
def environment : IO Environment :=
  variableNames.filterMapM fun name => do
    return (← IO.getEnv name).map (name, ·)

/-- The directory for the user's configuration. -/
def configHome : IO Path := do
  match ← IO.getEnv "XDG_CONFIG_HOME" with
  | some dir => if Path.isAbsolute dir then return dir else homeConfig
  | none => homeConfig
where
  homeConfig : IO Path := do
    return Path.join ((← IO.getEnv "HOME").getD "") ".config"

/-- The file that an index is kept in. -/
def savedFile (s : Settings) : Path := Path.join s.storage.indexDir "documents.json"

/-- The disk that a task finds, with the index of the settings. -/
def readDisk (t : FileTree) (s : Settings) (task : Task) : IO Disk := do
  let t ← readAll t (task.paths ++ task.contentRoots s ++ [savedFile s])
  let saved := match t.read (savedFile s) with
    | .ok bytes => (Text.decode? bytes).bind Index.ofSaved?
    | .error _ => none
  match (Disk.ofFiles t).openPlace s.storage.indexDir with
  | .ok (place, _) => return (Disk.ofFiles t).keep place (saved.getD [])
  | .error _ => return Disk.ofFiles t

/-- Keeps the index of the settings, if the task works with it. -/
def writeIndex (d : Disk) (s : Settings) (task : Task) : IO Unit := do
  if let .scan .. := task then return
  match d.openPlace s.storage.indexDir with
  | .ok (place, d) =>
    IO.FS.createDirAll s.storage.indexDir
    IO.FS.writeFile (savedFile s) (Index.savedText (d.indexAt place))
  | .error _ => return

/-- Answers requests until the input ends. -/
partial def answerRequests (server : Serving.Server) (input output : IO.FS.Stream) : IO Unit := do
  let line ← input.getLine
  if line.isEmpty then return
  match Serving.requestLine? (String.ofList (Text.trim line.toList)) with
  | none => answerRequests server input output
  | some (method, address) =>
    match (server.answer method address).bind Serving.Response.message with
    | some bytes =>
      output.write ⟨bytes.toArray⟩
      output.flush
      answerRequests server input output
    | none => answerRequests server input output

/-- Carries out the ending of a command; the answer is the status of the program. -/
def finish (ending : Ending) : IO UInt32 := do
  match ending with
  | .done => return 0
  | .failed f =>
    IO.eprintln ("Error: " ++ f.message)
    return 1
  | .refused reason =>
    IO.eprintln ("Error: " ++ reason)
    return 1
  | .serving server _ _ =>
    answerRequests server (← IO.getStdin) (← IO.getStdout)
    return 0

/-- What is read from the standard input: only a feed. -/
def inputOf : Task → IO (List UInt8)
  | .sync "-" _ => do return (← (← IO.getStdin).readToEnd).toUTF8.toList
  | _ => return []

/-- Runs an invocation. -/
def run (i : Invocation) (env : Environment) : IO UInt32 := do
  let home ← configHome
  let here := (Path.components (← IO.currentDir).toString).filterMap fun
    | .name s => some s
    | _ => none
  let places := [Settings.localFile, Settings.userFile home] ++ (env.get? "MCINDEX_CONFIG").toList
  let t ← readAll (FileTree.startingIn here) places
  let settings := Settings.load t env home
  let disk ← match settings with
    | .ok s => readDisk t s i.task
    | .error _ => pure (Disk.ofFiles t)
  let (outcome, disk) := i.run ⟨env, home, ← inputOf i.task⟩ disk
  IO.print outcome.output.stdout
  IO.eprint outcome.output.stderr
  match settings with
  | .ok s => writeIndex disk s i.task
  | .error _ => pure ()
  finish outcome.ending

end LabIndex.Main

/-- The program: the arguments are those after its name. -/
def main (args : List String) : IO UInt32 := do
  let env ← LabIndex.Main.environment
  match LabIndex.Command.Invocation.parse env args with
  | .ok i => LabIndex.Main.run i env
  | .error f =>
    if f.isError then
      IO.eprintln ("Error: " ++ f.message)
      return 2
    else
      IO.println f.message
      return 0
