import LabIndex.Content.Extraction
import LabIndex.FileTree.Basic

/-!
# Programs as text tools

A text tool is usually a program, called with some arguments and the path of the file; its standard
output is the text, and a status other than zero is a failure. Programs are functions of a file
tree here: a few of the everyday commands, and a shell that runs them one after another.

* `Program.run`: what a program prints and how it ends;
* `CommandTool.tool`: a program as a text tool.
-/

namespace LabIndex

open Text (Bytes)

/-! ## 1. Simple programs -/

/-- What a program printed, and its status. -/
structure ProgramResult where
  stdout : Bytes
  status : Nat
deriving DecidableEq, Repr, Inhabited

/-- A program: given the files and its arguments. -/
abbrev Program := FileTree → List String → ProgramResult

namespace Program

/-- Ends well after printing a text. -/
def printing (s : String) : ProgramResult := ⟨Text.encode s, 0⟩

/-- Prints nothing and ends with a status. -/
def ending (status : Nat) : ProgramResult := ⟨[], status⟩

/-- Prints its arguments on a line, which `-n` in front leaves open. -/
def echo : Program := fun _ args =>
  match args with
  | "-n" :: rest => printing (" ".intercalate rest)
  | args => printing (" ".intercalate args ++ "\n")

/-- Prints files one after another; one that cannot be read gives status one. -/
def cat : Program := fun t args =>
  args.foldl (fun r path =>
    match t.read path with
    | .ok bytes => { r with stdout := r.stdout ++ bytes }
    | .error _ => { r with status := 1 }) (ending 0)

/-- The number of words in bytes, given whether one has begun. -/
def countWords : Bool → Bytes → Nat
  | _, [] => 0
  | inWord, b :: rest =>
    if b = 32 || (9 ≤ b && b ≤ 13) then countWords false rest
    else (if inWord then 0 else 1) + countWords true rest

/-- A number with blanks in front up to a width. -/
def padLeft (width n : Nat) : String :=
  let s := toString n
  String.ofList (List.replicate (width - s.length) ' ') ++ s

/-- Counts the lines, words and bytes of a file; `-l`, `-w` and `-c` choose one of them. -/
def wc : Program := fun t args =>
  let (choice, path) :=
    match args with
    | [choice, path] => (choice, path)
    | args => ("", args.headD "")
  match t.read path with
  | .error _ => ending 1
  | .ok bytes =>
    let lines := bytes.countP (· = 10)
    let found := countWords false bytes
    let width := (toString bytes.length).length
    let counts :=
      match choice with
      | "-l" => toString lines
      | "-w" => toString found
      | "-c" => toString bytes.length
      | _ => " ".intercalate ([lines, found, bytes.length].map (padLeft width))
    printing (counts ++ " " ++ path ++ "\n")

/-- The bytes up to and with a number of newlines. -/
def takeLines : Nat → Bytes → Bytes
  | 0, _ => []
  | _, [] => []
  | n + 1, b :: rest => b :: takeLines (if b = 10 then n else n + 1) rest

/-- Prints the first ten lines of a file; `-c` and `-n` say how many bytes or lines instead. -/
def head : Program := fun t args =>
  let (take, path) : (Bytes → Bytes) × String :=
    match args with
    | ["-c", count, path] => (List.take (count.toNat?.getD 0), path)
    | ["-n", count, path] => (takeLines (count.toNat?.getD 0), path)
    | args => (takeLines 10, args.headD "")
  match t.read path with
  | .error _ => ending 1
  | .ok bytes => ⟨take bytes, 0⟩

/-! ## 2. Formatted printing -/

/-- An octal digit. -/
def octal? (c : Char) : Option Nat := if '0' ≤ c && c ≤ '7' then some (c.toNat - 48) else none

/-- The value of up to three octal digits, and the text after them. -/
def readOctal : Nat → Nat → List Char → Nat × List Char
  | 0, n, cs => (n, cs)
  | fuel + 1, n, cs =>
    match cs with
    | [] => (n, [])
    | c :: rest =>
      match octal? c with
      | some d => readOctal fuel (8 * n + d) rest
      | none => (n, c :: rest)

/-- The byte that a letter behind a backslash stands for. -/
def escape? : Char → Option UInt8
  | 'a' => some 7
  | 'b' => some 8
  | 'e' => some 27
  | 'f' => some 12
  | 'n' => some 10
  | 'r' => some 13
  | 't' => some 9
  | 'v' => some 11
  | '\\' => some 92
  | '"' => some 34
  | _ => none

/-- Prints a format once: the output, the arguments left, and whether one was asked for. The first
    argument bounds the steps. -/
def formatOnce : Nat → List Char → List String → Bytes × List String × Bool
  | 0, _, args => ([], args, false)
  | fuel + 1, cs, args =>
    match cs with
    | [] => ([], args, false)
    | '%' :: '%' :: rest =>
      let (out, args, used) := formatOnce fuel rest args
      (37 :: out, args, used)
    | '%' :: 's' :: rest =>
      let (out, left, _) := formatOnce fuel rest args.tail
      (Text.encode (args.headD "") ++ out, left, true)
    | '%' :: 'd' :: rest =>
      let (out, left, _) := formatOnce fuel rest args.tail
      (Text.encode (toString ((args.headD "").toInt?.getD 0)) ++ out, left, true)
    | '\\' :: c :: rest =>
      match octal? c with
      | some _ =>
        let (n, rest) := readOctal 3 0 (c :: rest)
        let (out, args, used) := formatOnce fuel rest args
        (UInt8.ofNat n :: out, args, used)
      | none =>
        let (out, args, used) := formatOnce fuel rest args
        match escape? c with
        | some b => (b :: out, args, used)
        | none => (92 :: Text.encodeChar c ++ out, args, used)
    | c :: rest =>
      let (out, args, used) := formatOnce fuel rest args
      (Text.encodeChar c ++ out, args, used)

/-- Prints a format again and again until no argument is left. -/
def formatAll (format : List Char) : Nat → List String → Bytes
  | 0, _ => []
  | fuel + 1, args =>
    let (out, left, used) := formatOnce (format.length + 1) format args
    if used && !left.isEmpty then out ++ formatAll format fuel left else out

/-- Prints its arguments in a format. -/
def printf : Program := fun _ args =>
  match args with
  | [] => ending 1
  | format :: rest => ⟨formatAll format.toList (rest.length + 1) rest, 0⟩

/-- The programs that are no shell. -/
def simple? : String → Option Program
  | "echo" => some echo
  | "cat" => some cat
  | "wc" => some wc
  | "head" => some head
  | "printf" => some printf
  | "true" => some fun _ _ => ending 0
  | "false" => some fun _ _ => ending 1
  | _ => none

/-! ## 3. A shell -/

/-- A piece of a word of a command. -/
inductive Piece where
  | char (c : Char)
  /-- The value of a positional parameter. -/
  | parameter (n : Nat)
deriving DecidableEq, Repr

/-- How a character of a script is quoted. -/
inductive Quoting where
  | none
  | single
  | double
deriving DecidableEq, Repr

/-- A script as far as it was read: the finished commands, the words of the open one and the open
    word, each last one first. -/
structure Script where
  commands : List (List (List Piece)) := []
  words : List (List Piece) := []
  word : Option (List Piece) := .none

namespace Script

/-- Appends a piece to the open word. -/
def push (s : Script) (p : Piece) : Script := { s with word := some (p :: s.word.getD []) }

/-- Ends the open word. -/
def endWord (s : Script) : Script :=
  match s.word with
  | some w => { s with words := w.reverse :: s.words, word := .none }
  | .none => s

/-- Ends the open command. -/
def endCommand (s : Script) : Script :=
  let s := s.endWord
  if s.words.isEmpty then s else { s with commands := s.words.reverse :: s.commands, words := [] }

/-- Reads a script up to its end. -/
def read (s : Script) : Quoting → List Char → Script
  | _, [] => s.endCommand
  | .single, '\'' :: rest => s.read .none rest
  | .single, c :: rest => (s.push (.char c)).read .single rest
  | q, '$' :: c :: rest =>
    if c.isDigit then (s.push (.parameter (c.toNat - 48))).read q rest
    else (s.push (.char '$')).read q (c :: rest)
  | .double, '"' :: rest => s.read .none rest
  | .double, '\\' :: c :: rest =>
    if c = '"' || c = '\\' || c = '$' then (s.push (.char c)).read .double rest
    else ((s.push (.char '\\')).push (.char c)).read .double rest
  | .double, c :: rest => (s.push (.char c)).read .double rest
  | .none, '\\' :: c :: rest => (s.push (.char c)).read .none rest
  | .none, '\'' :: rest => { s with word := some (s.word.getD []) }.read .single rest
  | .none, '"' :: rest => { s with word := some (s.word.getD []) }.read .double rest
  | .none, c :: rest =>
    if c = ';' || c = '\n' then s.endCommand.read .none rest
    else if c = ' ' || c = '\t' then s.endWord.read .none rest
    else (s.push (.char c)).read .none rest

end Script

/-- The commands of a script. -/
def scriptCommands (script : String) : List (List (List Piece)) :=
  (Script.read {} .none script.toList).commands.reverse

/-- A word with the parameters put in. -/
def expand (parameters : List String) (word : List Piece) : String :=
  String.ofList (word.flatMap fun
    | .char c => [c]
    | .parameter n => (parameters[n]?.getD "").toList)

/-- Runs the commands of a script in order, up to one that leaves the shell. -/
def runCommands (t : FileTree) (parameters : List String) :
    List (List (List Piece)) → ProgramResult → ProgramResult
  | [], r => r
  | command :: rest, r =>
    match command.map (expand parameters) with
    | [] => runCommands t parameters rest r
    | "exit" :: args =>
      { r with status := match args with
        | status :: _ => (status.toNat?.getD 2) % 256
        | [] => r.status }
    | name :: args =>
      let quiet := args.contains ">&2"
      let done :=
        match simple? name with
        | some p => p t (args.filter (· ≠ ">&2"))
        | none => ending 127
      let out := if quiet then [] else done.stdout
      runCommands t parameters rest ⟨r.stdout ++ out, done.status⟩

/-- Runs a script, given after `-c` or in a file; the arguments behind it are its parameters. -/
def sh : Program := fun t args =>
  match args with
  | "-c" :: script :: parameters => runCommands t parameters (scriptCommands script) (ending 0)
  | ["-c"] => ending 2
  | [] => ending 0
  | path :: parameters =>
    match t.read path with
    | .error _ => ending 2
    | .ok bytes =>
      runCommands t (path :: parameters) (scriptCommands (Text.decodeLossy bytes)) (ending 0)

/-- The program with a name. -/
def ofName? (name : String) : Option Program :=
  if name = "sh" || name = "bash" then some sh else simple? name

/-- The directories that programs lie in. -/
def directories : List String := ["/bin/", "/usr/bin/"]

/-- The name of a program that is given by its place. -/
def placed? (path : String) : Option String :=
  (directories.find? fun dir => path.startsWith dir).map fun dir =>
    String.ofList (path.toList.drop dir.length)

/-- Finds a program by its name or by its place. No file of the tree is a program. -/
def find (t : FileTree) (program : String) : Except SystemFault Program :=
  if program.contains '/' then
    match (placed? program).bind ofName? with
    | some p => .ok p
    | none =>
      match t.find true program with
      | .ok _ => .error .permissionDenied
      | .error f => .error f
  else if program = "." || program = ".." then .error .permissionDenied
  else
    match ofName? program with
    | some p => .ok p
    | none => .error .notFound

end Program

/-! ## 4. Text tools -/

/-- A program and the arguments that it is given before the path. -/
structure CommandTool where
  program : String
  args : List String
deriving DecidableEq, Repr

/-- A program as a text tool on a file tree. -/
def CommandTool.tool (c : CommandTool) (t : FileTree) : TextTool := fun path =>
  match Program.find t c.program with
  | .error f => .error (.extraction ("Failed to run " ++ c.program ++ ": " ++ f.message))
  | .ok p =>
    let r := p t (c.args ++ [path])
    if r.status = 0 then .ok (Text.decodeLossy r.stdout)
    else
      .error (.extraction (c.program ++ " exited with exit status: " ++ toString r.status))

end LabIndex
