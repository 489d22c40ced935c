import LabIndex.Json.Reader

/-!
# Text in TOML

Blanks, comments and line ends; the four kinds of strings; and keys. Each reader returns what it
read and the text after it.

* A string between single quotes, or three of them, has no escapes. One between double quotes has.
* Strings between three quotes may hold line ends, which count as a newline however they are
  written; one right after the opening quotes does not count. One or two quotes inside stand for
  themselves, at the end too.
* Control characters other than the tab stand in no string and no comment.
-/

namespace LabIndex.Toml

/-! ## 1. Blanks -/

/-- A blank within a line. -/
def isLineBlank (c : Char) : Bool := c = ' ' || c = '\t'

/-- The text without the blanks at its start. -/
def skipLineBlanks (cs : List Char) : List Char := cs.dropWhile isLineBlank

/-- A character that may stand in a comment, and in a string if it is no quote. -/
def isPrintable (c : Char) : Bool := c = '\t' || (32 ≤ c.toNat && c.toNat ≠ 127)

/-- The text after a line end. -/
def readNewline : List Char → Option (List Char)
  | '\n' :: rest => some rest
  | '\r' :: '\n' :: rest => some rest
  | _ => none

/-- The text after a comment, if there is one. -/
def skipComment : List Char → List Char
  | '#' :: rest => rest.dropWhile isPrintable
  | cs => cs

/-- The text after blanks, a comment and a line end, or at the end of everything. -/
def endOfLine (cs : List Char) : Option (List Char) :=
  match skipComment (skipLineBlanks cs) with
  | [] => some []
  | rest => readNewline rest

/-- The text after any blanks, comments and line ends; a comment has to be ended by a line end. -/
def skipFiller : Nat → List Char → Option (List Char)
  | 0, _ => none
  | fuel + 1, cs =>
    match cs with
    | ' ' :: rest => skipFiller fuel rest
    | '\t' :: rest => skipFiller fuel rest
    | '#' :: rest =>
      match readNewline (rest.dropWhile isPrintable) with
      | some rest => skipFiller fuel rest
      | none => none
    | cs =>
      match readNewline cs with
      | some rest => skipFiller fuel rest
      | none => some cs

/-! ## 2. Strings -/

/-- The value of hexadecimal digits. -/
def hexNumber (ds : List Char) : Option Nat :=
  ds.foldlM (fun n d => (Json.hexValue d).map (n * 16 + ·)) 0

/-- The character with a number, if the number is one of a character. -/
def scalar? (n : Nat) : Option Char :=
  if n < 0xD800 ∨ (0xDFFF < n ∧ n ≤ 0x10FFFF) then some (Char.ofNat n) else none

/-- Reads an escape, from behind its backslash. -/
def readEscape : List Char → Option (Char × List Char)
  | 'b' :: r => some ('\x08', r)
  | 't' :: r => some ('\t', r)
  | 'n' :: r => some ('\n', r)
  | 'f' :: r => some ('\x0c', r)
  | 'r' :: r => some ('\r', r)
  | '"' :: r => some ('"', r)
  | '\\' :: r => some ('\\', r)
  | 'u' :: r =>
    if r.length < 4 then none
    else ((hexNumber (r.take 4)).bind scalar?).map fun c => (c, r.drop 4)
  | 'U' :: r =>
    if r.length < 8 then none
    else ((hexNumber (r.take 8)).bind scalar?).map fun c => (c, r.drop 8)
  | _ => none

/-- The text after a backslash at the end of a line: blanks and line ends up to the next
    character. -/
def lineContinuation (cs : List Char) : Option (List Char) :=
  match readNewline (skipLineBlanks cs) with
  | none => none
  | some rest =>
    some (rest.dropWhile fun c => c = ' ' || c = '\t' || c = '\n')

/-- Reads a string between double quotes, from behind the opening one. -/
def readBasic : Nat → List Char → Option (List Char × List Char)
  | 0, _ => none
  | fuel + 1, cs =>
    match cs with
    | [] => none
    | '"' :: rest => some ([], rest)
    | '\\' :: rest =>
      match readEscape rest with
      | some (c, rest) => (readBasic fuel rest).map fun (s, r) => (c :: s, r)
      | none => none
    | c :: rest =>
      if isPrintable c then (readBasic fuel rest).map fun (s, r) => (c :: s, r) else none

/-- Reads a string between single quotes, from behind the opening one. -/
def readLiteral (cs : List Char) : Option (List Char × List Char) :=
  let body := cs.takeWhile fun c => c ≠ '\'' && isPrintable c
  match cs.drop body.length with
  | '\'' :: rest => some (body, rest)
  | _ => none

/-- What a run of quotes inside a string between three quotes does: the quotes that it stands for,
    and the text after it if it ends the string. -/
def quoteRun (quote : Char) (cs : List Char) : List Char × Option (List Char) :=
  let run := (cs.takeWhile (· = quote)).length
  if run < 3 then (List.replicate run quote, none)
  else (List.replicate (min run 5 - 3) quote, some (cs.drop (min run 5)))

/-- Reads a string between three quotes, from behind the opening ones and the line end after
    them. -/
def readLong (quote : Char) : Nat → List Char → Option (List Char × List Char)
  | 0, _ => none
  | fuel + 1, cs =>
    match cs with
    | [] => none
    | c :: rest =>
      if c = quote then
        match quoteRun quote cs with
        | (quotes, some after) => some (quotes, after)
        | (quotes, none) =>
          (readLong quote fuel (cs.drop quotes.length)).map fun (s, r) => (quotes ++ s, r)
      else if c = '\\' ∧ quote = '"' then
        match readEscape rest with
        | some (e, rest) => (readLong quote fuel rest).map fun (s, r) => (e :: s, r)
        | none =>
          match lineContinuation rest with
          | some rest => readLong quote fuel rest
          | none => none
      else
        match readNewline cs with
        | some rest => (readLong quote fuel rest).map fun (s, r) => ('\n' :: s, r)
        | none =>
          if isPrintable c then (readLong quote fuel rest).map fun (s, r) => (c :: s, r)
          else none

/-- The text without a line end at its start. -/
def skipFirstNewline (cs : List Char) : List Char := (readNewline cs).getD cs

/-- Reads a string of any kind, from its opening quote. -/
def readString (cs : List Char) : Option (List Char × List Char) :=
  match cs with
  | '"' :: '"' :: '"' :: rest =>
    let rest := skipFirstNewline rest
    readLong '"' (rest.length + 1) rest
  | '\'' :: '\'' :: '\'' :: rest =>
    let rest := skipFirstNewline rest
    readLong '\'' (rest.length + 1) rest
  | '"' :: rest => readBasic (rest.length + 1) rest
  | '\'' :: rest => readLiteral rest
  | _ => none

/-! ## 3. Keys -/

/-- A character of a key without quotes. -/
def isBare (c : Char) : Bool := c.isAlphanum || c = '_' || c = '-'

/-- Reads one part of a key. -/
def readKeyPart (cs : List Char) : Option (String × List Char) :=
  match cs with
  | '"' :: rest => (readBasic (rest.length + 1) rest).map fun (s, r) => (String.ofList s, r)
  | '\'' :: rest => (readLiteral rest).map fun (s, r) => (String.ofList s, r)
  | cs =>
    match cs.takeWhile isBare with
    | [] => none
    | body => some (String.ofList body, cs.drop body.length)

/-- Reads the parts of a key, with the dots between them and the blanks around them. -/
def readKeyParts : Nat → List Char → Option (List String × List Char)
  | 0, _ => none
  | fuel + 1, cs =>
    match readKeyPart (skipLineBlanks cs) with
    | none => none
    | some (part, rest) =>
      match skipLineBlanks rest with
      | '.' :: rest => (readKeyParts fuel rest).map fun (parts, r) => (part :: parts, r)
      | rest => some ([part], rest)

/-- Values nest, and keys go down, less deep than this. -/
def depthLimit : Nat := 80

/-- Reads a key. -/
def readKey (cs : List Char) : Option (List String × List Char) :=
  match readKeyParts (cs.length + 1) cs with
  | some (parts, rest) => if parts.length < depthLimit then some (parts, rest) else none
  | none => none

end LabIndex.Toml
