import LabIndex.Content.Store

/-!
# Text from file contents

Searchable text is taken from a file by its media type: a plain text as it is, the first data line
of a table of comma-separated values, and what an external tool prints for office documents.
Nothing here fails: whatever goes wrong gives the empty text.

* A plain text, and a file for the tool, is looked at only if its recorded size lies within the
  cap; of a plain text no more than the cap is read, whatever the file holds.
* A data line is a line that is not empty and does not start with `#`. A line ends at a newline,
  and one carriage return before that newline is dropped.
-/

namespace LabIndex

open Text (Bytes)

/-! ## 1. Lines -/

/-- A line without one carriage return at its end. -/
def dropReturn (line : Bytes) : Bytes :=
  if line.getLast? = some 13 then line.dropLast else line

/-- A line with data: not empty and no comment. -/
def isDataLine (line : Bytes) : Bool := !line.isEmpty && line.head? != some 35

/-- Reads line by line up to the first with data. `held` is what was read of a line that has not
    ended, its last byte first; where the file ends it is the last line, but not where reading
    fails. -/
def readDataLine (fails : Bool) : (held rest : Bytes) → Option Bytes
  | held, [] => if !fails && isDataLine held.reverse then some held.reverse else none
  | held, b :: rest =>
    if b = 10 then
      let line := dropReturn held.reverse
      if isDataLine line then some line else readDataLine fails [] rest
    else readDataLine fails (b :: held) rest

/-- The first data line of a file's contents. -/
def firstDataLine (data : FileData) : Option Bytes := readDataLine data.fails [] data.bytes

/-- The first `limit` bytes of a file's contents, or all of them. -/
def readUpTo (limit : Nat) (data : FileData) : Option Bytes :=
  if data.fails && data.bytes.length < limit then none else some (data.bytes.take limit)

/-! ## 2. Extraction -/

/-- A program that turns a file into plain text. -/
abbrev TextTool := Path → Except Failure String

/-- The media types that the external tool reads. -/
def toolMediaTypes : List String := [
  "application/msword",
  "application/pdf",
  "application/rtf",
  "application/vnd.ms-excel",
  "application/vnd.ms-office",
  "application/vnd.ms-powerpoint",
  "application/vnd.ms-powerpoint.presentation.macroEnabled.12",
  "application/vnd.openxmlformats-officedocument.presentationml.presentation",
  "application/vnd.openxmlformats-officedocument.spreadsheetml.sheet",
  "application/vnd.openxmlformats-officedocument.wordprocessingml.document",
  "application/vnd.sealedmedia.softseal.pdf",
  "text/plain; charset=utf-8"]

/-- A media type that the external tool reads. -/
def isToolEligible (mediaType : String) : Bool := toolMediaTypes.contains mediaType

/-- All that text extraction depends on. -/
structure Extractor where
  store : ContentStore
  bytes : ByteStore
  tool : TextTool
  maxBytes : Nat

namespace Extractor

/-- A recorded size outside the cap; a negative one is never inside. -/
def tooLarge (x : Extractor) (size : Int) : Bool := size < 0 || (x.maxBytes : Int) < size

/-- Where the bytes of an identifier are, if it is valid. -/
def sourcePath (x : Extractor) (id : String) : Option Path :=
  match x.store.locate (fun p => (x.bytes p).isSome) (.of id "") with
  | .ok p => some p
  | .error _ => none

/-- The contents of the file of an identifier, if there is one that opens. -/
def fileData (x : Extractor) (id : String) : Option FileData :=
  match (x.sourcePath id).bind x.bytes with
  | some (.readable data) => some data
  | _ => none

/-- What the tool prints for the file of an identifier. -/
def toolText (x : Extractor) (id : String) : Option String :=
  match x.sourcePath id with
  | none => none
  | some path =>
    if (x.bytes path).isSome then
      match x.tool path with
      | .ok s => some s
      | .error _ => none
    else none

/-- The text of a file, by the identifier that locates its bytes. -/
def text (x : Extractor) (id mediaType : String) (size : Int) : String :=
  if mediaType = "text/csv" then
    (((x.fileData id).bind firstDataLine).map Text.decodeLossy).getD ""
  else if mediaType = "text/plain" then
    if x.tooLarge size then ""
    else (((x.fileData id).bind (readUpTo x.maxBytes)).map Text.decodeLossy).getD ""
  else if isToolEligible mediaType then
    if x.tooLarge size then "" else (x.toolText id).getD ""
  else ""

/-- The text of a file, by its identity. -/
def textFor (x : Extractor) (identity : FileIdentity) (mediaType : String) (size : Int) : String :=
  x.text identity.effective mediaType size

end Extractor

end LabIndex
