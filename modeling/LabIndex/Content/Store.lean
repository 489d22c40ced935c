import LabIndex.Content.Path
import LabIndex.Document.Parts
import LabIndex.Failure
import LabIndex.Text.Utf8

/-!
# The layout of the content store

File bytes live under one of several content roots, of which the first is primary. The second
dash-separated part of a file's identifier names two levels of directories: its first two bytes
and its next two.

* the bytes themselves: `root/de/fg/abc-defg-456`;
* a preview picture: `root/de/fg/.conversion/abc-defg-456.jpg`, and `.pdf` for a PDF rendition;
* an upload in flight: `root/upload/` and its id.

A part that is too short, or whose bytes do not fall on character boundaries, makes an identifier
invalid. Everything here is text; only `ContentStore.locate` asks which files exist.
-/

namespace LabIndex

/-! ## 1. Bytes -/

/-- The contents of a file that could be opened: its bytes, and whether reading past them fails
    instead of ending. -/
structure FileData where
  bytes : Text.Bytes
  fails : Bool
deriving DecidableEq, Repr

/-- What is at a path where a regular file is. -/
inductive StoredFile where
  /-- It exists and cannot be opened. -/
  | unreadable
  | readable (data : FileData)
deriving DecidableEq, Repr

/-- Stored bytes by path; no entry where there is no regular file. -/
abbrev ByteStore := Path → Option StoredFile

/-! ## 2. Places -/

/-- The content roots and the media types that are served as a preview. -/
structure ContentStore where
  primary : Path
  others : List Path
  convertible : List String
deriving DecidableEq, Repr

/-- A path and the content type to serve it with. -/
structure ResolvedPath where
  path : Path
  contentType : String
deriving DecidableEq, Repr

/-- Cuts exactly `n` bytes off the front of a text, if a character ends there. -/
def cutBytes (n : Nat) : List Char → Option (List Char × List Char)
  | [] => if n = 0 then some ([], []) else none
  | c :: rest =>
    if n = 0 then some ([], c :: rest)
    else
      let size := (Text.encodeChar c).length
      if n < size then none
      else (cutBytes (n - size) rest).map fun (a, b) => (c :: a, b)

/-- The two directory names of an identifier. -/
def shards? (id : String) : Option (String × String) := do
  let segment ← (Text.split '-' id)[1]?
  let (first, rest) ← cutBytes 2 segment.toList
  let (second, _) ← cutBytes 2 rest
  return (String.ofList first, String.ofList second)

/-- The directory of an identifier below a root. -/
def shardDirectory (root : Path) (id : String) : Except Failure Path :=
  match shards? id with
  | some (first, second) => .ok ((root.join first).join second)
  | none => .error (.invalidFileId id)

namespace ContentStore

/-- A store over roots, of which there has to be one. -/
def ofRoots (roots : List Path) (convertible : List String) : Except Failure ContentStore :=
  match roots with
  | [] => .error (.config "ContentStore needs at least one root")
  | primary :: others => .ok ⟨primary, others, convertible⟩

/-- All roots, the primary one first. -/
def roots (s : ContentStore) : List Path := s.primary :: s.others

/-- A media type that is served as a preview. -/
def isConvertible (s : ContentStore) (mediaType : String) : Bool := s.convertible.contains mediaType

/-- The directory of previews and renditions beside the bytes. -/
def conversionDirectory : String := ".conversion"

/-- The directory of a file on the primary root. -/
def fileDirectory (s : ContentStore) (id : String) : Except Failure Path :=
  shardDirectory s.primary id

/-- The file with a file's bytes on the primary root. -/
def filePath (s : ContentStore) (id : String) : Except Failure Path :=
  (s.fileDirectory id).map fun dir => dir.join id

/-- The preview of a file. -/
def conversionPath (s : ContentStore) (id : String) : Except Failure Path :=
  (s.fileDirectory id).map fun dir => (dir.join conversionDirectory).join (id ++ ".jpg")

/-- The PDF rendition of a file. -/
def conversionPdfPath (s : ContentStore) (id : String) : Except Failure Path :=
  (s.fileDirectory id).map fun dir => (dir.join conversionDirectory).join (id ++ ".pdf")

/-- The staging directory of an upload. -/
def uploadDirectory (s : ContentStore) (uploadId : String) : Path :=
  (s.primary.join "upload").join uploadId

/-- What to serve for a file. An alias replaces the identifier, and a convertible media type is
    served as its preview unless the bytes are wanted as they are stored. -/
def resolvePath (s : ContentStore) (id mediaType usesId : String) (asStored : Bool) :
    Except Failure ResolvedPath :=
  let effective := (FileIdentity.of id usesId).effective
  if s.isConvertible mediaType && !asStored then
    (s.conversionPath effective).map fun p => ⟨p, "image/jpeg"⟩
  else (s.filePath effective).map fun p => ⟨p, mediaType⟩

/-- The first of some roots that holds a file's bytes; without any, the place on the primary
    root. -/
def locateIn (s : ContentStore) (isThere : Path → Bool) (id : String) :
    List Path → Except Failure Path
  | [] => s.filePath id
  | root :: rest =>
    match shardDirectory root id with
    | .error f => .error f
    | .ok dir => if isThere (dir.join id) then .ok (dir.join id) else s.locateIn isThere id rest

/-- Where the bytes of a file are. -/
def locate (s : ContentStore) (isThere : Path → Bool) (identity : FileIdentity) :
    Except Failure Path :=
  s.locateIn isThere identity.effective s.roots

end ContentStore

end LabIndex
