import LabIndex.FileTree.Basic
import LabIndex.Json.Printer
import LabIndex.Serving.Access
import LabIndex.Serving.Address

/-!
# Serving files

Two things can be asked for: how the server is, and the bytes of a file. A file is asked for by its
id and with a key; a preview is served in its place where its media type has one, unless the
stored bytes are wanted. All answers that are failures carry the message and the status as JSON.

* `Server.serveFile`: the answer for a file;
* `Server.respond`: the answer to a request.
-/

namespace LabIndex.Serving

open Text (Bytes)

/-! ## 1. Responses -/

/-- What is sent after the head of a response. -/
inductive Body where
  | data (bytes : Bytes)
  /-- It breaks off while it is sent. -/
  | failing
deriving DecidableEq, Repr

/-- An answer to a request. -/
structure Response where
  status : Nat
  contentType : Option String := none
  /-- The methods that are allowed, where another one was used. -/
  allow : Option String := none
  body : Body := .data []
deriving DecidableEq, Repr

namespace Response

/-- A JSON value as an answer. -/
def ofJson (status : Nat) (v : Json) : Response :=
  { status, contentType := some "application/json", body := .data (Text.encode v.text) }

/-- A plain text as an answer. -/
def ofText (status : Nat) (s : String) : Response :=
  { status, contentType := some "text/plain; charset=utf-8", body := .data (Text.encode s) }

/-- The head of a response. -/
def head (r : Response) : Response := { r with body := .data [] }

end Response

/-- The status for a failure. -/
def statusOf (f : Failure) : Nat :=
  if f.isUnauthorized then 401
  else if f.isNotFound then 404
  else if f.isBadRequest then 400
  else 500

/-- A failure as an answer. -/
def Response.ofFailure (f : Failure) : Response :=
  .ofJson (statusOf f) (.obj [("error", .str f.message), ("status", .ofNat (statusOf f))])

/-! ## 2. Files -/

/-- What can be said about the file that is wanted. -/
structure FileParams where
  key : String
  /-- Any text but the empty one asks for the bytes as they are stored, not for a preview. -/
  asStored : String
deriving DecidableEq, Repr

/-- Takes up the fields of a query; a field given twice is the failure. -/
def takeFields (key asStored : Option String) :
    List (String × String) → Except String (Option String × Option String)
  | [] => .ok (key, asStored)
  | (name, value) :: rest =>
    if name = "apikey" then
      if key.isSome then .error name else takeFields (some value) asStored rest
    else if name = "original" then
      if asStored.isSome then .error name else takeFields key (some value) rest
    else takeFields key asStored rest

/-- What a query says; a field that it does not name is empty. -/
def FileParams.ofQuery (query : Option String) : Except String FileParams :=
  match takeFields none none (formFields (query.getD "")) with
  | .ok (key, asStored) => .ok ⟨key.getD "", asStored.getD ""⟩
  | .error name => .error name

/-- A server: where the bytes of files are, who may see them, and the files that exist. -/
structure Server where
  content : ContentStore
  access : FileAccess
  files : FileTree

namespace Server

/-- A text that can be sent as the type of contents. -/
def isHeaderText (s : String) : Bool :=
  s.toList.all fun c => c == '\t' || (' ' ≤ c && c.toNat ≠ 0x7F)

/-- What is at a path as a body. -/
def openBody (x : Server) (path : Path) : Except SystemFault Body :=
  match x.files.find true path with
  | .error f => .error f
  | .ok (.file n) => .ok (.data (x.files.contentsOf n))
  | .ok (.directory _) => .ok .failing
  | .ok _ => .ok (.data [])

/-- The bytes of a file and their type. -/
def openFile (x : Server) (params : FileParams) (id : String) : Except Failure (String × Body) := do
  if params.key.isEmpty then throw .noAccess
  let file ← x.access params.key id
  let place ← x.content.resolvePath file.id file.mediaType.mime file.usesId
    (!params.asStored.isEmpty)
  match x.openBody place.path with
  | .ok body => return (place.contentType, body)
  | .error .notFound => throw (.fileNotFound file.id)
  | .error f => throw f.toFailure

/-- The answer for a file. -/
def serveFile (x : Server) (params : FileParams) (id : String) : Response :=
  match x.openFile params id with
  | .error f => .ofFailure f
  | .ok (type, body) =>
    if isHeaderText type then { status := 200, contentType := some type, body }
    else .ofText 500 "failed to parse header value"

/-! ## 3. Requests -/

/-- The version that the server tells. -/
def version : String := "0.3.0"

/-- How the server is. -/
def health : Response := .ofJson 200 (.obj [("status", .str "ok"), ("version", .str version)])

/-- What can be asked for. -/
inductive Route where
  | health
  /-- A file, by its id as the address writes it. -/
  | file (segment : List Char)
deriving DecidableEq, Repr

/-- Where files are asked for. -/
def filesPath : List Char := "/datafiles/static/".toList

/-- What a path asks for, if it does. -/
def Route.ofPath? (path : String) : Option Route :=
  if path = "/health" then some .health
  else
    let cs := path.toList
    let segment := cs.drop filesPath.length
    if filesPath.isPrefixOf cs && !segment.isEmpty && !segment.contains '/' then
      some (.file segment)
    else none

/-- The answer for something that exists. -/
def get (x : Server) (query : Option String) : Route → Response
  | .health => health
  | .file segment =>
    match Text.decode? (percentDecode (Text.encode (String.ofList segment))) with
    | none => .ofText 400 "Invalid URL: Invalid UTF-8 in \x60file_id\x60"
    | some id =>
      match FileParams.ofQuery query with
      | .error name =>
        .ofText 400 ("Failed to deserialize query string: duplicate field \x60" ++ name ++ "\x60")
      | .ok params => x.serveFile params id

/-- The methods that everything can be asked for with. -/
def allowed : String := "GET,HEAD"

/-- The answer to a request. -/
def respond (x : Server) (method : String) (a : Address) : Response :=
  match Route.ofPath? a.path with
  | none => { status := if method = "OPTIONS" then 200 else 404 }
  | some route =>
    if method = "GET" then x.get a.query route
    else if method = "HEAD" then (x.get a.query route).head
    else { status := if method = "OPTIONS" then 200 else 405, allow := some allowed }

/-- A name of a method. -/
def isMethod (s : String) : Bool :=
  !s.isEmpty && s.toList.all fun c =>
    (c.toNat < 0x80 && c.isAlphanum) || "!#$%&'*+-.^_\x60|~".toList.contains c

/-- The answer to a request, if its method and its address are such. -/
def answer (x : Server) (method uri : String) : Option Response :=
  if isMethod method then (Address.parse? uri).map (x.respond method) else none

end Server

/-! ## 4. Messages -/

/-- A status in words. -/
def statusText (status : Nat) : String :=
  match status with
  | 200 => "OK"
  | 400 => "Bad Request"
  | 401 => "Unauthorized"
  | 404 => "Not Found"
  | 405 => "Method Not Allowed"
  | _ => "Internal Server Error"

/-- A line of the head of a message, if it has a value. -/
def headLine (name : String) (value : Option String) : String :=
  match value with
  | some v => name ++ ": " ++ v ++ "\r\n"
  | none => ""

/-- A response as it is sent; none where the body breaks off. -/
def Response.message (r : Response) : Option Bytes :=
  match r.body with
  | .failing => none
  | .data bytes =>
    let head := "HTTP/1.1 " ++ toString r.status ++ " " ++ statusText r.status ++ "\r\n" ++
      headLine "content-type" r.contentType ++ headLine "allow" r.allow ++
      headLine "content-length" (some (toString bytes.length)) ++ "\r\n"
    some (Text.encode head ++ bytes)

/-- The method and the address on the first line of a message. -/
def requestLine? (line : String) : Option (String × String) :=
  match Text.split ' ' line with
  | [method, address, _] => some (method, address)
  | _ => none

end LabIndex.Serving
