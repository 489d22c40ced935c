/-!
# Failures

What can go wrong, by cause. Every failure has one message; the few that a caller can act on are
classed: no access, not found, and a request that was bad in itself.
-/

namespace LabIndex

/-- A failed operation. -/
inductive Failure where
  /-- A query that cannot be run. -/
  | query (reason : String)
  /-- Reading rows stopped. -/
  | cursor (reason : String)
  /-- A row is no document of its kind. -/
  | decode (kind reason : String)
  /-- The extraction tool failed. -/
  | extraction (reason : String)
  /-- The index did not take a batch. -/
  | bulkSubmit (reason : String)
  /-- A run left documents out. -/
  | incomplete (kind reason : String)
  /-- The caller has no valid key. -/
  | noAccess
  | fileNotFound (id : String)
  | invalidFileId (id : String)
  /-- A directory could not be walked. -/
  | walk (reason : String)
  | cancelled
  /-- A setting makes no sense. -/
  | config (reason : String)
  | storage (reason : String)
  /-- The file system refused. -/
  | io (reason : String)
  /-- A JSON value has the wrong shape. -/
  | json (reason : String)
  /-- A text is no JSON. -/
  | malformedJson
  /-- A text is no TOML, or no settings. -/
  | toml
deriving DecidableEq, Repr, Inhabited

namespace Failure

/-- The message of a failure. -/
def message : Failure → String
  | query r => "Query failed: " ++ r
  | cursor r => "Cursor failed: " ++ r
  | decode k r => "Failed to decode " ++ k ++ " record: " ++ r
  | extraction r => "Content extraction failed: " ++ r
  | bulkSubmit r => "Bulk submission failed: " ++ r
  | incomplete k r => "Indexing of " ++ k ++ " incomplete: " ++ r
  | noAccess => "No access"
  | fileNotFound id => "File not found: " ++ id
  | invalidFileId id => "Invalid file id: " ++ id
  | walk r => "Directory walk failed: " ++ r
  | cancelled => "Operation cancelled"
  | config r => "Configuration error: " ++ r
  | storage r => "Storage error: " ++ r
  | io r => "IO error: " ++ r
  | json r => "Serialization error: " ++ r
  | malformedJson => "Serialization error: malformed text"
  | toml => "TOML parsing error: malformed text"

/-- What was asked for does not exist. -/
def isNotFound : Failure → Bool
  | fileNotFound _ => true
  | _ => false

/-- The caller lacked a valid key. -/
def isUnauthorized : Failure → Bool
  | noAccess => true
  | _ => false

/-- The request was bad in itself. -/
def isBadRequest : Failure → Bool
  | invalidFileId _ | config _ | query _ => true
  | _ => false

/-- The failure for a word that names no kind. -/
def unknownKind (s : String) : Failure := .config ("Unknown entity kind: " ++ s)

end Failure

/-- Reasons of the operating system. -/
inductive SystemFault where
  | notFound
  | isDirectory
  | notDirectory
  | alreadyExists
  | tooManyLinks
  | permissionDenied
  | addressUnavailable
  | nameTooLong
  /-- Nobody knows a host. -/
  | unknownHost
  /-- A path holds the character with the code zero, which no name can. -/
  | nulInName
deriving DecidableEq, Repr

/-- The operating system's own words. -/
def SystemFault.message : SystemFault → String
  | notFound => "No such file or directory (os error 2)"
  | isDirectory => "Is a directory (os error 21)"
  | notDirectory => "Not a directory (os error 20)"
  | alreadyExists => "File exists (os error 17)"
  | tooManyLinks => "Too many levels of symbolic links (os error 40)"
  | permissionDenied => "Permission denied (os error 13)"
  | addressUnavailable => "Cannot assign requested address (os error 99)"
  | nameTooLong => "File name too long (os error 36)"
  | unknownHost => "failed to lookup address information: Name or service not known"
  | nulInName => "file name contained an unexpected NUL byte"

/-- The file system's refusal as a failure. -/
def SystemFault.toFailure (f : SystemFault) : Failure := .io f.message

end LabIndex
