import LabIndex.Kind
import LabIndex.Content.Path

/-!
# Settings

All that can be set, in five sections, with the value each setting has when nobody sets it.
-/

namespace LabIndex

/-- Where bytes and the index are kept. -/
structure StorageSettings where
  /-- The content roots, the primary one first. -/
  mcdir : List Path := ["/mcfs/data/materialscommons"]
  indexDir : Path := "./data/index"
deriving DecidableEq, Repr, Inhabited

/-- How text is taken from files. -/
structure ExtractionSettings where
  /-- Files beyond this size are not read for text. -/
  maxContentBytes : Nat := 2 * 1024 * 1024
  /-- The external tool. -/
  tool : String := "tika.sh"
  /-- What the tool is given before the path. -/
  toolArgs : List String := ["--text"]
  /-- The media types served as a preview. -/
  convertibleMediaTypes : List String := ["image/tiff", "image/bmp", "image/x-ms-bmp"]
deriving DecidableEq, Repr, Inhabited

/-- How documents are written to the index. -/
structure IndexingSettings where
  /-- The name under which documents are keyed. -/
  indexName : String := "mc"
  fileBatchSize : Nat := 10
  sampleBatchSize : Nat := 1000
  processBatchSize : Nat := 1000
  projectBatchSize : Nat := 1000
  userBatchSize : Nat := 1000
  /-- The memory of the index writer, in bytes. -/
  writerHeapBytes : Nat := 50000000
deriving DecidableEq, Repr, Inhabited

/-- The batch threshold of a kind. -/
def IndexingSettings.batchSize (s : IndexingSettings) : Kind → Nat
  | .file => s.fileBatchSize
  | .sample => s.sampleBatchSize
  | .process => s.processBatchSize
  | .project => s.projectBatchSize
  | .user => s.userBatchSize

/-- How directories are scanned. -/
structure ScannerSettings where
  workers : Nat := 3
  /-- Patterns of paths to leave out. -/
  excludePatterns : List String := []
deriving DecidableEq, Repr, Inhabited

/-- Where the server listens. -/
structure ServerSettings where
  host : String := "127.0.0.1"
  port : Nat := 5013
deriving DecidableEq, Repr, Inhabited

/-- All settings. -/
structure Settings where
  storage : StorageSettings := {}
  extraction : ExtractionSettings := {}
  indexing : IndexingSettings := {}
  scanner : ScannerSettings := {}
  server : ServerSettings := {}
deriving DecidableEq, Repr, Inhabited

end LabIndex
