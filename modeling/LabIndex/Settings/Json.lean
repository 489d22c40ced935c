import LabIndex.Document.Shape
import LabIndex.Settings.Basic

/-!
# Settings as JSON

Each section is a record all of whose fields have a default, and so are the settings as a whole:
what is left out keeps its default.
-/

namespace LabIndex

open Shape

/-! ## 1. Values -/

/-- A path. -/
def pathText : Reader Path
  | .str s => .ok s
  | v => .error (.ofType v "path string")

/-- A count of at most `high`; `expected` names the range. -/
def countUpTo (high : Nat) (expected : String) : Reader Nat := fun v =>
  (wholeNumber 0 high expected v).map Int.toNat

/-- A count of 64 bits. -/
def count64 : Reader Nat := countUpTo 0xFFFFFFFFFFFFFFFF "usize"

/-- A number of bytes of 64 bits. -/
def byteCount : Reader Nat := countUpTo 0xFFFFFFFFFFFFFFFF "u64"

/-- A port. -/
def portNumber : Reader Nat := countUpTo 0xFFFF "u16"

/-! ## 2. Sections -/

namespace StorageSettings

/-- The fields of the section. -/
def shape : Record := ⟨"StorageConfig",
  [slot "mcdir" (listOf pathText), slot "index_dir" pathText]⟩

/-- Reads the section. -/
def read : Reader StorageSettings := record shape fun g => do
  let d : StorageSettings := {}
  return {
    mcdir := ← g.optional "mcdir" (listOf pathText) d.mcdir
    indexDir := ← g.optional "index_dir" pathText d.indexDir }

/-- Writes the section. -/
def toJson (s : StorageSettings) : Json := .obj [
  ("index_dir", .str s.indexDir),
  ("mcdir", .ofStrings s.mcdir)]

end StorageSettings

namespace ExtractionSettings

/-- The fields of the section. -/
def shape : Record := ⟨"ExtractionConfig",
  [slot "max_content_bytes" byteCount, slot "tool" text, slot "tool_args" (listOf text),
    slot "convertible_media_types" (listOf text)]⟩

/-- Reads the section. -/
def read : Reader ExtractionSettings := record shape fun g => do
  let d : ExtractionSettings := {}
  return {
    maxContentBytes := ← g.optional "max_content_bytes" byteCount d.maxContentBytes
    tool := ← g.optional "tool" text d.tool
    toolArgs := ← g.optional "tool_args" (listOf text) d.toolArgs
    convertibleMediaTypes :=
      ← g.optional "convertible_media_types" (listOf text) d.convertibleMediaTypes }

/-- Writes the section. -/
def toJson (s : ExtractionSettings) : Json := .obj [
  ("convertible_media_types", .ofStrings s.convertibleMediaTypes),
  ("max_content_bytes", .ofNat s.maxContentBytes),
  ("tool", .str s.tool),
  ("tool_args", .ofStrings s.toolArgs)]

end ExtractionSettings

namespace IndexingSettings

/-- The fields of the section. -/
def shape : Record := ⟨"IndexingConfig",
  [slot "index_name" text, slot "file_batch_size" count64, slot "sample_batch_size" count64,
    slot "process_batch_size" count64, slot "project_batch_size" count64,
    slot "user_batch_size" count64, slot "writer_heap_bytes" count64]⟩

/-- Reads the section. -/
def read : Reader IndexingSettings := record shape fun g => do
  let d : IndexingSettings := {}
  return {
    indexName := ← g.optional "index_name" text d.indexName
    fileBatchSize := ← g.optional "file_batch_size" count64 d.fileBatchSize
    sampleBatchSize := ← g.optional "sample_batch_size" count64 d.sampleBatchSize
    processBatchSize := ← g.optional "process_batch_size" count64 d.processBatchSize
    projectBatchSize := ← g.optional "project_batch_size" count64 d.projectBatchSize
    userBatchSize := ← g.optional "user_batch_size" count64 d.userBatchSize
    writerHeapBytes := ← g.optional "writer_heap_bytes" count64 d.writerHeapBytes }

/-- Writes the section. -/
def toJson (s : IndexingSettings) : Json := .obj [
  ("file_batch_size", .ofNat s.fileBatchSize),
  ("index_name", .str s.indexName),
  ("process_batch_size", .ofNat s.processBatchSize),
  ("project_batch_size", .ofNat s.projectBatchSize),
  ("sample_batch_size", .ofNat s.sampleBatchSize),
  ("user_batch_size", .ofNat s.userBatchSize),
  ("writer_heap_bytes", .ofNat s.writerHeapBytes)]

end IndexingSettings

namespace ScannerSettings

/-- The fields of the section. -/
def shape : Record := ⟨"ScannerConfig",
  [slot "workers" count64, slot "exclude_patterns" (listOf text)]⟩

/-- Reads the section. -/
def read : Reader ScannerSettings := record shape fun g => do
  let d : ScannerSettings := {}
  return {
    workers := ← g.optional "workers" count64 d.workers
    excludePatterns := ← g.optional "exclude_patterns" (listOf text) d.excludePatterns }

/-- Writes the section. -/
def toJson (s : ScannerSettings) : Json := .obj [
  ("exclude_patterns", .ofStrings s.excludePatterns),
  ("workers", .ofNat s.workers)]

end ScannerSettings

namespace ServerSettings

/-- The fields of the section. -/
def shape : Record := ⟨"ServerConfig", [slot "host" text, slot "port" portNumber]⟩

/-- Reads the section. -/
def read : Reader ServerSettings := record shape fun g => do
  let d : ServerSettings := {}
  return {
    host := ← g.optional "host" text d.host
    port := ← g.optional "port" portNumber d.port }

/-- Writes the section. -/
def toJson (s : ServerSettings) : Json := .obj [
  ("host", .str s.host),
  ("port", .ofNat s.port)]

end ServerSettings

/-! ## 3. All settings -/

namespace Settings

/-- The sections. -/
def shape : Record := ⟨"Config",
  [slot "storage" StorageSettings.read, slot "extraction" ExtractionSettings.read,
    slot "indexing" IndexingSettings.read, slot "scanner" ScannerSettings.read,
    slot "server" ServerSettings.read]⟩

/-- Reads settings. -/
def read : Reader Settings := record shape fun g => do
  return {
    storage := ← g.optional "storage" StorageSettings.read {}
    extraction := ← g.optional "extraction" ExtractionSettings.read {}
    indexing := ← g.optional "indexing" IndexingSettings.read {}
    scanner := ← g.optional "scanner" ScannerSettings.read {}
    server := ← g.optional "server" ServerSettings.read {} }

/-- Writes settings. -/
def toJson (s : Settings) : Json := .obj [
  ("extraction", s.extraction.toJson),
  ("indexing", s.indexing.toJson),
  ("scanner", s.scanner.toJson),
  ("server", s.server.toJson),
  ("storage", s.storage.toJson)]

end Settings

end LabIndex
