import LabIndex.Change.Plan
import LabIndex.Content.Programs
import LabIndex.FileTree.Scan
import LabIndex.Search.Disk
import LabIndex.Serving.Server

/-!
# Installations

What works together when the program runs: settings, the source of rows, the files with the content
store in them, and the text tool. Everything else is made from these: the runs of the five kinds,
the scanner and the server.
-/

namespace LabIndex

/-- All that the work is done with, but for the index. -/
structure Installation where
  settings : Settings
  content : ContentStore
  source : Source
  files : FileTree
  tool : TextTool

namespace Installation

/-- The text tool that settings name. -/
def namedTool (s : Settings) (files : FileTree) : TextTool :=
  CommandTool.tool ⟨s.extraction.tool, s.extraction.toolArgs⟩ files

/-- Puts an installation together. -/
def assemble (s : Settings) (source : Source) (files : FileTree) (tool : TextTool) :
    Except Failure Installation :=
  match ContentStore.ofRoots s.storage.mcdir s.extraction.convertibleMediaTypes with
  | .ok content => .ok ⟨s, content, source, files, tool⟩
  | .error f => .error f

/-- What takes text from the files. -/
def extractor (x : Installation) : Extractor where
  store := x.content
  bytes := x.files.byteStore
  tool := x.tool
  maxBytes := x.settings.extraction.maxContentBytes

/-- The runs of the five kinds. -/
def indexers (x : Installation) : Indexers := ⟨x.settings.indexing, x.source, x.extractor⟩

/-- The scanner. -/
def scanner (x : Installation) : Except Failure Scanner := Scanner.ofSettings x.settings.scanner

/-- The server. -/
def server (x : Installation) : Serving.Server := ⟨x.content, Serving.lookUp x.source, x.files⟩

end Installation

end LabIndex
