import LabIndex.Indexing.Request
import LabIndex.Search.Words

/-!
# What a search looks at

Of each document some fields are held: its key and the parts of the key, each as one term, and the
words of its strings and numbers.

* `Profile`: a document with what is held of it;
* `Corpus`: all documents of an index, among which one is looked at.
-/

namespace LabIndex.Search

/-! ## 1. Fields -/

/-- What is held of a document. -/
inductive Field where
  /-- The written form of its key. -/
  | uid
  /-- The name of its index. -/
  | index
  /-- The label of its kind. -/
  | kind
  | id
  /-- The words of its strings and numbers. -/
  | text
  /-- The document itself, which cannot be searched. -/
  | source
deriving DecidableEq, Repr

/-- The field with a name. -/
def Field.ofName? (name : String) : Option Field :=
  if name = "uid" then some .uid
  else if name = "index" then some .index
  else if name = "doc_type" then some .kind
  else if name = "doc_id" then some .id
  else if name = "text" then some .text
  else if name = "source" then some .source
  else none

/-! ## 2. Documents -/

/-- A term of this many bytes is not held. -/
def longTerm : Nat := 65530

/-- A text as a term, if it is not too long to be held. -/
def asTerm (s : String) : Option String := if s.utf8ByteSize ≤ longTerm then some s else none

/-- A document with what a search looks at. -/
structure Profile where
  request : Request
  words : List Word

namespace Profile

/-- The profile of a document. -/
def ofRequest (r : Request) : Profile := ⟨r, Search.words (searchText r.document)⟩

/-- The single term of a field that is not split into words. -/
def term? (p : Profile) : Field → Option String
  | .uid => asTerm p.request.uid
  | .index => asTerm p.request.index
  | .kind => asTerm p.request.kind.label
  | .id => asTerm p.request.id
  | _ => none

/-- The number of times that a field holds a word. -/
def frequency (p : Profile) (field : Field) (word : String) : Nat :=
  match field with
  | .text => p.words.countP (·.text == word)
  | field => if p.term? field = some word then 1 else 0

/-- A word stands at a place. -/
def hasWordAt (p : Profile) (position : Nat) (text : String) : Bool :=
  p.words.any fun w => w.position == position && w.text == text

/-- The number of places at which a phrase begins. -/
def occurrences (p : Profile) (phrase : List Word) : Nat :=
  match phrase with
  | [] => 0
  | first :: rest =>
    p.words.countP fun w =>
      w.text == first.text &&
        rest.all fun x => p.hasWordAt (w.position + x.position - first.position) x.text

/-- The number of terms that a field holds. -/
def size (p : Profile) : Field → Nat
  | .text => p.words.length
  | field => if (p.term? field).isSome then 1 else 0

end Profile

/-- The documents of an index, among which one is looked at. -/
abbrev Corpus := List Profile

end LabIndex.Search
