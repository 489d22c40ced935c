/-!
# Kinds of records

The index holds five kinds of documents. Each kind has one label, under which its documents are
keyed and by which a search can be narrowed; a person may also name it by a shorter word or a
plural.

* `Kind.label_injective`: two kinds never share a label;
* `Kind.ofName?_label`: every label names its kind.
-/

namespace LabIndex

/-- The kinds of documents in the index. -/
inductive Kind where
  | file
  | sample
  | process
  | project
  | user
deriving DecidableEq, Repr, Inhabited

namespace Kind

/-- The order in which a rebuild runs through the kinds. -/
def all : List Kind := [.project, .user, .process, .sample, .file]

/-- The label of a kind. -/
def label : Kind → String
  | .file => "datafile"
  | .sample => "sample"
  | .process => "process"
  | .project => "project"
  | .user => "user"

/-- The labels in the order in which messages list them. -/
def labels : List String :=
  [label .file, label .sample, label .process, label .project, label .user]

/-- The kind with exactly this label. -/
def ofLabel? (s : String) : Option Kind := all.find? (·.label == s)

/-- The kind that a word names: its label, a short form or a plural. -/
def ofName? (s : String) : Option Kind :=
  if s = "datafile" ∨ s = "file" ∨ s = "files" then some .file
  else if s = "sample" ∨ s = "samples" then some .sample
  else if s = "process" ∨ s = "processes" then some .process
  else if s = "project" ∨ s = "projects" then some .project
  else if s = "user" ∨ s = "users" then some .user
  else none

/-- No kind is left out. -/
theorem mem_all (k : Kind) : k ∈ all := by cases k <;> decide

theorem label_injective {k l : Kind} (h : k.label = l.label) : k = l := by
  revert h
  cases k <;> cases l <;> decide

theorem ofName?_label (k : Kind) : ofName? k.label = some k := by
  cases k <;> decide

end Kind

end LabIndex
