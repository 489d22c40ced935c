import LabIndex.Kind
import LabIndex.Document.File
import LabIndex.Document.Sample
import LabIndex.Document.Process
import LabIndex.Document.Project

/-!
# Documents

What the index holds: a document of one of the five kinds, read from a row of the store and
written as JSON. Samples and processes are keyed by the id that their link rows carry, the other
kinds by their own.

* `Document.kind_of_read`: reading a row as a kind gives a document of that kind.
-/

namespace LabIndex

/-- Reads a kind by its label. -/
def Kind.read : Shape.Reader Kind :=
  Shape.variant fun name data =>
    match Kind.ofLabel? name with
    | some k => Shape.noData k data
    | none => .error (.unknownVariant name Kind.labels)

/-- A document of some kind. -/
inductive Document where
  | file (d : FileDocument)
  | sample (d : SampleDocument)
  | process (d : ProcessDocument)
  | project (d : ProjectDocument)
  | user (d : UserDocument)
deriving Repr, Inhabited

namespace Document

/-- The kind of a document. -/
def kind : Document → Kind
  | .file _ => .file
  | .sample _ => .sample
  | .process _ => .process
  | .project _ => .project
  | .user _ => .user

/-- The id under which a document is keyed. -/
def id : Document → String
  | .file d => d.id
  | .sample d => d.sampleId
  | .process d => d.processId
  | .project d => d.id
  | .user d => d.id

/-- The value of the field that names the kind inside the document. -/
def discriminant : Document → String
  | .file d => d.discriminant
  | .sample d => d.discriminant
  | .process d => d.discriminant
  | .project d => d.discriminant
  | .user d => d.discriminant

/-- Reads a row as a document of a kind. -/
def read : Kind → Shape.Reader Document
  | .file, v => (FileDocument.read v).map .file
  | .sample, v => (SampleDocument.read v).map .sample
  | .process, v => (ProcessDocument.read v).map .process
  | .project, v => (ProjectDocument.read v).map .project
  | .user, v => (UserDocument.read v).map .user

/-- Writes a document. -/
def toJson : Document → Json
  | .file d => d.toJson
  | .sample d => d.toJson
  | .process d => d.toJson
  | .project d => d.toJson
  | .user d => d.toJson

theorem kind_of_read {k : Kind} {v : Json} {d : Document} (h : read k v = .ok d) : d.kind = k := by
  cases k <;> simp only [read] at h
  · cases hr : FileDocument.read v <;> rw [hr] at h <;> cases h; rfl
  · cases hr : SampleDocument.read v <;> rw [hr] at h <;> cases h; rfl
  · cases hr : ProcessDocument.read v <;> rw [hr] at h <;> cases h; rfl
  · cases hr : ProjectDocument.read v <;> rw [hr] at h <;> cases h; rfl
  · cases hr : UserDocument.read v <;> rw [hr] at h <;> cases h; rfl

end Document

end LabIndex
