import LabIndex.Proofs.Indexing.Contents
import LabIndex.Proofs.Indexing.Scopes

/-!
# The field that names the kind

A document says of which kind it is in a field of its own. The label of the kind is the default for
that field, and so it is what a document says if the row that it was made of has no such column.
Such a column may come from any of the tables that the row was joined from: a directory that says of
itself that it is one makes the files in it say so.

* `Document.discriminant_of_read`: the column of the row, or else the label;
* `Store.origin_of_mem_rowsOf`: a column of a row is a column in one of the joined tables;
* `Indexers.discriminant_of_submitted`: what submitted documents say, and
  `Indexers.fileIn_says_datadir`: a file that says that it is a directory.
-/

namespace LabIndex

open Shape

/-! ## 1. Reading -/

theorem Shape.Given.optional_text {g : Given} {name default t : String}
    (h : g.optional name text default = .ok t) :
    g name = some (.str t) ∨ g name = none ∧ t = default := by
  rw [Given.optional] at h
  cases hv : g name with
  | none =>
      rw [hv] at h
      exact .inr ⟨rfl, (Except.ok.inj h).symm⟩
  | some v =>
      rw [hv] at h
      exact .inl (congrArg some (text_eq_ok_iff.mp h))

section Kinds

variable {g : Given}

-- As with the ids, every `obtain` takes one field off the record.

theorem FileDocument.discriminant_of_build {d : FileDocument} (h : FileDocument.build g = .ok d) :
    g "otype" = some (.str d.discriminant) ∨
      g "otype" = none ∧ d.discriminant = Kind.file.label := by
  simp only [FileDocument.build, bind_eq_ok_iff] at h
  obtain ⟨_, _, t, ht, h⟩ := h
  repeat obtain ⟨_, _, h⟩ := h
  exact Given.optional_text ht

theorem SampleDocument.discriminant_of_build {d : SampleDocument}
    (h : SampleDocument.build g = .ok d) :
    g "otype" = some (.str d.discriminant) ∨
      g "otype" = none ∧ d.discriminant = Kind.sample.label := by
  simp only [SampleDocument.build, bind_eq_ok_iff] at h
  obtain ⟨_, _, t, ht, h⟩ := h
  repeat obtain ⟨_, _, h⟩ := h
  exact Given.optional_text ht

theorem ProcessDocument.discriminant_of_build {d : ProcessDocument}
    (h : ProcessDocument.build g = .ok d) :
    g "_type" = some (.str d.discriminant) ∨
      g "_type" = none ∧ d.discriminant = Kind.process.label := by
  simp only [ProcessDocument.build, bind_eq_ok_iff] at h
  obtain ⟨_, _, t, ht, h⟩ := h
  repeat obtain ⟨_, _, h⟩ := h
  exact Given.optional_text ht

theorem ProjectDocument.discriminant_of_build {d : ProjectDocument}
    (h : ProjectDocument.build g = .ok d) :
    g "_type" = some (.str d.discriminant) ∨
      g "_type" = none ∧ d.discriminant = Kind.project.label := by
  simp only [ProjectDocument.build, bind_eq_ok_iff] at h
  obtain ⟨_, _, t, ht, h⟩ := h
  repeat obtain ⟨_, _, h⟩ := h
  exact Given.optional_text ht

theorem UserDocument.discriminant_of_build {d : UserDocument} (h : UserDocument.build g = .ok d) :
    g "_type" = some (.str d.discriminant) ∨
      g "_type" = none ∧ d.discriminant = Kind.user.label := by
  simp only [UserDocument.build, bind_eq_ok_iff] at h
  obtain ⟨_, _, t, ht, h⟩ := h
  repeat obtain ⟨_, _, h⟩ := h
  exact Given.optional_text ht

end Kinds

namespace Kind

/-- The field that names the kind inside a document. -/
def discriminantColumn : Kind → String
  | .file | .sample => "otype"
  | .process | .project | .user => "_type"

/-- The value that a row gives for that field. It is the second field of each kind of document, but
    only a row of a kind that is not linked can be a list: in tables that are joined no list is
    joined with anything. -/
def discriminant? (k : Kind) : Json → Option Json
  | .obj fs => Fields.get? k.discriminantColumn fs
  | .arr items => if k.isLinked then none else items[1]?
  | _ => none

/-- A row that a document can be made of: an object, or of a kind that is not linked. -/
def Reads (k : Kind) (row : Json) : Prop := (∃ fs, row = .obj fs) ∨ k.isLinked = false

/-- A record finds that value where its second field has that name. -/
theorem value?_discriminantColumn {k : Kind} {r : Record} {row : Json} (hrow : k.Reads row)
    (h : r.slots.findIdx (·.name == k.discriminantColumn) = 1) :
    r.value? row k.discriminantColumn = k.discriminant? row := by
  rcases hrow with ⟨fs, rfl⟩ | hk
  · rfl
  · cases row with
    | arr items =>
        rw [Record.value?, h, discriminant?, hk]
        rfl
    | _ => rfl

end Kind

namespace Document

/-- **A document says what its row says, or else the label of its kind.** -/
theorem discriminant_of_read {k : Kind} {row : Json} {d : Document} (hrow : k.Reads row)
    (h : read k row = .ok d) :
    k.discriminant? row = some (.str d.discriminant) ∨
      k.discriminant? row = none ∧ d.discriminant = k.label := by
  cases k with
  | file =>
      obtain ⟨f, hf, rfl⟩ := exists_of_map_eq_ok h
      rw [← Kind.value?_discriminantColumn (r := FileDocument.shape) hrow (by decide)]
      exact FileDocument.discriminant_of_build (build_of_record hf)
  | sample =>
      obtain ⟨f, hf, rfl⟩ := exists_of_map_eq_ok h
      rw [← Kind.value?_discriminantColumn (r := SampleDocument.shape) hrow (by decide)]
      exact SampleDocument.discriminant_of_build (build_of_record hf)
  | process =>
      obtain ⟨f, hf, rfl⟩ := exists_of_map_eq_ok h
      rw [← Kind.value?_discriminantColumn (r := ProcessDocument.shape) hrow (by decide)]
      exact ProcessDocument.discriminant_of_build (build_of_record hf)
  | project =>
      obtain ⟨f, hf, rfl⟩ := exists_of_map_eq_ok h
      rw [← Kind.value?_discriminantColumn (r := ProjectDocument.shape) hrow (by decide)]
      exact ProjectDocument.discriminant_of_build (build_of_record hf)
  | user =>
      obtain ⟨f, hf, rfl⟩ := exists_of_map_eq_ok h
      rw [← Kind.value?_discriminantColumn (r := UserDocument.shape) hrow (by decide)]
      exact UserDocument.discriminant_of_build (build_of_record hf)

theorem get?_discriminantColumn (d : Document) :
    d.toJson.get? d.kind.discriminantColumn = some (.str d.discriminant) := by
  cases d <;> rfl

@[simp] theorem kind_withContents (x : Extractor) (d : Document) :
    (d.withContents x).kind = d.kind := by
  cases d <;> rfl

@[simp] theorem discriminant_withContents (x : Extractor) (d : Document) :
    (d.withContents x).discriminant = d.discriminant := by
  cases d <;> rfl

end Document

/-! ## 2. Columns of joined rows -/

namespace Kind

/-- The tables that the rows of a kind are joined from. Of the projects that a linked kind is read
    from only the ids are taken. -/
def joinedTables : Kind → List String
  | .file => ["project2datafile", "datadir2datafile", "datadirs", "datafiles"]
  | .sample => ["project2sample", "samples"]
  | .process => ["project2process", "processes"]
  | .project => ["projects"]
  | .user => ["users"]

theorem memberTable_mem_joinedTables (k : Kind) : k.memberTable ∈ k.joinedTables := by
  cases k <;> decide

end Kind

namespace Store

variable {s : Store} {k : Kind} {scope : Scope} {column : String} {v : Json}

/-- A column of a joined row is one of its left row or of a row of the table. -/
theorem origin_of_mem_joinedWith {f : Json → Json} {changed field table index : String}
    (hf : Row.ChangesOnly changed f) (hs : s.Sorted) (hne : column ≠ changed) {left row : Json}
    (h : row ∈ s.joinedWith f field table index left) (hv : row.get? column = some v) :
    left.get? column = some v ∨ ∃ origin ∈ s.table table, origin.get? column = some v := by
  obtain ⟨l, r, r', key, rfl, hmem, -, -, ho, hc, rfl⟩ := exists_fields_of_mem_joinedWith hf hs h
  rw [Row.get?_overlaid ho, hc column hne, Option.or_eq_some_iff] at hv
  rcases hv with hr | ⟨-, hl⟩
  · exact .inr ⟨.obj r, hmem, hr⟩
  · exact .inl hl

/-- A column of a member, other than its id, is one in the table of members. -/
theorem origin_of_mem_members (hs : s.Sorted) (hk : k.isLinked = true) (hne : column ≠ "id")
    {m : Json} (h : m ∈ s.members k scope) (hv : m.get? column = some v) :
    ∃ origin ∈ s.table k.memberTable, origin.get? column = some v := by
  rw [members] at h
  cases hids : scope.ids? with
  | some ids =>
      simp only [hids] at h
      obtain ⟨id, -, hm⟩ := List.mem_flatMap.mp h
      exact ⟨m, (mem_withKey.mp hm).1, hv⟩
  | none =>
      simp only [hids, hk, if_true] at h
      obtain ⟨project, hproject, hm⟩ := List.mem_flatMap.mp h
      obtain ⟨p, -, rfl⟩ := List.mem_map.mp hproject
      obtain ⟨l, r, key, hl, hmem, -, -, ho, rfl⟩ := exists_fields_of_mem_joined hs hm
      exact ⟨.obj r, hmem, ((agreeBut_over_pluck hl ho).get? column hne).symm.trans hv⟩

/-- A column of a row that a member is followed to is the member's or one in a joined table. -/
theorem origin_of_mem_expand (hs : s.Sorted) (hne : column ≠ "path") {m row : Json}
    (h : row ∈ s.expand k m) (hv : row.get? column = some v) :
    m.get? column = some v ∨
      ∃ name ∈ k.joinedTables, ∃ origin ∈ s.table name, origin.get? column = some v := by
  have hid := Row.changesOnly_id "path"
  cases k with
  | file =>
      obtain ⟨link, hlink, h⟩ := List.mem_flatMap.mp h
      obtain ⟨directory, hdirectory, hfile⟩ := List.mem_flatMap.mp h
      rcases origin_of_mem_joinedWith hid hs hne hfile hv with hv | hv
      · rcases origin_of_mem_joinedWith (Row.changesOnly_copyField "name" "path") hs hne hdirectory
          hv with hv | hv
        · rcases origin_of_mem_joinedWith hid hs hne hlink hv with hv | hv
          · exact .inl hv
          · exact .inr ⟨"datadir2datafile", by decide, hv⟩
        · exact .inr ⟨"datadirs", by decide, hv⟩
      · exact .inr ⟨"datafiles", by decide, hv⟩
  | sample =>
      rcases origin_of_mem_joinedWith hid hs hne h hv with hv | hv
      · exact .inl hv
      · exact .inr ⟨"samples", by decide, hv⟩
  | process =>
      rcases origin_of_mem_joinedWith hid hs hne h hv with hv | hv
      · exact .inl hv
      · exact .inr ⟨"processes", by decide, hv⟩
  | project | user =>
      rw [List.mem_singleton.mp h] at hv
      exact .inl hv

/-- **What a row says of its kind is said in one of the tables that it was joined from.** -/
theorem origin_of_mem_rowsOf (hs : s.Sorted) {row : Json} (h : row ∈ s.rowsOf k scope)
    (hv : k.discriminant? row = some v) :
    ∃ name ∈ k.joinedTables, ∃ origin ∈ s.table name, k.discriminant? origin = some v := by
  have hget : ∀ {row : Json}, row.get? k.discriminantColumn = some v →
      k.discriminant? row = some v := by
    intro row hrow
    cases row with
    | obj fs => exact hrow
    | _ => cases hrow
  cases hk : k.isLinked with
  | false =>
      rw [rowsOf_of_plain hk] at h
      refine ⟨_, k.memberTable_mem_joinedTables, row, ?_, hv⟩
      rw [members] at h
      cases hids : scope.ids? with
      | some ids =>
          simp only [hids] at h
          obtain ⟨id, -, hm⟩ := List.mem_flatMap.mp h
          exact (mem_withKey.mp hm).1
      | none => simpa [hids, hk] using h
  | true =>
      obtain ⟨m, hm, hrow⟩ := List.mem_flatMap.mp h
      have hne : k.discriminantColumn ≠ "path" ∧ k.discriminantColumn ≠ "id" := by
        cases k <;> decide
      rcases exists_obj_of_mem_expand hrow with ⟨fs, rfl⟩ | ⟨hplain, -⟩
      · rcases origin_of_mem_expand hs hne.1 hrow hv with hv | ⟨name, hname, origin, horigin, hv⟩
        · obtain ⟨origin, horigin, hv⟩ := origin_of_mem_members hs hk hne.2 hm hv
          exact ⟨_, k.memberTable_mem_joinedTables, origin, horigin, hget hv⟩
        · exact ⟨name, hname, origin, horigin, hget hv⟩
      · rw [hk] at hplain
        cases hplain

end Store

/-- What a row makes its document say of its kind: the label if the row says nothing, and otherwise a
    text from one of the joined tables. -/
def Store.Says (s : Store) (k : Kind) (row : Json) (t : String) : Prop :=
  k.discriminant? row = none ∧ t = k.label ∨
    k.discriminant? row = some (.str t) ∧
      ∃ name ∈ k.joinedTables, ∃ origin ∈ s.table name, k.discriminant? origin = some (.str t)

/-! ## 3. Submitted documents -/

namespace Indexers

variable {σ : Type} {x : Indexers} {s : Store} {k : Kind} {scope : Scope} {b : Backend σ}
  {state : σ} {r : Request}

/-- The lists of a row leave alone what it says of its kind. -/
theorem discriminant?_of_attachAll {row full : Json} (hrow : k.Reads row)
    (h : s.attachAll k.attachments row = .ok full) :
    k.Reads full ∧ k.discriminant? full = k.discriminant? row := by
  rcases hrow with ⟨fs, rfl⟩ | hk
  · obtain ⟨fs', rfl, hfs'⟩ := Store.get?_of_attachAll h
    exact ⟨.inl ⟨fs', rfl⟩, hfs' _ (by cases k <;> decide)⟩
  · rw [Kind.attachments_of_plain hk, Store.attachAll] at h
    cases h
    exact ⟨.inr hk, rfl⟩

/-- **What the document of a request says of its kind**: what the row says, or the label. -/
theorem discriminant_of_request? {row : Json} (hrow : k.Reads row)
    (h : x.request? s k row = some r) :
    r.kind = k ∧ ∃ t, r.document.get? k.discriminantColumn = some (.str t) ∧
      (k.discriminant? row = some (.str t) ∨ k.discriminant? row = none ∧ t = k.label) := by
  obtain ⟨full, d, hfull, hd, rfl⟩ := exists_document_of_request? h
  obtain ⟨hreads, hsame⟩ := discriminant?_of_attachAll hrow hfull
  have hdocument := (d.withContents x.extractor).get?_discriminantColumn
  rw [Document.kind_withContents, Document.discriminant_withContents,
    Document.kind_of_read hd] at hdocument
  exact ⟨rfl, d.discriminant, hdocument, hsame ▸ Document.discriminant_of_read hreads hd⟩

/-- A submitted document says of its kind what its row makes it say. -/
theorem says_of_mem_submitted (hs : s.Sorted) (hx : x.source = .ofStore s)
    (hr : r ∈ x.submitted b k scope state) :
    r.kind = k ∧ ∃ row ∈ s.rowsOf k scope, x.request? s k row = some r ∧
      ∃ t, r.document.get? k.discriminantColumn = some (.str t) ∧ s.Says k row t := by
  obtain ⟨row, hrow, hrequest⟩ := exists_row_of_mem_submitted hx hr
  obtain ⟨m, -, hexpand⟩ := List.mem_flatMap.mp hrow
  obtain ⟨hkind, t, hdocument, hsaid⟩ := discriminant_of_request?
    ((Store.exists_obj_of_mem_expand hexpand).imp_right And.left) hrequest
  refine ⟨hkind, row, hrow, hrequest, t, hdocument, ?_⟩
  rcases hsaid with hsaid | hsaid
  · exact .inr ⟨hsaid, Store.origin_of_mem_rowsOf hs hrow hsaid⟩
  · exact .inl hsaid

/-- **The field that names the kind.** Every submitted document has a text in it. It is the label of
the kind that the document is keyed under if the row of the document has no such column; otherwise it
is the text in that column, which comes from one of the tables that the row was joined from. So all
documents agree with their keys where no row of these tables has another text in the column. -/
theorem discriminant_of_submitted (hs : s.Sorted) (hx : x.source = .ofStore s) (k : Kind)
    (scope : Scope) (b : Backend σ) (state : σ) :
    (∀ r ∈ x.submitted b k scope state, r.kind = k ∧
      ∃ row ∈ s.rowsOf k scope, x.request? s k row = some r ∧
        ∃ t, r.document.get? k.discriminantColumn = some (.str t) ∧ s.Says k row t) ∧
    ((∀ name ∈ k.joinedTables, ∀ origin ∈ s.table name,
        k.discriminant? origin = none ∨ k.discriminant? origin = some (.str k.label)) →
      ∀ r ∈ x.submitted b k scope state,
        r.kind = k ∧ r.document.get? k.discriminantColumn = some (.str k.label)) := by
  refine ⟨fun r hr => says_of_mem_submitted hs hx hr, fun hclean r hr => ?_⟩
  obtain ⟨hkind, row, -, -, t, hdocument, hsaid⟩ := says_of_mem_submitted hs hx hr
  rcases hsaid with ⟨-, rfl⟩ | ⟨-, name, hname, origin, horigin, hsaid⟩
  · exact ⟨hkind, hdocument⟩
  · rcases hclean name hname origin horigin with hnone | hlabel
    · rw [hnone] at hsaid
      cases hsaid
    · rw [hlabel] at hsaid
      cases hsaid
      exact ⟨hkind, hdocument⟩

end Indexers

/-- A file in a directory that says something of its kind, as the link to the directory does. -/
def Store.fileIn (said : String) : Store :=
  filled [
    ("projects", [.obj [("id", .str "p-1"), ("otype", .str "project")]]),
    ("project2datafile",
      [.obj [("datafile_id", .str "f-1"), ("id", .str "l-1"), ("project_id", .str "p-1")]]),
    ("datadir2datafile",
      [.obj [("datadir_id", .str "d-1"), ("datafile_id", .str "f-1"), ("id", .str "l-2"),
        ("otype", .str "datafile")]]),
    ("datadirs",
      [.obj [("id", .str "d-1"), ("name", .str "tests"), ("otype", .str said)]]),
    ("datafiles", [.obj [("id", .str "f-1"), ("name", .str "log.txt")]])]

namespace Indexers

/-- A directory that says nothing else does no harm; nor does what a project says of itself. -/
theorem discriminant_of_submitted_fileIn :
    let x := onStore (.fileIn "datafile")
    (Store.fileIn "datafile").Sorted ∧ x.source = .ofStore (.fileIn "datafile") ∧
      (∀ name ∈ Kind.file.joinedTables, ∀ origin ∈ (Store.fileIn "datafile").table name,
        Kind.file.discriminant? origin = none ∨
          Kind.file.discriminant? origin = some (.str Kind.file.label)) ∧
      (x.submitted .accepting .file .all ()).map (·.id) = ["f-1"] ∧
      ∀ r ∈ x.submitted .accepting .file .all (),
        r.kind = .file ∧ r.document.get? "otype" = some (.str "datafile") := by
  have hs : (Store.fileIn "datafile").Sorted := Store.sorted_filled (by decide)
  have hclean : ∀ name ∈ Kind.file.joinedTables, ∀ origin ∈ (Store.fileIn "datafile").table name,
      Kind.file.discriminant? origin = none ∨
        Kind.file.discriminant? origin = some (.str Kind.file.label) := by
    simp only [Kind.joinedTables, List.forall_mem_cons]
    exact ⟨List.forall_mem_singleton.mpr (.inl rfl), List.forall_mem_singleton.mpr (.inr rfl),
      List.forall_mem_singleton.mpr (.inr rfl), List.forall_mem_singleton.mpr (.inl rfl), nofun⟩
  exact ⟨hs, rfl, hclean, by decide +kernel,
    (discriminant_of_submitted hs rfl .file .all .accepting ()).2 hclean⟩

/-- **A file says that it is a directory**, because its directory says so of itself. -/
theorem fileIn_says_datadir :
    (Store.fileIn "datadir").Sorted ∧
      ¬ ∀ r ∈ (onStore (.fileIn "datadir")).submitted .accepting .file .all (),
        r.document.get? r.kind.discriminantColumn = some (.str r.kind.label) := by
  refine ⟨Store.sorted_filled (by decide), fun h => ?_⟩
  have hsaid : ((onStore (.fileIn "datadir")).submitted .accepting .file .all ()).map
      (fun r => (r.kind, (r.document.get? r.kind.discriminantColumn).bind Json.text?)) =
        [(.file, some "datadir")] := by decide +kernel
  obtain ⟨r, hr, he⟩ := List.mem_map.mp (hsaid ▸ List.mem_singleton_self _)
  rw [h r hr, Option.bind_some, Json.text?] at he
  obtain ⟨hkind, ht⟩ := Prod.mk.inj he
  rw [hkind] at ht
  exact absurd ht (by decide)

end Indexers

end LabIndex
