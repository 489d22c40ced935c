import LabIndex.Document.Basic
import LabIndex.Proofs.Document.ReadBack

/-!
# Documents are stored in normal form

A row may be an object or a list, leave fields out, name others that mean nothing, and give dates in
many spellings. The document that is read from it is written in one form only: read back, with the
keys of tags renamed to the ones that are read, it is a document that is written the same.

* `Kind.restored`: the written document with its tags renamed;
* `FileDocument.restores`, …: the kinds one by one. All fields are read back but the id of a
  process's own row, which is not written;
* `Document.normal_form`: the documents of all kinds, and what becomes of their dates.
-/

namespace LabIndex

open Shape

/-! ## 1. What is written -/

/-- A written document with the keys of its tags renamed: those of a file, and those of each file
    of a sample. -/
def Kind.restored : Kind → Json → Json
  | .file => Json.inField "tags" (Json.eachItem Tag.restore)
  | .sample => Json.inField "files" (Json.eachItem SampleFile.restore)
  | .process | .project | .user => id

/-- The record of a kind's documents. -/
def Kind.shape : Kind → Record
  | .file => FileDocument.shape
  | .sample => SampleDocument.shape
  | .process => ProcessDocument.shape
  | .project => ProjectDocument.shape
  | .user => UserDocument.shape

/-- The dates that are given are the dates that are written. -/
structure Shape.Given.Dates (g : Given) (written : Json) : Prop where
  birthtime : ∃ t, g.optional "birthtime" date none = .ok t ∧
    written.get? "birthtime" = some (dateJson t)
  mtime : ∃ t, g.optional "mtime" date none = .ok t ∧ written.get? "mtime" = some (dateJson t)

/-- A date that is given in a spelling is written back as a text that restates it. -/
theorem Shape.Given.restates_of_optional {g : Given} {column text : String} {t : Option Timestamp}
    (h : g.optional column date none = .ok t) (hg : g column = some (.str text)) :
    ∃ u, t = some u ∧ Timestamp.Restates text u := by
  rw [optional, hg] at h
  obtain ⟨u, hu, rfl⟩ := date_str_eq_ok_iff.mp h
  exact ⟨u, rfl, Timestamp.restates_of_parse hu⟩

/-- What is kept of a record that is built from given values: its fields take the values, its dates
    are written, and from the written fields it is built again, or what is left of it is. -/
structure Shape.Keeps {α : Type} (r : Record) (build : Given → Except Mismatch α) (g : Given)
    (written restored : Json) (left : α) : Prop where
  takes : ∀ s ∈ r.slots, s.Takes g
  dates : g.Dates written
  again : build (Fields.get? · restored.fields) = .ok left

/-- A record that is kept wherever it is built is read back. -/
theorem Shape.record_of_keeps {α : Type} {r : Record} {build : Given → Except Mismatch α}
    {write restore : α → Json} {leave : α → α} {v : Json} {x : α}
    (hkeeps : ∀ {g x}, build g = .ok x → Keeps r build g (write x) (restore x) (leave x))
    (hobject : restore x = .obj (restore x).fields) (ho : Fields.Ordered (restore x).fields)
    (h : record r build v = .ok x) : record r build (restore x) = .ok (leave x) :=
  record_of_build (fun h => (hkeeps h).takes) hobject ho (hkeeps (build_of_record h)).again

/-! ## 2. The kinds -/

-- A record is built from one field after the other; the last step leaves the record itself.

namespace FileDocument

theorem keeps_of_build {g : Given} {d : FileDocument} (h : build g = .ok d) :
    Keeps shape build g d.toJson (Kind.file.restored d.toJson) d := by
  simp only [build, bind_eq_ok_iff] at h
  obtain ⟨_, hid, _, hotype, _, hname, _, hpath, _, hdescription, _, hmediaType, _, howner, _,
    hchecksum, _, hsize, _, hcurrent, _, hparent, _, husesId, _, hbirthtime, _, hmtime, _,
    hdatadirId, _, hprojectId, _, htags, _, hnotes, _, hcontents, hd⟩ := h
  cases hd
  refine ⟨?_, ⟨⟨_, hbirthtime, rfl⟩, ⟨_, hmtime, rfl⟩⟩, ?_⟩
  · simp only [shape, List.forall_mem_cons]
    exact ⟨takes_need hid, takes_slot hotype, takes_slot hname, takes_slot hpath,
      takes_slot hdescription, takes_slot hmediaType, takes_slot howner, takes_slot hchecksum,
      takes_slot hsize, takes_slot hcurrent, takes_slot hparent, takes_slot husesId,
      takes_slot hbirthtime, takes_slot hmtime, takes_slot hdatadirId, takes_slot hprojectId,
      takes_slot htags, takes_slot hnotes, takes_slot hcontents,
      fun _ hs => absurd hs List.not_mem_nil⟩
  · simp only [build, bind_eq_ok_iff]
    exact ⟨_, restores_text.required hid, _, restores_text.optional rfl hotype, _,
      restores_text.optional rfl hname, _, restores_text.optional rfl hpath, _,
      restores_text.optional rfl hdescription, _, MediaType.restores.optional rfl hmediaType, _,
      restores_text.optional rfl howner, _, restores_text.optional rfl hchecksum, _,
      restores_size.optional rfl hsize, _, restores_truth.optional rfl hcurrent, _,
      restores_text.optional rfl hparent, _, restores_text.optional rfl husesId, _,
      restores_date.optional rfl hbirthtime, _, restores_date.optional rfl hmtime, _,
      restores_text.optional rfl hdatadirId, _, restores_text.optional rfl hprojectId, _,
      (restores_eachItem Tag.restores).optional rfl htags, _,
      (restores_listOf Note.restores).optional rfl hnotes, _, restores_text.optional rfl hcontents,
      rfl⟩

theorem ordered_toJson (d : FileDocument) : Fields.Ordered d.toJson.fields := by
  simp only [toJson, Json.fields, Fields.Ordered, Fields.keys, List.map_cons, List.map_nil]
  decide

theorem restores : Restores read fun d => Kind.file.restored d.toJson := by
  intro v d h
  exact record_of_keeps keeps_of_build rfl (Json.ordered_inField (ordered_toJson d) _ _) h

end FileDocument

namespace SampleDocument

theorem keeps_of_build {g : Given} {d : SampleDocument} (h : build g = .ok d) :
    Keeps shape build g d.toJson (Kind.sample.restored d.toJson) d := by
  simp only [build, bind_eq_ok_iff] at h
  obtain ⟨_, hid, _, hotype, _, hsampleId, _, hname, _, hdescription, _, howner, _, hprojectId, _,
    hbirthtime, _, hmtime, _, hproperties, _, hfiles, hd⟩ := h
  cases hd
  refine ⟨?_, ⟨⟨_, hbirthtime, rfl⟩, ⟨_, hmtime, rfl⟩⟩, ?_⟩
  · simp only [shape, List.forall_mem_cons]
    exact ⟨takes_slot hid, takes_slot hotype, takes_need hsampleId, takes_slot hname,
      takes_slot hdescription, takes_slot howner, takes_slot hprojectId, takes_slot hbirthtime,
      takes_slot hmtime, takes_slot hproperties, takes_slot hfiles,
      fun _ hs => absurd hs List.not_mem_nil⟩
  · simp only [build, bind_eq_ok_iff]
    exact ⟨_, restores_text.optional rfl hid, _, restores_text.optional rfl hotype, _,
      restores_text.required hsampleId, _, restores_text.optional rfl hname, _,
      restores_text.optional rfl hdescription, _, restores_text.optional rfl howner, _,
      restores_text.optional rfl hprojectId, _, restores_date.optional rfl hbirthtime, _,
      restores_date.optional rfl hmtime, _,
      (restores_listOf Property.restores).optional rfl hproperties, _,
      (restores_eachItem SampleFile.restores).optional rfl hfiles, rfl⟩

theorem ordered_toJson (d : SampleDocument) : Fields.Ordered d.toJson.fields := by
  simp only [toJson, Json.fields, Fields.Ordered, Fields.keys, List.map_cons, List.map_nil]
  decide

theorem restores : Restores read fun d => Kind.sample.restored d.toJson := by
  intro v d h
  exact record_of_keeps keeps_of_build rfl (Json.ordered_inField (ordered_toJson d) _ _) h

end SampleDocument

namespace ProcessDocument

/-- The id of its own row is not written, so it is not read back. -/
theorem keeps_of_build {g : Given} {d : ProcessDocument} (h : build g = .ok d) :
    Keeps shape build g d.toJson d.toJson { d with id := "" } := by
  simp only [build, bind_eq_ok_iff] at h
  obtain ⟨_, hid, _, htype, _, hprocessId, _, hname, _, hprocessType, _, hdoesTransform, _, howner,
    _, hprojectId, _, hwhat, _, hwhy, _, hbirthtime, _, hmtime, _, hsetup, hd⟩ := h
  cases hd
  refine ⟨?_, ⟨⟨_, hbirthtime, rfl⟩, ⟨_, hmtime, rfl⟩⟩, ?_⟩
  · simp only [shape, List.forall_mem_cons]
    exact ⟨takes_slot hid, takes_slot htype, takes_need hprocessId, takes_slot hname,
      takes_slot hprocessType, takes_slot hdoesTransform, takes_slot howner, takes_slot hprojectId,
      takes_slot hwhat, takes_slot hwhy, takes_slot hbirthtime, takes_slot hmtime,
      takes_slot hsetup, fun _ hs => absurd hs List.not_mem_nil⟩
  · simp only [build, bind_eq_ok_iff]
    exact ⟨_, rfl, _, restores_text.optional rfl htype, _, restores_text.required hprocessId, _,
      restores_text.optional rfl hname, _, restores_text.optional rfl hprocessType, _,
      restores_truth.optional rfl hdoesTransform, _, restores_text.optional rfl howner, _,
      restores_text.optional rfl hprojectId, _, restores_text.optional rfl hwhat, _,
      restores_text.optional rfl hwhy, _, restores_date.optional rfl hbirthtime, _,
      restores_date.optional rfl hmtime, _,
      (restores_listOf SetupProperty.restores).optional rfl hsetup, rfl⟩

theorem ordered_toJson (d : ProcessDocument) : Fields.Ordered d.toJson.fields := by
  simp only [toJson, Json.fields, Fields.Ordered, Fields.keys, List.map_cons, List.map_nil]
  decide

theorem read_toJson_of_read {v : Json} {d : ProcessDocument} (h : read v = .ok d) :
    read d.toJson = .ok { d with id := "" } :=
  record_of_keeps keeps_of_build rfl (ordered_toJson d) h

end ProcessDocument

namespace ProjectDocument

theorem keeps_of_build {g : Given} {d : ProjectDocument} (h : build g = .ok d) :
    Keeps shape build g d.toJson d.toJson d := by
  simp only [build, bind_eq_ok_iff] at h
  obtain ⟨_, hid, _, htype, _, hname, _, hdescription, _, hdatadir, _, howner, _, hbirthtime, _,
    hmtime, hd⟩ := h
  cases hd
  refine ⟨?_, ⟨⟨_, hbirthtime, rfl⟩, ⟨_, hmtime, rfl⟩⟩, ?_⟩
  · simp only [shape, List.forall_mem_cons]
    exact ⟨takes_need hid, takes_slot htype, takes_slot hname, takes_slot hdescription,
      takes_slot hdatadir, takes_slot howner, takes_slot hbirthtime, takes_slot hmtime,
      fun _ hs => absurd hs List.not_mem_nil⟩
  · simp only [build, bind_eq_ok_iff]
    exact ⟨_, restores_text.required hid, _, restores_text.optional rfl htype, _,
      restores_text.optional rfl hname, _, restores_text.optional rfl hdescription, _,
      restores_text.optional rfl hdatadir, _, restores_text.optional rfl howner, _,
      restores_date.optional rfl hbirthtime, _, restores_date.optional rfl hmtime, rfl⟩

theorem ordered_toJson (d : ProjectDocument) : Fields.Ordered d.toJson.fields := by
  simp only [toJson, Json.fields, Fields.Ordered, Fields.keys, List.map_cons, List.map_nil]
  decide

theorem restores : Restores read toJson := by
  intro v d h
  exact record_of_keeps keeps_of_build rfl (ordered_toJson d) h

end ProjectDocument

namespace UserDocument

theorem keeps_of_build {g : Given} {d : UserDocument} (h : build g = .ok d) :
    Keeps shape build g d.toJson d.toJson d := by
  simp only [build, bind_eq_ok_iff] at h
  obtain ⟨_, hid, _, htype, _, hemail, _, hfullname, _, hadmin, _, havatar, _, hdescription, _,
    haffiliation, _, hhomepage, _, hbirthtime, _, hmtime, hd⟩ := h
  cases hd
  refine ⟨?_, ⟨⟨_, hbirthtime, rfl⟩, ⟨_, hmtime, rfl⟩⟩, ?_⟩
  · simp only [shape, List.forall_mem_cons]
    exact ⟨takes_need hid, takes_slot htype, takes_slot hemail, takes_slot hfullname,
      takes_slot hadmin, takes_slot havatar, takes_slot hdescription, takes_slot haffiliation,
      takes_slot hhomepage, takes_slot hbirthtime, takes_slot hmtime,
      fun _ hs => absurd hs List.not_mem_nil⟩
  · simp only [build, bind_eq_ok_iff]
    exact ⟨_, restores_text.required hid, _, restores_text.optional rfl htype, _,
      restores_text.optional rfl hemail, _, restores_text.optional rfl hfullname, _,
      restores_truth.optional rfl hadmin, _, restores_text.optional rfl havatar, _,
      restores_text.optional rfl hdescription, _, restores_text.optional rfl haffiliation, _,
      restores_text.optional rfl hhomepage, _, restores_date.optional rfl hbirthtime, _,
      restores_date.optional rfl hmtime, rfl⟩

theorem ordered_toJson (d : UserDocument) : Fields.Ordered d.toJson.fields := by
  simp only [toJson, Json.fields, Fields.Ordered, Fields.keys, List.map_cons, List.map_nil]
  decide

theorem restores : Restores read toJson := by
  intro v d h
  exact record_of_keeps keeps_of_build rfl (ordered_toJson d) h

end UserDocument

/-! ## 3. Documents -/

namespace Document

/-- What is left of a document when it is written: all but the id of a process's own row. -/
def stored : Document → Document
  | .process d => .process { d with id := "" }
  | d => d

@[simp] theorem kind_stored (d : Document) : d.stored.kind = d.kind := by cases d <;> rfl

@[simp] theorem toJson_stored (d : Document) : d.stored.toJson = d.toJson := by cases d <;> rfl

variable {k : Kind} {row : Json} {d : Document}

/-- **A written document is read back** as what is left of it. -/
theorem read_restored (h : read k row = .ok d) : read k (k.restored d.toJson) = .ok d.stored := by
  cases k with
  | file =>
      obtain ⟨f, hf, rfl⟩ := exists_of_map_eq_ok h
      exact congrArg (Except.map file) (FileDocument.restores row f hf)
  | sample =>
      obtain ⟨s, hs, rfl⟩ := exists_of_map_eq_ok h
      exact congrArg (Except.map sample) (SampleDocument.restores row s hs)
  | process =>
      obtain ⟨p, hp, rfl⟩ := exists_of_map_eq_ok h
      exact congrArg (Except.map process) (ProcessDocument.read_toJson_of_read hp)
  | project =>
      obtain ⟨p, hp, rfl⟩ := exists_of_map_eq_ok h
      exact congrArg (Except.map project) (ProjectDocument.restores row p hp)
  | user =>
      obtain ⟨u, hu, rfl⟩ := exists_of_map_eq_ok h
      exact congrArg (Except.map user) (UserDocument.restores row u hu)

theorem dates_of_read (h : read k row = .ok d) : Given.Dates (k.shape.value? row) d.toJson := by
  cases k with
  | file =>
      obtain ⟨f, hf, rfl⟩ := exists_of_map_eq_ok h
      exact (FileDocument.keeps_of_build (build_of_record hf)).dates
  | sample =>
      obtain ⟨s, hs, rfl⟩ := exists_of_map_eq_ok h
      exact (SampleDocument.keeps_of_build (build_of_record hs)).dates
  | process =>
      obtain ⟨p, hp, rfl⟩ := exists_of_map_eq_ok h
      exact (ProcessDocument.keeps_of_build (build_of_record hp)).dates
  | project =>
      obtain ⟨p, hp, rfl⟩ := exists_of_map_eq_ok h
      exact (ProjectDocument.keeps_of_build (build_of_record hp)).dates
  | user =>
      obtain ⟨u, hu, rfl⟩ := exists_of_map_eq_ok h
      exact (UserDocument.keeps_of_build (build_of_record hu)).dates

/-- **Documents are stored in normal form.** What is written of a document is read as a document of
    its kind that is written the same; and a date that its row gives in any accepted spelling is
    written in UTC, accepted again and the same instant. -/
theorem normal_form {k : Kind} {row : Json} {d : Document} (h : read k row = .ok d) :
    (∃ d', read k (k.restored d.toJson) = .ok d' ∧ d'.kind = d.kind ∧ d'.toJson = d.toJson) ∧
    ∀ column ∈ ["birthtime", "mtime"], ∀ text, k.shape.value? row column = some (.str text) →
      ∃ t : Timestamp, d.toJson.get? column = some (.str t.text) ∧ t.Restates text := by
  refine ⟨⟨d.stored, read_restored h, kind_stored d, toJson_stored d⟩, ?_⟩
  have hdates := dates_of_read h
  intro column hcolumn text htext
  have hgiven : ∃ t, Given.optional (k.shape.value? row) column date none = .ok t ∧
      d.toJson.get? column = some (dateJson t) := by
    simp only [List.mem_cons, List.not_mem_nil, or_false] at hcolumn
    rcases hcolumn with rfl | rfl
    · exact hdates.birthtime
    · exact hdates.mtime
  obtain ⟨t, ht, hwritten⟩ := hgiven
  obtain ⟨u, rfl, hu⟩ := Given.restates_of_optional ht htext
  exact ⟨u, hwritten, hu⟩

/-- A row that gives a leap second west of UTC, with ten digits of a fraction, and a year of five
    digits with a sign. -/
def leapRow : Json := .obj [
  ("birthtime", .str "2016-12-31T23:59:60.1234567891-01:00"),
  ("files", .arr [.obj [
    ("datafile_id", .str "f1"),
    ("tags", .arr [.obj [("tag_id", .str "alloy")]])]]),
  ("mtime", .str "+12345-1-1 0:00:00 UTC"),
  ("sample_id", .str "s1")]

/-- The document that is read from it. -/
def leapDocument : Document := .sample {
  id := "", discriminant := "sample", sampleId := "s1", name := "", description := "", owner := "",
  projectId := "", properties := [],
  birthtime := some ⟨⟨2017, 1, 1⟩, 0, 59, 60, 123456789⟩,
  mtime := some ⟨⟨12345, 1, 1⟩, 0, 0, 0, 0⟩,
  files := [⟨"f1", "", {}, 0, "", [⟨"alloy"⟩], [], ""⟩] }

theorem normal_form_leapRow :
    read .sample leapRow = .ok leapDocument ∧
    (∃ d', read .sample (Kind.sample.restored leapDocument.toJson) = .ok d' ∧
      d'.kind = .sample ∧ d'.toJson = leapDocument.toJson) ∧
    ∃ t : Timestamp, leapDocument.toJson.get? "birthtime" = some (.str t.text) ∧
      t.Restates "2016-12-31T23:59:60.1234567891-01:00" := by
  have hbirthtime : Timestamp.parse "2016-12-31T23:59:60.1234567891-01:00" =
      .ok ⟨⟨2017, 1, 1⟩, 0, 59, 60, 123456789⟩ := by decide +kernel
  have hmtime : Timestamp.parse "+12345-1-1 0:00:00 UTC" = .ok ⟨⟨12345, 1, 1⟩, 0, 0, 0, 0⟩ := by
    decide +kernel
  have hread : read .sample leapRow = .ok leapDocument := by
    refine congrArg (Except.map sample)
      (record_of_build (fun h => (SampleDocument.keeps_of_build h).takes) rfl ?_ ?_)
    · simp only [leapRow, Json.fields, Fields.Ordered, Fields.keys, List.map_cons, List.map_nil]
      decide
    · simp only [SampleDocument.build, bind_eq_ok_iff]
      exact ⟨_, rfl, _, rfl, _, rfl, _, rfl, _, rfl, _, rfl, _, rfl, _,
        date_str_eq_ok_iff.mpr ⟨_, hbirthtime, rfl⟩, _,
        date_str_eq_ok_iff.mpr ⟨_, hmtime, rfl⟩, _, rfl, _, rfl, rfl⟩
  obtain ⟨hagain, hdates⟩ := normal_form hread
  exact ⟨hread, hagain, hdates "birthtime" (by simp) _ rfl⟩

end Document

end LabIndex
