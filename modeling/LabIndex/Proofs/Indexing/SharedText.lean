import LabIndex.Proofs.Indexing.Contents
import LabIndex.Proofs.Indexing.Scopes

/-!
# One text for a file

A data file is indexed as a document of its own and inside the documents of its samples. Both come
to the same row of the file, along different joins, and in both a text is put in that is found by
the file's id, alias, media type and size. Where the row brings these columns itself, nothing that
it is laid over can change them, and so the text is the same.

* `Extractor.recordedText`: the text for a file whose columns are given;
* `Store.Recorded.recordedText_eq`: the row of a file hides the rows that it is laid over;
* `Indexers.contents_of_request?_file`, `Indexers.contents_of_request?_sample`: the texts in one
  document;
* `Indexers.contents_of_recorded`: the text in all documents of files and of samples.
-/

namespace LabIndex

open Shape

/-! ## 1. Texts by columns -/

/-- The columns that the text for a file is found by, besides its id. -/
def recordedColumns : List String := ["usesid", "mediatype", "size"]

/-- The text for the file of an id, by the columns that are given for it. -/
def Extractor.recordedText (x : Extractor) (id : String) (g : Given) : Except Mismatch String := do
  let usesId ← g.required "usesid" Shape.text
  let mediaType ← g.required "mediatype" MediaType.read
  let size ← g.required "size" Shape.size
  return x.textFor (.of id usesId) mediaType.mime size

section Given

variable {α : Type} {g g' : Given} {x : Extractor} {id : String}

/-- The default of a field that is given does not matter. -/
theorem Shape.Given.required_of_optional {name : String} {read : Reader α} {default a : α}
    (hg : (g name).isSome) (h : g.optional name read default = .ok a) :
    g.required name read = .ok a := by
  obtain ⟨v, hv⟩ := Option.isSome_iff_exists.mp hg
  rw [Given.optional, hv] at h
  rw [Given.required, hv]
  exact h

theorem Extractor.recordedText_eq_ok {usesId : String} {mediaType : MediaType} {size : Int}
    (huses : g.required "usesid" Shape.text = .ok usesId)
    (hmedia : g.required "mediatype" MediaType.read = .ok mediaType)
    (hsize : g.required "size" Shape.size = .ok size) :
    x.recordedText id g = .ok (x.textFor (.of id usesId) mediaType.mime size) := by
  rw [recordedText, huses, hmedia, hsize]
  rfl

theorem Extractor.recordedText_congr (h : ∀ c ∈ recordedColumns, g c = g' c) :
    x.recordedText id g = x.recordedText id g' := by
  simp only [recordedColumns, List.forall_mem_cons] at h
  obtain ⟨husesId, hmedia, hsize, -⟩ := h
  simp only [recordedText, Given.required, husesId, hmedia, hsize]

/-- **The text that is put into the document of a file.** -/
theorem FileDocument.recordedText_of_build {d : FileDocument}
    (hg : ∀ c ∈ recordedColumns, (g c).isSome) (h : FileDocument.build g = .ok d) :
    x.recordedText d.id g = .ok (x.textFor d.identity d.mediaType.mime d.size) := by
  simp only [FileDocument.build, bind_eq_ok_iff] at h
  obtain ⟨_, _, _, _, _, _, _, _, _, _, mediaType, hmedia, _, _, _, _, size, hsize, _, _, _, _,
    usesId, huses, h⟩ := h
  repeat obtain ⟨_, _, h⟩ := h
  exact Extractor.recordedText_eq_ok (Given.required_of_optional (hg _ (by decide)) huses)
    (Given.required_of_optional (hg _ (by decide)) hmedia)
    (Given.required_of_optional (hg _ (by decide)) hsize)

/-- **The text that is put into a file of a sample.** -/
theorem SampleFile.recordedText_of_build {f : SampleFile} (hg : ∀ c ∈ recordedColumns, (g c).isSome)
    (h : SampleFile.build g = .ok f) :
    x.recordedText f.datafileId g = .ok (x.textFor f.identity f.mediaType.mime f.size) := by
  simp only [SampleFile.build, bind_eq_ok_iff] at h
  obtain ⟨_, _, _, _, mediaType, hmedia, size, hsize, usesId, huses, h⟩ := h
  repeat obtain ⟨_, _, h⟩ := h
  exact Extractor.recordedText_eq_ok (Given.required_of_optional (hg _ (by decide)) huses)
    (Given.required_of_optional (hg _ (by decide)) hmedia)
    (Given.required_of_optional (hg _ (by decide)) hsize)

theorem SampleFile.datafileId_of_build {f : SampleFile} (h : SampleFile.build g = .ok f) :
    g "datafile_id" = some (.str f.datafileId) := by
  simp only [SampleFile.build, bind_eq_ok_iff] at h
  obtain ⟨id, hid, h⟩ := h
  repeat obtain ⟨_, _, h⟩ := h
  exact Given.required_text hid

/-- The files of a sample that was read are those of a list that was given. -/
theorem SampleDocument.files_of_build {d : SampleDocument} {items : List Json}
    (hg : g "files" = some (.arr items)) (h : SampleDocument.build g = .ok d) :
    elements SampleFile.read items = .ok d.files := by
  simp only [SampleDocument.build, bind_eq_ok_iff] at h
  obtain ⟨_, _, _, _, _, _, _, _, _, _, _, _, _, _, _, _, _, _, _, _, files, hfiles, h⟩ := h
  cases h
  rwa [Given.optional, hg] at hfiles

end Given

/-- A list that was read has only elements that were read. -/
theorem Shape.exists_mem_of_elements {α : Type} {read : Reader α} {items : List Json} {xs : List α}
    (h : elements read items = .ok xs) : ∀ x ∈ xs, ∃ item ∈ items, read item = .ok x := by
  induction items generalizing xs with
  | nil =>
      cases h
      exact nofun
  | cons item rest ih =>
      rw [elements] at h
      split at h
      · cases h
      · rename_i y hy
        split at h
        · cases h
        · rename_i ys hys
          cases h
          intro x hx
          rcases List.mem_cons.mp hx with rfl | hx
          · exact ⟨item, List.mem_cons_self, hy⟩
          · obtain ⟨z, hz, hread⟩ := ih hys x hx
            exact ⟨z, List.mem_cons_of_mem item hz, hread⟩

/-! ## 2. The row of a file -/

namespace Store

variable {s : Store} {id : String} {row : Json} {x : Extractor}

/-- **The one row of a file**, which records what the file's text is found by. -/
structure Recorded (s : Store) (id : String) (row : Json) : Prop where
  /-- No other row has that id in key form. -/
  only : withKey "id" id (s.table "datafiles") = [row]
  id : row.get? "id" = some (.str id)
  records : ∀ c ∈ recordedColumns, (row.get? c).isSome

/-- What lies over other rows under the file's id is its row. -/
theorem Recorded.eq_of_key (h : s.Recorded id row) {r : Json} (hr : r ∈ s.table "datafiles")
    (hkey : r.key "id" = some id) : r = row :=
  List.mem_singleton.mp (h.only ▸ mem_withKey.mpr ⟨hr, hkey⟩)

/-- **The row of a file hides what it lies over**: the columns for its text are its own. -/
theorem Recorded.recordedText_eq {l r : Fields} (h : s.Recorded id (.obj r))
    (ho : Fields.Ordered r) {g : Given}
    (hg : ∀ c ∈ recordedColumns, g c = (Row.overlaid (.obj l) (.obj r)).get? c) :
    (∀ c ∈ recordedColumns, (g c).isSome) ∧
      x.recordedText id g = x.recordedText id fun c => (Json.obj r).get? c := by
  have hsame : ∀ c ∈ recordedColumns, g c = (Json.obj r).get? c := by
    intro c hc
    rw [hg c hc, Row.get?_overlaid ho]
    exact Option.or_of_isSome (h.records c hc)
  exact ⟨fun c hc => hsame c hc ▸ h.records c hc, Extractor.recordedText_congr hsame⟩

/-- A row of the files is one in their table, laid over other rows. -/
theorem exists_overlaid_of_mem_rowsOf (hs : s.Sorted) {scope : Scope}
    (h : row ∈ s.rowsOf .file scope) :
    ∃ (l r : Fields) (key : String), .obj r ∈ s.table "datafiles" ∧
      (Json.obj r).key "id" = some key ∧ Fields.Ordered r ∧
      row = Row.overlaid (.obj l) (.obj r) := by
  obtain ⟨member, -, h⟩ := List.mem_flatMap.mp h
  obtain ⟨link, -, h⟩ := List.mem_flatMap.mp h
  obtain ⟨directory, -, h⟩ := List.mem_flatMap.mp h
  obtain ⟨l, r, key, -, hmem, -, hkey, ho, rfl⟩ := exists_fields_of_mem_joined hs h
  exact ⟨l, r, key, hmem, hkey, ho, rfl⟩

/-- What a zipped join yields are joined rows. -/
theorem exists_of_eval_zip_eqJoin {q : Query} {outer : Option Json} {field table index : String}
    {found : List Json} (h : s.eval outer (.zip (.eqJoin q field table index)) = .ok found) :
    ∃ lefts : List Json, found = lefts.flatMap (s.joined field table index) := by
  have htable : (s.rows? table).isSome := isSome_of_eval h table (by simp [Query.spine])
  obtain ⟨pairs, hpairs, -⟩ := bind_eq_ok_iff.mp ((eval.eq_def ..).symm.trans h)
  obtain ⟨lefts, hlefts, -⟩ := bind_eq_ok_iff.mp ((eval.eq_def ..).symm.trans hpairs)
  rw [eval_zip_eqJoin hlefts htable] at h
  exact ⟨lefts, (Except.ok.inj h).symm⟩

/-- The files that are attached to the row of a sample are rows of their table, laid over links. -/
theorem exists_files_of_attachAll {fs : Fields} {full : Json}
    (h : s.attachAll Kind.sample.attachments (.obj fs) = .ok full) :
    ∃ lefts : List Json, full.get? "files" =
      some (.arr (lefts.flatMap (s.joined "datafile_id" "datafiles" "id"))) := by
  rw [Kind.attachments, Kind.propertiesAndFiles, attachAll, bind_eq_ok_iff] at h
  obtain ⟨properties, -, h⟩ := h
  rw [attachAll, bind_eq_ok_iff] at h
  obtain ⟨files, hfiles, h⟩ := h
  obtain ⟨lefts, rfl⟩ := exists_of_eval_zip_eqJoin hfiles
  rw [attachAll] at h
  cases h
  exact ⟨lefts, Fields.get?_put_self ..⟩

end Store

/-! ## 3. Documents -/

namespace Indexers

variable {x : Indexers} {s : Store} {id : String} {row : Json} {r : Request}

/-- **The text in the document of a file** is the one for its row. -/
theorem contents_of_request?_file (hs : s.Sorted) (h : s.Recorded id row) {joinedRow : Json}
    {scope : Scope} (hrow : joinedRow ∈ s.rowsOf .file scope)
    (hr : x.request? s .file joinedRow = some r) (hid : r.id = id) :
    ∃ text, r.document.get? "contents" = some (.str text) ∧
      x.extractor.recordedText id (fun c => row.get? c) = .ok text := by
  obtain ⟨full, document, hfull, hd, rfl⟩ := exists_document_of_request? hr
  obtain ⟨d, hread, rfl⟩ := exists_of_map_eq_ok hd
  obtain ⟨l, own, key, hmem, hkey, ho, rfl⟩ := Store.exists_overlaid_of_mem_rowsOf hs hrow
  obtain ⟨fs, rfl, hfs⟩ := Store.get?_of_attachAll hfull
  have hbuild := build_of_record hread
  -- the document has its id from the row of the file
  have hgiven : (Row.overlaid (.obj l) (.obj own)).get? "id" = some (.str id) := by
    rw [← hid]
    exact (hfs "id" (by decide)).symm.trans (FileDocument.id_of_build hbuild)
  have hsame : some key = some id :=
    (Row.key_overlaid_of_right ho hkey).symm.trans (Json.key_eq_of_text hgiven)
  obtain rfl := h.eq_of_key hmem (hkey.trans hsame)
  obtain ⟨hrecords, htext⟩ := h.recordedText_eq (x := x.extractor) (l := l) ho
    (g := FileDocument.shape.value? (.obj fs)) fun c hc => hfs c (by revert c; decide)
  refine ⟨_, rfl, ?_⟩
  rw [← htext, ← hid]
  exact FileDocument.recordedText_of_build hrecords hbuild

/-- **The text for a file of a sample** is the one for its row: the link to the file names it, and
    the row does not take that name back. -/
theorem recordedText_of_sampleFile (hs : s.Sorted) (h : s.Recorded id row)
    (hnone : ∀ other ∈ s.table "datafiles", other.get? "datafile_id" = none) {link item : Json}
    (hitem : item ∈ s.joined "datafile_id" "datafiles" "id" link) {f : SampleFile}
    (hread : SampleFile.read item = .ok f) (hid : f.datafileId = id) :
    x.extractor.recordedText id (fun c => row.get? c) =
      .ok (x.extractor.textFor f.identity f.mediaType.mime f.size) := by
  obtain ⟨l, own, key, rfl, hmem, hlink, hkey, ho, rfl⟩ :=
    Store.exists_fields_of_mem_joined hs hitem
  have hbuild := build_of_record hread
  have hgiven : (Row.overlaid (.obj l) (.obj own)).get? "datafile_id" = some (.str id) :=
    hid ▸ SampleFile.datafileId_of_build hbuild
  have hsame : some key = some id := by
    rw [← hlink, ← Row.key_overlaid_of_none ho (hnone _ hmem), Json.key_eq_of_text hgiven]
  obtain rfl := h.eq_of_key hmem (hkey.trans hsame)
  obtain ⟨hrecords, htext⟩ := h.recordedText_eq (x := x.extractor) (l := l) ho
    (g := SampleFile.shape.value? (Row.overlaid (.obj l) (.obj own))) fun c _ => rfl
  rw [← htext, ← hid]
  exact SampleFile.recordedText_of_build hrecords hbuild

/-- **The texts in the document of a sample** are those for the rows of its files. -/
theorem contents_of_request?_sample (hs : s.Sorted) (h : s.Recorded id row)
    (hnone : ∀ other ∈ s.table "datafiles", other.get? "datafile_id" = none) {joinedRow : Json}
    {scope : Scope} (hrow : joinedRow ∈ s.rowsOf .sample scope)
    (hr : x.request? s .sample joinedRow = some r) :
    ∃ items, r.document.get? "files" = some (.arr items) ∧
      ∀ item ∈ items, item.get? "datafile_id" = some (.str id) →
        ∃ text, item.get? "contents" = some (.str text) ∧
          x.extractor.recordedText id (fun c => row.get? c) = .ok text := by
  obtain ⟨full, document, hfull, hd, rfl⟩ := exists_document_of_request? hr
  obtain ⟨d, hread, rfl⟩ := exists_of_map_eq_ok hd
  obtain ⟨member, -, hexpand⟩ := List.mem_flatMap.mp hrow
  obtain ⟨fs, rfl⟩ := (Store.exists_obj_of_mem_expand hexpand).resolve_right nofun
  obtain ⟨lefts, hfiles⟩ := Store.exists_files_of_attachAll hfull
  obtain ⟨fs', rfl, -⟩ := Store.get?_of_attachAll hfull
  have helements := SampleDocument.files_of_build hfiles (build_of_record hread)
  refine ⟨_, rfl, ?_⟩
  intro item hitem hid
  obtain ⟨f', hf', rfl⟩ := List.mem_map.mp hitem
  obtain ⟨f, hf, rfl⟩ := List.mem_map.mp hf'
  obtain ⟨source, hsource, hfile⟩ := exists_mem_of_elements helements f hf
  obtain ⟨link, -, hjoined⟩ := List.mem_flatMap.mp hsource
  exact ⟨_, rfl, recordedText_of_sampleFile hs h hnone hjoined hfile
    (Json.str.inj (Option.some.inj hid))⟩

/-- **A file has one text.** Where the row of a file records the file's alias, media type and size,
and no row of the files names another file, all documents of the file and all documents of samples
have the same text for it, whatever is run and however often. It is the text for the columns of that
row. -/
theorem contents_of_recorded (hs : s.Sorted) (hx : x.source = .ofStore s)
    (h : s.Recorded id row)
    (hnone : ∀ other ∈ s.table "datafiles", other.get? "datafile_id" = none) :
    ∃ text,
      (∀ recorded, x.extractor.recordedText id (fun c => row.get? c) = .ok recorded →
        text = recorded) ∧
      (∀ (σ : Type) (b : Backend σ) scope state, ∀ r ∈ x.submitted b .file scope state, r.id = id →
        r.document.get? "contents" = some (.str text)) ∧
      ∀ (σ : Type) (b : Backend σ) scope state, ∀ r ∈ x.submitted b .sample scope state,
        ∃ items, r.document.get? "files" = some (.arr items) ∧
          ∀ f ∈ items, f.get? "datafile_id" = some (.str id) →
            f.get? "contents" = some (.str text) := by
  -- if the row records no text no document has one
  refine ⟨(x.extractor.recordedText id fun c => row.get? c).toOption.getD "", ?_, ?_, ?_⟩
  · intro recorded hrecorded
    rw [hrecorded]
    rfl
  · intro σ b scope state r hr hid
    obtain ⟨joinedRow, hrow, hrequest⟩ := exists_row_of_mem_submitted hx hr
    obtain ⟨text, hcontents, hrecorded⟩ := contents_of_request?_file hs h hrow hrequest hid
    rw [hrecorded]
    exact hcontents
  · intro σ b scope state r hr
    obtain ⟨joinedRow, hrow, hrequest⟩ := exists_row_of_mem_submitted hx hr
    obtain ⟨items, hitems, hall⟩ := contents_of_request?_sample hs h hnone hrow hrequest
    refine ⟨items, hitems, fun f hf hid => ?_⟩
    obtain ⟨text, hcontents, hrecorded⟩ := hall f hf hid
    rw [hrecorded]
    exact hcontents

end Indexers

/-- The row of an aliased file. -/
def Store.aliasedRow : Json :=
  .obj [("id", .str "f-0a1b"), ("mediatype", .obj [("mime", .str "text/plain")]),
    ("size", .ofNat 3), ("usesid", .str "x-abcd-y")]

/-- A file of a project and of a sample. The links to it have an alias, a media type and a size of
    their own. -/
def Store.sharedFile : Store :=
  filled [
    ("projects", [.obj [("id", .str "p-1")]]),
    ("project2datafile",
      [.obj [("datafile_id", .str "f-0a1b"), ("project_id", .str "p-1"), ("usesid", .str "")]]),
    ("datadir2datafile",
      [.obj [("datadir_id", .str "d-1"), ("datafile_id", .str "f-0a1b"), ("size", .ofNat 99)]]),
    ("datadirs", [.obj [("id", .str "d-1"), ("mediatype", .obj []), ("name", .str "tests")]]),
    ("datafiles", [aliasedRow]),
    ("project2sample", [.obj [("project_id", .str "p-1"), ("sample_id", .str "s-1")]]),
    ("samples", [.obj [("id", .str "s-1")]]),
    ("sample2datafile", [.obj [("datafile_id", .str "f-0a1b"), ("id", .str "l-1"),
      ("sample_id", .str "s-1"), ("size", .ofNat 99), ("usesid", .str "z-9999")]])]

/-- Bytes in the place of the alias alone. -/
def Extractor.aliasedBytes : Extractor :=
  ⟨⟨"/data", [], []⟩,
    fun path =>
      if path = "/data/ab/cd/x-abcd-y" then some (.readable ⟨[51, 54, 48], false⟩) else none,
    fun _ => .ok "", 10⟩

namespace Indexers

/-- What the links say of the file's alias and size is not heard. -/
theorem contents_of_recorded_sharedFile :
    let x := (onStore .sharedFile).extracting .aliasedBytes
    Store.sharedFile.Sorted ∧ x.source = .ofStore .sharedFile ∧
      Store.sharedFile.Recorded "f-0a1b" Store.aliasedRow ∧
      (∀ other ∈ Store.sharedFile.table "datafiles", other.get? "datafile_id" = none) ∧
      (x.submitted .accepting .file .all ()).map (·.id) = ["f-0a1b"] ∧
      (x.submitted .accepting .sample .all ()).map (·.id) = ["s-1"] ∧
      (∀ r ∈ x.submitted .accepting .file .all (), r.id = "f-0a1b" →
        r.document.get? "contents" = some (.str "360")) ∧
      ∀ r ∈ x.submitted .accepting .sample .all (),
        ∃ items, r.document.get? "files" = some (.arr items) ∧
          ∀ f ∈ items, f.get? "datafile_id" = some (.str "f-0a1b") →
            f.get? "contents" = some (.str "360") := by
  intro x
  have hs : Store.sharedFile.Sorted := Store.sorted_filled (by decide)
  have hrecorded : Store.sharedFile.Recorded "f-0a1b" Store.aliasedRow :=
    ⟨rfl, rfl, by decide⟩
  have hnone : ∀ other ∈ Store.sharedFile.table "datafiles", other.get? "datafile_id" = none := by
    decide
  have htext : x.extractor.recordedText "f-0a1b" (fun c => Store.aliasedRow.get? c) = .ok "360" := by
    decide +kernel
  obtain ⟨text, hrecordedText, hfile, hsample⟩ :=
    contents_of_recorded (x := x) hs rfl hrecorded hnone
  obtain rfl := hrecordedText _ htext
  exact ⟨hs, rfl, hrecorded, hnone, by decide +kernel, by decide +kernel,
    hfile Unit .accepting .all (), hsample Unit .accepting .all ()⟩

end Indexers

end LabIndex
