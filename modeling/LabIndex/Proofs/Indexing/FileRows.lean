import LabIndex.Proofs.Indexing.Scopes
import Mathlib.Data.List.Forall2

/-!
# The rows that files are made from

The full query of the files, without its operators. A file is come to along a trail of five rows,
one of each table from the projects to the files, in which each row is linked to those before it.
The query yields one row for each trail, in the lexicographic order of the tables: the columns of
the five rows, a later row's over an earlier one's, with the file's tags and notes.

* `FileTrail.linked`, `FileTrail.columns`: which rows are linked, and the columns they come to;
* `Store.forall₂_joinedWith`: one join, followed row by row;
* `Store.forall₂_rowsOf_file`: the joined rows, trail by trail;
* `Store.execute_fileQuery`: the query never fails and yields the rows of the trails.
-/

namespace LabIndex

/-! ## 1. Columns -/

/-- Values by the names of columns. -/
abbrev Columns := String → Option Json

namespace Columns

/-- Columns over others: where both have a value the former's is taken. -/
def atop (new old : Columns) : Columns := fun c => (new c).or (old c)

/-- One column of several. -/
def only (column : String) (cols : Columns) : Columns :=
  fun c => if c = column then cols c else none

/-- Some columns of several. -/
def among (columns : List String) (cols : Columns) : Columns :=
  fun c => if c ∈ columns then cols c else none

theorem among_singleton (column : String) (cols : Columns) :
    among [column] cols = only column cols := by
  funext c
  simp only [among, only, List.mem_singleton]

/-- Columns of which one is set to the value of another, if that has one. -/
def copied (origin target : String) (cols : Columns) : Columns :=
  fun c => if c = target then (cols origin).or (cols target) else cols c

/-- Columns of which one is set to a value. -/
def set (column : String) (value : Json) (cols : Columns) : Columns :=
  fun c => if c = column then some value else cols c

end Columns

namespace Json

/-- Two columns hold the same key: two strings if they are equal, a string and another value if it
    is the value's text, and two other values if their texts are equal. What is null or absent is not
    the same as anything. -/
def sameKey : Option Json → Option Json → Bool
  | none, _ => false
  | _, none => false
  | some .null, _ => false
  | _, some .null => false
  | some (.str s), some (.str t) => s == t
  | some (.str s), some v => s == v.text
  | some v, some (.str s) => v.text == s
  | some v, some w => v.text == w.text

/-- Columns hold the same key if they have one key form. -/
theorem sameKey_eq (a b : Option Json) :
    sameKey a b = ((keyForm a).isSome && keyForm a == keyForm b) := by
  cases a with
  | none => cases b <;> rfl
  | some v =>
      cases b with
      | none => cases v <;> rfl
      | some w => cases v <;> cases w <;> simp [sameKey, keyForm]

/-- A row is an object, its columns are in order, and they are these. -/
def HasColumns (row : Json) (cols : Columns) : Prop :=
  ∃ fs : Fields, row = .obj fs ∧ Fields.Ordered fs ∧ ∀ c, Fields.get? c fs = cols c

/-- The columns of a row that a table holds. -/
theorem hasColumns_get? {fs : Fields} (h : Fields.Ordered fs) :
    (obj fs).HasColumns (obj fs).get? := ⟨fs, rfl, h, fun _ => rfl⟩

theorem HasColumns.get? {row : Json} {cols : Columns} (h : row.HasColumns cols) (column : String) :
    row.get? column = cols column := by
  obtain ⟨fs, rfl, -, hfs⟩ := h
  exact hfs column

theorem HasColumns.key {row : Json} {cols : Columns} (h : row.HasColumns cols) (column : String) :
    row.key column = keyForm (cols column) := by
  rw [Json.key, h.get?]

theorem HasColumns.set {row : Json} {cols : Columns} (h : row.HasColumns cols) (column : String)
    (items : List Json) :
    (Row.attach column items row).HasColumns (cols.set column (.arr items)) := by
  obtain ⟨fs, rfl, ho, hfs⟩ := h
  refine ⟨_, rfl, Fields.ordered_put ho _ _, fun c => ?_⟩
  rw [Columns.set, ← hfs c]
  split
  · rename_i hc
    rw [hc, Fields.get?_put_self]
  · rename_i hc
    rw [Fields.get?_put_of_ne hc]

/-- The columns that a projection comes to, put one after the other over those there are. -/
theorem ordered_pluck (fs : Fields) (columns : List String) {acc : Fields}
    (h : Fields.Ordered acc) :
    let kept := columns.foldl (fun acc f =>
      match Fields.get? f fs with
      | some v => Fields.put f v acc
      | none => acc) acc
    Fields.Ordered kept ∧ ∀ c, Fields.get? c kept =
      if c ∈ columns then (Fields.get? c fs).or (Fields.get? c acc) else Fields.get? c acc := by
  induction columns generalizing acc with
  | nil => exact ⟨h, fun c => by simp⟩
  | cons f rest ih =>
      cases hv : Fields.get? f fs with
      | none =>
          obtain ⟨ho, hget⟩ := ih h
          simp only [List.foldl_cons, hv]
          refine ⟨ho, fun c => (hget c).trans ?_⟩
          by_cases hc : c = f
          · subst hc
            simp [hv]
          · simp [hc]
      | some v =>
          obtain ⟨ho, hget⟩ := ih (Fields.ordered_put h f v)
          simp only [List.foldl_cons, hv]
          refine ⟨ho, fun c => (hget c).trans ?_⟩
          by_cases hc : c = f
          · subst hc
            simp [hv, Fields.get?_put_self]
          · simp [hc, Fields.get?_put_of_ne hc]

/-- **The columns that a projection keeps.** -/
theorem hasColumns_pluck_among (columns : List String) (fs : Fields) :
    (Row.pluck columns (.obj fs)).HasColumns (.among columns (Json.obj fs).get?) := by
  obtain ⟨ho, hget⟩ := ordered_pluck fs columns Fields.ordered_nil
  refine ⟨_, rfl, ho, fun c => (hget c).trans ?_⟩
  rw [Columns.among, Json.get?]
  simp [Fields.get?]

theorem HasColumns.pluck {row : Json} {cols : Columns} (h : row.HasColumns cols)
    (columns : List String) : (Row.pluck columns row).HasColumns (.among columns cols) := by
  obtain ⟨fs, rfl, -, hfs⟩ := h
  have hcols : (Json.obj fs).get? = cols := funext hfs
  rw [← hcols]
  exact hasColumns_pluck_among columns fs

/-- A row that keeps one column. -/
theorem hasColumns_pluck (column : String) (fs : Fields) :
    (Row.pluck [column] (.obj fs)).HasColumns (.only column (Json.obj fs).get?) := by
  rw [← Columns.among_singleton]
  exact hasColumns_pluck_among [column] fs

/-- **The columns of a row that is laid over another.** -/
theorem hasColumns_overlaid {row new : Json} {cols newCols : Columns} (h : row.HasColumns cols)
    (hnew : new.HasColumns newCols) : (Row.overlaid row new).HasColumns (newCols.atop cols) := by
  obtain ⟨fs, rfl, ho, hfs⟩ := h
  obtain ⟨gs, rfl, hg, hgs⟩ := hnew
  refine ⟨_, rfl, Fields.ordered_overlay ho gs, fun c => ?_⟩
  rw [Fields.get?_overlay hg, hfs, hgs]
  rfl

end Json

/-- A change to rows is seen in their columns as a change to these. -/
def Row.Recolumns (f : Json → Json) (φ : Columns → Columns) : Prop :=
  ∀ r : Fields, Fields.Ordered r → (f (.obj r)).HasColumns (φ (Json.obj r).get?)

theorem Row.recolumns_id : Recolumns id id := fun _ hr => Json.hasColumns_get? hr

theorem Row.recolumns_copyField (origin target : String) :
    Recolumns (copyField [origin] [target]) (.copied origin target) := by
  intro r hr
  refine ⟨_, copyField_obj r origin target, ?_⟩
  cases hv : Fields.get? origin r with
  | none =>
      refine ⟨hr, fun c => ?_⟩
      simp only [Columns.copied, Json.get?, hv, Option.none_or]
      split
      · rename_i hc
        rw [hc]
      · rfl
  | some v =>
      refine ⟨Fields.ordered_put hr target v, fun c => ?_⟩
      simp only [Columns.copied, Json.get?, hv, Option.some_or]
      split
      · rename_i hc
        rw [hc, Fields.get?_put_self]
      · rename_i hc
        rw [Fields.get?_put_of_ne hc]

/-! ## 2. Trails -/

/-- A row of each of the five tables through which a project comes to a file. -/
structure FileTrail where
  project : Json
  link : Json
  directoryLink : Json
  directory : Json
  file : Json

namespace FileTrail

/-- The columns that a project and its link to a file come to: of the project, its id. -/
def toLink (project link : Json) : Columns := .atop link.get? (.only "id" project.get?)

/-- The columns up to the file's link to a directory. -/
def toDirectoryLink (project link directoryLink : Json) : Columns :=
  .atop directoryLink.get? (toLink project link)

/-- The columns up to the directory, the name of which is the path. -/
def toDirectory (project link directoryLink directory : Json) : Columns :=
  .atop (.copied "name" "path" directory.get?) (toDirectoryLink project link directoryLink)

/-- **The columns of all five rows**, a later row's over an earlier one's. -/
def columns (t : FileTrail) : Columns :=
  .atop t.file.get? (toDirectory t.project t.link t.directoryLink t.directory)

/-- The link is one of the project. -/
def linkFits (t : FileTrail) : Bool :=
  Json.sameKey (t.link.get? "project_id") (t.project.get? "id")

/-- The link to a directory is one of the file that the rows before it name. -/
def directoryLinkFits (t : FileTrail) : Bool :=
  Json.sameKey (t.directoryLink.get? "datafile_id") (toLink t.project t.link "datafile_id")

/-- The directory is the one that the rows before it name. -/
def directoryFits (t : FileTrail) : Bool :=
  Json.sameKey (t.directory.get? "id")
    (toDirectoryLink t.project t.link t.directoryLink "datadir_id")

/-- The file is the one that the rows before it name. -/
def fileFits (t : FileTrail) : Bool :=
  Json.sameKey (t.file.get? "id")
    (toDirectory t.project t.link t.directoryLink t.directory "datafile_id")

/-- **Each row is linked to those before it**, by a column that these have come to so far. -/
def linked (t : FileTrail) : Bool :=
  t.linkFits && (t.directoryLinkFits && (t.directoryFits && t.fileFits))

end FileTrail

namespace Store

/-- All trails of a store, in the lexicographic order of the tables. -/
def fileTrails (s : Store) : List FileTrail :=
  ((s.table "projects").flatMap fun p => (s.table "project2datafile").flatMap fun l =>
    (s.table "datadir2datafile").flatMap fun dl => (s.table "datadirs").flatMap fun d =>
      (s.table "datafiles").map fun f => ⟨p, l, dl, d, f⟩).filter (·.linked)

/-- The rows of a table that hold a key in a column. -/
def holding (s : Store) (table column : String) (key : Option Json) : List Json :=
  (s.table table).filter fun r => Json.sameKey (r.get? column) key

/-- The rows of a table that hold a key in a column, each with a row of another table that it names
    by its id. -/
def linkedPairs (s : Store) (links column field table : String) (key : Option Json) :
    List (Json × Json) :=
  (s.holding links column key).flatMap fun l =>
    (s.holding table "id" (l.get? field)).map fun r => (l, r)

/-- The note rows of a file, each with a note that it names. -/
def notesOf (s : Store) (file : Json) : List (Json × Json) :=
  (s.holding "note2item" "item_id" (file.get? "id")).flatMap fun n =>
    (s.holding "notes" "id" (n.get? "note_id")).map fun m => (n, m)

/-- **What a row of the file query is**: the columns of its trail, with the list of the file's tags
    and that of its notes in the place of whatever these columns were. A tag is the tag's id alone,
    a note the columns of the note over those of the row that links it. -/
def IsFileRow (s : Store) (t : FileTrail) (row : Json) : Prop :=
  ∃ tags notes : List Json,
    List.Forall₂ (fun r tag => tag.HasColumns (.only "tag_id" r.get?))
      (s.holding "tag2item" "item_id" (t.file.get? "id")) tags ∧
    List.Forall₂ (fun (r : Json × Json) note => note.HasColumns (.atop r.2.get? r.1.get?))
      (s.notesOf t.file) notes ∧
    row.HasColumns ((t.columns.set "tags" (.arr tags)).set "notes" (.arr notes))

end Store

/-! ## 3. Nested loops -/

section Lists

variable {α β γ : Type}

/-- A condition of which one part is settled by the outer element. -/
theorem filter_flatMap_and {xs : List α} {g : α → List β} {p : α → Bool} {q r : β → Bool}
    (h : ∀ x ∈ xs, ∀ y ∈ g x, q y = (p x && r y)) :
    (xs.flatMap g).filter q = (xs.filter p).flatMap fun x => (g x).filter r := by
  induction xs with
  | nil => rfl
  | cons x rest ih =>
      have hx : (g x).filter q = if p x then (g x).filter r else [] := by
        rw [List.filter_congr (h x List.mem_cons_self)]
        cases p x <;> simp
      rw [List.flatMap_cons, List.filter_append, ih fun y hy => h y (List.mem_cons_of_mem _ hy),
        List.filter_cons, hx]
      cases p x <;> rfl

theorem forall₂_flatMap {R : β → γ → Prop} {xs : List α} {g : α → List β} {h : α → List γ}
    (H : ∀ x ∈ xs, List.Forall₂ R (g x) (h x)) : List.Forall₂ R (xs.flatMap g) (xs.flatMap h) := by
  induction xs with
  | nil => exact .nil
  | cons x rest ih =>
      exact List.rel_append (H x List.mem_cons_self) (ih fun y hy => H y (List.mem_cons_of_mem _ hy))

/-- Answers to related elements are given where each is, and are related then. -/
theorem exists_mapM_of_forall₂ {ε : Type} {R : α → β → Prop} {S : α → γ → Prop}
    {f : β → Except ε γ} {xs : List α} {ys : List β} (h : List.Forall₂ R xs ys)
    (H : ∀ x y, R x y → ∃ z, f y = .ok z ∧ S x z) :
    ∃ zs, ys.mapM f = .ok zs ∧ List.Forall₂ S xs zs := by
  induction h with
  | nil => exact ⟨[], rfl, .nil⟩
  | cons hxy _ ih =>
      obtain ⟨z, hz, hs⟩ := H _ _ hxy
      obtain ⟨zs, hzs, hss⟩ := ih
      exact ⟨z :: zs, by rw [List.mapM_cons, hz, hzs]; rfl, .cons hs hss⟩

end Lists

namespace Store

variable {s : Store}

/-- **The trails, row after row**: each is chosen among those linked to the ones before it. -/
theorem fileTrails_eq (s : Store) :
    s.fileTrails =
      (s.table "projects").flatMap fun p =>
        (s.holding "project2datafile" "project_id" (p.get? "id")).flatMap fun l =>
          (s.holding "datadir2datafile" "datafile_id"
              (FileTrail.toLink p l "datafile_id")).flatMap fun dl =>
            (s.holding "datadirs" "id"
                (FileTrail.toDirectoryLink p l dl "datadir_id")).flatMap fun d =>
              (s.holding "datafiles" "id"
                  (FileTrail.toDirectory p l dl d "datafile_id")).flatMap fun f =>
                [⟨p, l, dl, d, f⟩] := by
  rw [fileTrails, List.filter_flatMap]
  refine List.flatMap_congr fun p _ => ?_
  -- each condition is settled as soon as the row that it is about is chosen
  rw [filter_flatMap_and (p := fun l => Json.sameKey (l.get? "project_id") (p.get? "id"))
    (r := fun t => t.directoryLinkFits && (t.directoryFits && t.fileFits)) ?link]
  case link =>
    simp only [List.mem_flatMap, List.mem_map]
    rintro l - t ⟨dl, -, d, -, f, -, rfl⟩
    rfl
  refine List.flatMap_congr fun l _ => ?_
  rw [filter_flatMap_and (p := fun dl => Json.sameKey (dl.get? "datafile_id")
      (FileTrail.toLink p l "datafile_id")) (r := fun t => t.directoryFits && t.fileFits) ?dirLink]
  case dirLink =>
    simp only [List.mem_flatMap, List.mem_map]
    rintro dl - t ⟨d, -, f, -, rfl⟩
    rfl
  refine List.flatMap_congr fun dl _ => ?_
  rw [filter_flatMap_and (p := fun d => Json.sameKey (d.get? "id")
      (FileTrail.toDirectoryLink p l dl "datadir_id")) (r := FileTrail.fileFits) ?dir]
  case dir =>
    simp only [List.mem_map]
    rintro d - t ⟨f, -, rfl⟩
    rfl
  refine List.flatMap_congr fun d _ => ?_
  rw [List.filter_map, List.map_eq_flatMap]
  rfl

/-! ## 4. Joined rows -/

theorem mem_holding {table column : String} {key : Option Json} {r : Json} :
    r ∈ s.holding table column key ↔
      r ∈ s.table table ∧ Json.sameKey (r.get? column) key = true := by
  rw [holding, List.mem_filter]

theorem holding_of_none {key : Option Json} (h : Json.keyForm key = none)
    (table column : String) : s.holding table column key = [] := by
  refine List.filter_eq_nil_iff.mpr fun r _ => ?_
  rw [Json.sameKey_eq, h]
  cases Json.keyForm (r.get? column) <;> simp

/-- The rows with a key are those that hold it. -/
theorem holding_of_some {key : Option Json} {k : String} (h : Json.keyForm key = some k)
    (table column : String) :
    s.holding table column key = withKey column k (s.table table) := by
  refine List.filter_congr fun r _ => ?_
  rw [Json.sameKey_eq, h, Json.key]
  cases Json.keyForm (r.get? column) <;> simp

/-- A row that holds a key is an object with its columns in order. -/
theorem exists_fields_of_mem_holding (hs : s.Sorted) {table column : String} {key : Option Json}
    {r : Json} (h : r ∈ s.holding table column key) :
    ∃ fs : Fields, r = .obj fs ∧ Fields.Ordered fs := by
  obtain ⟨hmem, hkey⟩ := mem_holding.mp h
  rw [Json.sameKey_eq, Bool.and_eq_true] at hkey
  obtain ⟨k, hk⟩ := Option.isSome_iff_exists.mp hkey.1
  obtain ⟨fs, rfl, -⟩ := Json.exists_obj_of_key hk
  exact ⟨fs, rfl, Fields.ordered_of_sorted (hs.of_mem_table hmem)⟩

/-- A row with some columns is joined to the rows that hold its key. -/
theorem joinedWith_of_hasColumns {left : Json} {cols : Columns} (h : left.HasColumns cols)
    (f : Json → Json) (field table index : String) :
    s.joinedWith f field table index left =
      (s.holding table index (cols field)).map fun r => Row.overlaid left (f r) := by
  have hkey := h.key field
  cases hk : Json.keyForm (cols field) with
  | none =>
      rw [holding_of_none hk, joinedWith, hkey, hk]
      rfl
  | some k => rw [holding_of_some hk, joinedWith_of_key (hkey.trans hk)]

/-- **One join, followed row by row**: what the rows that it leads to have to do with the rows
    that are joined, all of them have. -/
theorem forall₂_joinedWith {β : Type} {R : β → Json → Prop} {f : Json → Json}
    {φ : Columns → Columns} (hf : Row.Recolumns f φ) (hs : s.Sorted) {left : Json} {cols : Columns}
    (hl : left.HasColumns cols) {field table index : String} {key : Option Json}
    (hk : cols field = key) {g : Json → List β} {h : Json → List Json}
    (H : ∀ r ∈ s.holding table index key, ∀ next : Json,
      next.HasColumns (.atop (φ r.get?) cols) → List.Forall₂ R (g r) (h next)) :
    List.Forall₂ R ((s.holding table index key).flatMap g)
      ((s.joinedWith f field table index left).flatMap h) := by
  subst hk
  rw [joinedWith_of_hasColumns hl, List.flatMap_map]
  refine forall₂_flatMap fun r hr => H r hr _ ?_
  obtain ⟨fs, rfl, ho⟩ := exists_fields_of_mem_holding hs hr
  exact Json.hasColumns_overlaid hl (hf fs ho)

/-- The rows of one join, where no other follows. -/
theorem forall₂_map_joined {β : Type} {R : β → Json → Prop} (hs : s.Sorted) {left : Json}
    {cols : Columns} (hl : left.HasColumns cols) {field table index : String} {key : Option Json}
    (hk : cols field = key) {g : Json → β}
    (H : ∀ r ∈ s.holding table index key, ∀ next : Json,
      next.HasColumns (.atop r.get? cols) → R (g r) next) :
    List.Forall₂ R ((s.holding table index key).map g) (s.joined field table index left) := by
  rw [List.map_eq_flatMap, ← List.flatMap_singleton' (s.joined field table index left)]
  exact forall₂_joinedWith Row.recolumns_id hs hl hk fun r hr next hnext =>
    .cons (H r hr next hnext) .nil

/-- A joined row has the columns of a trail, whose file has an id. -/
def IsTrailRow (t : FileTrail) (row : Json) : Prop :=
  row.HasColumns t.columns ∧ ∃ id, t.file.key "id" = some id

/-- The rows that a project's files are come to, trail by trail. -/
theorem forall₂_project (hs : s.Sorted) (p : Json) :
    List.Forall₂ IsTrailRow
      ((s.holding "project2datafile" "project_id" (p.get? "id")).flatMap fun l =>
        (s.holding "datadir2datafile" "datafile_id"
            (FileTrail.toLink p l "datafile_id")).flatMap fun dl =>
          (s.holding "datadirs" "id"
              (FileTrail.toDirectoryLink p l dl "datadir_id")).flatMap fun d =>
            (s.holding "datafiles" "id"
                (FileTrail.toDirectory p l dl d "datafile_id")).flatMap fun f =>
              [⟨p, l, dl, d, f⟩])
      ((s.joined "id" "project2datafile" "project_id" (Row.pluck ["id"] p)).flatMap fun link =>
        (s.joined "datafile_id" "datadir2datafile" "datafile_id" link).flatMap fun dirLink =>
          (s.joinedWith (Row.copyField ["name"] ["path"]) "datadir_id" "datadirs" "id"
              dirLink).flatMap fun dir =>
            (s.joined "datafile_id" "datafiles" "id" dir).flatMap fun row => [row]) := by
  cases p with
  | obj ps =>
      refine forall₂_joinedWith Row.recolumns_id hs (Json.hasColumns_pluck "id" ps) (by rfl) ?_
      intro l _ link hlink
      refine forall₂_joinedWith Row.recolumns_id hs hlink rfl ?_
      intro dl _ dirLink hdirLink
      refine forall₂_joinedWith (Row.recolumns_copyField "name" "path") hs hdirLink rfl ?_
      intro d _ dir hdir
      refine forall₂_joinedWith Row.recolumns_id hs hdir rfl ?_
      intro f hf row hrow
      refine .cons ⟨hrow, ?_⟩ .nil
      have hid := (mem_holding.mp hf).2
      rw [Json.sameKey_eq, Bool.and_eq_true] at hid
      exact Option.isSome_iff_exists.mp hid.1
  | _ =>
      -- what is no object has no id, and nothing is linked to it
      rw [holding_of_none rfl]
      exact .nil

/-- **The joined rows of all files are those of the trails**, in the same order. -/
theorem forall₂_rowsOf_file (hs : s.Sorted) :
    List.Forall₂ IsTrailRow s.fileTrails (s.rowsOf .file .all) := by
  have hrows : s.rowsOf .file .all = (s.table "projects").flatMap fun p =>
      (s.joined "id" "project2datafile" "project_id" (Row.pluck ["id"] p)).flatMap fun link =>
        (s.joined "datafile_id" "datadir2datafile" "datafile_id" link).flatMap fun dirLink =>
          (s.joinedWith (Row.copyField ["name"] ["path"]) "datadir_id" "datadirs" "id"
              dirLink).flatMap fun dir =>
            (s.joined "datafile_id" "datafiles" "id" dir).flatMap fun row => [row] := by
    rw [rowsOf_file, members_all_of_linked rfl, projectIds, List.flatMap_map]
    simp only [List.flatMap_assoc, List.flatMap_singleton', Kind.memberTable]
  rw [fileTrails_eq, hrows]
  exact forall₂_flatMap fun p _ => forall₂_project hs p

/-! ## 5. Tags and notes -/

/-- The tables that the query of the files reads. -/
def fileTables : List String := ["projects", "project2datafile", "datadir2datafile", "datadirs",
  "datafiles", "tag2item", "note2item", "notes"]

section Attached

variable {row : Json} {key : String}

/-- The tags of a row with an id. -/
theorem exists_tags (hs : s.Sorted) (h : (s.rows? "tag2item").isSome) (hrow : row.key "id" = some key) :
    ∃ tags, s.eval (some row) (.pluck (.related "tag2item" "item_id" "id") ["tag_id"]) = .ok tags ∧
      List.Forall₂ (fun r tag => tag.HasColumns (.only "tag_id" r.get?))
        (s.holding "tag2item" "item_id" (row.get? "id")) tags := by
  refine ⟨_, eval_pluck (eval_related h hrow) ["tag_id"], ?_⟩
  rw [← holding_of_some hrow, List.forall₂_map_right_iff, List.forall₂_same]
  intro r hr
  obtain ⟨fs, rfl, -⟩ := exists_fields_of_mem_holding hs hr
  exact Json.hasColumns_pluck "tag_id" fs

/-- **The linked rows of a row with a key**, each over the row that links it. -/
theorem exists_linkedPairs (hs : s.Sorted) {links own table : String}
    (h : (s.rows? links).isSome) (h' : (s.rows? table).isSome) (hrow : row.key own = some key)
    (column field : String) :
    ∃ found, s.eval (some row) (.zip (.eqJoinId (.related links column own) field table)) =
        .ok found ∧
      List.Forall₂ (fun (r : Json × Json) row => row.HasColumns (.atop r.2.get? r.1.get?))
        (s.linkedPairs links column field table (row.get? own)) found := by
  refine ⟨_, eval_zip_eqJoinId (eval_related h hrow) h', ?_⟩
  rw [linkedPairs, ← holding_of_some hrow]
  refine forall₂_flatMap fun l hl => ?_
  obtain ⟨fs, rfl, ho⟩ := exists_fields_of_mem_holding hs hl
  exact forall₂_map_joined hs (Json.hasColumns_get? ho) rfl fun _ _ _ hnext => hnext

end Attached

/-- **A joined row gets the tags and notes of its file.** -/
theorem exists_attachAll (hs : s.Sorted) (h : ∀ t ∈ fileTables, (s.rows? t).isSome)
    {t : FileTrail} {row : Json} (hrow : IsTrailRow t row) :
    ∃ full, s.attachAll Kind.tagsAndNotes row = .ok full ∧ s.IsFileRow t full := by
  obtain ⟨hcols, id, hid⟩ := hrow
  -- the id is the file's own, before and after the tags are set
  have hown : t.columns "id" = t.file.get? "id" := by
    obtain ⟨fs, hfs, v, hv⟩ := Json.exists_obj_of_key hid
    rw [FileTrail.columns, Columns.atop, hfs, Json.get?, hv, Option.some_or]
  have hrow := (hcols.get? "id").trans hown
  have hkey : ∀ r : Json, r.get? "id" = t.file.get? "id" → r.key "id" = some id := by
    intro r hr
    rw [Json.key, hr]
    exact hid
  obtain ⟨tags, htags, hall⟩ := exists_tags hs (h "tag2item" (by decide)) (hkey row hrow)
  have hrow' : (Row.attach "tags" tags row).get? "id" = t.file.get? "id" :=
    (Row.get?_attach (by decide) tags row).trans hrow
  obtain ⟨notes, hnotes, hall'⟩ := exists_linkedPairs hs (h "note2item" (by decide))
    (h "notes" (by decide)) (hkey _ hrow') "item_id" "note_id"
  refine ⟨Row.attach "notes" notes (Row.attach "tags" tags row), ?_, tags, notes, ?_, ?_,
    (hcols.set "tags" tags).set "notes" notes⟩
  · rw [Kind.tagsAndNotes, attachAll, htags]
    simp only [attachAll, hnotes, bind, Except.bind]
  · rw [← hrow]
    exact hall
  · rw [notesOf, ← hrow']
    exact hall'

/-- **The full query of the files** never fails on a store that has its tables. It yields one row
    for each trail, in the order of the trails: the columns of the trail's rows, with the tags and
    notes of its file. -/
theorem execute_fileQuery (hs : s.Sorted) (h : ∀ t ∈ fileTables, (s.rows? t).isSome) :
    ∃ rows, (Source.ofStore s).execute (Kind.query .file .all) = .ok ⟨rows, none⟩ ∧
      List.Forall₂ s.IsFileRow s.fileTrails rows := by
  have hhas : s.Has .file := h
  obtain ⟨rows, hrows, hall⟩ := exists_mapM_of_forall₂ (forall₂_rowsOf_file hs) fun t row hrow =>
    exists_attachAll hs h hrow
  refine ⟨rows, ?_, hall⟩
  have hq : s.query (Kind.query .file .all) = .ok rows := (query_eq hhas .all).trans hrows
  simp only [Source.ofStore, hq]
  rfl

/-- A file in two directories, one of them without a name, with a tag and a note that is named by a
    number. One more link to a directory names no file. -/
def twiceFiled : Store :=
  filled [
    ("projects", [.obj [("id", .str "p-1"), ("name", .str "alloy")]]),
    ("project2datafile", [.obj [("datafile_id", .str "f-1"), ("project_id", .str "p-1")]]),
    ("datadir2datafile", [
      .obj [("datadir_id", .str "d-2"), ("datafile_id", .str "f-1")],
      .obj [("datadir_id", .str "d-1"), ("datafile_id", .null)],
      .obj [("datadir_id", .str "d-1"), ("datafile_id", .str "f-1")]]),
    ("datadirs", [.obj [("id", .str "d-1"), ("name", .str "tests")], .obj [("id", .str "d-2")]]),
    ("datafiles", [.obj [("id", .str "f-1"), ("name", .str "loads.csv")]]),
    ("tag2item", [.obj [("item_id", .str "f-1"), ("tag_id", .str "raw")]]),
    ("note2item", [.obj [("item_id", .str "f-1"), ("note_id", .num (.int 7))]]),
    ("notes", [.obj [("id", .num (.int 7)), ("title", .str "first pull")]])]

/-- The rows of the file, which is come to through both links that name it, in the order of the
    links. Only one of the directories has a name for the path. -/
def twiceFiledRows : List Json :=
  let tags : List Json := [.obj [("tag_id", .str "raw")]]
  let notes : List Json := [.obj [("id", .num (.int 7)), ("item_id", .str "f-1"),
    ("note_id", .num (.int 7)), ("title", .str "first pull")]]
  [.obj [("datadir_id", .str "d-2"), ("datafile_id", .str "f-1"), ("id", .str "f-1"),
      ("name", .str "loads.csv"), ("notes", .arr notes), ("project_id", .str "p-1"),
      ("tags", .arr tags)],
    .obj [("datadir_id", .str "d-1"), ("datafile_id", .str "f-1"), ("id", .str "f-1"),
      ("name", .str "loads.csv"), ("notes", .arr notes), ("path", .str "tests"),
      ("project_id", .str "p-1"), ("tags", .arr tags)]]

theorem execute_fileQuery_twiceFiled :
    twiceFiled.Sorted ∧ (∀ t ∈ fileTables, (twiceFiled.rows? t).isSome) ∧
      (Source.ofStore twiceFiled).execute (Kind.query .file .all) = .ok ⟨twiceFiledRows, none⟩ ∧
      twiceFiled.fileTrails.length = 2 ∧
      List.Forall₂ twiceFiled.IsFileRow twiceFiled.fileTrails twiceFiledRows := by
  have hs : twiceFiled.Sorted := sorted_filled (by decide)
  have h : ∀ t ∈ fileTables, (twiceFiled.rows? t).isSome := by decide
  obtain ⟨rows, hexecute, hall⟩ := execute_fileQuery hs h
  have hanswer : (Source.ofStore twiceFiled).execute (Kind.query .file .all) =
      .ok ⟨twiceFiledRows, none⟩ := by
    set_option maxRecDepth 2048 in rfl
  obtain rfl : rows = twiceFiledRows :=
    congrArg Cursor.rows (Except.ok.inj (hexecute.symm.trans hanswer))
  exact ⟨hs, h, hanswer, hall.length_eq, hall⟩

end Store

end LabIndex
