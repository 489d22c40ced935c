import LabIndex.Proofs.Change.Dependencies
import LabIndex.Proofs.Change.Replay

/-!
# Changed links

A row of a link names two ends, and the feed keeps one of them: the sample of a file, the file of a
project, the property set of a property, the item of a note or a tag. From this end the documents
are found that are run again. They are all documents that the row is read for, but for those at a
new end to which a row is moved, as long as an item is a file where it says so and the runs find
documents by their ids.

* `RowChange`, `Store.ChangesRow`: one row that is added, removed or replaced;
* `Link`, `Store.LinkStep`: the links, and a change to one of their rows;
* `Store.Finds`, `Store.MovedTo`: the ids that are found from the end of a row, and those that a row
  is moved to;
* `Indexers.filter_requests_of_unreached`: documents under other ids stay as they are;
* `Indexers.changedLink_covered`: the changed documents are submitted;
* `Indexers.changedLink_missed`: what goes wrong where one of the conditions is not met.
-/

namespace LabIndex

/-! ## 1. Changed rows -/

/-- One row of a table is added, removed or replaced. -/
inductive RowChange where
  | added (row : Json)
  | removed (row : Json)
  | replaced (old new : Json)

namespace RowChange

/-- The row before the change, null if there is none. -/
def old : RowChange → Json
  | added _ => .null
  | removed row | replaced row _ => row

/-- The row after the change, null if there is none. -/
def new : RowChange → Json
  | added row | replaced _ row => row
  | removed _ => .null

/-- The row that the feed goes by: the one before, if there is one. -/
def feedRow : RowChange → Json
  | added row | removed row | replaced row _ => row

/-- What stands in the place of the change before it. -/
def before : RowChange → List Json
  | added _ => []
  | removed row | replaced row _ => [row]

/-- What stands there after it. -/
def after : RowChange → List Json
  | added row | replaced _ row => [row]
  | removed _ => []

theorem feedRow_mem (c : RowChange) : c.feedRow ∈ c.before ++ c.after := by
  cases c <;> simp [before, after, feedRow]

/-- **The feed goes by that row**, if it has the column that is asked for. -/
theorem pick_eq {c : RowChange} {column : String} (h : ChangeEvent.hasKey column c.feedRow = true) :
    ChangeEvent.pick column c.old c.new = some c.feedRow := by
  have hnull : ChangeEvent.hasKey column .null = false := rfl
  cases c <;> simp_all [ChangeEvent.pick, old, new, feedRow]

end RowChange

namespace Store

/-- **One row of a table is changed** between two stores, and nothing else. -/
structure ChangesRow (s s' : Store) (t : String) (c : RowChange) : Prop where
  others : ∀ u, u ≠ t → s'.rows? u = s.rows? u
  inPlace : ∃ above below, s.table t = above ++ c.before ++ below ∧
    s'.table t = above ++ c.after ++ below

namespace ChangesRow

variable {s s' : Store} {t u : String} {c : RowChange}

theorem table_eq (h : s.ChangesRow s' t c) (hu : u ≠ t) : s'.table u = s.table u := by
  rw [table, table, h.others u hu]

theorem keepsId (h : s.ChangesRow s' t c) {k : Kind} (hk : s'.KeepsId k) (hd : "datadirs" ≠ t)
    (hs : "samples" ≠ t) (hp : "processes" ≠ t) : s.KeepsId k := by
  cases k with
  | file | sample | process =>
      simpa only [KeepsId, h.table_eq hd, h.table_eq hs, h.table_eq hp] using hk
  | project | user => trivial

/-- What is made row by row, and of the changed rows nothing, is the same. -/
theorem eq_of_append {β : Type} (h : s.ChangesRow s' t c) {f : List Json → List β}
    (happend : ∀ xs ys, f (xs ++ ys) = f xs ++ f ys) (hbefore : f c.before = [])
    (hafter : f c.after = []) : f (s'.table t) = f (s.table t) := by
  obtain ⟨above, below, hs, hs'⟩ := h.inPlace
  rw [hs, hs', happend, happend, happend, happend, hbefore, hafter]

/-- A lookup that the changed rows do not answer is the same. -/
theorem withKey_eq (h : s.ChangesRow s' t c) {index key : String}
    (hkey : ∀ row ∈ c.before ++ c.after, row.key index ≠ some key) :
    withKey index key (s'.table t) = withKey index key (s.table t) := by
  rw [List.forall_mem_append] at hkey
  have hnil : ∀ rows : List Json, (∀ row ∈ rows, row.key index ≠ some key) →
      withKey index key rows = [] := fun rows hrows =>
    List.filter_eq_nil_iff.mpr fun row hrow => by simpa using hrows row hrow
  exact h.eq_of_append (fun xs ys => List.filter_append xs ys) (hnil _ hkey.1) (hnil _ hkey.2)

/-- What some of the rows give is the same, if the changed rows give nothing. -/
theorem flatMap_filter_eq {β : Type} (h : s.ChangesRow s' t c) (p : Json → Bool)
    {g : Json → List β} (hg : ∀ row ∈ c.before ++ c.after, g row = []) :
    ((s'.table t).filter p).flatMap g = ((s.table t).filter p).flatMap g := by
  rw [List.forall_mem_append] at hg
  have hnil : ∀ rows : List Json, (∀ row ∈ rows, g row = []) → (rows.filter p).flatMap g = [] :=
    fun rows hrows =>
      List.flatMap_eq_nil_iff.mpr fun row hrow => hrows row (List.mem_filter.mp hrow).1
  refine h.eq_of_append (f := fun rows => (rows.filter p).flatMap g) (fun xs ys => ?_)
    (hnil _ hg.1) (hnil _ hg.2)
  rw [List.filter_append, List.flatMap_append]

end ChangesRow

/-- A row that is all of a table is changed by setting the rows of the table. -/
theorem changesRow_withRows {s : Store} {t : String} {c : RowChange}
    (h : s.rows? t = some c.before) : s.ChangesRow (s.withRows t c.after) t c where
  others u hu := by rw [rows?_withRows, if_neg hu]
  inPlace := ⟨[], [], by simp [table, h], by simp [table, rows?_withRows, h]⟩

end Store

/-! ## 2. Links -/

/-- The links whose changes the feed knows. -/
inductive Link where
  /-- A sample and a file. -/
  | sampleFile
  /-- A project and a file. -/
  | projectFile
  /-- A property set and a property. -/
  | setProperty
  /-- An item and a note. -/
  | noteItem
  /-- An item and a tag. -/
  | tagItem
deriving DecidableEq, Repr

namespace Link

/-- The table of a link. -/
def table : Link → String
  | sampleFile => "sample2datafile"
  | projectFile => "project2datafile"
  | setProperty => "propertyset2property"
  | noteItem => "note2item"
  | tagItem => "tag2item"

/-- The column with the end that the feed keeps. -/
def endColumn : Link → String
  | sampleFile => "sample_id"
  | projectFile => "datafile_id"
  | setProperty => "property_set_id"
  | noteItem | tagItem => "item_id"

/-- The column that a row has to have for the feed to go by it. -/
def pickColumn : Link → String
  | projectFile | setProperty => "id"
  | l => l.endColumn

/-- The end is an item, which may be a file or something else. -/
def isItem : Link → Bool
  | noteItem | tagItem => true
  | _ => false

/-- The documents that the link is read for. -/
def kind : Link → Kind
  | sampleFile | setProperty => .sample
  | projectFile | noteItem | tagItem => .file

/-- The event of a changed row with an end; an item is a file. -/
def event : Link → String → ChangeEvent
  | sampleFile, key => .sampleFile key
  | projectFile, key => .projectFile key
  | setProperty, key => .propertySet key
  | noteItem, key => .noteItem ChangeEvent.fileItem key
  | tagItem, key => .tag ChangeEvent.fileItem key

/-- An item is a file by the row that the feed goes by. -/
def IsFile (l : Link) (c : RowChange) : Prop :=
  l.isItem = true → c.feedRow.get? "item_type" = some (.str ChangeEvent.fileItem)

theorem isLinked_kind (l : Link) : l.kind.isLinked = true := by cases l <;> rfl

/-- No other kind reads a link. -/
theorem table_not_mem_tables {l : Link} {k : Kind} (h : k ≠ l.kind) : l.table ∉ k.tables := by
  cases l <;> cases k <;> first | decide | exact absurd rfl h

/-- All links but one are read for the lists of a row. -/
theorem table_not_mem_spine {l : Link} (h : l ≠ .projectFile) :
    l.table ∉ (l.kind.query .all).spine := by
  cases l <;> first | decide | exact absurd rfl h

end Link

/-- The tables of links, each with the columns of what is linked. -/
def linkColumns : List (String × List String) := [
  ("sample2datafile", ["sample_id", "datafile_id"]),
  ("project2datafile", ["project_id", "datafile_id"]),
  ("propertyset2property", ["property_set_id", "property_id"]),
  ("note2item", ["item_type", "item_id", "note_id"]),
  ("tag2item", ["item_type", "item_id", "tag_id"]),
  ("sample2propertyset", ["sample_id", "property_set_id"]),
  ("datadir2datafile", ["datadir_id", "datafile_id"]),
  ("project2sample", ["project_id", "sample_id"]),
  ("project2process", ["project_id", "process_id"]),
  ("process2setup", ["process_id", "setup_id"])]

namespace ChangeEvent

theorem exists_of_hasKey {column : String} {row : Json} (h : hasKey column row = true) :
    ∃ key, row.get? column = some (.str key) := by
  rw [hasKey] at h
  split at h
  · rename_i key hkey
    rw [column?, Option.bind_eq_some_iff] at hkey
    obtain ⟨v, hv, hkey⟩ := hkey
    cases v <;> cases hkey
    exact ⟨_, hv⟩
  · cases h

theorem column?_of_get? {column key : String} {row : Json}
    (h : row.get? column = some (.str key)) : column? row column = some key := by
  rw [column?, h]
  rfl

end ChangeEvent

namespace Store

/-- **Every row of a link has an id and names what it links**, by texts that are not empty. -/
def NamesLinks (s : Store) : Prop :=
  ∀ p ∈ linkColumns, ∀ row ∈ s.table p.1, ∀ column ∈ "id" :: p.2,
    ChangeEvent.hasKey column row = true

instance (s : Store) : Decidable s.NamesLinks :=
  inferInstanceAs (Decidable (∀ p ∈ linkColumns, ∀ row ∈ s.table p.1, ∀ column ∈ "id" :: p.2,
    ChangeEvent.hasKey column row = true))

/-- **A row of a link is changed** between stores that name their links. -/
structure LinkStep (s s' : Store) (l : Link) (c : RowChange) : Prop where
  sorted : s.Sorted
  sorted' : s'.Sorted
  names : s.NamesLinks
  names' : s'.NamesLinks
  changes : s.ChangesRow s' l.table c

/-- The store with a changed row of a link, which has no other rows. -/
def changing (s : Store) (l : Link) (c : RowChange) : Store := s.withRows l.table c.after

theorem linkStep_changing {s : Store} {l : Link} {c : RowChange} (hs : s.Sorted)
    (hn : s.NamesLinks ∧ (s.changing l c).NamesLinks) (h : s.rows? l.table = some c.before)
    (hrows : ∀ row ∈ c.after, row.Sorted) : s.LinkStep (s.changing l c) l c :=
  ⟨hs, hs.withRows _ hrows, hn.1, hn.2, changesRow_withRows h⟩

/-- The changed rows have an id and name an end. -/
theorem LinkStep.hasKey {s s' : Store} {l : Link} {c : RowChange} (h : s.LinkStep s' l c)
    {row : Json} (hrow : row ∈ c.before ++ c.after) {column : String}
    (hc : column = "id" ∨ column = l.endColumn) : ChangeEvent.hasKey column row = true := by
  obtain ⟨above, below, hs, hs'⟩ := h.changes.inPlace
  have hcolumns : ∃ p ∈ linkColumns, p.1 = l.table ∧ column ∈ "id" :: p.2 := by
    rcases hc with rfl | rfl <;> cases l <;> decide
  obtain ⟨p, hp, ht, hcolumn⟩ := hcolumns
  rcases List.mem_append.mp hrow with hmem | hmem
  · exact h.names p hp _ (by simp [ht, hs, hmem]) column hcolumn
  · exact h.names' p hp _ (by simp [ht, hs', hmem]) column hcolumn

theorem LinkStep.exists_end {s s' : Store} {l : Link} {c : RowChange} (h : s.LinkStep s' l c)
    {row : Json} (hrow : row ∈ c.before ++ c.after) :
    ∃ key, row.get? l.endColumn = some (.str key) :=
  ChangeEvent.exists_of_hasKey (h.hasKey hrow (.inr rfl))

/-- The ids that are found from the end of a link. -/
def linkIds (s : Store) : Link → String → List String
  | .setProperty, key => ChangeEvent.distinctColumn "sample_id"
      (withKey "property_set_id" key (s.table "sample2propertyset"))
  | _, key => [key]

/-- An id is found from the end of a row. -/
def Finds (s : Store) (l : Link) (row : Json) (id : String) : Prop :=
  ∃ key, row.get? l.endColumn = some (.str key) ∧ id ∈ s.linkIds l key

/-- An id is found from no changed row. -/
def Unreached (s : Store) (l : Link) (c : RowChange) (id : String) : Prop :=
  ∀ row ∈ c.before ++ c.after, ¬ s.Finds l row id

/-- A row is moved, and an id is found from its new end and not from the old one. -/
def MovedTo (s : Store) (l : Link) : RowChange → String → Prop
  | .replaced old new, id => s.Finds l new id ∧ ¬ s.Finds l old id
  | _, _ => False

/-- **An id to which no row is moved** is found from the row that the feed goes by, or from none. -/
theorem finds_or_unreached {s : Store} {l : Link} {c : RowChange} {id : String}
    (h : ¬ s.MovedTo l c id) : s.Finds l c.feedRow id ∨ s.Unreached l c id := by
  by_cases hfinds : s.Finds l c.feedRow id
  · exact .inl hfinds
  refine .inr fun row hrow => ?_
  cases c with
  | added new | removed old => exact List.mem_singleton.mp hrow ▸ hfinds
  | replaced old new =>
      rcases List.mem_pair.mp hrow with rfl | rfl
      · exact hfinds
      · exact fun hnew => h ⟨hnew, hfinds⟩

end Store

namespace ChangeEvent

/-- **The event of a changed row of a link** is that of its end. -/
theorem ofFeed?_link {l : Link} {c : RowChange} {key : String}
    (hpick : hasKey l.pickColumn c.feedRow = true)
    (hend : c.feedRow.get? l.endColumn = some (.str key)) (hfile : l.IsFile c) :
    ofFeed? l.table c.old c.new = some (l.event key) := by
  have hp := RowChange.pick_eq hpick
  have hkey := column?_of_get? hend
  cases l with
  | sampleFile | projectFile | setProperty =>
      simp_all [ofFeed?, pickKey, Link.table, Link.event, Link.pickColumn, Link.endColumn]
  | noteItem | tagItem =>
      have htype := column?_of_get? (hfile rfl)
      simp_all [ofFeed?, Link.table, Link.event, Link.pickColumn, Link.endColumn]

/-- **The plan for an end of a link** starts with the ids that are found from it. -/
theorem plan_link {s : Store} {l : Link} (key : String)
    (hset : l = .setProperty → (s.rows? "sample2propertyset").isSome)
    (hitem : l.isItem = true → (s.rows? "sample2datafile").isSome) :
    ∃ rest, (l.event key).plan (.ofStore s) =
      .ok (Target.ofIds l.kind (s.linkIds l key) ++ rest) := by
  have hfile : l.isItem = true → (l.event key).plan (.ofStore s) =
      .ok (Target.ofIds .file [key] ++ Target.ofIds .sample (s.samplesOf key)) := fun h => by
    have hplan := plan_ofEntity (hitem h) .file key
    cases l with
    | noteItem | tagItem => exact hplan
    | _ => cases h
  cases l with
  | sampleFile | projectFile => exact ⟨[], rfl⟩
  | setProperty =>
      refine ⟨[], ?_⟩
      rw [Link.event, plan, lookUp_getAllBy (hset rfl), List.append_nil]
      rfl
  | noteItem | tagItem => exact ⟨_, hfile rfl⟩

end ChangeEvent

/-! ## 3. Documents under other ids -/

namespace Store

section Lists

variable {s s' : Store} {l : Link} {c : RowChange} {id : String}

/-- The properties of a sample that no changed row of a set belongs to. -/
theorem eval_properties_eq (h : s.LinkStep s' .setProperty c) (hid : s'.Unreached .setProperty c id)
    (ht : (s.rows? "sample2propertyset").isSome ∧ (s.rows? "propertyset2property").isSome)
    (ht' : (s'.rows? "propertyset2property").isSome) {row : Json}
    (hrow : row.key "sample_id" = some id) :
    s'.eval (some row) (.zip (.eqJoin (.related "sample2propertyset" "sample_id" "sample_id")
        "property_set_id" "propertyset2property" "property_set_id")) =
      s.eval (some row) (.zip (.eqJoin (.related "sample2propertyset" "sample_id" "sample_id")
        "property_set_id" "propertyset2property" "property_set_id")) := by
  have hsets := h.changes.others "sample2propertyset" (by decide)
  have hsets' := h.changes.table_eq (u := "sample2propertyset") (by decide)
  rw [eval_zip_eqJoin (eval_related (by rw [hsets]; exact ht.1) hrow) ht',
    eval_zip_eqJoin (eval_related ht.1 hrow) ht.2, hsets']
  refine congrArg Except.ok (List.flatMap_congr fun left hleft => ?_)
  obtain ⟨hmem, hsample⟩ := mem_withKey.mp hleft
  have hnames := h.names ("sample2propertyset", ["sample_id", "property_set_id"]) (by decide) left
    hmem
  obtain ⟨sample, hs⟩ := ChangeEvent.exists_of_hasKey (hnames "sample_id" (by decide))
  obtain ⟨set, hset⟩ := ChangeEvent.exists_of_hasKey (hnames "property_set_id" (by decide))
  rw [Json.key_eq_of_text hs, Option.some.injEq] at hsample
  rw [joined, joined, joinedWith_of_key (Json.key_eq_of_text hset),
    joinedWith_of_key (Json.key_eq_of_text hset)]
  congr 1
  refine h.changes.withKey_eq fun changed hc hchanged => ?_
  obtain ⟨key, hkey⟩ := h.exists_end hc
  obtain rfl : key = set := by
    rw [← Option.some.injEq, ← hchanged]
    exact (Json.key_eq_of_text hkey).symm
  -- a sample with the changed set would be among those that are found
  refine hid changed hc ⟨key, hkey, ChangeEvent.mem_distinctColumn.mpr
    ⟨left, mem_withKey.mpr ?_, ?_⟩⟩
  · exact ⟨hsets' ▸ hmem, Json.key_eq_of_text hset⟩
  · rw [ChangeEvent.column?_of_get? hs, hsample]

/-- **Lists of rows with other ids are the same**, where they can be made. -/
theorem eval_attachment_eq (h : s.LinkStep s' l c) (hid : s'.Unreached l c id)
    (hl : l ≠ .projectFile)
    (ht : ∀ f ∈ l.kind.attachments, ∀ t ∈ f.2.spine, (s.rows? t).isSome)
    (ht' : ∀ f ∈ l.kind.attachments, ∀ t ∈ f.2.spine, (s'.rows? t).isSome) :
    ∀ f ∈ l.kind.attachments, ∀ row : Json, row.key l.kind.idColumn = some id →
      s'.eval (some row) f.2 = s.eval (some row) f.2 := by
  intro f hf row hrow
  have hother : l.table ∉ f.2.tables → s'.eval (some row) f.2 = s.eval (some row) f.2 := fun hn =>
    eval_congr _ _ fun t hmem => h.changes.others t fun e => hn (e ▸ hmem)
  -- a lookup by an end that is the id of the row
  have hrelated : ∀ field, row.key field = some id → (∀ key, s'.linkIds l key = [key]) →
      (s'.rows? l.table).isSome → (s.rows? l.table).isSome →
      s'.eval (some row) (.related l.table l.endColumn field) =
        s.eval (some row) (.related l.table l.endColumn field) := by
    intro field hfield hids hs' hs
    refine eval_related_congr hs' hs hfield (h.changes.withKey_eq fun changed hc => ?_)
    obtain ⟨key, hkey⟩ := h.exists_end hc
    rw [Json.key_eq_of_text hkey]
    exact fun e => hid changed hc
      ⟨key, hkey, hids key ▸ List.mem_singleton.mpr (Option.some.inj e).symm⟩
  cases l with
  | sampleFile =>
      obtain rfl | rfl := by simpa [Link.kind, Kind.attachments, Kind.propertiesAndFiles] using hf
      · exact hother (by decide)
      · exact eval_zip_eqJoin_congr (hrelated _ hrow (fun _ => rfl) (ht' _ hf _ (by decide))
          (ht _ hf _ (by decide))) (h.changes.others _ (by decide))
  | setProperty =>
      obtain rfl | rfl := by simpa [Link.kind, Kind.attachments, Kind.propertiesAndFiles] using hf
      · have hsets := eval_properties_eq h hid
          ⟨ht _ hf _ (by decide), ht _ hf _ (by decide)⟩ (ht' _ hf _ (by decide)) hrow
        rw [eval, eval, Query.eqJoinId,
          eval_zip_eqJoin_congr hsets (h.changes.others _ (by decide))]
      · exact hother (by decide)
  | noteItem =>
      obtain rfl | rfl := by simpa [Link.kind, Kind.attachments, Kind.tagsAndNotes] using hf
      · exact hother (by decide)
      · exact eval_zip_eqJoin_congr (hrelated _ hrow (fun _ => rfl) (ht' _ hf _ (by decide))
          (ht _ hf _ (by decide))) (h.changes.others _ (by decide))
  | tagItem =>
      obtain rfl | rfl := by simpa [Link.kind, Kind.attachments, Kind.tagsAndNotes] using hf
      · rw [eval, eval]
        exact congrArg (· >>= _) (hrelated _ hrow (fun _ => rfl) (ht' _ hf _ (by decide))
          (ht _ hf _ (by decide)))
      · exact hother (by decide)
  | projectFile => exact absurd rfl hl

end Lists

end Store

namespace Indexers

section Unreached

variable {x : Indexers} {s s' : Store} {l : Link} {c : RowChange} {id : String}

/-- The requests of rows for an id depend on the requests of the rows with the id. -/
theorem filter_filterMap_request?_congr {k : Kind} {rows : List Json}
    (hobj : ∀ row ∈ rows, ∃ fs, row = .obj fs)
    (h : ∀ fs, Json.obj fs ∈ rows → (Json.obj fs).key k.idColumn = some id →
      x.request? s' k (.obj fs) = x.request? s k (.obj fs)) :
    (rows.filterMap (x.request? s' k)).filter (fun r => r.id = id) =
      (rows.filterMap (x.request? s k)).filter fun r => r.id = id := by
  rw [List.filter_filterMap, List.filter_filterMap]
  refine List.filterMap_congr fun row hrow => ?_
  obtain ⟨fs, rfl⟩ := hobj row hrow
  by_cases hkey : (Json.obj fs).key k.idColumn = some id
  · rw [h fs hrow hkey]
  · -- a row with another id gives none for this one
    have hnone : ∀ u : Store, (x.request? u k (.obj fs)).filter (fun r => r.id = id) = none := by
      intro u
      rw [Option.filter_eq_none_iff]
      rintro r hr hid
      rw [decide_eq_true_eq] at hid
      exact hkey (hid ▸ key_of_request?_obj hr)
    rw [hnone, hnone]

/-- A row that makes a request has found the tables of its lists. -/
theorem isSome_of_request? {k : Kind} {row : Json} {r : Request}
    (h : x.request? s k row = some r) :
    ∀ f ∈ k.attachments, ∀ t ∈ f.2.spine, (s.rows? t).isSome := by
  obtain ⟨full, hfull, -⟩ := request?_eq_some_iff.mp h
  exact Store.isSome_of_attachAll hfull

/-- Lists that the changed link is read for: rows with other ids make the requests that they
    made. -/
theorem filter_requests_of_list (h : s.LinkStep s' l c) (hid : s'.Unreached l c id)
    (hl : l ≠ .projectFile)
    (hr : ∀ row ∈ s.rowsOf l.kind .all, ∃ r, x.request? s l.kind row = some r)
    (hr' : ∀ row ∈ s'.rowsOf l.kind .all, ∃ r, x.request? s' l.kind row = some r) :
    ((s'.rowsOf l.kind .all).filterMap (x.request? s' l.kind)).filter (fun r => r.id = id) =
      ((s.rowsOf l.kind .all).filterMap (x.request? s l.kind)).filter fun r => r.id = id := by
  have hrows : s'.rowsOf l.kind .all = s.rowsOf l.kind .all :=
    Store.rowsOf_congr l.isLinked_kind fun t ht =>
      h.changes.others t fun e => Link.table_not_mem_spine hl (e ▸ ht)
  have hc : l.kind.idColumn ∉ l.kind.attachments.map (·.1) := by cases l <;> decide
  rw [hrows] at hr' ⊢
  refine filter_filterMap_request?_congr (fun row hrow => ?_) fun fs hrow hkey => ?_
  · obtain ⟨m, -, hrow⟩ := List.mem_flatMap.mp hrow
    rcases Store.exists_obj_of_mem_expand hrow with hobj | ⟨hk, -⟩
    · exact hobj
    · rw [l.isLinked_kind] at hk
      cases hk
  · obtain ⟨r, hmade⟩ := hr _ hrow
    obtain ⟨r', hmade'⟩ := hr' _ hrow
    rw [request?, request?, Store.attachAll_eq_of_key hc (Store.eval_attachment_eq h hid hl
      (isSome_of_request? hmade) (isSome_of_request? hmade')) hkey]

/-- Members: those that name other files give the requests that they gave. -/
theorem filter_requests_of_member (h : s.LinkStep s' .projectFile c)
    (hid : s'.Unreached .projectFile c id) (hi : s'.KeepsId .file) :
    ((s'.rowsOf .file .all).filterMap (x.request? s' .file)).filter (fun r => r.id = id) =
      ((s.rowsOf .file .all).filterMap (x.request? s .file)).filter fun r => r.id = id := by
  have hexpand : s'.expand .file = s.expand .file :=
    Store.expand_congr fun t _ hne => h.changes.table_eq hne
  have hrequest : x.request? s' .file = x.request? s .file := by
    have htables : ∀ t ∈ Query.fieldTables (Kind.attachments .file), t ≠ "project2datafile" := by
      decide
    funext row
    rw [request?, request?,
      Store.attachAll_congr _ row fun t ht => h.changes.others t (htables t ht)]
  have hprojects := h.changes.table_eq (u := "projects") (by decide)
  have hi' : s.KeepsId .file := h.changes.keepsId hi (by decide) (by decide) (by decide)
  rw [Store.rowsOf_all_of_linked h.sorted' rfl, Store.rowsOf_all_of_linked h.sorted rfl, hexpand,
    hrequest, hprojects]
  simp only [List.filterMap_flatMap, List.filter_flatMap]
  refine List.flatMap_congr fun p _ => h.changes.flatMap_filter_eq _ fun m hm => ?_
  refine filter_member_eq_nil h.sorted hi' (fun e => by cases e) ?_
  obtain ⟨key, hkey⟩ := h.exists_end hm
  have hmember : m.key (Kind.memberColumn .file) = some key := Json.key_eq_of_text hkey
  rw [hmember]
  exact fun e => hid m hm ⟨key, hkey, List.mem_singleton.mpr (Option.some.inj e).symm⟩

/-- **Documents under ids that no end of the changed rows finds stay as they are.** -/
theorem filter_requests_of_unreached (h : s.LinkStep s' l c) (hid : s'.Unreached l c id)
    (hi : s'.KeepsId l.kind)
    (hr : ∀ row ∈ s.rowsOf l.kind .all, ∃ r, x.request? s l.kind row = some r)
    (hr' : ∀ row ∈ s'.rowsOf l.kind .all, ∃ r, x.request? s' l.kind row = some r) :
    ((s'.rowsOf l.kind .all).filterMap (x.request? s' l.kind)).filter (fun r => r.id = id) =
      ((s.rowsOf l.kind .all).filterMap (x.request? s l.kind)).filter fun r => r.id = id := by
  by_cases hl : l = .projectFile
  · subst hl
    exact filter_requests_of_member h hid hi
  · exact filter_requests_of_list h hid hl hr hr'

end Unreached

/-! ## 4. What following the change submits -/

section Following

variable {σ τ : Type} {x : Indexers} {s : Store}

/-- **What the first target of a plan asks for is submitted**, whatever comes after it. -/
theorem mem_log_of_first (hx : x.source = .ofStore s) (b : Backend σ) {e : ChangeEvent} {t : Target}
    {rest : List Target} (hplan : e.plan (.ofStore s) = .ok (t :: rest)) (state : σ)
    (hr : x.ReadsAll b t.kind (.ofIds t.ids) state) {r : Request}
    (hmem : r ∈ (s.rowsOf t.kind (.ofIds t.ids)).filterMap (x.request? s t.kind)) :
    r ∈ (x.apply b.logged e (state, [])).2.2.flatten := by
  obtain ⟨report, after, batches, hrun, -, hbatches⟩ := run_of_readsAll hx hr []
  obtain ⟨more, hmore, -⟩ := exists_log_of_runAll hx b rest after ([] ++ batches)
  have hlog : (x.apply b.logged e (state, [])).2.2 = batches ++ more := by
    simp only [apply, hx, hplan]
    rw [runAll_cons_ok hrun, hmore, List.nil_append]
  rw [hlog, List.flatten_append, hbatches]
  exact List.mem_append_left _ hmem

end Following

/-- **A change is covered by following it**, for some ids. The feed makes an event of it; and each
    document that a run over everything submits after the change, where it is not what the run
    submitted before under its id, is submitted by following the event. -/
def CoversChange {σ τ : Type} (before after : Indexers) (b : Backend σ) (state : σ)
    (b' : Backend τ) (state' : τ) (table : String) (c : RowChange) (ids : String → Prop) : Prop :=
  ∃ e, ChangeEvent.ofFeed? table c.old c.new = some e ∧
    ∀ (k : Kind), ∀ r ∈ after.submitted b k .all state, ids r.id →
      (before.submitted b k .all state).filter (fun q => q.id = r.id) ≠
        (after.submitted b k .all state).filter (fun q => q.id = r.id) →
      r ∈ (after.apply b'.logged e (state', [])).2.2.flatten

/-- **Changed links are followed.** Where the row of a link is added, removed or replaced, and is on
    a file if it is on an item, following the change submits every document that changed, but for
    those that are found from an end to which the row is moved.

    The documents have to be found by their ids: no table that they are made from brings an id of
    its own, and no link row is passed over by the run over everything. For an item the samples of
    files are looked up first, so their table has to be there. -/
theorem changedLink_covered {σ τ : Type} {x : Indexers} {s s' : Store} {l : Link} {c : RowChange}
    (hx : x.source = .ofStore s) (h : s.LinkStep s' l c) (hfile : l.IsFile c)
    (hi : s'.KeepsId l.kind) (hp : s'.LinksSomeProject l.kind)
    (hitem : l.isItem = true → (s'.rows? "sample2datafile").isSome)
    (b : Backend σ) (state : σ) (hr : ∀ k, x.ReadsAll b k .all state)
    (hr' : ∀ k, (x.onto s').ReadsAll b k .all state) (b' : Backend τ) (state' : τ) :
    x.CoversChange (x.onto s') b state b' state' l.table c fun id => ¬ s'.MovedTo l c id := by
  have hx' : (x.onto s').source = .ofStore s' := rfl
  obtain ⟨key, hkey⟩ := h.exists_end c.feedRow_mem
  have hpick : ChangeEvent.hasKey l.pickColumn c.feedRow = true := by
    refine h.hasKey c.feedRow_mem ?_
    cases l <;> first | exact .inl rfl | exact .inr rfl
  refine ⟨l.event key, ChangeEvent.ofFeed?_link hpick hkey hfile, fun k r hmem hmoved hne => ?_⟩
  -- only documents that the link is read for can have changed
  obtain rfl : k = l.kind := by
    by_contra hk
    refine hne (congrArg _ ?_)
    rw [submitted, submitted, run_congr hx fun t ht => h.changes.others t fun e => ?_]
    exact Link.table_not_mem_tables hk (e ▸ ht)
  have hreads := (readsAll_iff_of_spine hx (isSome_of_readsAll hx (hr l.kind))).mp (hr l.kind)
  have hreads' := (readsAll_iff_of_spine hx' (isSome_of_readsAll hx' (hr' l.kind))).mp (hr' l.kind)
  rw [submitted_eq hx' (hr' l.kind)] at hmem hne
  rw [submitted_eq hx (hr l.kind)] at hne
  have hid : r.id ∈ s'.linkIds l key := by
    obtain ⟨key', hkey', hid⟩ := (Store.finds_or_unreached hmoved).resolve_right fun hid =>
      hne (filter_requests_of_unreached h hid hi hreads hreads').symm
    rw [hkey, Option.some.injEq, Json.str.injEq] at hkey'
    exact hkey' ▸ hid
  -- a document with properties shows that the table of its sets is there
  have hset : l = .setProperty → (s'.rows? "sample2propertyset").isSome := by
    rintro rfl
    obtain ⟨row, -, hrow⟩ := List.mem_filterMap.mp hmem
    exact isSome_of_request? hrow _ List.mem_cons_self _ (by decide)
  have hids : s'.linkIds l key ≠ [] := List.ne_nil_of_mem hid
  obtain ⟨rest, hplan⟩ := ChangeEvent.plan_link key hset hitem
  rw [Target.ofIds, List.isEmpty_eq_false_iff.mpr hids] at hplan
  exact mem_log_of_first hx' b' hplan state'
    (readsAll_ofIds_of_linksSomeProject hx' h.sorted' l.isLinked_kind hp hids (hr' l.kind))
    (mem_requests_ofIds h.sorted' l.isLinked_kind hi hmem hid)

end Indexers

/-! ## 5. Links that are followed, and links that are not -/

namespace Store

/-- A link from a project to a sample. -/
def projectSample (id project sample : String) : Json :=
  .obj [("id", .str id), ("project_id", .str project), ("sample_id", .str sample)]

/-- A link from a sample to a file. -/
def sampleFile (sample file : String) : Json :=
  .obj [("datafile_id", .str file), ("id", .str "l-1"), ("sample_id", .str sample)]

/-- A link from an item to a tag. -/
def itemTag (type item tag : String) : Json :=
  .obj [("id", .str "l-1"), ("item_id", .str item), ("item_type", .str type), ("tag_id", .str tag)]

/-- A link from a property set to a property. -/
def setProperty (set property : String) : Json :=
  .obj [("id", .str "l-1"), ("property_id", .str property), ("property_set_id", .str set)]

/-- The directory of a file, with more columns. -/
def directory (more : Fields) : Json := .obj (more ++ [("id", .str "d-1"), ("name", .str "tests")])

/-- A file of a project, in a directory. -/
def fileInDirectory (dir : Json) : List (String × List Json) := [
  ("projects", [.obj [("id", .str "p-1")]]),
  ("project2datafile",
    [.obj [("datafile_id", .str "f-1"), ("id", .str "l-1"), ("project_id", .str "p-1")]]),
  ("datadir2datafile",
    [.obj [("datadir_id", .str "d-1"), ("datafile_id", .str "f-1"), ("id", .str "l-1")]]),
  ("datadirs", [dir]),
  ("datafiles", [.obj [("id", .str "f-1"), ("name", .str "loads.csv")]])]

/-- A file with some tags. -/
def taggedFile (tags : List Json) : Store :=
  filled (fileInDirectory (directory []) ++ [("tag2item", tags)])

/-- The file before its tag is replaced. -/
def rawFile : Store := taggedFile [itemTag "datafile" "f-1" "raw"]

/-- Two samples of a project, the first with a file. -/
def twoSamples : Store :=
  filled (fileInDirectory (directory []) ++ [
    ("project2sample", [projectSample "l-1" "p-1" "s-1", projectSample "l-2" "p-1" "s-2"]),
    ("samples", [.obj [("id", .str "s-1")], .obj [("id", .str "s-2")]]),
    ("sample2datafile", [sampleFile "s-1" "f-1"])])

/-- A sample that has the id of another one in its own row. -/
def renamingSample : Store :=
  filled (fileInDirectory (directory []) ++ [
    ("project2sample", [projectSample "l-1" "p-1" "s-1"]),
    ("samples", [.obj [("id", .str "s-1"), ("sample_id", .str "s-9")]])])

/-- A directory that has the id of another file in its own row. -/
def renamingDirectory : Store :=
  filled (fileInDirectory (directory [("datafile_id", .str "f-9")]) ++
    [("datafiles", [.obj [("id", .str "f-9"), ("name", .str "pulls.csv")]])])

/-- A file where there is no table of the files of samples, and no sample. -/
def withoutSampleFiles : Store :=
  .ofTables (fileInDirectory (directory []) ++
    ((Kind.all.flatMap Kind.tables).filter (· ≠ "sample2datafile")).map fun name => (name, []))

/-- Two samples with the same property set, the first one in a project that is gone and with a name
    that cannot be read. -/
def strayLink : Store :=
  filled [
    ("projects", [.obj [("id", .str "p-1")]]),
    ("project2sample", [projectSample "l-1" "p-0" "s-0", projectSample "l-2" "p-1" "s-1"]),
    ("samples", [.obj [("id", .str "s-0"), ("name", .bool true)], .obj [("id", .str "s-1")]]),
    ("sample2propertyset",
      [.obj [("id", .str "l-1"), ("property_set_id", .str "ps-1"), ("sample_id", .str "s-0")],
        .obj [("id", .str "l-2"), ("property_set_id", .str "ps-1"), ("sample_id", .str "s-1")]]),
    ("properties",
      [.obj [("attribute", .str "hardness"), ("id", .str "a-1"), ("name", .str "Hardness")]])]

end Store

/-- A file's tag is replaced by another one. -/
def retagging : RowChange :=
  .replaced (Store.itemTag "datafile" "f-1" "raw") (Store.itemTag "datafile" "f-1" "clean")

namespace Indexers

theorem changedLink_covered_retagging :
    (onStore .rawFile).source = .ofStore .rawFile ∧
      Store.rawFile.LinkStep (Store.rawFile.changing .tagItem retagging) .tagItem retagging ∧
      Link.tagItem.IsFile retagging ∧
      (Store.rawFile.changing .tagItem retagging).KeepsId .file ∧
      (Store.rawFile.changing .tagItem retagging).LinksSomeProject .file ∧
      ((Store.rawFile.changing .tagItem retagging).rows? "sample2datafile").isSome ∧
      (∀ k, (onStore .rawFile).ReadsAll .accepting k .all ()) ∧
      (∀ k, ((onStore .rawFile).onto (Store.rawFile.changing .tagItem retagging)).ReadsAll
        .accepting k .all ()) ∧
      (onStore .rawFile).CoversChange
        ((onStore .rawFile).onto (Store.rawFile.changing .tagItem retagging)) .accepting ()
        .accepting () "tag2item" retagging
        (fun id =>
          ¬ (Store.rawFile.changing .tagItem retagging).MovedTo .tagItem retagging id) := by
  have hstep : Store.rawFile.LinkStep (Store.rawFile.changing .tagItem retagging) .tagItem
      retagging :=
    Store.linkStep_changing (Store.sorted_filled (by decide)) (by decide) rfl (by decide)
  have hfile : Link.tagItem.IsFile retagging := fun _ => rfl
  have hi : (Store.rawFile.changing .tagItem retagging).KeepsId .file := by
    unfold Store.KeepsId
    decide
  have hp : (Store.rawFile.changing .tagItem retagging).LinksSomeProject .file := by
    unfold Store.LinksSomeProject
    decide
  have ht : ((Store.rawFile.changing .tagItem retagging).rows? "sample2datafile").isSome := by
    decide
  have hreads : ∀ k ∈ Kind.all, (onStore .rawFile).ReadsAll .accepting k .all () ∧
      ((onStore .rawFile).onto (Store.rawFile.changing .tagItem retagging)).ReadsAll
        .accepting k .all () := by
    decide +kernel
  have hr := fun k => (hreads k k.mem_all).1
  have hr' := fun k => (hreads k k.mem_all).2
  exact ⟨rfl, hstep, hfile, hi, hp, ht, hr, hr',
    changedLink_covered rfl hstep hfile hi hp (fun _ => ht) .accepting () hr hr' .accepting ()⟩

/-- The texts of documents. -/
def texts (requests : List Request) : List String := requests.map (·.document.text)

/-- A document that the change made and that following it does not submit. -/
theorem not_coversChange {σ τ : Type} {before after : Indexers} {b : Backend σ} {state : σ}
    {b' : Backend τ} {state' : τ} {table : String} {c : RowChange} {e : ChangeEvent}
    (he : ChangeEvent.ofFeed? table c.old c.new = some e) (k : Kind)
    (h : ∃ text ∈ texts (after.submitted b k .all state),
      text ∉ texts (before.submitted b k .all state) ∧
        text ∉ texts (after.apply b'.logged e (state', [])).2.2.flatten) :
    ¬ before.CoversChange after b state b' state' table c fun _ => True := by
  rintro ⟨e', he', hall⟩
  obtain rfl := Option.some.inj (he.symm.trans he')
  obtain ⟨text, hmade, hbefore, hlog⟩ := h
  obtain ⟨r, hr, rfl⟩ := List.mem_map.mp hmade
  refine hlog (List.mem_map_of_mem (hall k r hr trivial fun heq => hbefore ?_))
  have hr' : r ∈ (after.submitted b k .all state).filter fun q => q.id = r.id :=
    List.mem_filter.mpr ⟨hr, decide_eq_true rfl⟩
  rw [← heq] at hr'
  exact List.mem_map_of_mem (List.mem_filter.mp hr').1

/-- **A change to a link is missed**, although all runs read everything before it and after it. -/
def MissesChange (s : Store) (l : Link) (c : RowChange) : Prop :=
  s.LinkStep (s.changing l c) l c ∧
    (∀ k, (onStore s).ReadsAll .accepting k .all ()) ∧
    (∀ k, ((onStore s).onto (s.changing l c)).ReadsAll .accepting k .all ()) ∧
    ¬ (onStore s).CoversChange ((onStore s).onto (s.changing l c)) .accepting () .accepting ()
      l.table c fun _ => True

/-- What can be seen from the runs alone. -/
theorem missesChange_of {s : Store} {l : Link} {c : RowChange} {e : ChangeEvent} (k : Kind)
    (h : s.LinkStep (s.changing l c) l c) (he : ChangeEvent.ofFeed? l.table c.old c.new = some e)
    (hruns : (∀ k ∈ Kind.all, (onStore s).ReadsAll .accepting k .all () ∧
        ((onStore s).onto (s.changing l c)).ReadsAll .accepting k .all ()) ∧
      ∃ text ∈ texts (((onStore s).onto (s.changing l c)).submitted .accepting k .all ()),
        text ∉ texts ((onStore s).submitted .accepting k .all ()) ∧
          text ∉ texts (((onStore s).onto (s.changing l c)).apply Backend.accepting.logged e
            ((), [])).2.2.flatten) : MissesChange s l c :=
  ⟨h, fun k => (hruns.1 k k.mem_all).1, fun k => (hruns.1 k k.mem_all).2,
    not_coversChange he k hruns.2⟩

/-- **Links are missed where one of the conditions is not met.** In turn: the link of a file is
    moved from one sample to another; a tag is put on something that is no file and has the id of
    one; a sample brings the id of another sample in its own row; a directory brings the id of
    another file; the table with the files of samples is not there, which no document needs; and a
    sample that cannot be read has a property set in common with another one, but no project. -/
theorem changedLink_missed :
    MissesChange .twoSamples .sampleFile
        (.replaced (Store.sampleFile "s-1" "f-1") (Store.sampleFile "s-2" "f-1")) ∧
      MissesChange (.taggedFile []) .tagItem (.added (Store.itemTag "sample" "f-1" "raw")) ∧
      MissesChange .renamingSample .sampleFile (.added (Store.sampleFile "s-9" "f-1")) ∧
      MissesChange .renamingDirectory .tagItem (.added (Store.itemTag "datafile" "f-9" "raw")) ∧
      MissesChange .withoutSampleFiles .tagItem (.added (Store.itemTag "datafile" "f-1" "raw")) ∧
      MissesChange .strayLink .setProperty (.added (Store.setProperty "ps-1" "a-1")) := by
  have hstep : ∀ {tables : List (String × List Json)} {l : Link} {c : RowChange},
      (∀ t ∈ tables, ∀ row ∈ t.2, row.Sorted) →
      (Store.filled tables).NamesLinks ∧ ((Store.filled tables).changing l c).NamesLinks →
      (Store.filled tables).rows? l.table = some c.before → (∀ row ∈ c.after, row.Sorted) →
      (Store.filled tables).LinkStep ((Store.filled tables).changing l c) l c :=
    fun hs => Store.linkStep_changing (Store.sorted_filled hs)
  refine ⟨?moved, ?item, ?sample, ?directory, ?table, ?project⟩
  case moved =>
    exact missesChange_of .sample (hstep (by decide) (by decide) rfl (by decide)) rfl
      (by decide +kernel)
  case item =>
    exact missesChange_of .file (hstep (by decide) (by decide) rfl (by decide)) rfl
      (by decide +kernel)
  case sample =>
    exact missesChange_of .sample (hstep (by decide) (by decide) rfl (by decide)) rfl
      (by decide +kernel)
  case directory =>
    exact missesChange_of .file (hstep (by decide) (by decide) rfl (by decide)) rfl
      (by decide +kernel)
  case table =>
    exact missesChange_of .file (Store.linkStep_changing (Store.sorted_ofTables (by decide))
      (by decide) rfl (by decide)) rfl (by decide +kernel)
  case project =>
    exact missesChange_of .sample (hstep (by decide) (by decide) rfl (by decide)) rfl
      (by decide +kernel)

end Indexers

end LabIndex
