import LabIndex.Proofs.Indexing.FileRows
import LabIndex.Proofs.Indexing.Malformed
import LabIndex.Proofs.Store.Columns

/-!
# The rows that samples are made from

The query of the samples, without its operators. A property is come to along a trail of three rows:
a link of the sample to a set, a member of that set, and the property that these two name. A file is
come to through one link. Both are looked up by the sample that the joined row names, again for each
row, so that nothing that is linked to another sample gets into it.

* `PropertyTrail.linked`, `PropertyTrail.columns`: which rows are linked, and the columns they come to;
* `Store.IsSampleRow`: what a joined row becomes;
* `Store.exists_sampleRow`: one row that names its sample;
* `Store.sampleRows_embed_links`: every row of a query that succeeds.
-/

namespace LabIndex

/-! ## 1. What is linked to a sample -/

/-- A row of each of the three tables through which a sample comes to a property. -/
structure PropertyTrail where
  link : Json
  member : Json
  property : Json

namespace PropertyTrail

/-- The columns that a sample's link to a set and a member of the set come to. -/
def toMember (link member : Json) : Columns := .atop member.get? link.get?

/-- **The columns of all three rows**, a later row's over an earlier one's. -/
def columns (t : PropertyTrail) : Columns := .atop t.property.get? (toMember t.link t.member)

/-- The link is one of the sample. -/
def linkFits (sample : Option Json) (t : PropertyTrail) : Bool :=
  Json.sameKey (t.link.get? "sample_id") sample

/-- The member is one of the set that the link names. -/
def memberFits (t : PropertyTrail) : Bool :=
  Json.sameKey (t.member.get? "property_set_id") (t.link.get? "property_set_id")

/-- The property is the one that the rows before it name. -/
def propertyFits (t : PropertyTrail) : Bool :=
  Json.sameKey (t.property.get? "id") (toMember t.link t.member "property_id")

/-- **Each row is linked to those before it**, and the first to a sample. -/
def linked (sample : Option Json) (t : PropertyTrail) : Bool :=
  t.linkFits sample && (t.memberFits && t.propertyFits)

end PropertyTrail

namespace Store

/-- The trails from a sample, in the lexicographic order of the tables. -/
def propertyTrails (s : Store) (sample : Option Json) : List PropertyTrail :=
  ((s.table "sample2propertyset").flatMap fun l => (s.table "propertyset2property").flatMap fun m =>
    (s.table "properties").map fun p => ⟨l, m, p⟩).filter (·.linked sample)

/-- The file links of a sample, each with a file that it names. -/
def sampleFiles (s : Store) (sample : Option Json) : List (Json × Json) :=
  s.linkedPairs "sample2datafile" "sample_id" "datafile_id" "datafiles" sample

/-- **What a joined row becomes in the sample query**: its columns, with the list of the sample's
    properties and that of its files in the place of whatever these columns were. A property is the
    attribute and the name of its trail, a file the columns of the file over those of the row that
    links it. -/
def IsSampleRow (s : Store) (joinedRow row : Json) : Prop :=
  ∃ (cols : Columns) (properties files : List Json), joinedRow.HasColumns cols ∧
    (row.key "sample_id").isSome ∧
    List.Forall₂ (fun (t : PropertyTrail) property =>
        property.HasColumns (.among ["attribute", "name"] t.columns))
      (s.propertyTrails (row.get? "sample_id")) properties ∧
    List.Forall₂ (fun (r : Json × Json) file => file.HasColumns (.atop r.2.get? r.1.get?))
      (s.sampleFiles (row.get? "sample_id")) files ∧
    row.HasColumns ((cols.set "properties" (.arr properties)).set "files" (.arr files))

/-! ## 2. Properties and files -/

variable {s : Store}

/-- **The trails, row after row**: each is chosen among those linked to the ones before it. -/
theorem propertyTrails_eq (s : Store) (sample : Option Json) :
    s.propertyTrails sample =
      (s.holding "sample2propertyset" "sample_id" sample).flatMap fun l =>
        (s.holding "propertyset2property" "property_set_id" (l.get? "property_set_id")).flatMap
          fun m => (s.holding "properties" "id" (PropertyTrail.toMember l m "property_id")).map
            fun p => ⟨l, m, p⟩ := by
  -- each condition is settled as soon as the row that it is about is chosen
  rw [propertyTrails, filter_flatMap_and (p := fun l => Json.sameKey (l.get? "sample_id") sample)
    (r := fun t => t.memberFits && t.propertyFits) ?link]
  case link =>
    simp only [List.mem_flatMap, List.mem_map]
    rintro l - t ⟨m, -, p, -, rfl⟩
    rfl
  refine List.flatMap_congr fun l _ => ?_
  rw [filter_flatMap_and (p := fun m => Json.sameKey (m.get? "property_set_id")
      (l.get? "property_set_id")) (r := PropertyTrail.propertyFits) ?member]
  case member =>
    simp only [List.mem_map]
    rintro m - t ⟨p, -, rfl⟩
    rfl
  refine List.flatMap_congr fun m _ => ?_
  rw [List.filter_map]
  rfl

/-- The tables through which properties and files are linked to samples. -/
def sampleLinkTables : List String :=
  ["sample2propertyset", "propertyset2property", "properties", "sample2datafile", "datafiles"]

/-- **The properties of a row that names its sample**, trail by trail. -/
theorem exists_properties (hs : s.Sorted) (h : ∀ t ∈ sampleLinkTables, (s.rows? t).isSome)
    {row : Json} {key : String} (hrow : row.key "sample_id" = some key) :
    ∃ properties, s.eval (some row)
        (.pluck (.zip (.eqJoinId (.zip (.eqJoin (.related "sample2propertyset" "sample_id"
          "sample_id") "property_set_id" "propertyset2property" "property_set_id"))
          "property_id" "properties")) ["attribute", "name"]) = .ok properties ∧
      List.Forall₂ (fun (t : PropertyTrail) property =>
          property.HasColumns (.among ["attribute", "name"] t.columns))
        (s.propertyTrails (row.get? "sample_id")) properties := by
  have hmembers : s.eval (some row) (.zip (.eqJoin (.related "sample2propertyset" "sample_id"
      "sample_id") "property_set_id" "propertyset2property" "property_set_id")) = .ok _ :=
    eval_zip_eqJoin (eval_related (h "sample2propertyset" (by decide)) hrow)
      (h "propertyset2property" (by decide))
  refine ⟨_, eval_pluck (eval_zip_eqJoinId hmembers (h "properties" (by decide)))
    ["attribute", "name"], ?_⟩
  rw [propertyTrails_eq, ← holding_of_some hrow, List.forall₂_map_right_iff, List.flatMap_assoc]
  refine forall₂_flatMap fun l hl => ?_
  obtain ⟨fs, rfl, ho⟩ := exists_fields_of_mem_holding hs hl
  refine forall₂_joinedWith Row.recolumns_id hs (Json.hasColumns_get? ho) rfl ?_
  intro m _ member hmember
  exact forall₂_map_joined hs hmember rfl fun p _ property hcols =>
    hcols.pluck ["attribute", "name"]

/-- **A row that names its sample gets what is linked to it.** -/
theorem exists_sampleRow (hs : s.Sorted) (h : ∀ t ∈ sampleLinkTables, (s.rows? t).isSome)
    {joinedRow : Json} {cols : Columns} {key : String} (hcols : joinedRow.HasColumns cols)
    (hkey : joinedRow.key "sample_id" = some key) :
    ∃ row, s.attachAll Kind.propertiesAndFiles joinedRow = .ok row ∧ s.IsSampleRow joinedRow row := by
  obtain ⟨properties, hproperties, hall⟩ := exists_properties hs h hkey
  -- the properties leave the row its sample
  have hne : "sample_id" ≠ "properties" := by decide
  have hne' : "sample_id" ≠ "files" := by decide
  have hkey' := (Row.key_attach hne properties joinedRow).trans hkey
  obtain ⟨files, hfiles, hall'⟩ := exists_linkedPairs hs (h "sample2datafile" (by decide))
    (h "datafiles" (by decide)) hkey' "sample_id" "datafile_id"
  refine ⟨Row.attach "files" files (Row.attach "properties" properties joinedRow), ?_, cols,
    properties, files, hcols, ?_, ?_, ?_, (hcols.set "properties" properties).set "files" files⟩
  · rw [Kind.propertiesAndFiles, attachAll, hproperties]
    simp only [attachAll, hfiles, bind, Except.bind]
  · rw [Row.key_attach hne', hkey']
    rfl
  · rw [Row.get?_attach hne', Row.get?_attach hne]
    exact hall
  · rw [Row.get?_attach hne']
    exact hall'

/-- A row that gets its lists names its sample, and is a row of the query. -/
theorem isSampleRow_of_attachAll (hs : s.Sorted) {joinedRow row : Json} {cols : Columns}
    (hcols : joinedRow.HasColumns cols)
    (h : s.attachAll Kind.propertiesAndFiles joinedRow = .ok row) : s.IsSampleRow joinedRow row := by
  have htables : ∀ t ∈ Query.fieldTables Kind.propertiesAndFiles, (s.rows? t).isSome := by
    intro t ht
    have ht' : t ∈ Kind.propertiesAndFiles.flatMap (·.2.spine) := ht
    obtain ⟨f, hf, ht⟩ := List.mem_flatMap.mp ht'
    exact isSome_of_attachAll h f hf t ht
  cases hkey : joinedRow.key "sample_id" with
  | none =>
      have hfails : s.attachAll Kind.propertiesAndFiles joinedRow =
          .error (.missingField "sample_id") :=
        attachAll_eq_error_of_key (by decide) (Kind.goesBy_attachments .sample) htables hkey
      rw [hfails] at h
      cases h
  | some key =>
      obtain ⟨full, hfull, hrow⟩ := exists_sampleRow hs htables hcols hkey
      rw [hfull] at h
      cases h
      exact hrow

/-! ## 3. The query -/

/-- Whatever a scope covers, the members have their columns in order. -/
theorem inOrder_of_mem_members (hs : s.Sorted) {k : Kind} {scope : Scope} {m : Json}
    (h : m ∈ s.members k scope) : m.InOrder := by
  have hprojects : ∀ p ∈ s.projectIds, p.InOrder := by
    intro p hp
    obtain ⟨v, -, rfl⟩ := List.mem_map.mp hp
    have hother : "name" ∉ ["id"] := by decide
    exact (Json.without_pluck hother v).2
  rw [members] at h
  split at h
  · obtain ⟨id, -, hm⟩ := List.mem_flatMap.mp h
    exact .of_sorted (hs.of_mem_table (mem_withKey.mp hm).1)
  · split at h
    · obtain ⟨p, hp, hm⟩ := List.mem_flatMap.mp h
      exact inOrder_of_mem_joinedWith (hprojects p hp) hm
    · exact .of_sorted (hs.of_mem_table h)

theorem exists_hasColumns_of_mem_rowsOf (hs : s.Sorted) {scope : Scope} {row : Json}
    (h : row ∈ s.rowsOf .sample scope) : ∃ cols, row.HasColumns cols := by
  obtain ⟨m, hm, hrow⟩ := List.mem_flatMap.mp h
  obtain ⟨l, r, key, rfl, -, -, -, ho, rfl⟩ := exists_fields_of_mem_joined hs hrow
  exact ⟨_, Json.hasColumns_overlaid
    (Json.hasColumns_get? (inOrder_of_mem_members hs hm l rfl)) (Json.hasColumns_get? ho)⟩

/-- **Samples embed what is linked to them.** A sample query that succeeds, over any scope, makes one
    row of each row that is joined for the scope, in the order of these: its columns, with the
    properties and the files of the sample that it names. -/
theorem sampleRows_embed_links (hs : s.Sorted) {scope : Scope} {cursor : Cursor}
    (h : (Source.ofStore s).execute (Kind.query .sample scope) = .ok cursor) :
    List.Forall₂ s.IsSampleRow (s.rowsOf .sample scope) cursor.rows := by
  obtain ⟨rows, hquery, rfl⟩ := exists_of_map_eq_ok h
  rw [query_eq_of_ok hquery, mapM_eq_ok_iff, ← List.forall₂_eq_eq_eq, List.forall₂_map_left_iff,
    List.forall₂_map_right_iff] at hquery
  have hrows := (List.forall₂_and_left _ _).mpr ⟨fun _ hmem => hmem, hquery⟩
  refine hrows.imp fun joinedRow row hrow => ?_
  obtain ⟨cols, hcols⟩ := exists_hasColumns_of_mem_rowsOf hs hrow.1
  exact isSampleRow_of_attachAll hs hcols hrow.2

/-- Two samples that share a set. The first has another set too, whose member names its property by a
    number, and one file; it is stored with columns that the lists replace. A link without a sample and
    one without a file lead nowhere. -/
def sharedSet : Store :=
  let row (columns : List (String × String)) : Json := .obj (columns.map fun c => (c.1, .str c.2))
  filled [
    ("projects", [row [("id", "p-1")]]),
    ("project2sample", [row [("project_id", "p-1"), ("sample_id", "s-1")],
      row [("project_id", "p-1"), ("sample_id", "s-2")]]),
    ("samples", [row [("files", "none"), ("id", "s-1"), ("properties", "old")],
      row [("id", "s-2")]]),
    ("sample2propertyset", [row [("property_set_id", "set-2"), ("sample_id", "s-1")],
      .obj [("property_set_id", .str "set-2"), ("sample_id", .null)],
      row [("property_set_id", "set-1"), ("sample_id", "s-1")],
      row [("property_set_id", "set-1"), ("sample_id", "s-2")]]),
    ("propertyset2property", [row [("property_id", "q-1"), ("property_set_id", "set-1")],
      .obj [("name", .str "member"), ("property_id", .num (.int 2)),
        ("property_set_id", .str "set-2")]]),
    ("properties", [row [("attribute", "hardness"), ("id", "q-1"), ("name", "Hardness")],
      row [("attribute", "mass"), ("id", "2")]]),
    ("sample2datafile", [.obj [("datafile_id", .null), ("sample_id", .str "s-1")],
      row [("datafile_id", "f-1"), ("sample_id", "s-1")]]),
    ("datafiles", [row [("id", "f-1"), ("name", "loads.csv")]])]

theorem sampleRows_embed_links_sharedSet :
    sharedSet.Sorted ∧ ∃ cursor,
      (Source.ofStore sharedSet).execute (Kind.query .sample .all) = .ok cursor ∧
        List.Forall₂ sharedSet.IsSampleRow (sharedSet.rowsOf .sample .all) cursor.rows := by
  have hs : sharedSet.Sorted := sorted_filled (by decide)
  exact ⟨hs, _, rfl, sampleRows_embed_links hs rfl⟩

/-- The properties of a sample are in the order of its links. A member's name is its property's, where
    that has none. -/
example : (sharedSet.propertyTrails (some (.str "s-1"))).map (fun t =>
      (t.columns "attribute", t.columns "name")) =
    [(some (.str "mass"), some (.str "member")),
      (some (.str "hardness"), some (.str "Hardness"))] := by rfl

end Store

end LabIndex
