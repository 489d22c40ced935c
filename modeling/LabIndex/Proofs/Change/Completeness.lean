import LabIndex.Proofs.Change.Following
import LabIndex.Proofs.Indexing.Scopes

/-!
# Changed entities

When a row of an entity is replaced, following the change brings every document up to date that the
row reaches: what the plan does not name is made from the same rows as before, and what it names is
submitted as the run over everything submits it.

* `Store.ReplacesRow`: two stores that differ in one row of an entity;
* `Store.ReplacesRow.expand_eq`, `Store.ReplacesRow.attachAll_eq`: rows and lists that the row does
  not reach;
* `Indexers.filter_requests_of_unplanned`: documents that the plan does not name stay as they are;
* `Indexers.replacesRow_followsChange`: the others are submitted.
-/

namespace LabIndex

namespace Store

/-! ## 1. Replaced rows -/

/-- **One row of the entities of a kind is replaced** in its place and keeps its id. -/
structure ReplacesRow (s s' : Store) (changed : Kind) (id : String) (old new : Json) : Prop where
  others : ∀ t, t ≠ changed.entityTable → s'.rows? t = s.rows? t
  inPlace : ∃ before after, s.rows? changed.entityTable = some (before ++ old :: after) ∧
    s'.rows? changed.entityTable = some (before ++ new :: after)
  oldId : old.get? "id" = some (.str id)
  newId : new.get? "id" = some (.str id)
  nonempty : id ≠ ""

/-- A file's link to a sample names the sample by a text. -/
def SampleIdsAreTexts (s : Store) : Prop :=
  ∀ row ∈ s.table "sample2datafile", ∃ id, row.get? "sample_id" = some (.str id)

namespace ReplacesRow

variable {s s' : Store} {changed k : Kind} {id key : String} {old new m row : Json}

theorem table_eq (h : s.ReplacesRow s' changed id old new) {t : String}
    (ht : t ≠ changed.entityTable) : s'.table t = s.table t := by
  rw [table, table, h.others t ht]

/-- The rows with another id are the same. -/
theorem withKey_eq (h : s.ReplacesRow s' changed id old new) (hne : key ≠ id) (t : String) :
    withKey "id" key (s'.table t) = withKey "id" key (s.table t) := by
  by_cases ht : t = changed.entityTable
  · subst ht
    obtain ⟨before, after, hs, hs'⟩ := h.inPlace
    have hid : ∀ r : Json, r.get? "id" = some (.str id) → (r.key "id" == some key) = false := by
      intro r hr
      rw [Json.key_eq_of_text hr]
      simpa using Ne.symm hne
    simp [table, hs, hs', withKey, hid old h.oldId, hid new h.newId]
  · rw [h.table_eq ht]

/-- The projects have the ids that they had. -/
theorem projectIds_eq (h : s.ReplacesRow s' changed id old new) : s'.projectIds = s.projectIds := by
  by_cases ht : "projects" = changed.entityTable
  · obtain ⟨before, after, hs, hs'⟩ := h.inPlace
    have hpluck : ∀ r : Json, r.get? "id" = some (.str id) →
        Row.pluck ["id"] r = .obj [("id", .str id)] := by
      intro r hr
      cases r with
      | obj fs =>
          rw [Json.get?] at hr
          simp [Row.pluck, hr, Fields.put]
      | _ => cases hr
    rw [← ht] at hs hs'
    simp [projectIds, table, hs, hs', hpluck old h.oldId, hpluck new h.newId]
  · rw [projectIds, projectIds, h.table_eq ht]

theorem joinedWith_eq (h : s.ReplacesRow s' changed id old new) {t : String}
    (ht : t ≠ changed.entityTable) (f : Json → Json) (field index : String) :
    s'.joinedWith f field t index = s.joinedWith f field t index :=
  joinedWith_congr (h.table_eq ht) f

/-- A join by the ids of entities that does not come to the replaced row. -/
theorem joined_id_eq (h : s.ReplacesRow s' changed id old new) {t field : String}
    (hleft : m.key field = some key) (hsafe : t = changed.entityTable → key ≠ id) :
    s'.joined field t "id" m = s.joined field t "id" m := by
  by_cases ht : t = changed.entityTable
  · rw [joined, joined, joinedWith_of_key hleft, joinedWith_of_key hleft,
      h.withKey_eq (hsafe ht)]
  · rw [joined, joined, h.joinedWith_eq ht]

/-- The link rows are the same, and so are the projects that they are reached from. -/
theorem members_eq (h : s.ReplacesRow s' changed id old new) (hk : k.isLinked = true) :
    s'.members k .all = s.members k .all := by
  rw [members_all_of_linked hk, members_all_of_linked hk, h.projectIds_eq, joined, joined,
    h.joinedWith_eq (Kind.memberTable_ne_entityTable hk changed)]

/-- **A member that does not name the replaced row is followed to the same rows.** -/
theorem expand_eq (h : s.ReplacesRow s' changed id old new) (hs : s.Sorted) (hi : s.KeepsIds)
    (hk : k.isLinked = true) (hm : m.key k.memberColumn = some key)
    (hsafe : k = changed → key ≠ id) : s'.expand k m = s.expand k m := by
  have hsafe' : k.entityTable = changed.entityTable → key ≠ id :=
    fun he => hsafe (Kind.entityTable_injective he)
  cases k with
  | file =>
      have hlinks : "datadir2datafile" ≠ changed.entityTable := by cases changed <;> decide
      have hdirs : "datadirs" ≠ changed.entityTable := by cases changed <;> decide
      simp only [expand, joined, h.joinedWith_eq hlinks, h.joinedWith_eq hdirs]
      refine List.flatMap_congr fun link hlink => List.flatMap_congr fun dir hdir => ?_
      have hdirKey := key_of_mem_directories hs (hi.keepsId .file) hlink hdir
      exact h.joined_id_eq (hdirKey.trans hm) hsafe'
  | sample => exact h.joined_id_eq hm hsafe'
  | process => exact h.joined_id_eq hm hsafe'
  | project => cases hk
  | user => cases hk

/-- The files of a sample that is not linked to the replaced one. -/
theorem eval_files_eq (h : s.ReplacesRow s' .file id old new) (ht : s.SampleIdsAreTexts)
    (hs : s.Has .sample) (hs' : s'.Has .sample) (hkey : key ∉ s'.samplesOf id)
    (hrow : row.key "sample_id" = some key) :
    s'.eval (some row) (.zip (.eqJoinId (.related "sample2datafile" "sample_id" "sample_id")
        "datafile_id" "datafiles")) =
      s.eval (some row) (.zip (.eqJoinId (.related "sample2datafile" "sample_id" "sample_id")
        "datafile_id" "datafiles")) := by
  have hlinks : s'.table "sample2datafile" = s.table "sample2datafile" := h.table_eq (by decide)
  have hnested : ∀ u : Store, u.Has .sample →
      u.eval (some row) (.zip (.eqJoin (.related "sample2datafile" "sample_id" "sample_id")
        "datafile_id" "datafiles" "id")) =
        .ok ((withKey "sample_id" key (u.table "sample2datafile")).flatMap
          (u.joined "datafile_id" "datafiles" "id")) :=
    fun u hu => eval_zip_eqJoin (eval_related (hu _ (by decide)) hrow) (hu _ (by decide))
  rw [Query.eqJoinId, hnested s' hs', hnested s hs, hlinks]
  refine congrArg Except.ok (List.flatMap_congr fun link hlink => ?_)
  obtain ⟨hmem, hsample⟩ := mem_withKey.mp hlink
  cases hfile : link.key "datafile_id" with
  | none => simp [joined, joinedWith, hfile]
  | some file =>
      refine h.joined_id_eq hfile fun _ he => hkey ?_
      -- a link to the replaced file would put its sample among those that the plan names
      subst he
      obtain ⟨sample, hs⟩ := ht link hmem
      rw [Json.key_eq_of_text hs] at hsample
      rw [samplesOf, ChangeEvent.mem_distinctColumn, hlinks]
      refine ⟨link, mem_withKey.mpr ⟨hmem, hfile⟩, ?_⟩
      rw [ChangeEvent.column?, hs, ← hsample]
      rfl

/-- **A row that the plan does not name gets the same lists.** -/
theorem attachAll_eq (h : s.ReplacesRow s' changed id old new) (ht : s.SampleIdsAreTexts)
    (hs : s.Has .sample) (hs' : s'.Has .sample) {fs : Fields}
    (hrow : (Json.obj fs).key k.idColumn = some key)
    (hplan : ¬ Target.Names (s'.targetsOf changed id) k key) :
    s'.attachAll k.attachments (.obj fs) = s.attachAll k.attachments (.obj fs) := by
  by_cases hcase : k = .sample ∧ changed = .file
  · obtain ⟨rfl, rfl⟩ := hcase
    have hkey : key ∉ s'.samplesOf id := fun hmem => hplan (names_samplesOf hmem)
    rw [Kind.attachments, Kind.propertiesAndFiles, attachAll, attachAll,
      eval_congr _ (some (.obj fs)) fun t hmem => h.others t ?_]
    · refine bind_congr fun nested => ?_
      have hrow' : (Row.attach "properties" nested (.obj fs)).key "sample_id" = some key :=
        (Row.key_attach (by decide) nested _).trans hrow
      rw [attachAll, attachAll, h.eval_files_eq ht hs hs' hkey hrow']
      simp only [attachAll]
    · revert t
      decide
  · have htables : ∀ t ∈ Query.fieldTables k.attachments, t ≠ changed.entityTable := by
      cases k <;> cases changed <;> first | decide | exact absurd ⟨rfl, rfl⟩ hcase
    exact attachAll_congr _ _ fun t hmem => h.others t (htables t hmem)

end ReplacesRow

end Store

/-! ## 2. Documents that the plan does not name -/

namespace Indexers

variable {x : Indexers} {s s' : Store} {changed k : Kind} {id key : String} {old new : Json}

/-- What one member gives for an id. -/
theorem filter_member_eq_nil (hs : s.Sorted) (hi : s.KeepsId k) {m : Json}
    (hm : k.isLinked = false → ∀ items, m ≠ .arr items)
    (hkey : m.key k.memberColumn ≠ some key) :
    ((s.expand k m).filterMap (x.request? s k)).filter (fun r => r.id = key) = [] := by
  refine List.filter_eq_nil_iff.mpr fun r hr => ?_
  obtain ⟨row, hrow, hr⟩ := List.mem_filterMap.mp hr
  rw [decide_eq_true_eq]
  rintro rfl
  exact hkey (key_of_request? hs hi hm hrow hr)

/-- A row that the plan does not name makes the same request. -/
theorem request?_eq (h : s.ReplacesRow s' changed id old new) (ht : s.SampleIdsAreTexts)
    (hs : s.Has .sample) (hs' : s'.Has .sample) {fs : Fields}
    (hrow : (Json.obj fs).key k.idColumn = some key)
    (hplan : ¬ Target.Names (s'.targetsOf changed id) k key) :
    x.request? s' k (.obj fs) = x.request? s k (.obj fs) := by
  rw [request?, request?, h.attachAll_eq ht hs hs' hrow hplan]

/-- **What a member gives for an id that the plan does not name stays as it is.** -/
theorem filter_member_eq (h : s.ReplacesRow s' changed id old new) (ht : s.SampleIdsAreTexts)
    (hs : ∀ k, s.Regular k) (hs' : ∀ k, s'.Regular k) (hk : k.isLinked = true)
    (hplan : ¬ Target.Names (s'.targetsOf changed id) k key) (m : Json) :
    ((s'.expand k m).filterMap (x.request? s' k)).filter (fun r => r.id = key) =
      ((s.expand k m).filterMap (x.request? s k)).filter fun r => r.id = key := by
  have hlinked : k.isLinked = false → ∀ items, m ≠ .arr items := fun e => by
    rw [hk] at e
    cases e
  by_cases hkey : m.key k.memberColumn = some key
  · have hsafe : k = changed → key ≠ id := by
      rintro rfl rfl
      exact hplan (s'.names_targetsOf k key)
    have hi := (hs k).keepsIds
    rw [h.expand_eq (hs k).sorted hi hk hkey hsafe]
    refine congrArg _ (List.filterMap_congr fun row hrow => ?_)
    have hrowKey := (Store.key_of_mem_expand (hs k).sorted (hi.keepsId k) hrow).trans hkey
    rcases Store.exists_obj_of_mem_expand hrow with ⟨fs, rfl⟩ | ⟨e, -⟩
    · exact request?_eq h ht (hs _).has (hs' _).has hrowKey hplan
    · rw [hk] at e
      cases e
  · rw [filter_member_eq_nil (hs' k).sorted ((hs' k).keepsIds.keepsId k) hlinked hkey,
      filter_member_eq_nil (hs k).sorted ((hs k).keepsIds.keepsId k) hlinked hkey]

/-- An element that gives nothing that a filter passes. -/
theorem filter_filterMap_append_cons {α β : Type} {g : α → Option β} {p : β → Bool} {a : α}
    (h : ∀ b, g a = some b → p b = false) (before after : List α) :
    ((before ++ a :: after).filterMap g).filter p =
      ((before ++ after).filterMap g).filter p := by
  cases hg : g a with
  | none => simp [hg]
  | some b => simp [hg, h b hg]

/-- The entities of a kind that is indexed as it is, but for the one that was replaced. -/
theorem filter_requests_plain (h : s.ReplacesRow s' changed id old new)
    (hk : k.isLinked = false) (hsafe : k = changed → key ≠ id) :
    ((s'.table k.memberTable).filterMap (x.request? s k)).filter (fun r => r.id = key) =
      ((s.table k.memberTable).filterMap (x.request? s k)).filter fun r => r.id = key := by
  by_cases hc : k = changed
  · subst hc
    obtain ⟨before, after, hs, hs'⟩ := h.inPlace
    have hother : ∀ row : Json, row.get? "id" = some (.str id) →
        ∀ r, x.request? s k row = some r → decide (r.id = key) = false := by
      intro row hrow r hr
      cases row with
      | obj fs =>
          have hid := key_of_request?_obj hr
          rw [Kind.idColumn_of_plain hk, Json.key_eq_of_text hrow] at hid
          rw [← Option.some.inj hid]
          exact decide_eq_false (Ne.symm (hsafe rfl))
      | _ => cases hrow
    simp only [Kind.memberTable_of_plain hk, Store.table, hs, hs', Option.getD_some]
    rw [filter_filterMap_append_cons (hother old h.oldId),
      filter_filterMap_append_cons (hother new h.newId)]
  · have htable : k.memberTable ≠ changed.entityTable := by
      rw [Kind.memberTable_of_plain hk]
      exact fun he => hc (Kind.entityTable_injective he)
    rw [h.table_eq htable]

/-- **Documents that the plan does not name stay as they are.** -/
theorem filter_requests_of_unplanned (h : s.ReplacesRow s' changed id old new)
    (ht : s.SampleIdsAreTexts) (hs : ∀ k, s.Regular k) (hs' : ∀ k, s'.Regular k)
    (hplan : ¬ Target.Names (s'.targetsOf changed id) k key) :
    ((s'.rowsOf k .all).filterMap (x.request? s' k)).filter (fun r => r.id = key) =
      ((s.rowsOf k .all).filterMap (x.request? s k)).filter fun r => r.id = key := by
  cases hk : k.isLinked with
  | true =>
      rw [Store.rowsOf, Store.rowsOf, h.members_eq hk, List.filterMap_flatMap,
        List.filterMap_flatMap, List.filter_flatMap, List.filter_flatMap]
      exact List.flatMap_congr fun m _ => filter_member_eq h ht hs hs' hk hplan m
  | false =>
      have hrequest : x.request? s' k = x.request? s k := by
        funext row
        simp only [request?, Kind.attachments_of_plain hk, Store.attachAll]
      rw [Store.rowsOf_of_plain hk, Store.rowsOf_of_plain hk, Store.members_all_of_plain hk,
        Store.members_all_of_plain hk, hrequest]
      refine filter_requests_plain h hk ?_
      rintro rfl rfl
      exact hplan (s'.names_targetsOf k key)

/-! ## 3. Documents that it names -/

/-- The same indexers on another store. -/
def onto (x : Indexers) (s : Store) : Indexers := { x with source := .ofStore s }

/-- **A row's change is followed completely.** The change that the feed makes of the row before and
    after is applied without failure; and where the documents under an id that a run over everything
    submits are not what they were, following the change submits just these, each as often. -/
def FollowsChange {σ τ : Type} (before after : Indexers) (b : Backend σ) (state : σ)
    (b' : Backend τ) (state' : τ) (table : String) (old new : Json) : Prop :=
  ∃ e reports last log, ChangeEvent.ofFeed? table old new = some e ∧
    after.apply b'.logged e (state', []) = (.ok reports, (last, log)) ∧
    (∀ report ∈ reports, report.cursorError = none) ∧
    ∀ (k : Kind) (key : String),
      (before.submitted b k .all state).filter (fun r => r.id = key) ≠
        (after.submitted b k .all state).filter (fun r => r.id = key) →
      (log.flatten.filter fun r => r.kind = k ∧ r.id = key).Perm
        ((after.submitted b k .all state).filter fun r => r.id = key)

/-- **A replaced entity is followed completely**, where both stores are regular, their runs over
    everything read everything, and files are linked to samples by texts. -/
theorem replacesRow_followsChange {σ τ : Type} (x : Indexers) (hx : x.source = .ofStore s)
    (h : s.ReplacesRow s' changed id old new) (ht : s.SampleIdsAreTexts)
    (hs : ∀ k, s.Regular k) (hs' : ∀ k, s'.Regular k) (b : Backend σ) (state : σ)
    (hr : ∀ k, x.ReadsAll b k .all state) (hr' : ∀ k, (x.onto s').ReadsAll b k .all state)
    (b' : Backend τ) (state' : τ) :
    x.FollowsChange (x.onto s') b state b' state' changed.entityTable old new := by
  have hplan := s'.isPlan_targetsOf changed id
  have hx' : (x.onto s').source = .ofStore s' := rfl
  have hreads : ∀ t ∈ s'.targetsOf changed id, ∀ state : τ,
      (x.onto s').ReadsAll b' t.kind (.ofIds t.ids) state := fun t hmem state =>
    readsAll_ofIds hx' (hs' t.kind) (hplan.someIds t hmem) (hplan.ids t hmem) (hr' t.kind)
  obtain ⟨reports, after, log, hrun, hreports, hlog⟩ :=
    runAll_of_readsAll hx' hreads state' []
  have hlinks : (s'.rows? "sample2datafile").isSome := (hs' .sample).has _ (by decide)
  refine ⟨.ofEntity changed id, reports, after, log,
    ChangeEvent.ofFeed?_entityTable h.oldId h.nonempty new, ?_, hreports, fun k key hne => ?_⟩
  · rw [apply, hx', ChangeEvent.plan_ofEntity hlinks]
    exact hrun
  · rw [submitted_eq hx (hr k), submitted_eq hx' (hr' k)] at hne
    rw [submitted_eq hx' (hr' k), hlog]
    -- what changed was planned for
    by_cases hnames : Target.Names (s'.targetsOf changed id) k key
    · obtain ⟨t, hmem, rfl, hkey⟩ := hnames
      rw [filter_flatMap_targets hplan.kinds hmem (fun u _ r hr => kind_of_mem_requests hr)]
      have hperm := (filter_requests_perm (x := x.onto s') (hs' t.kind) (hplan.someIds t hmem)
        (hplan.ids t hmem)).filter fun r => r.id = key
      rw [List.filter_filter] at hperm
      refine hperm.trans (List.Perm.of_eq (List.filter_congr fun r _ => ?_))
      by_cases hid : r.id = key <;> simp [hid, hkey]
    · exact absurd (filter_requests_of_unplanned h ht hs hs' hnames).symm hne

end Indexers

namespace Store

/-- A file before and after it is renamed. -/
def renamedFile (renamed : Bool) : Json :=
  .obj [("id", .str "f-1"), ("name", .str (if renamed then "loads 2.csv" else "loads.csv"))]

/-- What is around it: a project, a directory and a sample. -/
def aroundFile : List (String × List Json) := [
  ("projects", [.obj [("id", .str "p-1")]]),
  ("project2datafile", [.obj [("datafile_id", .str "f-1"), ("project_id", .str "p-1")]]),
  ("datadir2datafile", [.obj [("datadir_id", .str "d-1"), ("datafile_id", .str "f-1")]]),
  ("datadirs", [.obj [("id", .str "d-1"), ("name", .str "tests")]]),
  ("project2sample", [.obj [("project_id", .str "p-1"), ("sample_id", .str "s-1")]]),
  ("samples", [.obj [("id", .str "s-1"), ("name", .str "bar")]]),
  ("sample2datafile", [.obj [("datafile_id", .str "f-1"), ("sample_id", .str "s-1")]])]

/-- The store with the file. -/
def fileStore (renamed : Bool) : Store := filled (aroundFile ++ [("datafiles", [renamedFile renamed])])

theorem replacesRow_fileStore : (fileStore false).ReplacesRow (fileStore true) .file "f-1"
    (renamedFile false) (renamedFile true) where
  others t ht := by
    simp only [fileStore, filled, List.append_assoc, List.singleton_append]
    exact rows?_ofTables_congr ht _ _ _ _
  inPlace := ⟨[], [], rfl, rfl⟩
  oldId := rfl
  newId := rfl
  nonempty := by decide

theorem regular_fileStore (renamed : Bool) (k : Kind) : (fileStore renamed).Regular k where
  sorted := sorted_filled (by cases renamed <;> decide)
  has := by
    unfold Has
    cases renamed <;> cases k <;> decide
  keepsIds := by cases renamed <;> exact ⟨by decide, by decide, by decide⟩
  linksOneProject := by
    unfold LinksOneProject
    cases renamed <;> cases k <;> decide
  namesColumns := by
    unfold NamesColumns
    cases renamed <;> cases k <;> decide

/-- A project before and after it is renamed. -/
def renamedProject (renamed : Bool) : Json :=
  .obj [("id", .str "p-1"), ("name", .str (if renamed then "weld" else "alloy"))]

/-- The project, and a list that is read as the same project. -/
def listedTwin (renamed : Bool) : Store :=
  filled [("projects", [renamedProject renamed, .arr [.str "p-1"]])]

/-- A store is regular but for lists in place of rows. -/
def RegularButLists (s : Store) : Prop :=
  s.Sorted ∧ s.KeepsIds ∧ s.SampleIdsAreTexts ∧ ∀ k, s.Has k ∧ s.LinksOneProject k

theorem regularButLists_listedTwin (renamed : Bool) : (listedTwin renamed).RegularButLists := by
  refine ⟨sorted_filled ?_, ?_, ?_, ?_⟩
  · cases renamed <;> decide
  · cases renamed <;> exact ⟨by decide, by decide, by decide⟩
  · intro row hrow
    cases renamed <;> exact absurd hrow List.not_mem_nil
  · unfold Has LinksOneProject
    cases renamed <;> intro k <;> cases k <;> decide

theorem replacesRow_listedTwin : (listedTwin false).ReplacesRow (listedTwin true) .project "p-1"
    (renamedProject false) (renamedProject true) where
  others t ht := by
    simp only [listedTwin, filled, List.singleton_append]
    exact rows?_ofTables_congr ht _ _ [] _
  inPlace := ⟨[], _, rfl, rfl⟩
  oldId := rfl
  newId := rfl
  nonempty := by decide

end Store

namespace Indexers

theorem fileStore_followsChange :
    (onStore (.fileStore false)).source = .ofStore (.fileStore false) ∧
      (Store.fileStore false).ReplacesRow (.fileStore true) .file "f-1" (Store.renamedFile false)
        (Store.renamedFile true) ∧
      (Store.fileStore false).SampleIdsAreTexts ∧ (∀ k, (Store.fileStore false).Regular k) ∧
      (∀ k, (Store.fileStore true).Regular k) ∧
      (∀ k, (onStore (.fileStore false)).ReadsAll .accepting k .all ()) ∧
      (∀ k, ((onStore (.fileStore false)).onto (.fileStore true)).ReadsAll .accepting k .all ()) ∧
      (onStore (.fileStore false)).FollowsChange ((onStore (.fileStore false)).onto (.fileStore true))
        .accepting () .accepting () "datafiles" (Store.renamedFile false)
        (Store.renamedFile true) := by
  have ht : (Store.fileStore false).SampleIdsAreTexts := by
    intro row hrow
    obtain rfl : row = .obj [("datafile_id", .str "f-1"), ("sample_id", .str "s-1")] :=
      List.mem_singleton.mp hrow
    exact ⟨"s-1", rfl⟩
  have hr : ∀ renamed k, (onStore (.fileStore renamed)).ReadsAll .accepting k .all () := by
    intro renamed k
    cases renamed <;> cases k <;> exact ⟨_, rfl, rfl⟩
  exact ⟨rfl, Store.replacesRow_fileStore, ht, Store.regular_fileStore false,
    Store.regular_fileStore true, hr false, hr true,
    replacesRow_followsChange (onStore (.fileStore false)) rfl Store.replacesRow_fileStore ht
      (Store.regular_fileStore false) (Store.regular_fileStore true) .accepting () (hr false)
      (hr true) .accepting ()⟩

/-- **A list beside the replaced row is left behind**: it is a document of the same project, and
    following the change submits the other one only. -/
theorem listedTwin_not_followsChange :
    (Store.listedTwin false).ReplacesRow (.listedTwin true) .project "p-1"
        (Store.renamedProject false) (Store.renamedProject true) ∧
      (Store.listedTwin false).RegularButLists ∧ (Store.listedTwin true).RegularButLists ∧
      (∀ k, (onStore (.listedTwin false)).ReadsAll .accepting k .all ()) ∧
      (∀ k, ((onStore (.listedTwin false)).onto (.listedTwin true)).ReadsAll .accepting k .all ()) ∧
      ¬ (onStore (.listedTwin false)).FollowsChange
        ((onStore (.listedTwin false)).onto (.listedTwin true)) .accepting () .accepting ()
        "projects" (Store.renamedProject false) (Store.renamedProject true) := by
  have hr : ∀ renamed k, (onStore (.listedTwin renamed)).ReadsAll .accepting k .all () := by
    intro renamed k
    cases renamed <;> cases k <;> exact ⟨_, rfl, rfl⟩
  refine ⟨Store.replacesRow_listedTwin, Store.regularButLists_listedTwin false,
    Store.regularButLists_listedTwin true, hr false, hr true, ?_⟩
  rintro ⟨e, reports, last, log, he, hrun, -, hall⟩
  obtain rfl : .project "p-1" = e := Option.some.inj he
  have hlog := congrArg (fun answer => answer.2.2) hrun
  simp only at hlog
  have hne : ((onStore (.listedTwin false)).submitted .accepting .project .all ()).filter
        (fun r => r.id = "p-1") ≠
      (((onStore (.listedTwin false)).onto (.listedTwin true)).submitted .accepting .project .all
        ()).filter fun r => r.id = "p-1" := by
    intro h
    exact absurd (congrArg (List.map fun r => r.document.text) h) (by decide +kernel)
  have hlength := (hall .project "p-1" hne).length_eq
  rw [← hlog] at hlength
  exact absurd hlength (by decide +kernel)

end Indexers

end LabIndex
