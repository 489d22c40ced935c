import LabIndex.Proofs.Classes
import LabIndex.Proofs.Indexing.Rows

/-!
# Runs over some ids

A run over everything starts from the projects, a run over some ids from the link rows that name
them. Where every link row names one project the two come to the same rows, in another order: the
project's id that the one carries along is hidden by the last table that is joined.

* `Store.rowsOf_all_perm`, `Store.rowsOf_ofIds_perm`: the rows of both as rows of members;
* `Indexers.submitted_ofIds_perm`: a run over some ids submits what the run over everything
  submits for them.
-/

namespace LabIndex

/-! ## 1. Rows of members -/

namespace Store

/-- A link row belongs to a project. -/
def isLinkOf (project link : Json) : Bool :=
  match project.key "id" with
  | some key => link.key "project_id" == some key
  | none => false

/-- Every link row of a kind names exactly one project. -/
def LinksOneProject (s : Store) (k : Kind) : Prop :=
  k.isLinked = true → ∀ m ∈ s.table k.memberTable,
    (s.table "projects").countP (isLinkOf · m) = 1

/-- Every link row of a kind names a project. -/
def LinksSomeProject (s : Store) (k : Kind) : Prop :=
  ∀ m ∈ s.table k.memberTable, ∃ p ∈ s.table "projects", isLinkOf p m = true

/-- A list, which is read by position and found by no lookup. -/
def isList : Json → Bool
  | .arr _ => true
  | _ => false

/-- A table that is indexed as it is holds no lists. -/
def NamesColumns (s : Store) (k : Kind) : Prop :=
  k.isLinked = false → ∀ m ∈ s.table k.memberTable, isList m = false

theorem NamesColumns.ne_arr {s : Store} {k : Kind} (h : s.NamesColumns k) {m : Json}
    (hm : m ∈ s.table k.memberTable) (hk : k.isLinked = false) (items : List Json) :
    m ≠ .arr items := by
  rintro rfl
  cases h hk _ hm

section Rows

variable {s : Store} {k : Kind}

theorem key_pluck_id (r : Json) : (Row.pluck ["id"] r).key "id" = r.key "id" := by
  cases r with
  | obj fs =>
      cases h : Fields.get? "id" fs <;>
        simp [Row.pluck, Json.key, Json.get?, h, Json.keyForm]
  | _ => rfl

/-- A row over a project's id is the row itself but for its id. -/
theorem agreeBut_over_pluck {p : Json} {fs : Fields} (hp : Row.pluck ["id"] p = .obj fs)
    {m : Fields} (hm : Fields.Ordered m) : Row.AgreeBut "id" (Fields.overlay fs m) m := by
  cases p with
  | obj ps =>
      have hfs : Fields.Ordered fs ∧ ∀ c, c ≠ "id" → Fields.get? c fs = none := by
        cases h : Fields.get? "id" ps with
        | none =>
            simp only [Row.pluck, List.foldl_cons, h, List.foldl_nil] at hp
            cases hp
            exact ⟨Fields.ordered_nil, fun _ _ => rfl⟩
        | some v =>
            simp only [Row.pluck, List.foldl_cons, h, List.foldl_nil] at hp
            cases hp
            exact ⟨Fields.ordered_put Fields.ordered_nil _ _,
              fun c hc => Fields.get?_put_of_ne hc v []⟩
      refine ⟨Fields.ordered_overlay hfs.1 m, hm, fun c hc => ?_⟩
      rw [Fields.get?_overlay hm, hfs.2 c hc, Option.or_none]
  | _ => cases hp

/-- The rows that the link rows of a project are followed to. -/
theorem flatMap_joined_project (hs : s.Sorted) (hk : k.isLinked = true) (p : Json) :
    (s.joined "id" k.memberTable "project_id" (Row.pluck ["id"] p)).flatMap (s.expand k) =
      ((s.table k.memberTable).filter (isLinkOf p)).flatMap (s.expand k) := by
  cases hkey : p.key "id" with
  | none => simp [joined, joinedWith, key_pluck_id, isLinkOf, hkey]
  | some key =>
      obtain ⟨fs, hfs, -⟩ := Json.exists_obj_of_key ((key_pluck_id p).trans hkey)
      have hfits : isLinkOf p = fun m => m.key "project_id" == some key := by
        funext m
        rw [isLinkOf, hkey]
      simp only [joined, joinedWith, key_pluck_id, hkey, List.flatMap_map, hfits]
      refine List.flatMap_congr fun m hm => ?_
      obtain ⟨hmem, hmk⟩ := mem_withKey.mp hm
      obtain ⟨m, rfl, -⟩ := Json.exists_obj_of_key hmk
      have ho := Fields.ordered_of_sorted (hs.of_mem_table hmem)
      rw [hfs]
      exact blind_expand hs hk _ _ (agreeBut_over_pluck hfs ho)

/-- The rows of a linked kind, project by project. -/
theorem rowsOf_all_of_linked (hs : s.Sorted) (hk : k.isLinked = true) :
    s.rowsOf k .all = (s.table "projects").flatMap fun p =>
      ((s.table k.memberTable).filter (isLinkOf p)).flatMap (s.expand k) := by
  rw [rowsOf, members_all_of_linked hk, projectIds, List.flatMap_map, List.flatMap_assoc]
  exact List.flatMap_congr fun p _ => flatMap_joined_project hs hk p

/-- **A run over everything comes to the rows of all members**, in some order of the members. -/
theorem exists_rowsOf_all (hs : s.Sorted) (hl : s.LinksOneProject k) :
    ∃ members : List Json, members.Perm (s.table k.memberTable) ∧
      s.rowsOf k .all = members.flatMap (s.expand k) := by
  cases hk : k.isLinked with
  | false => exact ⟨_, .refl _, by rw [rowsOf, members_all_of_plain hk]⟩
  | true =>
      refine ⟨(s.table "projects").flatMap fun p => (s.table k.memberTable).filter (isLinkOf p),
        flatMap_filter_perm (hl hk), ?_⟩
      rw [rowsOf_all_of_linked hs hk, List.flatMap_assoc]

theorem rowsOf_all_perm (hs : s.Sorted) (hl : s.LinksOneProject k) :
    (s.rowsOf k .all).Perm ((s.table k.memberTable).flatMap (s.expand k)) := by
  obtain ⟨members, hperm, hrows⟩ := exists_rowsOf_all hs hl
  rw [hrows]
  exact hperm.flatMap_right _

/-- A member names one of some ids. -/
def namesOneOf (k : Kind) (ids : List String) (m : Json) : Bool :=
  ids.any fun id => m.key k.memberColumn == some id

/-- **A run over some ids comes to the rows of the members that name them.** -/
theorem rowsOf_ofIds_perm {ids : List String} (hne : ids ≠ []) (hn : ids.Nodup) :
    (s.rowsOf k (.ofIds ids)).Perm
      (((s.table k.memberTable).filter (namesOneOf k ids)).flatMap (s.expand k)) := by
  simp only [rowsOf, members, Scope.ids?_ofIds hne]
  exact (flatMap_filter_any_perm hn (fun m : Json => m.key k.memberColumn) _).flatMap_right _

/-- A run over everything comes to the rows of the members that belong to a project. -/
theorem mem_rowsOf_all_iff (hs : s.Sorted) (hk : k.isLinked = true) {row : Json} :
    row ∈ s.rowsOf k .all ↔ ∃ m ∈ s.table k.memberTable,
      (∃ p ∈ s.table "projects", isLinkOf p m = true) ∧ row ∈ s.expand k m := by
  simp only [rowsOf_all_of_linked hs hk, List.mem_flatMap, List.mem_filter]
  constructor
  · rintro ⟨p, hp, m, ⟨hm, hpm⟩, hrow⟩
    exact ⟨m, hm, ⟨p, hp, hpm⟩, hrow⟩
  · rintro ⟨m, hm, ⟨p, hp, hpm⟩, hrow⟩
    exact ⟨p, hp, m, ⟨hm, hpm⟩, hrow⟩

/-- A run over some ids comes to the rows of the members that name one of them. -/
theorem mem_rowsOf_ofIds_iff {ids : List String} (hne : ids ≠ []) {row : Json} :
    row ∈ s.rowsOf k (.ofIds ids) ↔ ∃ m ∈ s.table k.memberTable,
      (∃ id ∈ ids, m.key k.memberColumn = some id) ∧ row ∈ s.expand k m := by
  simp only [rowsOf, members, Scope.ids?_ofIds hne, List.mem_flatMap, mem_withKey]
  constructor
  · rintro ⟨m, ⟨id, hid, hm, hkey⟩, hrow⟩
    exact ⟨m, hm, ⟨id, hid, hkey⟩, hrow⟩
  · rintro ⟨m, hm, ⟨id, hid, hkey⟩, hrow⟩
    exact ⟨m, ⟨id, hid, hm, hkey⟩, hrow⟩

end Rows

/-- **What a store is like in which the two ways to the rows of a kind agree.** -/
structure Regular (s : Store) (k : Kind) : Prop where
  sorted : s.Sorted
  has : s.Has k
  keepsIds : s.KeepsIds
  linksOneProject : s.LinksOneProject k
  namesColumns : s.NamesColumns k

end Store

/-! ## 2. Runs -/

namespace Indexers

section Runs

variable {x : Indexers} {s : Store} {k : Kind} {ids : List String}

/-- The requests of a member are for one id, the one that the member names. -/
theorem filter_requests_eq (h : s.Regular k) {m : Json} (hm : m ∈ s.table k.memberTable) :
    ((s.expand k m).filterMap (x.request? s k)).filter (fun r => r.id ∈ ids) =
      if Store.namesOneOf k ids m then (s.expand k m).filterMap (x.request? s k) else [] := by
  have hid : ∀ r ∈ (s.expand k m).filterMap (x.request? s k),
      m.key k.memberColumn = some r.id := by
    intro r hr
    obtain ⟨row, hrow, hr⟩ := List.mem_filterMap.mp hr
    exact key_of_request? h.sorted (h.keepsIds.keepsId k) (h.namesColumns.ne_arr hm) hrow hr
  have hnames : ∀ r ∈ (s.expand k m).filterMap (x.request? s k),
      r.id ∈ ids ↔ Store.namesOneOf k ids m = true := by
    intro r hr
    simp [Store.namesOneOf, hid r hr]
  split
  · rename_i hn
    refine List.filter_eq_self.mpr fun r hr => ?_
    exact decide_eq_true ((hnames r hr).mpr hn)
  · rename_i hn
    refine List.filter_eq_nil_iff.mpr fun r hr => ?_
    rw [decide_eq_true_eq, hnames r hr]
    exact hn

/-- **The requests for some ids are those of the members that name them.** -/
theorem filter_requests_perm (h : s.Regular k) (hne : ids ≠ []) (hn : ids.Nodup) :
    ((s.rowsOf k (.ofIds ids)).filterMap (x.request? s k)).Perm
      (((s.rowsOf k .all).filterMap (x.request? s k)).filter fun r => r.id ∈ ids) := by
  have hall := (Store.rowsOf_all_perm h.sorted h.linksOneProject).filterMap (x.request? s k)
  have hids := (Store.rowsOf_ofIds_perm (s := s) (k := k) hne hn).filterMap (x.request? s k)
  refine hids.trans (List.Perm.trans ?_ (hall.filter _).symm)
  rw [List.filterMap_flatMap, List.filterMap_flatMap,
    filter_flatMap_eq fun m hm => filter_requests_eq h hm]

variable {σ τ : Type} {b : Backend σ} {b' : Backend τ} {state : σ} {state' : τ}

/-- A run over some ids reads everything where the run over everything does. -/
theorem readsAll_ofIds (hx : x.source = .ofStore s) (h : s.Regular k) (hne : ids ≠ [])
    (hn : ids.Nodup) (hr : x.ReadsAll b k .all state) :
    x.ReadsAll b' k (.ofIds ids) state' := by
  rw [readsAll_iff hx h.has] at hr ⊢
  intro row hrow
  have hmem := (Store.rowsOf_ofIds_perm hne hn).mem_iff.mp hrow
  obtain ⟨m, hm, hrow⟩ := List.mem_flatMap.mp hmem
  refine hr row ((Store.rowsOf_all_perm h.sorted h.linksOneProject).mem_iff.mpr ?_)
  exact List.mem_flatMap.mpr ⟨m, (List.mem_filter.mp hm).1, hrow⟩

/-- **A run over some ids submits what the run over everything submits for them**, in some order,
    and it reads everything where that run does. -/
theorem submitted_ofIds_perm (hx : x.source = .ofStore s) (h : s.Regular k) (hne : ids ≠ [])
    (hn : ids.Nodup) (hr : x.ReadsAll b k .all state) :
    x.ReadsAll b' k (.ofIds ids) state' ∧
      (x.submitted b' k (.ofIds ids) state').Perm
        ((x.submitted b k .all state).filter fun r => r.id ∈ ids) := by
  have hr' : x.ReadsAll b' k (.ofIds ids) state' := readsAll_ofIds hx h hne hn hr
  refine ⟨hr', ?_⟩
  rw [submitted_eq hx hr', submitted_eq hx hr]
  exact filter_requests_perm h hne hn

/-- A run over some ids reads everything where the run over everything does and no link row is left
    out by it. -/
theorem readsAll_ofIds_of_linksSomeProject (hx : x.source = .ofStore s) (hs : s.Sorted)
    (hk : k.isLinked = true) (hl : s.LinksSomeProject k) (hne : ids ≠ [])
    (hr : x.ReadsAll b k .all state) : x.ReadsAll b' k (.ofIds ids) state' := by
  have hspine := isSome_of_readsAll hx hr
  rw [readsAll_iff_of_spine hx hspine] at hr
  refine (readsAll_iff_of_spine hx fun t ht => hspine t (k.mem_spine_all _ ht)).mpr fun row hrow => ?_
  obtain ⟨m, hm, -, hrow⟩ := (Store.mem_rowsOf_ofIds_iff hne).mp hrow
  exact hr row ((Store.mem_rowsOf_all_iff hs hk).mpr ⟨m, hm, hl m hm, hrow⟩)

/-- **What everything gives for an id, a run over some ids with it gives too.** -/
theorem mem_requests_ofIds (hs : s.Sorted) (hk : k.isLinked = true) (hi : s.KeepsId k) {r : Request}
    (hr : r ∈ (s.rowsOf k .all).filterMap (x.request? s k)) (hid : r.id ∈ ids) :
    r ∈ (s.rowsOf k (.ofIds ids)).filterMap (x.request? s k) := by
  obtain ⟨row, hrow, hreq⟩ := List.mem_filterMap.mp hr
  obtain ⟨m, hm, -, hrow⟩ := (Store.mem_rowsOf_all_iff hs hk).mp hrow
  have hkey : m.key k.memberColumn = some r.id :=
    key_of_request? hs hi (fun e => by rw [hk] at e; cases e) hrow hreq
  refine List.mem_filterMap.mpr ⟨row, ?_, hreq⟩
  exact (Store.mem_rowsOf_ofIds_iff (List.ne_nil_of_mem hid)).mpr ⟨m, hm, ⟨r.id, hid, hkey⟩, hrow⟩

end Runs

/-- Indexers on a store, with no bytes of files. -/
def onStore (s : Store) : Indexers where
  settings := {}
  source := .ofStore s
  extractor := ⟨⟨"/data", [], []⟩, fun _ => none, fun _ => .ok "", 0⟩

end Indexers

/-- A backend that takes every batch. -/
def Backend.accepting : Backend Unit := ⟨fun _ batch => (.ok batch.length, ())⟩

namespace Store

/-- A store with some rows and, beside them, every table that some kind is made from. -/
def filled (tables : List (String × List Json)) : Store :=
  .ofTables (tables ++ (Kind.all.flatMap Kind.tables).map fun name => (name, []))

theorem sorted_filled {tables : List (String × List Json)}
    (h : ∀ t ∈ tables, ∀ row ∈ t.2, row.Sorted) : (filled tables).Sorted := by
  refine sorted_ofTables fun t ht row hrow => ?_
  rcases List.mem_append.mp ht with ht | ht
  · exact h t ht row hrow
  · obtain ⟨name, -, rfl⟩ := List.mem_map.mp ht
    exact absurd hrow List.not_mem_nil

/-- Three samples, two of them in the second of two projects. -/
def threeSamples : Store :=
  let link (project sample : String) : Json :=
    .obj [("id", .str "l"), ("project_id", .str project), ("sample_id", .str sample)]
  filled [
    ("projects", [.obj [("id", .str "p-1")], .obj [("id", .str "p-2")]]),
    ("project2sample", [link "p-2" "s-1", link "p-1" "s-2", link "p-2" "s-3"]),
    ("samples", [.obj [("id", .str "s-1"), ("name", .str "bar")], .obj [("id", .str "s-2")],
      .obj [("id", .str "s-3")]])]

theorem regular_threeSamples : threeSamples.Regular .sample where
  sorted := sorted_filled (by decide)
  has := by
    unfold Has
    decide
  keepsIds := ⟨by decide, by decide, by decide⟩
  linksOneProject := fun _ => by decide
  namesColumns := by rintro ⟨⟩

/-- A project that is a list, which is read by position. -/
def listedProject : Store := filled [("projects", [.arr [.str "p-1"]])]

end Store

namespace Indexers

theorem threeSamples_submitted_ofIds_perm :
    (onStore .threeSamples).source = .ofStore .threeSamples ∧
      Store.threeSamples.Regular .sample ∧ ["s-3", "s-2"] ≠ [] ∧ ["s-3", "s-2"].Nodup ∧
      (onStore .threeSamples).ReadsAll .accepting .sample .all () ∧
      (onStore .threeSamples).ReadsAll .accepting .sample (.ofIds ["s-3", "s-2"]) () ∧
      ((onStore .threeSamples).submitted .accepting .sample (.ofIds ["s-3", "s-2"]) ()).Perm
        (((onStore .threeSamples).submitted .accepting .sample .all ()).filter
          fun r => r.id ∈ ["s-3", "s-2"]) :=
  ⟨rfl, Store.regular_threeSamples, by decide, by decide, ⟨_, rfl, rfl⟩,
    submitted_ofIds_perm rfl Store.regular_threeSamples (by decide) (by decide) ⟨_, rfl, rfl⟩⟩

/-- **A project that is a list is indexed with all others and missed by its id.** -/
theorem submitted_ofIds_not_perm_listedProject :
    (onStore .listedProject).source = .ofStore .listedProject ∧
      Store.listedProject.Sorted ∧ (∀ k, Store.listedProject.Has k) ∧
      Store.listedProject.KeepsIds ∧ (∀ k, Store.listedProject.LinksOneProject k) ∧
      ["p-1"] ≠ [] ∧ ["p-1"].Nodup ∧
      (onStore .listedProject).ReadsAll .accepting .project .all () ∧
      (onStore .listedProject).ReadsAll .accepting .project (.ofIds ["p-1"]) () ∧
      ¬ ((onStore .listedProject).submitted .accepting .project (.ofIds ["p-1"]) ()).Perm
        (((onStore .listedProject).submitted .accepting .project .all ()).filter
          fun r => r.id ∈ ["p-1"]) := by
  refine ⟨rfl, Store.sorted_filled (by decide), ?_,
    ⟨by decide, by decide, by decide⟩, ?_, by decide, by decide, ⟨_, rfl, rfl⟩, ⟨_, rfl, rfl⟩,
    fun h => ?_⟩
  · intro k
    unfold Store.Has
    cases k <;> decide
  · intro k
    unfold Store.LinksOneProject
    cases k <;> decide
  · exact absurd h.length_eq (by decide +kernel)

end Indexers

end LabIndex
