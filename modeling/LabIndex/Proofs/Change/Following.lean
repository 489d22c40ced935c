import LabIndex.Change.Plan
import LabIndex.Proofs.Indexing.Rows
import Mathlib.Data.List.Nodup

/-!
# Following changes

What a change asks for, and what following it submits. On a store a look-up yields the distinct
texts of a column; a plan is a list of targets of different kinds; and running targets hands on
the requests of the one after those of the other.

* `ChangeEvent.mem_distinctColumn`, `ChangeEvent.nodup_distinctColumn`: the texts of a column;
* `ChangeEvent.plan_cases`: all that a plan can be;
* `ChangeEvent.plan_ofEntity`: the plan for a changed row of one of the five kinds;
* `Indexers.runAll_of_readsAll`: what running targets submits.
-/

namespace LabIndex

namespace ChangeEvent

/-! ## 1. Columns -/

theorem mem_foldl_insertNew {xs seen : List String} {s : String} :
    s ∈ xs.foldl insertNew seen ↔ s ∈ seen ∨ s ∈ xs := by
  induction xs generalizing seen with
  | nil => simp
  | cons x rest ih =>
      have hstep : s ∈ insertNew seen x ↔ s ∈ seen ∨ s = x := by
        rw [insertNew]
        split
        · rename_i hx
          rw [List.contains_iff_mem] at hx
          exact ⟨.inl, fun h => h.elim id fun e => e ▸ hx⟩
        · simp
      rw [List.foldl_cons, ih, hstep, List.mem_cons, or_assoc]

theorem nodup_foldl_insertNew {xs seen : List String} (h : seen.Nodup) :
    (xs.foldl insertNew seen).Nodup := by
  induction xs generalizing seen with
  | nil => exact h
  | cons x rest ih =>
      refine ih ?_
      rw [insertNew]
      split
      · exact h
      · rename_i hx
        rw [List.contains_iff_mem] at hx
        exact h.append (List.nodup_singleton x) (List.disjoint_singleton.mpr hx)

/-- **The distinct texts of a column are the texts in it.** -/
theorem mem_distinctColumn {key s : String} {rows : List Json} :
    s ∈ distinctColumn key rows ↔ ∃ row ∈ rows, column? row key = some s := by
  rw [distinctColumn, mem_foldl_insertNew, List.mem_filterMap]
  simp

theorem nodup_distinctColumn (key : String) (rows : List Json) :
    (distinctColumn key rows).Nodup := nodup_foldl_insertNew List.nodup_nil

/-! ## 2. Plans -/

/-- A look-up by one key on a store. -/
theorem lookUp_getAllBy {s : Store} {table : String} (h : (s.rows? table).isSome)
    (index id column : String) :
    lookUp (.ofStore s) (.getAllBy table index [id]) column =
      .ok (distinctColumn column (Store.withKey index id (s.table table))) := by
  have hq : s.query (.getAllBy table index [id]) =
      .ok (Store.withKey index id (s.table table)) := by
    rw [Store.query, Store.eval_getAllBy h, List.flatMap_singleton]
  simp only [lookUp, Source.allRows, Source.ofStore, hq]
  rfl

/-- **All that a plan can be**: the targets for the files of a note, or for one file, or a list of
    different ids of one kind. -/
theorem plan_cases {src : Source} {e : ChangeEvent} {targets : List Target}
    (h : e.plan src = .ok targets) :
    (∃ n rows, e = note n ∧ src.allRows (.getAllBy "note2item" "note_id" [n]) = .ok rows ∧
        fileTargets src (filesAmong rows) = .ok targets) ∨
      ((∀ n, e ≠ note n) ∧ ((∃ id, fileTargets src [id] = .ok targets) ∨
        ∃ k ids, ids.Nodup ∧ targets = Target.ofIds k ids)) := by
  have hone : ∀ (k : Kind) (id : String),
      (.ok (Target.ofIds k [id]) : Except Failure (List Target)) = .ok targets →
        ∃ k ids, ids.Nodup ∧ targets = Target.ofIds k ids :=
    fun k id hk => ⟨k, [id], List.nodup_singleton id, (Except.ok.inj hk).symm⟩
  have hitem : ∀ type id : String,
      (if type = fileItem then fileTargets src [id] else .ok []) = .ok targets →
        (∃ id, fileTargets src [id] = .ok targets) ∨
          ∃ k ids, ids.Nodup ∧ targets = Target.ofIds k ids := by
    intro type id hi
    split at hi
    · exact .inl ⟨id, hi⟩
    · exact .inr ⟨.file, [], List.nodup_nil, (Except.ok.inj hi).symm⟩
  cases e with
  | note n =>
      rw [plan, bind_eq_ok_iff] at h
      obtain ⟨rows, hrows, h⟩ := h
      exact .inl ⟨n, rows, rfl, hrows, h⟩
  | file id => exact .inr ⟨nofun, .inl ⟨id, h⟩⟩
  | projectFile id | sample id | sampleFile id | process id | project id | user id =>
      exact .inr ⟨nofun, .inr (hone _ id h)⟩
  | propertySet id =>
      rw [plan, bind_eq_ok_iff] at h
      obtain ⟨samples, hs, h⟩ := h
      obtain ⟨rows, -, rfl⟩ := exists_of_map_eq_ok hs
      exact .inr ⟨nofun, .inr ⟨.sample, _, nodup_distinctColumn "sample_id" rows,
        (Except.ok.inj h).symm⟩⟩
  | noteItem type id => exact .inr ⟨nofun, hitem type id h⟩
  | tag type id => exact .inr ⟨nofun, hitem type id h⟩

/-- The change of the row of an entity. -/
def ofEntity : Kind → String → ChangeEvent
  | .file => file
  | .sample => sample
  | .process => process
  | .project => project
  | .user => user

end ChangeEvent

/-- The table with the entities of a kind. -/
def Kind.entityTable : Kind → String
  | .file => "datafiles"
  | .sample => "samples"
  | .process => "processes"
  | .project => "projects"
  | .user => "users"

theorem Kind.entityTable_injective {k l : Kind} (h : k.entityTable = l.entityTable) : k = l := by
  cases k <;> cases l <;> first | rfl | exact absurd h (by decide)

/-- No entities are in a table of links. -/
theorem Kind.memberTable_ne_entityTable {k : Kind} (h : k.isLinked = true) (l : Kind) :
    k.memberTable ≠ l.entityTable := by
  cases k <;> cases l <;> first | decide | cases h

theorem Kind.memberTable_of_plain {k : Kind} (h : k.isLinked = false) :
    k.memberTable = k.entityTable := by
  cases k <;> first | rfl | cases h

/-- The samples that a file is linked to. -/
def Store.samplesOf (s : Store) (file : String) : List String :=
  ChangeEvent.distinctColumn "sample_id"
    (Store.withKey "datafile_id" file (s.table "sample2datafile"))

/-- What a change to an entity asks for: the entity itself, and the samples of a file. -/
def Store.targetsOf (s : Store) : Kind → String → List Target
  | .file, id => ⟨.file, [id]⟩ :: Target.ofIds .sample (s.samplesOf id)
  | k, id => [⟨k, [id]⟩]

/-- An id is named by a plan as one of a kind. -/
def Target.Names (targets : List Target) (k : Kind) (id : String) : Prop :=
  ∃ t ∈ targets, t.kind = k ∧ id ∈ t.ids

theorem Store.names_targetsOf (s : Store) (k : Kind) (id : String) :
    Target.Names (s.targetsOf k id) k id := by
  cases k <;> exact ⟨⟨_, [id]⟩, List.mem_cons_self, rfl, List.mem_singleton_self id⟩

/-- The samples of a changed file are named. -/
theorem Store.names_samplesOf {s : Store} {file id : String} (h : id ∈ s.samplesOf file) :
    Target.Names (s.targetsOf .file file) .sample id := by
  have hne : (s.samplesOf file).isEmpty = false := by
    rw [List.isEmpty_eq_false_iff]
    exact List.ne_nil_of_mem h
  exact ⟨⟨.sample, s.samplesOf file⟩, by simp [targetsOf, Target.ofIds, hne], rfl, h⟩

namespace ChangeEvent

/-- A row with an id gives the change of its entity. -/
theorem ofFeed?_entityTable {k : Kind} {id : String} {old : Json} (h : old.get? "id" = some (.str id))
    (hne : id ≠ "") (new : Json) : ofFeed? k.entityTable old new = some (ofEntity k id) := by
  have hc : column? old "id" = some id := by rw [column?, h]; rfl
  have hp : pickKey "id" old new = some id := by
    have hk : hasKey "id" old = true := by simp [hasKey, hc, hne]
    simp [pickKey, pick, hk, hc]
  cases k <;> simp [Kind.entityTable, ofFeed?, ofEntity, hp]

/-- **The plan for a changed entity.** -/
theorem plan_ofEntity {s : Store} (h : (s.rows? "sample2datafile").isSome) (k : Kind)
    (id : String) : (ofEntity k id).plan (.ofStore s) = .ok (s.targetsOf k id) := by
  cases k with
  | file =>
      have hl := lookUp_getAllBy h "datafile_id" id "sample_id"
      simp only [ofEntity, plan, fileTargets, samplesUsing, hl]
      rfl
  | _ => rfl

end ChangeEvent

namespace Store

/-- The kinds of a plan's targets are different, and each target has some ids, none twice. -/
structure IsPlan (targets : List Target) : Prop where
  kinds : (targets.map (·.kind)).Nodup
  someIds : ∀ t ∈ targets, t.ids ≠ []
  ids : ∀ t ∈ targets, t.ids.Nodup

theorem isPlan_targetsOf (s : Store) (k : Kind) (id : String) : IsPlan (s.targetsOf k id) := by
  have hone : ∀ k, IsPlan [⟨k, [id]⟩] := fun k =>
    ⟨List.nodup_singleton _, by simp, by simp⟩
  cases k with
  | file =>
      rw [targetsOf, Target.ofIds]
      split
      · exact hone .file
      · rename_i hs
        rw [List.isEmpty_iff] at hs
        refine ⟨by simp, ?_, ?_⟩ <;> intro t ht <;> simp at ht <;> rcases ht with rfl | rfl
        · simp
        · exact hs
        · simp
        · exact ChangeEvent.nodup_distinctColumn _ _
  | _ => exact hone _

end Store

/-! ## 3. Running targets -/

namespace Indexers

variable {σ : Type} {x : Indexers} {b : Backend σ} {s : Store}

/-- **Targets whose runs read everything** all run, and what they submit comes target by target. -/
theorem runAll_of_readsAll (hx : x.source = .ofStore s) {targets : List Target}
    (hr : ∀ t ∈ targets, ∀ state : σ, x.ReadsAll b t.kind (.ofIds t.ids) state) (state : σ)
    (log : List (List Request)) :
    ∃ reports after batches,
      x.runAll b.logged targets (state, log) = (.ok reports, (after, log ++ batches)) ∧
      (∀ report ∈ reports, report.cursorError = none) ∧
      batches.flatten = targets.flatMap fun t =>
        (s.rowsOf t.kind (.ofIds t.ids)).filterMap (x.request? s t.kind) := by
  induction targets generalizing state log with
  | nil => exact ⟨[], state, [], by simp [runAll], by simp, rfl⟩
  | cons t rest ih =>
      obtain ⟨report, mid, first, hrun, hreport, hfirst⟩ :=
        run_of_readsAll hx (hr t List.mem_cons_self state) log
      obtain ⟨reports, after, more, hall, hreports, hmore⟩ :=
        ih (fun u hu => hr u (List.mem_cons_of_mem _ hu)) mid (log ++ first)
      refine ⟨report :: reports, after, first ++ more, ?_, ?_, ?_⟩
      · simp only [runAll, hrun, hall, List.append_assoc]
      · intro r hmem
        rcases List.mem_cons.mp hmem with rfl | hmem
        · exact hreport
        · exact hreports r hmem
      · rw [List.flatten_append, hfirst, hmore, List.flatMap_cons]

/-- The requests of a run are of its kind. -/
theorem kind_of_mem_requests {k : Kind} {rows : List Json} {r : Request}
    (h : r ∈ rows.filterMap (x.request? s k)) : r.kind = k := by
  obtain ⟨row, -, hr⟩ := List.mem_filterMap.mp h
  obtain ⟨_, _, -, -, rfl⟩ := exists_document_of_request? hr
  rfl

/-- Of what the targets of a plan submit, all of one kind comes from one target. -/
theorem filter_flatMap_targets {targets : List Target} (hk : (targets.map (·.kind)).Nodup)
    {t : Target} (ht : t ∈ targets) {g : Target → List Request}
    (hg : ∀ u ∈ targets, ∀ r ∈ g u, r.kind = u.kind) (id : String) :
    (targets.flatMap g).filter (fun r => r.kind = t.kind ∧ r.id = id) =
      (g t).filter fun r => r.id = id := by
  induction targets with
  | nil => exact absurd ht List.not_mem_nil
  | cons u rest ih =>
      have hgu := hg u List.mem_cons_self
      have hgrest : ∀ v ∈ rest, ∀ r ∈ g v, r.kind = v.kind :=
        fun v hv => hg v (List.mem_cons_of_mem _ hv)
      rw [List.map_cons, List.nodup_cons] at hk
      rw [List.flatMap_cons, List.filter_append]
      rcases List.mem_cons.mp ht with rfl | ht
      · have hrest : (rest.flatMap g).filter (fun r => r.kind = t.kind ∧ r.id = id) = [] := by
          refine List.filter_eq_nil_iff.mpr fun r hr => ?_
          obtain ⟨v, hv, hr⟩ := List.mem_flatMap.mp hr
          have hne : r.kind ≠ t.kind := fun e =>
            hk.1 (e ▸ hgrest v hv r hr ▸ List.mem_map_of_mem hv)
          simp [hne]
        rw [hrest, List.append_nil]
        refine List.filter_congr fun r hr => ?_
        simp [hgu r hr]
      · have hu : (g u).filter (fun r => r.kind = t.kind ∧ r.id = id) = [] := by
          refine List.filter_eq_nil_iff.mpr fun r hr => ?_
          have hne : r.kind ≠ t.kind := fun e =>
            hk.1 (hgu r hr ▸ e ▸ List.mem_map_of_mem ht)
          simp [hne]
        rw [hu, List.nil_append, ih hk.2 ht hgrest]

end Indexers

end LabIndex
