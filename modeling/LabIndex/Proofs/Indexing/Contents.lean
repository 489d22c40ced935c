import LabIndex.Proofs.Change.Completeness
import LabIndex.Proofs.Indexing.Taken
import LabIndex.Proofs.Store.Columns

/-!
# Runs and the text of contents

The text of files is put into documents between the reading of a row and the making of its request.
It changes nothing else: the same rows are read, the same batches go out, and of each document only
the text is another. Nor is the text taken from the store: with or without the columns in which rows
carry contents of their own, a run submits the same.

* `Request.SameButContents`: requests that differ in the text of contents only;
* `Indexers.requests_sameButContents`: two runs over the same rows;
* `Store.query_leads`, `Indexers.prepare_leads`: rows without their contents column;
* `Indexers.run_sameButContents`: two runs that take text from different places.
-/

namespace LabIndex

/-! ## 1. Documents that differ in text -/

namespace Json

/-- Two objects agree but in one field. Both have it, and its values are related. -/
def SameBut (field : String) (R : Json → Json → Prop) (v v' : Json) : Prop :=
  ∃ fs fs' w w', v = .obj fs ∧ v' = .obj fs' ∧ Row.AgreeBut field fs fs' ∧
    Fields.get? field fs = some w ∧ Fields.get? field fs' = some w' ∧ R w w'

/-- Both values are texts. -/
def BothTexts (v v' : Json) : Prop := ∃ t t', v = .str t ∧ v' = .str t'

/-- Both values are lists, with related elements. -/
def Each (R : Json → Json → Prop) (v v' : Json) : Prop :=
  ∃ items items', v = .arr items ∧ v' = .arr items' ∧ List.Forall₂ R items items'

end Json

/-- **Two documents of a kind are the same but for the text of contents**: that of a file, and that
    of each file of a sample. -/
def Kind.SameButContents : Kind → Json → Json → Prop
  | .file => Json.SameBut "contents" Json.BothTexts
  | .sample => Json.SameBut "files" (Json.Each (Json.SameBut "contents" Json.BothTexts))
  | .process | .project | .user => Eq

/-- Two requests are for the same key, and their documents are the same but for the text of
    contents. -/
structure Request.SameButContents (r r' : Request) : Prop where
  index : r'.index = r.index
  kind : r'.kind = r.kind
  id : r'.id = r.id
  document : r.kind.SameButContents r.document r'.document

section Texts

theorem FileDocument.sameBut_contents (d : FileDocument) (t t' : String) :
    Json.SameBut "contents" Json.BothTexts { d with contents := t }.toJson
      { d with contents := t' }.toJson := by
  refine ⟨_, _, .str t, .str t', rfl, rfl, ⟨?_, ?_, fun c hc => ?_⟩, rfl, rfl, t, t', rfl, rfl⟩
  · simp only [Fields.Ordered, Fields.keys, List.map_cons, List.map_nil]
    decide
  · simp only [Fields.Ordered, Fields.keys, List.map_cons, List.map_nil]
    decide
  · simp only [Fields.get?_cons, if_neg (Ne.symm hc)]

theorem SampleFile.sameBut_contents (f : SampleFile) (t t' : String) :
    Json.SameBut "contents" Json.BothTexts { f with contents := t }.toJson
      { f with contents := t' }.toJson := by
  refine ⟨_, _, .str t, .str t', rfl, rfl, ⟨?_, ?_, fun c hc => ?_⟩, rfl, rfl, t, t', rfl, rfl⟩
  · simp only [Fields.Ordered, Fields.keys, List.map_cons, List.map_nil]
    decide
  · simp only [Fields.Ordered, Fields.keys, List.map_cons, List.map_nil]
    decide
  · simp only [Fields.get?_cons, if_neg (Ne.symm hc)]

theorem SampleDocument.sameBut_files (d : SampleDocument) {R : Json → Json → Prop}
    {files files' : List SampleFile}
    (h : List.Forall₂ R (files.map SampleFile.toJson) (files'.map SampleFile.toJson)) :
    Json.SameBut "files" (Json.Each R) { d with files := files }.toJson
      { d with files := files' }.toJson := by
  refine ⟨_, _, _, _, rfl, rfl, ⟨?_, ?_, fun c hc => ?_⟩, rfl, rfl, _, _, rfl, rfl, h⟩
  · simp only [Fields.Ordered, Fields.keys, List.map_cons, List.map_nil]
    decide
  · simp only [Fields.Ordered, Fields.keys, List.map_cons, List.map_nil]
    decide
  · simp only [Fields.get?_cons, if_neg (Ne.symm hc)]

/-- **Text from elsewhere makes a document that is the same but for it.** -/
theorem Document.sameButContents (d : Document) (x y : Extractor) :
    d.kind.SameButContents (d.withContents x).toJson (d.withContents y).toJson := by
  cases d with
  | file d => exact d.sameBut_contents _ _
  | sample d =>
      refine d.sameBut_files ?_
      rw [List.map_map, List.map_map, List.forall₂_map_left_iff, List.forall₂_map_right_iff,
        List.forall₂_same]
      exact fun f _ => f.sameBut_contents _ _
  | process d => exact rfl
  | project d => exact rfl
  | user d => exact rfl

end Texts

/-! ## 2. Two runs over the same rows -/

namespace Indexers

/-- The same indexers with another extractor. -/
def extracting (x : Indexers) (e : Extractor) : Indexers := { x with extractor := e }

variable (x : Indexers) (e : Extractor) (k : Kind) (scope : Scope)

/-- **A row is prepared with text from elsewhere** in the same way: it fails alike, or makes the
    same request but for the text. -/
theorem prepare_sameButContents (row : Json) :
    (∃ f, (x.indexing k scope).prepare row = .error f ∧
        ((x.extracting e).indexing k scope).prepare row = .error f) ∨
      ∃ r r', (x.indexing k scope).prepare row = .ok r ∧
        ((x.extracting e).indexing k scope).prepare row = .ok r' ∧
        r.SameButContents r' := by
  simp only [Indexing.prepare, indexing]
  cases hd : Document.read k row with
  | error m => exact .inl ⟨_, rfl, rfl⟩
  | ok d =>
      refine .inr ⟨_, _, rfl, rfl, rfl, rfl, ?_, ?_⟩
      · simp only [Document.id_withContents]
      · rw [← Document.kind_of_read hd]
        exact d.sameButContents x.extractor e

/-- **The rows are read equally far**, and make the same requests but for the text. -/
theorem requests_sameButContents (rows : List Json) :
    List.Forall₂ Request.SameButContents ((x.indexing k scope).requests rows)
        (((x.extracting e).indexing k scope).requests rows) ∧
      ((x.extracting e).indexing k scope).fault? rows =
        (x.indexing k scope).fault? rows := by
  induction rows with
  | nil => exact ⟨.nil, rfl⟩
  | cons row rest ih =>
      rcases prepare_sameButContents x e k scope row with ⟨f, hf, hf'⟩ | ⟨r, r', hr, hr', hsame⟩
      · rw [Indexing.requests_cons_error _ hf, Indexing.requests_cons_error _ hf',
          Indexing.fault?_cons_error _ hf, Indexing.fault?_cons_error _ hf']
        exact ⟨.nil, rfl⟩
      · rw [Indexing.requests_cons_ok _ hr, Indexing.requests_cons_ok _ hr',
          Indexing.fault?_cons_ok _ hr, Indexing.fault?_cons_ok _ hr']
        exact ⟨.cons hsame ih.1, ih.2⟩

end Indexers

/-- **The answer of a backend to a batch depends on nothing but the batch's number and its ids**,
    beginning with a state. -/
def Backend.AnswersBy {σ : Type} (b : Backend σ) (state : σ)
    (answer : Nat → List String → Except Failure Nat) : Prop :=
  ∀ batches, (b.submitAll state batches).1 =
    batches.mapIdx fun i (batch : List Request) => answer i (batch.map (·.id))

section Outcomes

/-- Pieces of the images are images of the pieces. -/
theorem map_batchesOf {α β : Type} (f : α → β) (size : Nat) (xs : List α) :
    (batchesOf size xs).map (List.map f) = batchesOf size (xs.map f) := by
  induction xs using batchesOf.induct size with
  | case1 => simp
  | case2 x rest ih =>
      rw [batchesOf_cons, List.map_cons, ih, List.map_cons (l := rest), batchesOf_cons,
        List.map_cons, List.map_take, List.map_drop]

variable {σ τ : Type} {b : Backend σ} {b' : Backend τ} {state : σ} {state' : τ}
  {answer : Nat → List String → Except Failure Nat}

/-- What is reported of a batch are its ids and the answer. -/
theorem ofAnswer_congr {batch batch' : List Request}
    (h : batch'.map (·.id) = batch.map (·.id)) (a : Except Failure Nat) :
    BatchOutcome.ofAnswer batch' a = BatchOutcome.ofAnswer batch a := by
  cases a <;> simp only [BatchOutcome.ofAnswer, h]

/-- **Batches of the same ids are reported on in the same way.** -/
theorem outcomes_eq (hb : b.AnswersBy state answer) (hb' : b'.AnswersBy state' answer)
    {batches batches' : List (List Request)}
    (h : batches'.map (List.map (·.id)) = batches.map (List.map (·.id))) :
    List.zipWith BatchOutcome.ofAnswer batches' (b'.submitAll state' batches').1 =
      List.zipWith BatchOutcome.ofAnswer batches (b.submitAll state batches).1 := by
  have hlength : batches'.length = batches.length := by
    simpa using congrArg List.length h
  rw [hb, hb']
  refine List.ext_getElem (by simp [hlength]) fun i hi hi' => ?_
  simp only [List.length_zipWith, List.length_mapIdx, Nat.min_self] at hi hi'
  have hids : (batches'[i]).map (·.id) = (batches[i]).map (·.id) := by
    have hi := List.getElem_of_eq h (by simpa using hi)
    simpa using hi
  simp only [List.getElem_zipWith, List.getElem_mapIdx]
  rw [hids, ofAnswer_congr hids]

end Outcomes

/-- A request was made of a row. -/
theorem Indexing.exists_row_of_mem_requests (x : Indexing) {rows : List Json} {r : Request}
    (h : r ∈ x.requests rows) : ∃ row ∈ rows, x.prepare row = .ok r := by
  have hmem := List.mem_map_of_mem (f := Except.ok (ε := Failure)) h
  rw [← x.map_prepare_take rows] at hmem
  obtain ⟨row, hrow, hr⟩ := List.mem_map.mp hmem
  exact ⟨row, List.mem_of_mem_take hrow, hr⟩

namespace Indexers

variable {σ τ : Type} {x : Indexers} {s : Store} {k : Kind} {scope : Scope}
  {b : Backend σ} {b' : Backend τ} {state : σ} {state' : τ}
  {answer : Nat → List String → Except Failure Nat}

/-- A run whose query cannot be run submits nothing. -/
theorem submitted_of_query_error (hx : x.source = .ofStore s) {f : Failure}
    (hq : s.query (k.query scope) = .error f) : x.submitted b k scope state = [] := by
  rw [submitted, run_eq_of_query_error hx hq]
  rfl

/-- A run over rows that were found submits their requests. -/
theorem submitted_of_query (hx : x.source = .ofStore s) {rows : List Json}
    (hq : s.query (k.query scope) = .ok rows) :
    x.submitted b k scope state = (x.indexing k scope).requests rows := by
  obtain ⟨report, after, batches, -, hrun, -, hb⟩ := run_of_query b state [] hx hq
  rw [submitted, hrun, ← hb]
  rfl

/-- **A request that was submitted was made of a row of the run.** -/
theorem exists_row_of_mem_submitted (hx : x.source = .ofStore s) {r : Request}
    (h : r ∈ x.submitted b k scope state) :
    ∃ row ∈ s.rowsOf k scope, x.request? s k row = some r := by
  cases hq : s.query (k.query scope) with
  | error f =>
      rw [submitted_of_query_error hx hq] at h
      cases h
  | ok rows =>
      rw [submitted_of_query hx hq] at h
      obtain ⟨full, hfull, hr⟩ := (x.indexing k scope).exists_row_of_mem_requests h
      obtain ⟨row, hrow, hattached⟩ :=
        (mem_iff_of_mapM ((s.query_eq_of_ok hq).symm.trans hq)).mp hfull
      exact ⟨row, hrow, request?_eq_some_iff.mpr ⟨full, hattached, hr⟩⟩

/-- **Extraction does not disturb a run**: its report or failure is the same, and so are the
    requests but for the text. -/
theorem run_extracting (hx : x.source = .ofStore s) (e : Extractor)
    (hb : b.AnswersBy state answer) (hb' : b'.AnswersBy state' answer) :
    ((x.extracting e).run b' k scope state').1 = (x.run b k scope state).1 ∧
      List.Forall₂ Request.SameButContents (x.submitted b k scope state)
        ((x.extracting e).submitted b' k scope state') := by
  have hx' : (x.extracting e).source = .ofStore s := hx
  cases hq : s.query (k.query scope) with
  | error f =>
      rw [run_eq_of_query_error hx hq, run_eq_of_query_error hx' hq,
        submitted_of_query_error hx hq, submitted_of_query_error hx' hq]
      exact ⟨rfl, .nil⟩
  | ok rows =>
      obtain ⟨hsame, hfault⟩ := requests_sameButContents x e k scope rows
      rw [submitted_of_query hx hq, submitted_of_query hx' hq]
      refine ⟨?_, hsame⟩
      have hrun := (run_eq_of_query hx hq b state).2
      have hrun' := (run_eq_of_query hx' hq b' state').2
      have hids : (((x.extracting e).indexing k scope).requests rows).map Request.id =
          ((x.indexing k scope).requests rows).map Request.id := by
        have hall : List.Forall₂ Eq (((x.indexing k scope).requests rows).map Request.id)
            ((((x.extracting e).indexing k scope).requests rows).map Request.id) := by
          rw [List.forall₂_map_left_iff, List.forall₂_map_right_iff]
          exact hsame.imp fun _ _ h => h.id.symm
        rw [List.forall₂_eq_eq_eq] at hall
        exact hall.symm
      have hbatches : (batchesOf (x.indexing k scope).maxCount
            (((x.extracting e).indexing k scope).requests rows)).map
              (List.map Request.id) =
          (batchesOf (x.indexing k scope).maxCount ((x.indexing k scope).requests rows)).map
              (List.map Request.id) := by
        rw [map_batchesOf, map_batchesOf, hids]
      rw [hrun, hrun', hfault, hsame.length_eq]
      exact congrArg (fun outcomes => Except.ok (Report.mk k _ outcomes _))
        (outcomes_eq hb hb' hbatches)

end Indexers

/-! ## 3. Rows without their contents -/

namespace Kind

/-- **A row of a kind loses its contents**, and so do the rows in the lists attached to it. -/
structure LosesContents (k : Kind) (row row' : Json) : Prop where
  linked : k.isLinked = true → ∃ fs fs', row = .obj fs ∧ row' = .obj fs' ∧
    Json.Sheds "contents" (k.attachments.map (·.1)) fs fs'
  plain : k.isLinked = false → row' = row.without "contents"

/-- **A document does not depend on the contents in its row**, once text is put in. -/
theorem LosesContents.read_leads {k : Kind} {row row' : Json} (h : k.LosesContents row row') :
    Leads (fun d d' : Document => ∀ x, d'.withContents x = d.withContents x)
      (Document.read k row) (Document.read k row') := by
  cases k with
  | file =>
      obtain ⟨fs, fs', rfl, rfl, hsheds⟩ := h.linked rfl
      exact (FileDocument.read_leads hsheds).map fun _ _ hd => hd
  | sample =>
      obtain ⟨fs, fs', rfl, rfl, hsheds⟩ := h.linked rfl
      exact (SampleDocument.read_leads hsheds).map fun _ _ hd => hd
  | process =>
      obtain ⟨fs, fs', rfl, rfl, hsheds⟩ := h.linked rfl
      exact (ProcessDocument.read_leads hsheds).map fun _ _ hd x => by rw [hd]
  | project =>
      rw [h.plain rfl]
      exact (ProjectDocument.read_leads row).map fun _ _ hd x => by rw [hd]
  | user =>
      rw [h.plain rfl]
      exact (UserDocument.read_leads row).map fun _ _ hd x => by rw [hd]

/-- The link rows of a kind are found without contents. -/
theorem unseen_membership {table linkColumn : String} (h : linkColumn ≠ "contents")
    (scope : Scope) : (membership table linkColumn scope).Unseen "contents" [] := by
  rw [membership]
  cases scope.ids? with
  | none => exact .join _ (.pluck (.table _) (by decide)) (by decide) (by decide)
  | some ids => exact .getAllBy _ _ h

/-- **The rows of a linked kind are joined without contents**, before lists are attached. -/
theorem exists_unseen_of_linked {k : Kind} (hk : k.isLinked = true) (scope : Scope) :
    ∃ q : Query, k.query scope = .merge (.zip q) k.attachments ∧
      (Query.zip q).Unseen "contents" [] := by
  cases k with
  | file =>
      exact ⟨_, rfl, .join _ (.joinCopied _ (.join _ (unseen_membership (by decide) scope)
        (by decide) (by decide)) (by decide) (by decide) (by decide) (by decide)) (by decide)
        (by decide)⟩
  | sample =>
      exact ⟨_, rfl, .join _ (unseen_membership (by decide) scope) (by decide) (by decide)⟩
  | process =>
      exact ⟨_, rfl, .join _ (unseen_membership (by decide) scope) (by decide) (by decide)⟩
  | project => cases hk
  | user => cases hk

/-- The lists of a row are looked up by its id, and found without contents. -/
theorem unseen_attachments (k : Kind) : ∀ f ∈ k.attachments,
    f.1 ≠ "contents" ∧ f.1 ∉ [k.idColumn] ∧ f.2.Unseen "contents" [k.idColumn] := by
  have hrelated : ∀ {index : String} (table : String), index ≠ "contents" →
      (Query.related table index k.idColumn).Unseen "contents" [k.idColumn] :=
    fun table h => .related table h (by simp)
  cases k with
  | file =>
      simp only [attachments, tagsAndNotes, List.forall_mem_cons]
      exact ⟨⟨by decide, by decide, .pluck (hrelated _ (by decide)) (by decide)⟩,
        ⟨by decide, by decide, .join _ (hrelated _ (by decide)) (by decide) (by decide)⟩, by simp⟩
  | sample =>
      simp only [attachments, propertiesAndFiles, List.forall_mem_cons]
      exact ⟨⟨by decide, by decide, .pluck (.join _ (.join _ (hrelated _ (by decide)) (by decide)
          (by decide)) (by decide) (by decide)) (by decide)⟩,
        ⟨by decide, by decide, .join _ (hrelated _ (by decide)) (by decide) (by decide)⟩, by simp⟩
  | process =>
      simp only [attachments, processSetup, List.forall_mem_cons]
      exact ⟨⟨by decide, by decide, .join _ (hrelated _ (by decide)) (by decide) (by decide)⟩,
        by simp⟩
  | project => simp [attachments]
  | user => simp [attachments]

end Kind

namespace Store

variable {s : Store}

/-- What a zipped query yields are objects. -/
theorem exists_obj_of_eval_zip {row : Option Json} {q : Query} {found : List Json}
    (h : s.eval row (.zip q) = .ok found) : ∀ r ∈ found, ∃ fs, r = .obj fs := by
  rw [eval, bind_eq_ok_iff] at h
  obtain ⟨pairs, -, h⟩ := h
  intro r hr
  obtain ⟨v, -, hv⟩ := (mem_iff_of_mapM h).mp hr
  rw [zipRow, Row.zip?] at hv
  split at hv
  · rename_i hzip
    split at hzip
    · cases hzip
      exact ⟨_, (Except.ok.inj hv).symm⟩
    · cases hzip
  · cases hv

/-- The rows of a plain kind are found without contents. -/
theorem unseen_plainQuery (table : String) (scope : Scope) :
    (Kind.plainQuery table scope).Unseen "contents" [] := by
  rw [Kind.plainQuery]
  cases scope.ids? with
  | none => exact .table table
  | some ids => exact .getAllBy table ids (by decide)

/-- **The rows of a kind without contents**: where a store has rows for a run, the store without
    contents has the same rows without them. -/
theorem query_leads (hs : s.Sorted) (k : Kind) (scope : Scope) :
    Leads (List.Forall₂ k.LosesContents) (s.query (k.query scope))
      ((s.without "contents").query (k.query scope)) := by
  have hleads : ∀ q : Query, q.Unseen "contents" [] →
      Leads (Loses "contents") (s.eval none q) ((s.without "contents").eval none q) :=
    fun q hq => eval_leads hs hq (by simp)
  cases hk : k.isLinked with
  | true =>
      obtain ⟨q, hq, hunseen⟩ := Kind.exists_unseen_of_linked hk scope
      rw [hq, query, query]
      intro full hfull
      rw [eval, bind_eq_ok_iff] at hfull
      obtain ⟨rows, hrows, hfull⟩ := hfull
      obtain ⟨rows', hrows', rfl, ho⟩ := hleads _ hunseen rows hrows
      have hobjs : List.Forall₂ (fun r r' => ∃ fs : Fields, Fields.Ordered fs ∧ r = .obj fs ∧
          r' = .obj (Fields.erase "contents" fs)) rows (rows.map (Json.without "contents")) := by
        rw [List.forall₂_map_right_iff, List.forall₂_same]
        intro r hr
        obtain ⟨fs, rfl⟩ := exists_obj_of_eval_zip hrows r hr
        exact ⟨fs, ho _ hr fs rfl, rfl, rfl⟩
      rw [eval_merge hrows']
      refine leads_mapM hobjs ?_ full hfull
      rintro r r' ⟨fs, hfs, rfl, rfl⟩ row hrow
      obtain ⟨row', hrow', gs, gs', rfl, rfl, hsheds⟩ := attachAll_leads hs k.unseen_attachments
        (by cases k <;> decide) (by simp) (Json.sheds_erase hfs) row hrow
      refine ⟨_, hrow', fun _ => ⟨gs, gs', rfl, rfl, hsheds⟩, fun hplain => ?_⟩
      rw [hk] at hplain
      cases hplain
  | false =>
      rw [Kind.query_of_plain hk, query, query]
      intro rows hrows
      obtain ⟨rows', hrows', rfl, -⟩ := hleads _ (unseen_plainQuery _ scope) rows hrows
      refine ⟨_, hrows', ?_⟩
      rw [List.forall₂_map_right_iff, List.forall₂_same]
      refine fun r _ => ⟨fun hlinked => ?_, fun _ => rfl⟩
      rw [hk] at hlinked
      cases hlinked

end Store

/-- Rows that make the same requests wherever they make one: reading them comes at least as far,
    and where it comes to the end so does that of the others. -/
theorem Indexing.requests_leading (x : Indexing) {rows rows' : List Json}
    (h : List.Forall₂ (fun row row' => Leads Eq (x.prepare row) (x.prepare row')) rows rows') :
    x.requests rows <+: x.requests rows' ∧
      (x.fault? rows = none → x.fault? rows' = none ∧ x.requests rows' = x.requests rows) := by
  induction h with
  | nil => exact ⟨List.prefix_refl _, fun _ => ⟨rfl, rfl⟩⟩
  | @cons row row' rest rest' hrow _ ih =>
      cases hp : x.prepare row with
      | error f =>
          rw [x.requests_cons_error hp, x.fault?_cons_error hp]
          exact ⟨List.nil_prefix, fun h => by cases h⟩
      | ok r =>
          obtain ⟨r', hp', rfl⟩ := hrow r hp
          rw [x.requests_cons_ok hp, x.requests_cons_ok hp', x.fault?_cons_ok hp,
            x.fault?_cons_ok hp', List.prefix_cons_inj, List.cons_inj_right]
          exact ih

namespace Indexers

variable {σ τ : Type} {x : Indexers} {s : Store} {k : Kind} {scope : Scope}
  {b : Backend σ} {b' : Backend τ} {state : σ} {state' : τ}
  {answer : Nat → List String → Except Failure Nat}

/-- A row makes the same request without contents. -/
theorem prepare_leads {row row' : Json} (h : k.LosesContents row row') :
    Leads Eq ((x.indexing k scope).prepare row) ((x.indexing k scope).prepare row') := by
  intro r hr
  simp only [Indexing.prepare, indexing] at hr ⊢
  cases hd : Document.read k row with
  | error m =>
      rw [hd] at hr
      cases hr
  | ok d =>
      obtain ⟨d', hd', hsame⟩ := h.read_leads d hd
      simp only [hd] at hr
      simp only [hd', hsame x.extractor]
      exact ⟨r, hr, rfl⟩

/-- **A run does not take text from the store**: where a run comes to, the run over the store
    without contents comes to as well, with the same requests, and to the end if it does. -/
theorem submitted_without (hs : s.Sorted) (hx : x.source = .ofStore s) (k : Kind) (scope : Scope)
    (b : Backend σ) (state : σ) (b' : Backend τ) (state' : τ) :
    x.submitted b k scope state <+:
        (x.onto (s.without "contents")).submitted b' k scope state' ∧
      (x.ReadsAll b k scope state →
        (x.onto (s.without "contents")).submitted b' k scope state' =
          x.submitted b k scope state) := by
  let y := x.onto (s.without "contents")
  have hrequests : ∀ rows, (y.indexing k scope).requests rows =
      (x.indexing k scope).requests rows := by
    intro rows
    induction rows with
    | nil => rfl
    | cons row rest ih =>
        simp only [Indexing.requests, ih]
        rfl
  cases hq : s.query (k.query scope) with
  | error f =>
      rw [submitted_of_query_error hx hq, readsAll_iff_query hx]
      refine ⟨List.nil_prefix, ?_⟩
      rintro ⟨rows, hrows, -⟩
      rw [hq] at hrows
      cases hrows
  | ok rows =>
      obtain ⟨rows', hq', hrows⟩ := s.query_leads hs k scope rows hq
      obtain ⟨hlead, hall⟩ := (x.indexing k scope).requests_leading
        (hrows.imp fun _ _ h => prepare_leads h)
      rw [submitted_of_query hx hq, submitted_of_query (x := y) rfl hq', hrequests]
      refine ⟨hlead, fun hreads => ?_⟩
      obtain ⟨found, hfound, hfault⟩ := (readsAll_iff_query hx).mp hreads
      rw [hq, Except.ok.injEq] at hfound
      exact (hall (hfound ▸ hfault)).2

/-- **Runs that take the text of contents from different places.** Whatever the extractor, a run
    gives the same report or failure and submits the same requests but for the text, which is there
    as a text; and what rows of the store have for contents makes no difference to what is
    submitted, as far as both stores are read. -/
theorem run_sameButContents (hs : s.Sorted) (hx : x.source = .ofStore s) (k : Kind)
    (scope : Scope) (e : Extractor)
    (hb : b.AnswersBy state answer) (hb' : b'.AnswersBy state' answer) :
    ((x.extracting e).run b' k scope state').1 = (x.run b k scope state).1 ∧
      List.Forall₂ Request.SameButContents (x.submitted b k scope state)
        ((x.extracting e).submitted b' k scope state') ∧
      ∀ s' : Store, s'.Sorted → s'.without "contents" = s.without "contents" →
        (x.submitted b k scope state <+:
            (x.onto s').submitted b' k scope state' ∨
          (x.onto s').submitted b' k scope state' <+:
            x.submitted b k scope state) ∧
        (x.ReadsAll b k scope state →
          (x.onto s').ReadsAll b' k scope state' →
          (x.onto s').submitted b' k scope state' =
            x.submitted b k scope state) := by
  obtain ⟨hreport, hsame⟩ := run_extracting (k := k) hx e hb hb'
  refine ⟨hreport, hsame, fun s' hs' hsw => ?_⟩
  -- both are what the store without contents gives, as far as they come
  have hx' : (x.onto s').source = .ofStore s' := rfl
  obtain ⟨hlead, hall⟩ := submitted_without hs hx k scope b state Backend.accepting ()
  obtain ⟨hlead', hall'⟩ := submitted_without hs' hx' k scope b' state' Backend.accepting ()
  rw [hsw] at hlead' hall'
  exact ⟨List.prefix_or_prefix_of_prefix hlead hlead',
    fun hr hr' => (hall' hr').symm.trans (hall hr)⟩

end Indexers

/-- A backend that counts batches and answers by the number and the ids. -/
def Backend.numbered (answer : Nat → List String → Except Failure Nat) : Backend Nat :=
  ⟨fun n batch => (answer n (batch.map (·.id)), n + 1)⟩

theorem Backend.answersBy_numbered (answer : Nat → List String → Except Failure Nat) :
    (numbered answer).AnswersBy 0 answer := by
  have hfrom : ∀ (batches : List (List Request)) (n : Nat),
      ((numbered answer).submitAll n batches).1 =
        batches.mapIdx fun i batch => answer (n + i) (batch.map (·.id)) := by
    intro batches
    induction batches with
    | nil => intro n; rfl
    | cons batch rest ih =>
        intro n
        rw [submitAll_cons, List.mapIdx_cons]
        refine List.cons_eq_cons.mpr ⟨rfl, (ih (n + 1)).trans ?_⟩
        simp only [Nat.add_assoc, Nat.add_comm 1]
  intro batches
  rw [hfrom]
  simp only [Nat.zero_add]

namespace Store

/-- A file of plain text in a directory. Its row has contents of its own, of two kinds. -/
def writtenFile (stale : Bool) : Store :=
  filled [
    ("projects", [.obj [("id", .str "p-1")]]),
    ("project2datafile", [.obj [("datafile_id", .str "f-0a1b"), ("project_id", .str "p-1")]]),
    ("datadir2datafile", [.obj [("datadir_id", .str "d-1"), ("datafile_id", .str "f-0a1b")]]),
    ("datadirs", [.obj [("id", .str "d-1"), ("name", .str "tests")]]),
    ("datafiles", [.obj [("contents", .str (if stale then "359" else "")), ("id", .str "f-0a1b"),
      ("mediatype", .obj [("mime", .str "text/plain")])]])]

theorem sorted_writtenFile (stale : Bool) : (writtenFile stale).Sorted := by
  cases stale <;> exact sorted_filled (by decide)

end Store

namespace Indexers

/-- Every file has the same three bytes. -/
def threeBytes : Extractor :=
  ⟨⟨"/data", [], []⟩, fun _ => some (.readable ⟨[51, 54, 48], false⟩), fun _ => .ok "", 10⟩

/-- The first batch is refused. -/
def refusesFirst (n : Nat) (ids : List String) : Except Failure Nat :=
  if n = 0 then .error (.bulkSubmit "rejected") else .ok ids.length

/-- The text of a file is the one of its bytes, whatever its row has for contents. -/
example : (((onStore (.writtenFile true)).extracting threeBytes).submitted .accepting .file
    .all ()).map (fun r => r.document.get? "contents" |>.map Json.text) = [some "\"360\""] := by
  decide +kernel

theorem writtenFile_sameButContents :
    (Store.writtenFile true).Sorted ∧
      (onStore (.writtenFile true)).source = .ofStore (.writtenFile true) ∧
      (Backend.numbered refusesFirst).AnswersBy 0 refusesFirst ∧
      (((onStore (.writtenFile true)).extracting threeBytes).run (.numbered refusesFirst)
          .file .all 0).1 =
        ((onStore (.writtenFile true)).run (.numbered refusesFirst) .file .all 0).1 ∧
      List.Forall₂ Request.SameButContents
        ((onStore (.writtenFile true)).submitted (.numbered refusesFirst) .file .all 0)
        (((onStore (.writtenFile true)).extracting threeBytes).submitted
          (.numbered refusesFirst) .file .all 0) ∧
      (Store.writtenFile false).Sorted ∧
      (Store.writtenFile false).without "contents" = (Store.writtenFile true).without "contents" ∧
      (onStore (.writtenFile true)).ReadsAll (.numbered refusesFirst) .file .all 0 ∧
      ((onStore (.writtenFile true)).onto (.writtenFile false)).ReadsAll (.numbered refusesFirst)
        .file .all 0 ∧
      ((onStore (.writtenFile true)).onto (.writtenFile false)).submitted (.numbered refusesFirst)
          .file .all 0 =
        (onStore (.writtenFile true)).submitted (.numbered refusesFirst) .file .all 0 := by
  have hb := Backend.answersBy_numbered refusesFirst
  have hs := Store.sorted_writtenFile
  have hwithout : (Store.writtenFile false).without "contents" =
      (Store.writtenFile true).without "contents" := rfl
  have hr : (onStore (.writtenFile true)).ReadsAll (.numbered refusesFirst) .file .all 0 :=
    ⟨_, rfl, rfl⟩
  have hr' : ((onStore (.writtenFile true)).onto (.writtenFile false)).ReadsAll
      (.numbered refusesFirst) .file .all 0 := ⟨_, rfl, rfl⟩
  obtain ⟨hreport, hsame, hstores⟩ := run_sameButContents (x := onStore (.writtenFile true))
    (hs true) rfl .file .all threeBytes hb hb
  exact ⟨hs true, rfl, hb, hreport, hsame, hs false, hwithout, hr, hr',
    (hstores _ (hs false) hwithout).2 hr hr'⟩

end Indexers

end LabIndex
