import LabIndex.Proofs.Change.LookUps

/-!
# Plans are made from whole answers

A plan asks the source one query after the other, and what it asks next may depend on the rows that
it got. Written as such an inquiry, a plan is the same whatever the source answers; which queries
are asked depends on the answers. An inquiry goes on only from a whole answer: a query that fails,
or rows that stop early, end it with their failure, and nothing has been run by then.

* `Inquiry`: questions that depend on earlier answers, what they come to and what is asked;
* `Inquiry.run_eq_error_iff`: an inquiry fails exactly if a query that it asks does;
* `ChangeEvent.run_inquiry`: a plan is an inquiry;
* `ChangeEvent.distinctColumn_eq_eraseDups`: a column's texts, each where it is seen first;
* `Indexers.apply_from_whole_answers`: a change is followed from whole answers or not at all.
-/

namespace LabIndex

/-! ## 1. Whole answers -/

namespace Source

variable {src : Source} {q : Query} {f : Failure} {rows : List Json}

/-- A query has no whole answer: it fails, or its rows stop early with a failure. -/
def Fails (src : Source) (q : Query) (f : Failure) : Prop :=
  src.execute q = .error f ∨
    ∃ c reason, src.execute q = .ok c ∧ c.failure = some reason ∧ f = .cursor reason.message

theorem allRows_eq_error_iff : src.allRows q = .error f ↔ src.Fails q f := by
  rw [allRows, Fails]
  cases src.execute q with
  | error g => simp [bind, Except.bind]
  | ok c =>
      obtain ⟨found, failure⟩ := c
      cases failure <;> simp [bind, Except.bind, pure, Except.pure, throw, throwThe,
        MonadExceptOf.throw, eq_comm]

theorem allRows_eq_ok_iff : src.allRows q = .ok rows ↔ src.execute q = .ok ⟨rows, none⟩ := by
  rw [allRows]
  cases src.execute q with
  | error g => simp [bind, Except.bind]
  | ok c =>
      obtain ⟨found, failure⟩ := c
      cases failure <;> simp [bind, Except.bind, pure, Except.pure, throw, throwThe,
        MonadExceptOf.throw]

end Source

/-! ## 2. Inquiries -/

/-- Questions to a source: an outcome, or a query and what follows from its rows. -/
inductive Inquiry (α : Type) where
  | done (outcome : α)
  | ask (q : Query) (next : List Json → Inquiry α)

namespace Inquiry

variable {α : Type}

/-- What an inquiry comes to. -/
def run (src : Source) : Inquiry α → Except Failure α
  | .done outcome => .ok outcome
  | .ask q next =>
    match src.allRows q with
    | .error f => .error f
    | .ok rows => (next rows).run src

/-- The queries that an inquiry asks, in order. -/
def asked (src : Source) : Inquiry α → List Query
  | .done _ => []
  | .ask q next =>
    q :: match src.allRows q with
      | .error _ => []
      | .ok rows => (next rows).asked src

variable {src src' : Source} {q : Query} {next : List Json → Inquiry α} {f : Failure}
  {rows : List Json}

theorem run_ask_of_error (h : src.allRows q = .error f) : (ask q next).run src = .error f := by
  rw [run, h]

theorem run_ask_of_ok (h : src.allRows q = .ok rows) :
    (ask q next).run src = (next rows).run src := by
  rw [run, h]

theorem asked_ask_of_error (h : src.allRows q = .error f) : (ask q next).asked src = [q] := by
  rw [asked, h]

theorem asked_ask_of_ok (h : src.allRows q = .ok rows) :
    (ask q next).asked src = q :: (next rows).asked src := by
  rw [asked, h]

/-- **An inquiry fails exactly if a query that it asks has no whole answer**, and with that
    failure. -/
theorem run_eq_error_iff (t : Inquiry α) :
    t.run src = .error f ↔ ∃ q ∈ t.asked src, src.Fails q f := by
  simp only [← Source.allRows_eq_error_iff]
  induction t with
  | done outcome => simp [run, asked]
  | ask q next ih =>
      cases hq : src.allRows q with
      | error g => rw [run_ask_of_error hq, asked_ask_of_error hq]; simp [hq]
      | ok rows => rw [run_ask_of_ok hq, asked_ask_of_ok hq, ih rows]; simp [hq]

/-- An inquiry that comes to an outcome has whole answers. -/
theorem exists_rows_of_run {t : Inquiry α} {outcome : α} (h : t.run src = .ok outcome) :
    ∀ q ∈ t.asked src, ∃ rows, src.execute q = .ok ⟨rows, none⟩ := by
  intro q hq
  cases hrows : src.allRows q with
  | ok rows => exact ⟨rows, Source.allRows_eq_ok_iff.mp hrows⟩
  | error g =>
      rw [(run_eq_error_iff t).mpr ⟨q, hq, Source.allRows_eq_error_iff.mp hrows⟩] at h
      cases h

/-- **Nothing but the queries that it asks matters to an inquiry.** -/
theorem run_congr {t : Inquiry α} (h : ∀ q ∈ t.asked src, src'.execute q = src.execute q) :
    t.run src' = t.run src := by
  induction t with
  | done outcome => rfl
  | ask q next ih =>
      have hq : src'.allRows q = src.allRows q := by
        rw [Source.allRows, Source.allRows, h q (by simp [asked])]
      cases hrows : src.allRows q with
      | error g => rw [run_ask_of_error hrows, run_ask_of_error (hq.trans hrows)]
      | ok rows =>
          rw [asked_ask_of_ok hrows, List.forall_mem_cons] at h
          rw [run_ask_of_ok hrows, run_ask_of_ok (hq.trans hrows), ih rows h.2]

end Inquiry

/-! ## 3. Plans as inquiries -/

/-- The tables that samples are looked up in. -/
def sampleLinks : List String := ["sample2datafile", "sample2propertyset"]

/-- A query looks samples up. -/
def Query.LooksSamplesUp (q : Query) : Prop :=
  ∃ table ∈ sampleLinks, ∃ index ids, q = .getAllBy table index ids

/-- The ids of one kind that are named by targets. -/
def Target.idsOf (k : Kind) (targets : List Target) : List String :=
  (targets.filter (·.kind = k)).flatMap (·.ids)

theorem Target.idsOf_ofIds (k : Kind) (ids : List String) : idsOf k (ofIds k ids) = ids := by
  rw [ofIds]
  split
  · rename_i hids
    rw [List.isEmpty_iff.mp hids]
    rfl
  · simp [idsOf]

theorem Target.idsOf_ofIds_of_ne {k l : Kind} (h : l ≠ k) (ids : List String) :
    idsOf k (ofIds l ids) = [] := by
  rw [ofIds]
  split
  · rfl
  · simp [idsOf, h]

theorem Target.idsOf_append (k : Kind) (a b : List Target) :
    idsOf k (a ++ b) = idsOf k a ++ idsOf k b := by
  rw [idsOf, List.filter_append, List.flatMap_append, idsOf, idsOf]

namespace ChangeEvent

variable {src : Source}

/-- A new text goes to the end of those that were seen, each text once. -/
theorem foldl_insertNew_eq (xs seen : List String) :
    xs.foldl insertNew seen = seen ++ (xs.filter fun s => !seen.contains s).eraseDups := by
  induction xs generalizing seen with
  | nil => simp
  | cons x rest ih =>
      rw [List.foldl_cons, ih, insertNew]
      split
      · rename_i hx
        rw [List.filter_cons_of_neg (by simpa using hx)]
      · rename_i hx
        rw [List.filter_cons_of_pos (by simpa using hx), List.eraseDups_cons, List.filter_filter,
          List.append_assoc, List.singleton_append]
        congr 3
        refine List.filter_congr fun s _ => ?_
        by_cases hs : s = x <;> simp [hs]

/-- **The texts of a column, each where it is seen first.** -/
theorem distinctColumn_eq_eraseDups (key : String) (rows : List Json) :
    distinctColumn key rows = (rows.filterMap (column? · key)).eraseDups := by
  rw [distinctColumn, foldl_insertNew_eq, List.nil_append, List.filter_eq_self.mpr (by simp)]

/-- The samples that use some files, and the targets for both. -/
def inquiryOfFiles (files : List String) : Inquiry (List Target) :=
  if files.isEmpty then .done []
  else .ask (.getAllBy "sample2datafile" "datafile_id" files) fun rows =>
    .done (Target.ofIds .file files ++ Target.ofIds .sample (distinctColumn "sample_id" rows))

/-- The plan of a change as an inquiry. -/
def inquiry : ChangeEvent → Inquiry (List Target)
  | file id => inquiryOfFiles [id]
  | projectFile id => .done (Target.ofIds .file [id])
  | sample id | sampleFile id => .done (Target.ofIds .sample [id])
  | propertySet id =>
    .ask (.getAllBy "sample2propertyset" "property_set_id" [id]) fun rows =>
      .done (Target.ofIds .sample (distinctColumn "sample_id" rows))
  | process id => .done (Target.ofIds .process [id])
  | project id => .done (Target.ofIds .project [id])
  | user id => .done (Target.ofIds .user [id])
  | note id =>
    .ask (.getAllBy "note2item" "note_id" [id]) fun rows => inquiryOfFiles (filesAmong rows)
  | noteItem type id | tag type id => if type = fileItem then inquiryOfFiles [id] else .done []

/-- The queries that are asked for a plan, in order. -/
def asked (src : Source) (e : ChangeEvent) : List Query := e.inquiry.asked src

theorem run_inquiryOfFiles (src : Source) (files : List String) :
    (inquiryOfFiles files).run src = fileTargets src files := by
  rw [inquiryOfFiles, fileTargets, samplesUsing]
  split
  · rename_i hfiles
    rw [List.isEmpty_iff.mp hfiles]
    rfl
  · rw [lookUp, Inquiry.run]
    cases src.allRows (.getAllBy "sample2datafile" "datafile_id" files) <;> rfl

/-- **A plan is an inquiry**, whatever the source answers. -/
theorem run_inquiry (src : Source) (e : ChangeEvent) : e.inquiry.run src = e.plan src := by
  cases e with
  | file id => exact run_inquiryOfFiles src [id]
  | projectFile | sample | sampleFile | process | project | user => rfl
  | propertySet id =>
      rw [inquiry, plan, lookUp, Inquiry.run]
      cases src.allRows (.getAllBy "sample2propertyset" "property_set_id" [id]) <;> rfl
  | note id =>
      rw [inquiry, plan, Inquiry.run]
      cases src.allRows (.getAllBy "note2item" "note_id" [id]) with
      | error f => rfl
      | ok rows => exact run_inquiryOfFiles src _
  | noteItem type id | tag type id =>
      rw [inquiry, plan]
      split
      · exact run_inquiryOfFiles src [id]
      · rfl

/-! ## 4. The samples of a plan -/

/-- What is looked up for files is what they name of samples. -/
theorem samples_of_inquiryOfFiles {files : List String} {targets : List Target} {q : Query}
    (h : (inquiryOfFiles files).run src = .ok targets) (hq : q ∈ (inquiryOfFiles files).asked src) :
    ∃ rows, src.execute q = .ok ⟨rows, none⟩ ∧
      Target.idsOf .sample targets = distinctColumn "sample_id" rows := by
  rw [inquiryOfFiles] at h hq
  split at h
  · rename_i hfiles
    rw [if_pos hfiles] at hq
    cases hq
  · rename_i hfiles
    rw [if_neg hfiles] at hq
    cases hrows : src.allRows (.getAllBy "sample2datafile" "datafile_id" files) with
    | error f => rw [Inquiry.run_ask_of_error hrows] at h; cases h
    | ok rows =>
        rw [Inquiry.run_ask_of_ok hrows] at h
        rw [Inquiry.asked_ask_of_ok hrows] at hq
        obtain rfl := List.mem_singleton.mp hq
        obtain rfl := Except.ok.inj h
        refine ⟨rows, Source.allRows_eq_ok_iff.mp hrows, ?_⟩
        rw [Target.idsOf_append, Target.idsOf_ofIds_of_ne (by decide), Target.idsOf_ofIds,
          List.nil_append]

/-- **A plan names the samples that were looked up**, all of them and no others. -/
theorem samples_of_plan {e : ChangeEvent} {targets : List Target} {q : Query}
    (h : e.plan src = .ok targets) (hq : q ∈ e.asked src) (hl : q.LooksSamplesUp) :
    ∃ rows, src.execute q = .ok ⟨rows, none⟩ ∧
      Target.idsOf .sample targets = distinctColumn "sample_id" rows := by
  rw [← run_inquiry] at h
  rw [asked] at hq
  cases e with
  | file id => exact samples_of_inquiryOfFiles h hq
  | projectFile | sample | sampleFile | process | project | user => cases hq
  | propertySet id =>
      rw [inquiry] at h hq
      cases hrows : src.allRows (.getAllBy "sample2propertyset" "property_set_id" [id]) with
      | error f => rw [Inquiry.run_ask_of_error hrows] at h; cases h
      | ok rows =>
          rw [Inquiry.run_ask_of_ok hrows] at h
          rw [Inquiry.asked_ask_of_ok hrows] at hq
          obtain rfl := List.mem_singleton.mp hq
          obtain rfl := Except.ok.inj h
          exact ⟨rows, Source.allRows_eq_ok_iff.mp hrows, Target.idsOf_ofIds ..⟩
  | note id =>
      rw [inquiry] at h hq
      cases hrows : src.allRows (.getAllBy "note2item" "note_id" [id]) with
      | error f => rw [Inquiry.run_ask_of_error hrows] at h; cases h
      | ok rows =>
          rw [Inquiry.run_ask_of_ok hrows] at h
          rw [Inquiry.asked_ask_of_ok hrows] at hq
          rcases List.mem_cons.mp hq with rfl | hq
          · -- the items of the note are no samples
            obtain ⟨table, ht, index, ids, hquery⟩ := hl
            have hne : "note2item" ≠ table := by
              rintro rfl
              exact absurd ht (by decide)
            exact absurd (Query.getAll.inj hquery).1 hne
          · exact samples_of_inquiryOfFiles h hq
  | noteItem type id | tag type id =>
      rw [inquiry] at h hq
      split at h
      · rename_i htype
        rw [if_pos htype] at hq
        exact samples_of_inquiryOfFiles h hq
      · rename_i htype
        rw [if_neg htype] at hq
        cases hq

/-- No query is asked twice, so a source that answers differently each time is no other case. -/
theorem nodup_asked (src : Source) (e : ChangeEvent) : (e.asked src).Nodup := by
  have hfiles : ∀ files, ((inquiryOfFiles files).asked src).Nodup ∧
      ∀ q ∈ (inquiryOfFiles files).asked src,
        q = .getAllBy "sample2datafile" "datafile_id" files := by
    intro files
    rw [inquiryOfFiles]
    split
    · simp [Inquiry.asked]
    · rw [Inquiry.asked]
      split <;> simp [Inquiry.asked]
  cases e with
  | file id => exact (hfiles [id]).1
  | projectFile | sample | sampleFile | process | project | user => exact List.nodup_nil
  | propertySet id =>
      rw [asked, inquiry, Inquiry.asked]
      split <;> exact List.nodup_singleton _
  | note id =>
      rw [asked, inquiry, Inquiry.asked]
      split
      · exact List.nodup_singleton _
      · rename_i rows _
        refine List.nodup_cons.mpr ⟨fun hmem => ?_, (hfiles _).1⟩
        have htable := (Query.getAll.inj ((hfiles _).2 _ hmem)).1
        exact absurd htable (by decide)
  | noteItem type id | tag type id =>
      rw [asked, inquiry]
      split
      · exact (hfiles [id]).1
      · exact List.nodup_nil

end ChangeEvent

/-! ## 5. Following a change -/

namespace Indexers

variable {σ : Type} (x : Indexers) (b : Backend σ)

/-- **There is no partial plan.** Whatever the source answers, if a query that is asked for the plan
    of a change fails or its rows stop early, the plan and following the change fail with it, and
    nothing is submitted to any backend. If there is a plan, every query had a whole answer, and
    where samples were looked up the plan names exactly the texts in the column of these rows, each
    once and where it is first seen. The plan depends on the answers to these queries alone, of
    which none is asked twice. -/
theorem apply_from_whole_answers (e : ChangeEvent) (state : σ) :
    (∀ q ∈ e.asked x.source, ∀ f, x.source.Fails q f →
      e.plan x.source = .error f ∧ x.apply b e state = (.error f, state) ∧
        x.apply b.logged e (state, []) = (.error f, (state, []))) ∧
    (∀ targets, e.plan x.source = .ok targets →
      (∀ q ∈ e.asked x.source, ∃ rows, x.source.execute q = .ok ⟨rows, none⟩) ∧
      ∀ q ∈ e.asked x.source, q.LooksSamplesUp →
        ∃ rows, x.source.execute q = .ok ⟨rows, none⟩ ∧
          Target.idsOf .sample targets =
            (rows.filterMap fun row => (row.get? "sample_id").bind Json.text?).eraseDups) ∧
    (e.asked x.source).Nodup ∧
    ∀ src, (∀ q ∈ e.asked x.source, src.execute q = x.source.execute q) →
      e.plan src = e.plan x.source := by
  refine ⟨fun q hq f hf => ?_, fun targets hp => ⟨?_, fun q hq hl => ?_⟩, e.nodup_asked x.source,
    fun src hsrc => ?_⟩
  · have hplan : e.plan x.source = .error f := by
      rw [← ChangeEvent.run_inquiry]
      exact (Inquiry.run_eq_error_iff _).mpr ⟨q, hq, hf⟩
    refine ⟨hplan, ?_, ?_⟩ <;> rw [apply, hplan]
  · rw [← ChangeEvent.run_inquiry] at hp
    exact Inquiry.exists_rows_of_run hp
  · obtain ⟨rows, hrows, hids⟩ := ChangeEvent.samples_of_plan hp hq hl
    exact ⟨rows, hrows, hids.trans (ChangeEvent.distinctColumn_eq_eraseDups ..)⟩
  · rw [← ChangeEvent.run_inquiry, ← ChangeEvent.run_inquiry]
    exact Inquiry.run_congr hsrc

/-- A source that knows one file of each note and links to three samples, of which it forgets to say
    one in words; reading the links may stop. -/
def noteSource (stopped : Option Failure) : Source where
  execute
    | .getAll "note2item" _ _ =>
      .ok ⟨[.obj [("item_id", .str "f-1"), ("item_type", .str "datafile")]], none⟩
    | _ =>
      .ok ⟨[.obj [("sample_id", .str "s-2")], .obj [("sample_id", .ofNat 7)],
        .obj [("sample_id", .str "s-1")], .obj [("sample_id", .str "s-2")]], stopped⟩

/-- The indexers over it. -/
def noteIndexers (stopped : Option Failure) : Indexers :=
  (onStore .empty).readingFrom (noteSource stopped)

/-- The samples of a note's file are looked up after its items. Where their rows stop early nothing
    is left of the plan, though these name two samples by then; where they do not the plan names
    both. -/
theorem apply_from_whole_answers_ofNote :
    let links := Query.getAllBy "sample2datafile" "datafile_id" ["f-1"]
    links ∈ (ChangeEvent.note "n-1").asked (noteSource (some (.io "gone"))) ∧
      (noteSource (some (.io "gone"))).Fails links (.cursor "IO error: gone") ∧
      (noteIndexers (some (.io "gone"))).apply Backend.accepting.logged (.note "n-1") ((), []) =
        (.error (.cursor "IO error: gone"), ((), [])) ∧
      links ∈ (ChangeEvent.note "n-1").asked (noteSource none) ∧ links.LooksSamplesUp ∧
      ∃ targets, (ChangeEvent.note "n-1").plan (noteSource none) = .ok targets ∧
        Target.idsOf .sample targets = ["s-2", "s-1"] := by
  intro links
  have hasked : ∀ stopped, (ChangeEvent.note "n-1").asked (noteSource stopped) =
      [.getAllBy "note2item" "note_id" ["n-1"], links] := by
    intro stopped
    cases stopped <;> rfl
  have hmem : ∀ stopped, links ∈ (ChangeEvent.note "n-1").asked (noteSource stopped) := by
    intro stopped
    rw [hasked]
    exact List.mem_cons_of_mem _ List.mem_cons_self
  have hfails : (noteSource (some (.io "gone"))).Fails links (.cursor "IO error: gone") :=
    .inr ⟨_, _, rfl, rfl, rfl⟩
  have hlooks : links.LooksSamplesUp := ⟨"sample2datafile", by decide, _, _, rfl⟩
  have hplan : (ChangeEvent.note "n-1").plan (noteSource none) =
      .ok [⟨.file, ["f-1"]⟩, ⟨.sample, ["s-2", "s-1"]⟩] := by decide +kernel
  refine ⟨hmem _, hfails, ?_, hmem _, hlooks, _, hplan, ?_⟩
  · exact ((apply_from_whole_answers (noteIndexers (some (.io "gone"))) Backend.accepting
      (.note "n-1") ()).1 links (hmem _) _ hfails).2.2
  · obtain ⟨rows, hrows, hids⟩ := ((apply_from_whole_answers (noteIndexers none) Backend.accepting
      (.note "n-1") ()).2.1 _ hplan).2 links (hmem _) hlooks
    cases hrows
    rw [hids]
    decide +kernel

end Indexers

end LabIndex
