import LabIndex.Proofs.Json.RoundTrip
import LabIndex.Search.Engine
import Mathlib.Data.List.Dedup
import Mathlib.Logic.Function.Basic

/-!
# Upserts

An engine writes a document by deleting what is under its key and adding it, and publishes a batch
of such pairs at once. What it shows is a map all the same: the requests of the batches that it
took, in order, each written over the one that was under its key.

* `upserts`: the map, with `upserts_eq_getLast?`, which reads it off the list of requests;
* `Index.Holds`: an index holds a map, with what `count`, `get` and the number of documents then are;
* `Index.Holds.applyAll_operations`: the operations of a batch, from map to map;
* `IndexDirectory.Serves`: the invariant of one engine that writes alone, with its step
  `IndexDirectory.Serves.submitWith` and its run `IndexDirectory.Serves.submitEach`;
* `IndexDirectory.submitEach_shows_upserts`: an engine on a new index shows the upserts of the
  batches that it took.
-/

namespace LabIndex.Search

/-! ## 1. The map of the upserts -/

/-- A map with requests written into it in order, each over the one that was under its key. -/
def upsertsOver (m : String → Option Request) (requests : List Request) : String → Option Request :=
  requests.foldl (fun m r => Function.update m r.uid (some r)) m

/-- Requests as a map from written keys: the last one under a key stays. -/
def upserts (requests : List Request) : String → Option Request :=
  upsertsOver (fun _ => none) requests

@[simp] theorem upsertsOver_nil (m : String → Option Request) : upsertsOver m [] = m := rfl

theorem upsertsOver_cons (m : String → Option Request) (r : Request) (rest : List Request) :
    upsertsOver m (r :: rest) = upsertsOver (Function.update m r.uid (some r)) rest := rfl

theorem upsertsOver_append (m : String → Option Request) (xs ys : List Request) :
    upsertsOver m (xs ++ ys) = upsertsOver (upsertsOver m xs) ys := List.foldl_append ..

/-- **Under a key is the last request with it**, or else what was there. -/
theorem upsertsOver_apply (m : String → Option Request) (requests : List Request) (uid : String) :
    upsertsOver m requests uid = ((requests.filter (·.uid = uid)).getLast?).or (m uid) := by
  induction requests generalizing m with
  | nil => simp
  | cons r rest ih =>
      rw [upsertsOver_cons, ih, List.filter_cons]
      by_cases h : r.uid = uid
      · subst h
        simp only [Function.update_self, decide_true, if_true, List.getLast?_cons]
        cases (rest.filter (·.uid = r.uid)).getLast? <;> simp
      · simp [Function.update_of_ne (Ne.symm h), h]

theorem upserts_eq_getLast? (requests : List Request) (uid : String) :
    upserts requests uid = (requests.filter (·.uid = uid)).getLast? := by
  rw [upserts, upsertsOver_apply, Option.or_none]

theorem upserts_append (xs ys : List Request) (uid : String) :
    upserts (xs ++ ys) uid = (upserts ys uid).or (upserts xs uid) := by
  rw [upserts, upsertsOver_append, upsertsOver_apply, upserts_eq_getLast? ys]
  rfl

/-- What is under a key was asked for, under that key. -/
theorem mem_of_upserts {requests : List Request} {uid : String} {r : Request}
    (h : upserts requests uid = some r) : r ∈ requests ∧ r.uid = uid := by
  rw [upserts_eq_getLast?] at h
  simpa using List.mem_filter.mp (List.mem_of_getLast? h)

theorem upserts_isSome_iff (requests : List Request) (uid : String) :
    (upserts requests uid).isSome ↔ uid ∈ requests.map Request.uid := by
  rw [upserts_eq_getLast?, List.getLast?_isSome, List.mem_map]
  simp [List.filter_eq_nil_iff]

/-! ## 2. Indexes that hold a map -/

namespace Index

/-- **An index holds a map**: its documents are the map's, one under each key, and every key is
    short enough to be held as a term. -/
structure Holds (x : Index) (m : String → Option Request) : Prop where
  mem_iff : ∀ uid r, m uid = some r ↔ r ∈ x ∧ r.uid = uid
  nodup : (x.map Request.uid).Nodup
  short : ∀ r ∈ x, r.uid.utf8ByteSize ≤ longTerm

theorem holds_nil : Holds [] fun _ => none where
  mem_iff _ _ := by simp
  nodup := List.nodup_nil
  short _ h := absurd h List.not_mem_nil

/-- A document with a short key is found by that key alone. -/
theorem isUnder_iff {r : Request} (h : r.uid.utf8ByteSize ≤ longTerm) (uid : String) :
    isUnder uid r = true ↔ r.uid = uid := by
  simp [isUnder, asTerm, h]

namespace Holds

variable {x : Index} {m : String → Option Request}

theorem key_mem_iff (h : x.Holds m) (uid : String) : uid ∈ x.map Request.uid ↔ (m uid).isSome := by
  rw [List.mem_map, Option.isSome_iff_exists]
  exact exists_congr fun r => (h.mem_iff uid r).symm

/-- Looking a key up in the index is looking it up in the map. -/
theorem find?_eq (h : x.Holds m) (uid : String) : x.find? (isUnder uid) = m uid := by
  cases hf : x.find? (isUnder uid) with
  | some r =>
      have hr := List.mem_of_find?_eq_some hf
      have hk := (isUnder_iff (h.short r hr) uid).mp (List.find?_some hf)
      exact ((h.mem_iff uid r).mpr ⟨hr, hk⟩).symm
  | none =>
      cases hm : m uid with
      | none => rfl
      | some r =>
          obtain ⟨hr, hk⟩ := (h.mem_iff uid r).mp hm
          exact absurd ((isUnder_iff (h.short r hr) uid).mpr hk) (List.find?_eq_none.mp hf r hr)

theorem countP_eq (h : x.Holds m) (uid : String) :
    x.countP (isUnder uid) = if (m uid).isSome then 1 else 0 := by
  have hu : x.countP (isUnder uid) = (x.map Request.uid).count uid := by
    rw [List.count, List.countP_map]
    refine List.countP_congr fun r hr => ?_
    simpa using isUnder_iff (h.short r hr) uid
  rw [hu, h.nodup.count]
  simp only [h.key_mem_iff]

/-- A document written over what was under its key. -/
theorem upsert (h : x.Holds m) {r : Request} (hr : r.uid.utf8ByteSize ≤ longTerm) :
    (x.applyAll [.delete r.uid, .add r]).Holds (Function.update m r.uid (some r)) := by
  have hx : x.applyAll [.delete r.uid, .add r] = x.filter (fun s => !isUnder r.uid s) ++ [r] := rfl
  have hkept : ∀ s, s ∈ x.filter (fun s => !isUnder r.uid s) ↔ s ∈ x ∧ s.uid ≠ r.uid := by
    intro s
    rw [List.mem_filter]
    refine and_congr_right fun hs => ?_
    rw [Bool.not_eq_true', ← Bool.not_eq_true, isUnder_iff (h.short s hs)]
  rw [hx]
  refine ⟨fun uid s => ?_, ?_, fun s hs => ?_⟩
  · rw [List.mem_append, hkept, List.mem_singleton]
    by_cases hu : uid = r.uid
    · subst hu
      rw [Function.update_self, Option.some.injEq]
      constructor
      · rintro rfl
        exact ⟨.inr rfl, rfl⟩
      · rintro ⟨⟨_, hne⟩ | rfl, hs⟩
        · exact absurd hs hne
        · rfl
    · rw [Function.update_of_ne hu, h.mem_iff]
      constructor
      · rintro ⟨hs, rfl⟩
        exact ⟨.inl ⟨hs, hu⟩, rfl⟩
      · rintro ⟨⟨hs, _⟩ | rfl, hk⟩
        · exact ⟨hs, hk⟩
        · exact absurd hk.symm hu
  · rw [List.map_append, List.map_singleton]
    refine List.Nodup.append (h.nodup.sublist (List.filter_sublist.map _)) (List.nodup_singleton _) ?_
    intro uid hu hs
    rw [List.mem_singleton.mp hs] at hu
    obtain ⟨s, hs, hk⟩ := List.mem_map.mp hu
    exact ((hkept s).mp hs).2 hk
  · rcases List.mem_append.mp hs with hs | hs
    · exact h.short s ((hkept s).mp hs).1
    · rw [List.mem_singleton.mp hs]
      exact hr

/-- **The operations of a batch write its requests into the map.** -/
theorem applyAll_operations (h : x.Holds m) {batch : List Request}
    (hb : ∀ r ∈ batch, r.uid.utf8ByteSize ≤ longTerm) :
    (x.applyAll (operations batch)).Holds (upsertsOver m batch) := by
  induction batch generalizing x m with
  | nil => exact h
  | cons r rest ih =>
      have hx : x.applyAll (operations (r :: rest)) =
          (x.applyAll [.delete r.uid, .add r]).applyAll (operations rest) := rfl
      rw [hx, upsertsOver_cons]
      exact ih (h.upsert (hb r List.mem_cons_self)) fun s hs => hb s (List.mem_cons_of_mem _ hs)

/-- The number of documents is the number of different keys that were asked for. -/
theorem length_eq {requests : List Request} (h : x.Holds (upserts requests)) :
    x.length = (requests.map Request.uid).dedup.length := by
  have hp : (x.map Request.uid).Perm (requests.map Request.uid).dedup := by
    refine (List.perm_ext_iff_of_nodup h.nodup (List.nodup_dedup _)).mpr fun uid => ?_
    rw [h.key_mem_iff, upserts_isSome_iff, List.mem_dedup]
  calc x.length = (x.map Request.uid).length := (List.length_map _).symm
    _ = (requests.map Request.uid).dedup.length := hp.length_eq

theorem count_eq (h : x.Holds m) (key : DocumentKey) :
    x.count key = if (m key.uid).isSome then 1 else 0 := h.countP_eq key.uid

theorem get_eq (h : x.Holds m) (key : DocumentKey) :
    x.get key = match m key.uid with
      | none => .ok none
      | some r => (stored r).map some := by
  cases hm : m key.uid <;> simp only [get, h.find?_eq, hm]

end Holds

/-- A document that can be read back is what was stored. -/
theorem stored_eq {r : Request} (hs : r.document.Sorted) (hn : r.document.NumbersReadBack)
    (hd : r.document.depth ≤ Json.maxDepth) : stored r = .ok r.document := by
  rw [stored, Json.parse?_text hs hn hd]

/-- **An index shows the upserts of requests**: it holds their map, and under a key it has the
    last document that was written there, as the text of that document reads. -/
structure ShowsUpserts (x : Index) (requests : List Request) : Prop where
  holds : x.Holds (upserts requests)
  requested : ∀ r ∈ x, r ∈ requests
  length : x.length = (requests.map Request.uid).dedup.length
  count : ∀ key : DocumentKey,
    x.count key = if key.uid ∈ requests.map Request.uid then 1 else 0
  get : ∀ key : DocumentKey, x.get key = match upserts requests key.uid with
    | none => .ok none
    | some r => (stored r).map some
  get_document : ∀ (key : DocumentKey) (r : Request), upserts requests key.uid = some r →
    r.document.Sorted → r.document.NumbersReadBack → r.document.depth ≤ Json.maxDepth →
    x.get key = .ok (some r.document)

theorem Holds.showsUpserts {x : Index} {requests : List Request} (h : x.Holds (upserts requests)) :
    x.ShowsUpserts requests where
  holds := h
  requested r hr := (mem_of_upserts ((h.mem_iff r.uid r).mpr ⟨hr, rfl⟩)).1
  length := h.length_eq
  count key := by simp only [h.count_eq, upserts_isSome_iff]
  get := h.get_eq
  get_document key r hr hs hn hd := by
    rw [h.get_eq, hr]
    simp only [stored_eq hs hn hd]
    rfl

end Index

/-! ## 3. One engine -/

namespace IndexDirectory

section Refresh

variable (d : IndexDirectory) (n : Nat)

@[simp] theorem published_refresh : (d.refresh n).published = d.published := by
  rw [refresh]; split <;> rfl

@[simp] theorem queued_refresh : (d.refresh n).queued = d.queued := by
  rw [refresh]; split <;> rfl

@[simp] theorem holder_refresh : (d.refresh n).holder = d.holder := by
  rw [refresh]; split <;> rfl

variable {d n}

/-- An engine that looks again sees what is published. -/
theorem engine?_refresh {e : Engine} (h : d.engine? n = some e) :
    (d.refresh n).engine? n = some { e with view := d.published } := by
  have hlt : n < d.engines.length := by
    rw [engine?, Option.join_eq_some_iff] at h
    exact (List.getElem?_eq_some_iff.mp h).1
  rw [refresh, h]
  simp [engine?, hlt]

/-- What it sees then is what is published. -/
theorem view_refresh {e : Engine} (h : d.engine? n = some e) :
    (d.refresh n).view n = d.published := by
  rw [view, engine?_refresh h]
  rfl

end Refresh

/-- Submits batches in turn by an engine, each with the way its writing ends: the batches that
    were taken, and the directory after the last. -/
def submitEach (d : IndexDirectory) (n : Nat) :
    List (List Request × Fate) → List (List Request) × IndexDirectory
  | [] => ([], d)
  | (batch, fate) :: rest =>
    match d.submitWith n batch fate with
    | (.ok _, d) =>
      let (accepted, d) := d.submitEach n rest
      (batch :: accepted, d)
    | (.error _, d) => d.submitEach n rest

section Submitting

variable {d : IndexDirectory} {n : Nat} {batch : List Request} {fate : Fate}

theorem submitEach_cons_ok {k : Nat} (h : (d.submitWith n batch fate).1 = .ok k)
    (rest : List (List Request × Fate)) :
    d.submitEach n ((batch, fate) :: rest) =
      (batch :: ((d.submitWith n batch fate).2.submitEach n rest).1,
        ((d.submitWith n batch fate).2.submitEach n rest).2) := by
  have hs : d.submitWith n batch fate = (.ok k, (d.submitWith n batch fate).2) := Prod.ext h rfl
  rw [submitEach, hs]

theorem submitEach_cons_error {f : Failure} (h : (d.submitWith n batch fate).1 = .error f)
    (rest : List (List Request × Fate)) :
    d.submitEach n ((batch, fate) :: rest) =
      (d.submitWith n batch fate).2.submitEach n rest := by
  have hs : d.submitWith n batch fate = (.error f, (d.submitWith n batch fate).2) := Prod.ext h rfl
  rw [submitEach, hs]

end Submitting

/-- **An engine that writes alone serves a map**: it sees what is published, nothing is queued, no
    other engine writes, and what is published holds the map. -/
structure Serves (d : IndexDirectory) (n processors memory : Nat) (m : String → Option Request) :
    Prop where
  engine : d.engine? n = some ⟨processors, memory, d.published⟩
  queued : d.queued = []
  free : ∀ k, d.holder = some k → k = n
  holds : d.published.Holds m

/-- A new directory with its first engine. -/
theorem serves_openEngine (processors memory : Nat) :
    ((ofIndex []).openEngine memory processors).2.Serves 0 processors memory fun _ => none where
  engine := rfl
  queued := rfl
  free _ h := nomatch h
  holds := Index.holds_nil

namespace Serves

variable {d : IndexDirectory} {n processors memory : Nat} {m : String → Option Request}

theorem view_eq (h : d.Serves n processors memory m) : d.view n = d.published := by
  rw [view, h.engine]
  rfl

/-- The engine may write unless its memory keeps it from it. -/
theorem writeFailure?_eq_none (h : d.Serves n processors memory m)
    (hm : memoryFault? processors memory = none) : d.writeFailure? n = none := by
  rw [writeFailure?, h.engine]
  cases hh : d.holder with
  | none => simp [Engine.fault?, hm]
  | some k => simp [h.free k hh]

/-- A batch is queued and published, or queued as far as it goes and forgotten. -/
theorem submitWith (h : d.Serves n processors memory m) {batch : List Request} (fate : Fate)
    (hb : ∀ r ∈ batch, r.uid.utf8ByteSize ≤ longTerm) :
    (∃ f, (d.submitWith n batch fate).1 = .error f ∧
        (d.submitWith n batch fate).2.Serves n processors memory m) ∨
      (fate = .taken ∧ (d.submitWith n batch fate).1 = .ok batch.length ∧
        (d.submitWith n batch fate).2.Serves n processors memory (upsertsOver m batch)) := by
  cases hw : d.writeFailure? n with
  | some f =>
      refine .inl ⟨f, by simp [IndexDirectory.submitWith, hw], ?_⟩
      simpa [IndexDirectory.submitWith, hw] using h
  | none =>
      have hholder : ∀ k, some n = some k → k = n := fun k hk => (Option.some.inj hk).symm
      cases fate with
      | refused queued reason =>
          refine .inl ⟨reason, by simp [IndexDirectory.submitWith, hw], ?_⟩
          simp only [IndexDirectory.submitWith, hw]
          exact ⟨h.engine, rfl, hholder, h.holds⟩
      | taken =>
          refine .inr ⟨rfl, by simp [IndexDirectory.submitWith, hw], ?_⟩
          simp only [IndexDirectory.submitWith, hw, Writer.submit, Writer.stage, Writer.commit,
            h.queued, List.nil_append]
          refine ⟨?_, by rw [queued_refresh], by rwa [holder_refresh], ?_⟩
          · rw [published_refresh]
            exact engine?_refresh (e := ⟨processors, memory, d.published⟩) h.engine
          · rw [published_refresh]
            exact h.holds.applyAll_operations hb

/-- A batch whose writing does not fail is taken. -/
theorem submitWith_taken (h : d.Serves n processors memory m)
    (hm : memoryFault? processors memory = none) (batch : List Request) : (d.submitWith n batch .taken).1 = .ok batch.length := by
  simp [IndexDirectory.submitWith, h.writeFailure?_eq_none hm]

/-- **Over a run of batches the map takes up those that were taken**, and no other. -/
theorem submitEach {steps : List (List Request × Fate)} (h : d.Serves n processors memory m)
    (hs : ∀ step ∈ steps, ∀ r ∈ step.1, r.uid.utf8ByteSize ≤ longTerm) :
    (d.submitEach n steps).2.Serves n processors memory
      (upsertsOver m (d.submitEach n steps).1.flatten) := by
  induction steps generalizing d m with
  | nil => exact h
  | cons step rest ih =>
      obtain ⟨batch, fate⟩ := step
      have hrest : ∀ step ∈ rest, ∀ r ∈ step.1, r.uid.utf8ByteSize ≤ longTerm :=
        fun step hm => hs step (List.mem_cons_of_mem _ hm)
      rcases h.submitWith fate (hs (batch, fate) List.mem_cons_self) with
        ⟨f, ha, hd⟩ | ⟨-, ha, hd⟩
      · rw [submitEach_cons_error ha]
        exact ih hd hrest
      · rw [submitEach_cons_ok ha]
        simp only [List.flatten_cons, upsertsOver_append]
        exact ih hd hrest

/-- With memory enough, the batches taken are those whose writing does not fail. -/
theorem accepted_eq {steps : List (List Request × Fate)} (h : d.Serves n processors memory m)
    (hm : memoryFault? processors memory = none)
    (hs : ∀ step ∈ steps, ∀ r ∈ step.1, r.uid.utf8ByteSize ≤ longTerm) :
    (d.submitEach n steps).1 = (steps.filter (·.2 = .taken)).map (·.1) := by
  induction steps generalizing d m with
  | nil => rfl
  | cons step rest ih =>
      obtain ⟨batch, fate⟩ := step
      have hrest : ∀ step ∈ rest, ∀ r ∈ step.1, r.uid.utf8ByteSize ≤ longTerm :=
        fun step hm => hs step (List.mem_cons_of_mem _ hm)
      rcases h.submitWith fate (hs (batch, fate) List.mem_cons_self) with
        ⟨f, ha, hd⟩ | ⟨rfl, ha, hd⟩
      · have hne : fate ≠ .taken := by
          rintro rfl
          rw [h.submitWith_taken hm] at ha
          cases ha
        rw [submitEach_cons_error ha]
        simpa [hne] using ih hd hrest
      · rw [submitEach_cons_ok ha]
        simpa using ih hd hrest

end Serves

/-- **An engine on a new index shows the upserts of the batches that it took.** Batches are taken
    or not one by one, wherever their writing stops; a key may come any number of times in a batch
    and again in others. -/
theorem submitEach_shows_upserts (processors memory : Nat)
    (steps : List (List Request × Fate))
    (hs : ∀ step ∈ steps, ∀ r ∈ step.1, r.uid.utf8ByteSize ≤ longTerm) :
    let (accepted, d) := ((ofIndex []).openEngine memory processors).2.submitEach 0 steps
    (memoryFault? processors memory = none → accepted = (steps.filter (·.2 = .taken)).map (·.1)) ∧
      d.published = d.view 0 ∧ (d.view 0).ShowsUpserts accepted.flatten := by
  have h0 := serves_openEngine processors memory
  have h := h0.submitEach hs
  refine ⟨fun hm => h0.accepted_eq hm hs, h.view_eq.symm, ?_⟩
  rw [h.view_eq]
  exact h.holds.showsUpserts

/-- Batches in which keys come again, around one whose writing stops in the middle. -/
def interruptedSteps : List (List Request × Fate) :=
  let project (id name : String) : Request := ⟨"mc", .project, id, .obj [("name", .str name)]⟩
  [([project "p-1" "alloy", project "p-2" "coupon", project "p-1" "alloy 2"], .taken),
    ([project "p-2" "lost", project "p-3" "lost"], .refused 3 (.bulkSubmit "no space")),
    ([project "p-2" "coupon 2", project "p-4" "weld"], .taken)]

theorem interruptedSteps_shows_upserts :
    (∀ step ∈ interruptedSteps, ∀ r ∈ step.1, r.uid.utf8ByteSize ≤ longTerm) ∧
      let (accepted, d) := ((ofIndex []).openEngine leastThreadMemory).2.submitEach 0 interruptedSteps
      (memoryFault? mostThreads leastThreadMemory = none →
        accepted = (interruptedSteps.filter (·.2 = .taken)).map (·.1)) ∧
      d.published = d.view 0 ∧ (d.view 0).ShowsUpserts accepted.flatten :=
  ⟨by decide, submitEach_shows_upserts mostThreads leastThreadMemory interruptedSteps (by decide)⟩

/-- A document with the number 6.438495732194297e-10, whose text is read as the double below it. -/
def unsteadyRequest : Request :=
  ⟨"mc", .project, "p-1", .obj [("a", .num (.double ⟨0x3e061f5c59592ae2⟩))]⟩

/-- What is read is not the document that was submitted. -/
theorem get_ne_document :
    unsteadyRequest.uid.utf8ByteSize ≤ longTerm ∧
      let (accepted, d) := ((ofIndex []).openEngine leastThreadMemory).2.submitEach 0
        [([unsteadyRequest], .taken)]
      accepted = [[unsteadyRequest]] ∧
        (d.view 0).get unsteadyRequest.key ≠ .ok (some unsteadyRequest.document) := by
  refine ⟨by decide, rfl, fun h => ?_⟩
  have htext := congrArg (fun answer => answer.toOption.join.map Json.text) h
  exact absurd htext (by decide +kernel)

end IndexDirectory

end LabIndex.Search
