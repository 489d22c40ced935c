import LabIndex.Installation
import LabIndex.Settings.Loading
import LabIndex.Proofs.Scanning.Files
import LabIndex.Proofs.Search.Engines

/-!
# What checked settings are good for

Settings are checked before anything is made from them. What passes the check has a root for the
content store, workers and patterns for the scanner and room in a batch of each kind, and so the parts
can be put together from it just as it says. The memory of the index writer is not looked at; an engine
refuses to write with too little or too much of it, and then refuses every batch. How much is too much
is up to the machine, whose processors share it.

* `Settings.Sensible`, `Settings.fault?_eq_none_iff`: what the check lets pass;
* `Search.WritesWith`, `Search.memoryFault?_eq_none_iff`: the memory that an engine can write with;
* `Installation.takes_batches_of_checked`: what checked settings are good for, and where that ends;
* `Installation.checked_takes_no_batch`: settings that pass and index nothing.
-/

namespace LabIndex

open Search

/-! ## 1. The check -/

namespace Settings

/-- Settings that make sense. -/
structure Sensible (s : Settings) : Prop where
  rooted : s.storage.mcdir ≠ []
  sized : s.extraction.maxContentBytes ≠ 0
  named : Text.isAllBlank s.indexing.indexName.toList = false
  batched : ∀ kind, s.indexing.batchSize kind ≠ 0
  manned : 0 < s.scanner.workers
  readable : ∀ p ∈ s.scanner.excludePatterns, ∃ tokens, Glob.parse p = .ok tokens

/-- Patterns pass if each of them makes sense. -/
theorem patternFault?_eq_none_iff {patterns : List String} :
    patternFault? patterns = none ↔ ∀ p ∈ patterns, ∃ tokens, Glob.parse p = .ok tokens := by
  constructor
  · intro h
    rw [patternFault?] at h
    split at h
    · rename_i read hread
      exact Scanner.forall_parse_of_readPatterns hread
    · cases h
  · intro h
    obtain ⟨read, hread, -⟩ := Scanner.exists_readPatterns h
    rw [patternFault?, hread]

/-- No kind without room in a batch is found just if all have some. -/
theorem find?_batchSize_eq_none_iff {s : IndexingSettings} :
    Kind.all.find? (s.batchSize · = 0) = none ↔ ∀ kind, s.batchSize kind ≠ 0 := by
  rw [List.find?_eq_none]
  constructor
  · intro h kind
    simpa using h kind (Kind.mem_all kind)
  · intro h kind _
    simpa using h kind

/-- **The check lets pass what makes sense**, and nothing else. -/
theorem fault?_eq_none_iff {s : Settings} : s.fault? = none ↔ s.Sensible := by
  constructor
  · intro h
    cases hbatch : Kind.all.find? (s.indexing.batchSize · = 0) with
    | some kind =>
        simp only [fault?, hbatch] at h
        split_ifs at h
    | none =>
        simp only [fault?, hbatch] at h
        split_ifs at h with hroots hsize hname hworkers
        exact ⟨by simpa using hroots, hsize, by simpa using hname,
          find?_batchSize_eq_none_iff.mp hbatch, Nat.pos_of_ne_zero hworkers,
          patternFault?_eq_none_iff.mp h⟩
  · rintro ⟨hroots, hsize, hname, hbatch, hworkers, hpatterns⟩
    have hroots' : s.storage.mcdir.isEmpty = false := by simpa using hroots
    simp only [fault?, hroots', hname, find?_batchSize_eq_none_iff.mpr hbatch, if_neg hsize,
      if_neg hworkers.ne', patternFault?_eq_none_iff.mpr hpatterns]
    simp

end Settings

/-! ## 2. Memory to write with -/

namespace Search

/-- The most threads that write on a machine with some processors. -/
def threadBound (processors : Nat) : Nat := max 1 (min processors mostThreads)

theorem one_le_threadBound (processors : Nat) : 1 ≤ threadBound processors := Nat.le_max_left ..

theorem threadBound_le (processors : Nat) : threadBound processors ≤ mostThreads :=
  Nat.max_le.mpr ⟨by decide, Nat.min_le_right ..⟩

/-- Memory that an engine can write with on a machine with some processors: enough for one thread,
    and not too much for all. -/
def WritesWith (processors memory : Nat) : Prop :=
  leastThreadMemory ≤ memory ∧ memory < threadBound processors * mostThreadMemory

/-- Where there is memory for one thread, there are as many as there is memory for, up to the most. -/
theorem threads_eq_min {memory : Nat} (h : leastThreadMemory ≤ memory) (processors : Nat) :
    threads processors memory = min (threadBound processors) (memory / leastThreadMemory) := by
  have hone : 1 ≤ memory / leastThreadMemory := (Nat.one_le_div_iff (by decide)).mpr h
  rw [threads, threadBound]
  omega

theorem memoryFault?_eq_none_iff_each {processors memory : Nat} :
    memoryFault? processors memory = none ↔
      leastThreadMemory ≤ memory / threads processors memory ∧
        memory / threads processors memory < mostThreadMemory := by
  rw [memoryFault?]
  split_ifs <;> simp <;> omega

/-- **An engine can write with memory within these bounds**, and with no other: the threads are as
    many as there is enough for, so that each of them has enough as soon as one has. -/
theorem memoryFault?_eq_none_iff {processors memory : Nat} :
    memoryFault? processors memory = none ↔ WritesWith processors memory := by
  rw [memoryFault?_eq_none_iff_each, WritesWith]
  by_cases hleast : leastThreadMemory ≤ memory
  · rw [threads_eq_min hleast]
    have hbound := one_le_threadBound processors
    have hone : 1 ≤ memory / leastThreadMemory := (Nat.one_le_div_iff (by decide)).mpr hleast
    by_cases hmost : threadBound processors ≤ memory / leastThreadMemory
    · -- all threads there can be
      have heach : leastThreadMemory ≤ memory / threadBound processors := by
        rw [Nat.le_div_iff_mul_le hbound, Nat.mul_comm]
        exact (Nat.le_div_iff_mul_le (by decide)).mp hmost
      rw [Nat.min_eq_left hmost, Nat.div_lt_iff_lt_mul hbound, Nat.mul_comm mostThreadMemory]
      exact ⟨fun h => ⟨hleast, h.2⟩, fun h => ⟨heach, h.2⟩⟩
    · -- no more threads than have enough, and so none has too much
      rw [Nat.min_eq_right (by omega)]
      have heach : leastThreadMemory ≤ memory / (memory / leastThreadMemory) :=
        (Nat.le_div_iff_mul_le hone).mpr (Nat.mul_div_le ..)
      have hall : memory / (memory / leastThreadMemory) ≤ memory := Nat.div_le_self ..
      have hsmall : memory < mostThreadMemory := by
        have hthreads := threadBound_le processors
        simp only [leastThreadMemory, mostThreadMemory, mostThreads] at *
        omega
      have hlarge : mostThreadMemory ≤ threadBound processors * mostThreadMemory :=
        Nat.le_mul_of_pos_left _ hbound
      omega
  · -- one thread has it all
    have hnone : memory / leastThreadMemory = 0 := Nat.div_eq_of_lt (Nat.not_le.mp hleast)
    rw [threads, hnone, Nat.min_zero, Nat.max_zero, Nat.div_one]
    omega

namespace IndexDirectory

variable {d : IndexDirectory}

/-- An engine that is opened while none writes takes every batch, or none. -/
theorem submit_openEngine (hfree : d.holder = none) (processors memory : Nat)
    (batch : List Request) :
    let opened := d.openEngine memory processors
    (opened.2.submit opened.1 batch).1 =
      match memoryFault? processors memory with
      | some reason => .error (writerFailure reason)
      | none => .ok batch.length := by
  intro opened
  have hopen : opened.2.engine? opened.1 = some ⟨processors, memory, d.published⟩ :=
    (engine?_openEngine d memory processors _).trans (if_pos rfl)
  have hwrite : opened.2.writeFailure? opened.1 =
      (memoryFault? processors memory).map writerFailure := by
    have hholder : opened.2.holder = none := hfree
    simp only [writeFailure?, hopen, hholder, Engine.fault?]
  rw [submit]
  cases hfault : memoryFault? processors memory with
  | some reason =>
      rw [hfault] at hwrite
      rw [submitWith_of_writeFailure hwrite]
  | none =>
      rw [hfault] at hwrite
      exact submitWith_of_mayWrite hwrite batch .taken

end IndexDirectory

end Search

/-! ## 3. What checked settings are good for -/

namespace Installation

section Checked

variable {s : Settings}

/-- **What is put together from checked settings is as they say, and indexes with memory enough.** The
    content store has their roots, the scanner their workers, and the batches of each kind their size;
    an engine that is opened with the memory of the index writer while none writes, on any machine,
    takes every batch if it can write with that much there, and otherwise it takes none. -/
theorem takes_batches_of_checked (h : s.fault? = none) (source : Source) (files : FileTree)
    (tool : TextTool) :
    ∃ x, assemble s source files tool = .ok x ∧
      ContentStore.ofRoots s.storage.mcdir s.extraction.convertibleMediaTypes = .ok x.content ∧
      (∃ scanner, x.scanner = .ok scanner ∧ scanner.workers = s.scanner.workers) ∧
      (∀ kind scope, (x.indexers.indexing kind scope).maxCount = s.indexing.batchSize kind) ∧
      ∀ d : IndexDirectory, d.holder = none → ∀ processors batch,
        let opened := d.openEngine s.indexing.writerHeapBytes processors
        (WritesWith processors s.indexing.writerHeapBytes →
          (opened.2.submit opened.1 batch).1 = .ok batch.length) ∧
        (¬ WritesWith processors s.indexing.writerHeapBytes →
          ∃ reason, (opened.2.submit opened.1 batch).1 = .error (writerFailure reason)) := by
  obtain ⟨hroots, -, -, hbatches, hworkers, hpatterns⟩ := Settings.fault?_eq_none_iff.mp h
  obtain ⟨primary, others, hmcdir⟩ := List.exists_cons_of_ne_nil hroots
  have hcontent : ContentStore.ofRoots s.storage.mcdir s.extraction.convertibleMediaTypes =
      .ok ⟨primary, others, s.extraction.convertibleMediaTypes⟩ := by
    rw [hmcdir]
    rfl
  obtain ⟨scanner, hscanner, hcrew, -⟩ := Scanner.exists_make hworkers hpatterns
  refine ⟨⟨s, ⟨primary, others, s.extraction.convertibleMediaTypes⟩, source, files, tool⟩,
    by rw [assemble, hcontent], hcontent, ⟨scanner, hscanner, hcrew⟩, ?_, ?_⟩
  · intro kind scope
    exact Nat.max_eq_left (Nat.pos_of_ne_zero (hbatches kind))
  · intro d hfree processors batch
    have hsubmit :=
      IndexDirectory.submit_openEngine hfree processors s.indexing.writerHeapBytes batch
    refine ⟨fun hmemory => ?_, fun hmemory => ?_⟩
    · rw [hsubmit, memoryFault?_eq_none_iff.mpr hmemory]
    · rw [← memoryFault?_eq_none_iff] at hmemory
      obtain ⟨reason, hreason⟩ := Option.ne_none_iff_exists'.mp hmemory
      exact ⟨reason, by rw [hsubmit, hreason]⟩

end Checked

/-- The settings that hold when nobody sets any are such, with an index that is new, on a machine with
    four processors. -/
theorem takes_batches_of_defaults :
    let s : Settings := {}
    let d := IndexDirectory.ofIndex []
    s.fault? = none ∧ d.holder = none ∧ WritesWith 4 s.indexing.writerHeapBytes ∧
      ∃ x, assemble s (.ofStore .empty) .empty (fun _ => .error (.extraction "no tool")) = .ok x ∧
        ContentStore.ofRoots s.storage.mcdir s.extraction.convertibleMediaTypes = .ok x.content ∧
        (∃ scanner, x.scanner = .ok scanner ∧ scanner.workers = s.scanner.workers) ∧
        (∀ kind scope, (x.indexers.indexing kind scope).maxCount = s.indexing.batchSize kind) ∧
        ∀ batch, let opened := d.openEngine s.indexing.writerHeapBytes 4
          (opened.2.submit opened.1 batch).1 = .ok batch.length := by
  intro s d
  have hs : s.fault? = none := by decide +kernel
  have hmemory : WritesWith 4 s.indexing.writerHeapBytes := ⟨by decide, by decide⟩
  obtain ⟨x, hx, hcontent, hscanner, hbatches, hsubmit⟩ :=
    takes_batches_of_checked hs (.ofStore .empty) .empty (fun _ => .error (.extraction "no tool"))
  exact ⟨hs, rfl, hmemory, x, hx, hcontent, hscanner, hbatches,
    fun batch => (hsubmit d rfl 4 batch).1 hmemory⟩

/-- **Settings can pass the check and index nothing**: with little memory for the writer nothing is
    wrong with them, and an engine on any machine refuses the first document. -/
theorem checked_takes_no_batch :
    let s : Settings := { indexing := { writerHeapBytes := 1000 } }
    let d := IndexDirectory.ofIndex []
    s.fault? = none ∧ d.holder = none ∧
      ∀ processors, let opened := d.openEngine s.indexing.writerHeapBytes processors
        (opened.2.submit opened.1 [⟨"mc", .project, "p-1", .obj []⟩]).1 =
          .error (writerFailure ("An invalid argument was passed: 'The memory arena in bytes per " ++
            "thread needs to be at least 15000000.'")) := by
  intro s d
  have hs : s.fault? = none := by decide +kernel
  refine ⟨hs, rfl, fun processors => ?_⟩
  have hone : threads processors 1000 = 1 := by
    rw [threads, Nat.div_eq_of_lt (by decide), Nat.min_zero, Nat.max_zero]
  have hfault : memoryFault? processors 1000 =
      some ("An invalid argument was passed: 'The memory arena in bytes per " ++
        "thread needs to be at least 15000000.'") := by
    rw [memoryFault?, hone]
    decide +kernel
  refine (IndexDirectory.submit_openEngine (d := d) rfl processors 1000 _).trans ?_
  rw [hfault]

end Installation

end LabIndex
