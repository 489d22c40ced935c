import LabIndex.Proofs.Search.Held
import Mathlib.Data.List.Induction

/-!
# Several engines on one index

Calls of any kind come to any engines of a directory, in any order. What they leave is known from the
calls alone. One engine at a time writes: the first to submit a batch while none does, until it is
closed; a batch of any other changes nothing. The index that is published is made of the batches that
were taken, one after the other and each as a whole: under a short key the last request remains. And
each engine sees the index as it was when the engine last looked.

* `Call`, `IndexDirectory.ask`: what an engine can be asked, and the answers;
* `Index.written`, `Index.WrittenOver`: what batches leave of an index, as documents and as a map;
* `IndexDirectory.accepted`, `IndexDirectory.upToLook`: the batches that were taken, and the calls
  up to the last one by which an engine looked;
* `IndexDirectory.Does`, `IndexDirectory.does_ask`: all that one call can do;
* `IndexDirectory.Kept`, `IndexDirectory.kept_after`: what holds after any calls;
* `IndexDirectory.coordinated_after`: engines that share an index.
-/

namespace LabIndex.Search

/-! ## 1. Calls -/

/-- What can be asked of the engines of a directory. A batch comes with the way its writing ends, if
    it is written at all. -/
inductive Call where
  | opening (memory : Nat) (processors : Nat := mostThreads)
  | submit (n : Nat) (batch : List Request) (fate : Fate)
  | count (n : Nat) (key : DocumentKey)
  | get (n : Nat) (key : DocumentKey)
  | numDocs (n : Nat)
  | search (n : Nat) (text : String) (kind : Option Kind) (limit : Nat)
      (language : Language := .standard)
  | refresh (n : Nat)
  | close (n : Nat)

/-- The answer to a call. -/
inductive Answer where
  | opened (n : Nat)
  | submitted (answer : Except Failure Nat)
  | counted (count : Nat)
  | got (document : Except Failure (Option Json))
  | found (hits : Except SearchFault (List Hit))
  | done

/-! ## 2. Batches written over an index -/

namespace Index

/-- An index with batches written over it, one after the other. -/
def written (x : Index) (batches : List (List Request)) : Index := batches.foldl overwritten x

theorem written_append (x : Index) (xs ys : List (List Request)) :
    x.written (xs ++ ys) = written (x.written xs) ys := List.foldl_append

/-- Batches with short keys write their requests into the map that an index holds. -/
theorem Holds.written {x : Index} {m : String → Option Request} (h : x.Holds m)
    {batches : List (List Request)}
    (hb : ∀ r ∈ batches.flatten, r.uid.utf8ByteSize ≤ longTerm) :
    (x.written batches).Holds (upsertsOver m batches.flatten) := by
  induction batches generalizing x m with
  | nil => exact h
  | cons batch rest ih =>
      rw [List.flatten_cons] at hb
      rw [List.flatten_cons, upsertsOver_append]
      exact ih (h.overwritten fun r hr => hb r (List.mem_append_left _ hr))
        fun r hr => hb r (List.mem_append_right _ hr)

/-- **An index is another with batches written over it.** Where the one held a map and the keys are
    short, it holds the map with their requests, the last one under each key. -/
structure WrittenOver (x : Index) (batches : List (List Request)) (y : Index) : Prop where
  eq : y = x.written batches
  holds : ∀ m, x.Holds m → (∀ r ∈ batches.flatten, r.uid.utf8ByteSize ≤ longTerm) →
    y.Holds (upsertsOver m batches.flatten)

theorem writtenOver_written (x : Index) (batches : List (List Request)) :
    x.WrittenOver batches (x.written batches) := ⟨rfl, fun _ hx hb => hx.written hb⟩

end Index

/-! ## 3. Answers -/

namespace IndexDirectory

/-- Answers a call. -/
def ask (d : IndexDirectory) : Call → Answer × IndexDirectory
  | .opening memory processors =>
    (.opened (d.openEngine memory processors).1, (d.openEngine memory processors).2)
  | .submit n batch fate => (.submitted (d.submitWith n batch fate).1, (d.submitWith n batch fate).2)
  | .count n key => (.counted ((d.view n).count key), d)
  | .get n key => (.got ((d.view n).get key), d)
  | .numDocs n => (.counted (d.view n).length, d)
  | .search n text kind limit language =>
    (.found (d.search n text kind limit language).1, (d.search n text kind limit language).2)
  | .refresh n => (.done, d.refresh n)
  | .close n => (.done, d.close n)

/-- The directory after calls. -/
def after (d : IndexDirectory) (calls : List Call) : IndexDirectory :=
  calls.foldl (fun d c => (d.ask c).2) d

/-- The batch that a call submits, if it is taken. -/
def took (d : IndexDirectory) : Call → Option (List Request)
  | .submit n batch fate =>
    match (d.submitWith n batch fate).1 with
    | .ok _ => some batch
    | .error _ => none
  | _ => none

/-- The batches that were taken, in order. -/
def accepted (d : IndexDirectory) : List Call → List (List Request)
  | [] => []
  | c :: rest => (d.took c).toList ++ (d.ask c).2.accepted rest

/-- By a call an engine looks at the index: when it is opened, when a batch of its own is taken,
    when it is told to, and by a search that can be read in its language. -/
def looks (d : IndexDirectory) (n : Nat) : Call → Bool
  | .opening _ _ => d.engines.length == n
  | .submit m batch fate => m == n && (d.took (.submit m batch fate)).isSome
  | .search m text _ _ language => m == n && (language.read text).isOk
  | .refresh m => m == n
  | _ => false

/-- The calls up to the last one by which an engine looked. -/
def upToLook (d : IndexDirectory) (n : Nat) : List Call → Option (List Call)
  | [] => none
  | c :: rest =>
    match (d.ask c).2.upToLook n rest with
    | some upTo => some (c :: upTo)
    | none => if d.looks n c then some [c] else none

section Calls

variable {d : IndexDirectory} {n : Nat} {c : Call}

theorem after_snoc (d : IndexDirectory) (calls : List Call) (c : Call) :
    d.after (calls ++ [c]) = ((d.after calls).ask c).2 := by
  rw [after, List.foldl_append]
  rfl

theorem accepted_snoc (d : IndexDirectory) (calls : List Call) (c : Call) :
    d.accepted (calls ++ [c]) = d.accepted calls ++ ((d.after calls).took c).toList := by
  induction calls generalizing d with
  | nil => rw [List.nil_append, accepted, accepted, accepted, List.append_nil, List.nil_append]; rfl
  | cons first rest ih =>
      rw [List.cons_append, accepted, ih, accepted, List.append_assoc]
      rfl

theorem accepted_prefix {calls more : List Call} (h : calls <+: more) (d : IndexDirectory) :
    d.accepted calls <+: d.accepted more := by
  induction calls generalizing d more with
  | nil => exact List.nil_prefix
  | cons first rest ih =>
      obtain ⟨tail, rfl⟩ := h
      rw [List.cons_append, accepted, accepted]
      exact List.prefix_append_right_inj _ |>.mpr (ih (List.prefix_append rest tail) _)

theorem upToLook_snoc (d : IndexDirectory) (n : Nat) (calls : List Call) (c : Call) :
    d.upToLook n (calls ++ [c]) =
      if (d.after calls).looks n c then some (calls ++ [c]) else d.upToLook n calls := by
  induction calls generalizing d with
  | nil => rfl
  | cons first rest ih =>
      rw [List.cons_append, upToLook, ih, upToLook]
      have hafter : d.after (first :: rest) = (d.ask first).2.after rest := rfl
      rw [hafter]
      by_cases hl : ((d.ask first).2.after rest).looks n c
      · simp only [if_pos hl]
      · simp only [if_neg hl]

/-- The calls up to a look are the first ones. -/
theorem prefix_of_upToLook {calls upTo : List Call} (h : d.upToLook n calls = some upTo) :
    upTo <+: calls := by
  induction calls using List.reverseRecOn with
  | nil => cases h
  | append_singleton calls c ih =>
      rw [upToLook_snoc] at h
      split at h
      · obtain rfl := Option.some.inj h
        exact List.prefix_refl _
      · exact (ih h).trans (List.prefix_append calls [c])

/-- **An engine's last look is never before one that it had.** -/
theorem upToLook_mono {calls upTo : List Call} (h : d.upToLook n calls = some upTo)
    (more : List Call) :
    ∃ upTo', d.upToLook n (calls ++ more) = some upTo' ∧ upTo <+: upTo' := by
  induction more using List.reverseRecOn with
  | nil => exact ⟨upTo, by rwa [List.append_nil], List.prefix_refl upTo⟩
  | append_singleton more c ih =>
      obtain ⟨upTo', h', hp⟩ := ih
      rw [← List.append_assoc, upToLook_snoc]
      split
      · refine ⟨_, rfl, (prefix_of_upToLook h).trans ?_⟩
        rw [List.append_assoc]
        exact List.prefix_append _ _
      · exact ⟨upTo', h', hp⟩

end Calls

/-! ## 4. One call -/

section Engines

variable {d : IndexDirectory} {n m : Nat}

/-- A new engine sees the index as it is, and the others are as they were. -/
theorem engine?_openEngine (d : IndexDirectory) (memory processors n : Nat) :
    (d.openEngine memory processors).2.engine? n =
      if d.engines.length = n then some ⟨processors, memory, d.published⟩ else d.engine? n := by
  rw [engine?, openEngine, engine?]
  by_cases h : d.engines.length = n
  · subst h
    simp
  · rw [if_neg h, List.getElem?_append]
    split
    · rfl
    · have hlast : n - d.engines.length ≠ 0 := by omega
      have hout : d.engines[n]? = none := List.getElem?_eq_none (by omega)
      rw [List.getElem?_singleton, if_neg hlast, hout]

theorem engine?_refresh_of_ne (h : n ≠ m) : (d.refresh n).engine? m = d.engine? m := by
  rw [refresh]
  split
  · rw [engine?, engine?, List.getElem?_set_ne h]
  · rfl

/-- A closed engine is gone, and the others are as they were. -/
theorem engine?_close (d : IndexDirectory) (n m : Nat) :
    (d.close n).engine? m = if n = m then none else d.engine? m := by
  rw [engine?, close, engine?]
  by_cases h : n = m
  · subst h
    rw [if_pos rfl, List.getElem?_set_self']
    cases d.engines[n]? <;> rfl
  · rw [if_neg h, List.getElem?_set_ne h]

/-- An engine that is open after it looked was open before. -/
theorem exists_of_engine?_refresh {e : Engine} (h : (d.refresh n).engine? m = some e) :
    ∃ f, d.engine? m = some f ∧ f.fault? = e.fault? ∧
      if n = m then e.view = d.published else f = e := by
  by_cases hnm : n = m
  · subst hnm
    cases hf : d.engine? n with
    | none =>
        rw [refresh, hf] at h
        rw [hf] at h
        cases h
    | some f =>
        rw [engine?_refresh hf] at h
        obtain rfl := Option.some.inj h
        exact ⟨f, rfl, rfl, by rw [if_pos rfl]⟩
  · rw [engine?_refresh_of_ne hnm] at h
    exact ⟨e, h, rfl, by rw [if_neg hnm]⟩

theorem isSome_engine?_refresh (h : (d.engine? m).isSome) : ((d.refresh n).engine? m).isSome := by
  by_cases hnm : n = m
  · subst hnm
    obtain ⟨e, he⟩ := Option.isSome_iff_exists.mp h
    rw [engine?_refresh he]
    rfl
  · rwa [engine?_refresh_of_ne hnm]

end Engines

/-- **All that a call can do.** It publishes the batch that it submits if that is taken; it lets the
    engine that looks see what is published then, and no other; and the engine that may write is the
    one that submitted while none might, until it is closed. -/
structure Does (d : IndexDirectory) (c : Call) (d' : IndexDirectory) : Prop where
  queued : d'.queued = []
  published : d'.published = d.published.written (d.took c).toList
  view : ∀ n e, d'.engine? n = some e →
    if d.looks n c then e.view = d'.published else d.engine? n = some e
  fault : ∀ n e, d'.engine? n = some e →
    c = .opening e.memory e.processors ∨ ∃ f, d.engine? n = some f ∧ f.fault? = e.fault?
  stays : ∀ n, (d.engine? n).isSome → c ≠ .close n → (d'.engine? n).isSome
  holder : ∀ n, d'.holder = some n ↔
    (d.holder = none ∧ (d.engine? n).isSome ∧ ∃ batch fate, c = .submit n batch fate) ∨
      (d.holder = some n ∧ c ≠ .close n)

section Steps

variable {d : IndexDirectory} {c : Call}

/-- A call that changes nothing. -/
theorem does_self (hq : d.queued = []) (ht : d.took c = none) (hl : ∀ n, d.looks n c = false)
    (hc : ∀ n, c ≠ .close n)
    (hs : ∀ n batch fate, c = .submit n batch fate → d.holder = none → d.engine? n = none) :
    Does d c d where
  queued := hq
  published := by rw [ht]; rfl
  view n e he := by rwa [hl n]
  fault n e he := .inr ⟨e, he, rfl⟩
  stays n hn _ := hn
  holder n := by
    constructor
    · exact fun h => .inr ⟨h, hc n⟩
    · rintro (⟨hnone, hopen, batch, fate, rfl⟩ | ⟨h, -⟩)
      · rw [hs n batch fate rfl hnone] at hopen
        cases hopen
      · exact h

/-- A call by which an engine looks, and that does nothing else. -/
theorem does_refresh {n : Nat} (hq : d.queued = []) (ht : d.took c = none)
    (hl : ∀ m, d.looks m c = (n == m)) (hc : ∀ m, c ≠ .close m)
    (hs : ∀ m batch fate, c ≠ .submit m batch fate) : Does d c (d.refresh n) where
  queued := by rwa [queued_refresh]
  published := by rw [published_refresh, ht]; rfl
  view m e he := by
    obtain ⟨f, hf, -, hview⟩ := exists_of_engine?_refresh he
    rw [hl m, published_refresh]
    by_cases hnm : n = m
    · rw [if_pos hnm] at hview
      rwa [if_pos (beq_iff_eq.mpr hnm)]
    · rw [if_neg hnm] at hview
      rw [if_neg (by simpa using hnm), hf, hview]
  fault m e he := by
    obtain ⟨f, hf, hfault, -⟩ := exists_of_engine?_refresh he
    exact .inr ⟨f, hf, hfault⟩
  stays m hm _ := isSome_engine?_refresh hm
  holder m := by
    rw [holder_refresh]
    constructor
    · exact fun h => .inr ⟨h, hc m⟩
    · rintro (⟨-, -, batch, fate, h⟩ | ⟨h, -⟩)
      · exact absurd h (hs m batch fate)
      · exact h

theorem does_opening (hq : d.queued = []) (memory processors : Nat) :
    Does d (.opening memory processors) (d.openEngine memory processors).2 where
  queued := hq
  published := rfl
  view n e he := by
    rw [engine?_openEngine] at he
    by_cases h : d.engines.length = n
    · rw [if_pos h] at he
      obtain rfl := Option.some.inj he
      rw [looks, if_pos (beq_iff_eq.mpr h)]
      rfl
    · rw [if_neg h] at he
      rwa [looks, if_neg (by simpa using h)]
  fault n e he := by
    rw [engine?_openEngine] at he
    by_cases h : d.engines.length = n
    · rw [if_pos h] at he
      obtain rfl := Option.some.inj he
      exact .inl rfl
    · rw [if_neg h] at he
      exact .inr ⟨e, he, rfl⟩
  stays n hn _ := by
    rw [engine?_openEngine]
    split
    · rfl
    · exact hn
  holder n := by
    constructor
    · exact fun h => .inr ⟨h, nofun⟩
    · rintro (⟨-, -, batch, fate, h⟩ | ⟨h, -⟩)
      · cases h
      · exact h

theorem does_close (hq : d.queued = []) (n : Nat) : Does d (.close n) (d.close n) where
  queued := by
    rw [close]
    split
    · rfl
    · exact hq
  published := rfl
  view m e he := by
    rw [engine?_close] at he
    split at he
    · cases he
    · exact he
  fault m e he := by
    rw [engine?_close] at he
    split at he
    · cases he
    · exact .inr ⟨e, he, rfl⟩
  stays m hm hc := by
    have hne : n ≠ m := fun e => hc (congrArg Call.close e)
    rwa [engine?_close, if_neg hne]
  holder m := by
    have hholder : (d.close n).holder = if d.holder = some n then none else d.holder := rfl
    rw [hholder]
    constructor
    · intro h
      split at h
      · cases h
      · rename_i hne
        refine .inr ⟨h, fun e => hne ?_⟩
        rw [h, Call.close.inj e]
    · rintro (⟨-, -, batch, fate, h⟩ | ⟨h, hc⟩)
      · cases h
      · rw [if_neg fun e => hc ?_, h]
        rw [h] at e
        rw [Option.some.inj e]

/-- With memory enough, an open engine may write while no other may. -/
theorem writeFailure?_eq_none_iff (hm : ∀ n e, d.engine? n = some e → e.fault? = none)
    (n : Nat) : d.writeFailure? n = none ↔
      (d.engine? n).isSome ∧ (d.holder = none ∨ d.holder = some n) := by
  cases he : d.engine? n with
  | none => simp [writeFailure?, he]
  | some e =>
      cases hh : d.holder with
      | none => simp [writeFailure?, he, hh, hm n e he]
      | some m => simp [writeFailure?, he, hh]

theorem submitWith_of_writeFailure {n : Nat} {f : Failure} (h : d.writeFailure? n = some f)
    (batch : List Request) (fate : Fate) : d.submitWith n batch fate = (.error f, d) := by
  rw [submitWith, h]

/-- Who may write after an engine has submitted that may. -/
theorem holder_of_submit {n : Nat} {batch : List Request} {fate : Fate}
    (hopen : (d.engine? n).isSome) (hfree : d.holder = none ∨ d.holder = some n) (m : Nat) :
    some n = some m ↔
      (d.holder = none ∧ (d.engine? m).isSome ∧
          ∃ batch' fate', Call.submit n batch fate = .submit m batch' fate') ∨
        (d.holder = some m ∧ Call.submit n batch fate ≠ .close m) := by
  constructor
  · intro h
    obtain rfl := Option.some.inj h
    rcases hfree with hnone | hself
    · exact .inl ⟨hnone, hopen, batch, fate, rfl⟩
    · exact .inr ⟨hself, nofun⟩
  · rintro (⟨-, -, batch', fate', h⟩ | ⟨h, -⟩)
    · rw [(Call.submit.inj h).1]
    · rcases hfree with hnone | hself
      · rw [hnone] at h
        cases h
      · rw [← hself, h]

/-- A batch that is not written to its end is forgotten. -/
theorem does_submit_refused {n : Nat} (hopen : (d.engine? n).isSome)
    (hfree : d.holder = none ∨ d.holder = some n) (hw : d.writeFailure? n = none)
    (batch : List Request) (queued : Nat) (reason : Failure) :
    Does d (.submit n batch (.refused queued reason))
      (d.submitWith n batch (.refused queued reason)).2 := by
  have ht : d.took (.submit n batch (.refused queued reason)) = none := by
    simp [took, submitWith, hw]
  have hd : (d.submitWith n batch (.refused queued reason)).2 =
      { d with queued := [], holder := some n } := by
    simp [submitWith, hw, Writer.submit, Writer.stage, Writer.rollback]
  rw [hd]
  exact {
    queued := rfl
    published := by rw [ht]; rfl
    view := fun m e he => by
      rw [looks, ht, Option.isSome_none, Bool.and_false]
      exact he
    fault := fun m e he => .inr ⟨e, he, rfl⟩
    stays := fun m hm _ => hm
    holder := holder_of_submit hopen hfree }

/-- A batch that is taken is published, and the engine sees it. -/
theorem does_submit_taken (hq : d.queued = []) {n : Nat} (hopen : (d.engine? n).isSome)
    (hfree : d.holder = none ∨ d.holder = some n) (hw : d.writeFailure? n = none)
    (batch : List Request) :
    Does d (.submit n batch .taken) (d.submitWith n batch .taken).2 := by
  have ht : d.took (.submit n batch .taken) = some batch := by simp [took, submitWith, hw]
  have hd : (d.submitWith n batch .taken).2 =
      IndexDirectory.refresh { d with
        published := d.published.overwritten batch, queued := [], holder := some n } n := by
    simp [submitWith, hw, Writer.submit, Writer.stage, Writer.commit, hq,
      Index.applyAll_operations]
  rw [hd]
  exact {
    queued := by rw [queued_refresh]
    published := by rw [published_refresh, ht]; rfl
    view := fun m e he => by
      obtain ⟨f, hf, -, hview⟩ := exists_of_engine?_refresh he
      rw [looks, ht, Option.isSome_some, Bool.and_true, published_refresh]
      by_cases hnm : n = m
      · rw [if_pos hnm] at hview
        rwa [if_pos (beq_iff_eq.mpr hnm)]
      · rw [if_neg hnm] at hview
        rw [if_neg (by simpa using hnm), ← hview]
        exact hf
    fault := fun m e he => by
      obtain ⟨f, hf, hfault, -⟩ := exists_of_engine?_refresh he
      exact .inr ⟨f, hf, hfault⟩
    stays := fun m hm _ => isSome_engine?_refresh (d := { d with
      published := d.published.overwritten batch, queued := [], holder := some n }) hm
    holder := fun m => by
      rw [holder_refresh]
      exact holder_of_submit hopen hfree m }

theorem does_submit (hq : d.queued = [])
    (hm : ∀ n e, d.engine? n = some e → e.fault? = none) (n : Nat)
    (batch : List Request) (fate : Fate) :
    Does d (.submit n batch fate) (d.submitWith n batch fate).2 := by
  cases hw : d.writeFailure? n with
  | some f =>
      have hs := submitWith_of_writeFailure hw batch fate
      have ht : d.took (.submit n batch fate) = none := by rw [took, hs]
      rw [hs]
      refine does_self hq ht (fun m => by rw [looks, ht]; simp) nofun fun m batch' fate' h hnone => ?_
      obtain ⟨rfl, -, -⟩ := Call.submit.inj h
      -- it may write but for being closed, as no other may
      cases he : d.engine? n with
      | none => rfl
      | some e =>
          have hmay := (writeFailure?_eq_none_iff hm n).mpr ⟨by rw [he]; rfl, .inl hnone⟩
          rw [hmay] at hw
          cases hw
  | none =>
      obtain ⟨hopen, hfree⟩ := (writeFailure?_eq_none_iff hm n).mp hw
      cases fate with
      | taken => exact does_submit_taken hq hopen hfree hw batch
      | refused queued reason => exact does_submit_refused hopen hfree hw batch queued reason

/-- A search that can be read is a look of its engine, and nothing else. -/
theorem search_snd (d : IndexDirectory) (n : Nat) (text : String) (kind : Option Kind) (limit : Nat)
    (language : Language) : (d.search n text kind limit language).2 =
      if (language.read text).isOk then d.refresh n else d := by
  rw [search]
  cases language.read text with
  | error f => rfl
  | ok criterion =>
      simp only
      split
      · rfl
      · split <;> rfl

theorem does_search (hq : d.queued = []) (n : Nat) (text : String) (kind : Option Kind)
    (limit : Nat) (language : Language) :
    Does d (.search n text kind limit language) (d.search n text kind limit language).2 := by
  rw [search_snd]
  split
  · rename_i hp
    exact does_refresh hq rfl (fun m => by rw [looks, hp]; exact Bool.and_true _) nofun nofun
  · rename_i hp
    rw [Bool.not_eq_true] at hp
    exact does_self hq rfl (fun m => by rw [looks, hp]; exact Bool.and_false _) nofun nofun

/-- **Every call does what a call can do.** -/
theorem does_ask (hq : d.queued = [])
    (hm : ∀ n e, d.engine? n = some e → e.fault? = none) (c : Call) :
    Does d c (d.ask c).2 := by
  cases c with
  | opening memory processors => exact does_opening hq memory processors
  | submit n batch fate => exact does_submit hq hm n batch fate
  | count n key => exact does_self hq rfl (fun _ => rfl) nofun nofun
  | get n key => exact does_self hq rfl (fun _ => rfl) nofun nofun
  | numDocs n => exact does_self hq rfl (fun _ => rfl) nofun nofun
  | search n text kind limit language => exact does_search hq n text kind limit language
  | refresh n => exact does_refresh hq rfl (fun _ => rfl) nofun nofun
  | close n => exact does_close hq n

end Steps

/-! ## 5. Any calls -/

/-- An engine has become the one that may write: it was open and submitted a batch while none might,
    and it was not closed since. -/
def BecameWriter (d : IndexDirectory) (n : Nat) (calls : List Call) : Prop :=
  ∃ before batch fate later, calls = before ++ .submit n batch fate :: later ∧
    (d.after before).holder = none ∧ ((d.after before).engine? n).isSome ∧ .close n ∉ later

/-- With one more call: it becomes the one by this call, or it was the one and is not closed. -/
theorem becameWriter_snoc (d : IndexDirectory) (n : Nat) (calls : List Call) (c : Call) :
    d.BecameWriter n (calls ++ [c]) ↔
      ((d.after calls).holder = none ∧ ((d.after calls).engine? n).isSome ∧
          ∃ batch fate, c = .submit n batch fate) ∨
        (d.BecameWriter n calls ∧ c ≠ .close n) := by
  constructor
  · rintro ⟨before, batch, fate, later, hcalls, hnone, hopen, hclose⟩
    rcases later.eq_nil_or_concat' with rfl | ⟨later', last, rfl⟩
    · obtain ⟨rfl, hc⟩ := List.append_inj' hcalls rfl
      exact .inl ⟨hnone, hopen, batch, fate, List.singleton_inj.mp hc⟩
    · rw [← List.cons_append, ← List.append_assoc] at hcalls
      obtain ⟨rfl, hc⟩ := List.append_inj' hcalls rfl
      obtain rfl := List.singleton_inj.mp hc
      rw [List.mem_append, List.mem_singleton, not_or] at hclose
      exact .inr ⟨⟨before, batch, fate, later', rfl, hnone, hopen, hclose.1⟩, Ne.symm hclose.2⟩
  · rintro (⟨hnone, hopen, batch, fate, rfl⟩ |
      ⟨⟨before, batch, fate, later, rfl, hnone, hopen, hclose⟩, hc⟩)
    · exact ⟨calls, batch, fate, [], rfl, hnone, hopen, List.not_mem_nil⟩
    · refine ⟨before, batch, fate, later ++ [c], ?_, hnone, hopen, ?_⟩
      · rw [List.append_assoc, List.cons_append]
      · rw [List.mem_append, List.mem_singleton, not_or]
        exact ⟨hclose, Ne.symm hc⟩

/-- **What any calls keep**, on an index on which no engine was open. -/
structure Kept (x : Index) (calls : List Call) (d : IndexDirectory) : Prop where
  queued : d.queued = []
  fault : ∀ n e, d.engine? n = some e → e.fault? = none
  published : d.published = x.written ((ofIndex x).accepted calls)
  view : ∀ n e, d.engine? n = some e → ∃ upTo, (ofIndex x).upToLook n calls = some upTo ∧
    e.view = ((ofIndex x).after upTo).published
  holder_open : ∀ n, d.holder = some n → (d.engine? n).isSome
  holder : ∀ n, d.holder = some n ↔ (ofIndex x).BecameWriter n calls

theorem kept_nil (x : Index) : Kept x [] (ofIndex x) where
  queued := rfl
  fault _ _ h := nomatch h
  published := rfl
  view _ _ h := nomatch h
  holder_open _ h := nomatch h
  holder n := by
    constructor
    · exact fun h => nomatch h
    · rintro ⟨before, batch, fate, later, h, -⟩
      exact absurd h.symm (List.append_ne_nil_of_right_ne_nil before (List.cons_ne_nil _ later))

/-- One more call keeps it. -/
theorem Kept.ask {x : Index} {calls : List Call} (h : Kept x calls ((ofIndex x).after calls))
    {c : Call} (hc : ∀ memory processors, c = .opening memory processors →
      memoryFault? processors memory = none) :
    Kept x (calls ++ [c]) ((ofIndex x).after (calls ++ [c])) := by
  have hdoes := does_ask h.queued h.fault c
  rw [← after_snoc] at hdoes
  exact {
    queued := hdoes.queued
    fault := fun n e he => by
      rcases hdoes.fault n e he with hopening | ⟨f, hf, hfault⟩
      · exact hc e.memory e.processors hopening
      · rw [← hfault]
        exact h.fault n f hf
    published := by
      rw [hdoes.published, h.published, accepted_snoc, Index.written_append]
    view := fun n e he => by
      have hview := hdoes.view n e he
      rw [upToLook_snoc]
      by_cases hl : ((ofIndex x).after calls).looks n c
      · rw [if_pos hl] at hview ⊢
        exact ⟨_, rfl, hview⟩
      · rw [if_neg hl] at hview ⊢
        exact h.view n e hview
    holder_open := fun n hn => by
      rcases (hdoes.holder n).mp hn with ⟨-, hopen, batch, fate, rfl⟩ | ⟨hn, hclose⟩
      · exact hdoes.stays n hopen nofun
      · exact hdoes.stays n (h.holder_open n hn) hclose
    holder := fun n => by
      rw [hdoes.holder n, becameWriter_snoc, h.holder n] }

/-- **Any calls keep it**, where every engine is opened with memory enough. -/
theorem kept_after (x : Index) {calls : List Call}
    (hm : ∀ memory processors, .opening memory processors ∈ calls →
      memoryFault? processors memory = none) :
    Kept x calls ((ofIndex x).after calls) := by
  -- on the last call: what is kept speaks of all calls from the first on
  induction calls using List.reverseRecOn with
  | nil => exact kept_nil x
  | append_singleton calls c ih =>
      refine (ih fun memory processors h =>
        hm memory processors (List.mem_append_left _ h)).ask ?_
      rintro memory processors rfl
      exact hm memory processors (List.mem_append_right _ (List.mem_singleton_self _))

/-! ## 6. Engines that share an index -/

/-- **An engine shows the documents of an index**: by a key those that are found by it, of which it
    reads the first, and their number altogether. -/
structure Shows (d : IndexDirectory) (n : Nat) (y : Index) : Prop where
  count : ∀ key, d.ask (.count n key) = (.counted (y.found key).length, d)
  get : ∀ key, d.ask (.get n key) = (.got ((y.found key).head?.mapM Index.stored), d)
  numDocs : d.ask (.numDocs n) = (.counted y.length, d)

theorem shows_view (d : IndexDirectory) (n : Nat) : d.Shows n (d.view n) where
  count key := by rw [ask, Index.count_eq_found]
  get key := by rw [ask, Index.get_eq_found]
  numDocs := rfl

end IndexDirectory

/-- The answer to a batch whose writing ends in a way. -/
def Fate.answer (batch : List Request) : Fate → Except Failure Nat
  | .taken => .ok batch.length
  | .refused _ reason => .error reason

namespace IndexDirectory

/-- **Engines share an index in an orderly way**, after calls that found no engine open on it. -/
structure Coordinated (x : Index) (calls : List Call) (d : IndexDirectory) : Prop where
  /-- The engine that may write is the first to submit while none might, until it is closed. -/
  holder_iff : ∀ n, d.holder = some n ↔ (ofIndex x).BecameWriter n calls
  holder_open : ∀ n, d.holder = some n → (d.engine? n).isSome
  holder_unique : ∀ n m, (ofIndex x).BecameWriter n calls → (ofIndex x).BecameWriter m calls → n = m
  /-- A batch of any other is refused and changes nothing. -/
  shutOut : ∀ n m batch fate, d.holder = some m → n ≠ m → (d.engine? n).isSome →
    d.ask (.submit n batch fate) = (.submitted (.error (writerFailure lockMessage)), d)
  /-- A batch of the one, or of any while there is none, is written. -/
  written : ∀ n batch fate, d.holder = none ∨ d.holder = some n → (d.engine? n).isSome →
    (d.ask (.submit n batch fate)).1 = .submitted (fate.answer batch)
  /-- What is published are the batches that were taken, in order. -/
  published : x.WrittenOver ((ofIndex x).accepted calls) d.published
  /-- An engine shows what was published when it last looked: some of the batches, each whole. -/
  shown : ∀ n, (d.engine? n).isSome → ∃ upTo, (ofIndex x).upToLook n calls = some upTo ∧
    upTo <+: calls ∧ (ofIndex x).accepted upTo <+: (ofIndex x).accepted calls ∧
    x.WrittenOver ((ofIndex x).accepted upTo) ((ofIndex x).after upTo).published ∧
    d.Shows n ((ofIndex x).after upTo).published
  /-- It never comes to show what is older. -/
  neverOlder : ∀ n before later upTo, calls = before ++ later →
    (ofIndex x).upToLook n before = some upTo →
    ∃ upTo', (ofIndex x).upToLook n calls = some upTo' ∧ upTo <+: upTo' ∧
      (ofIndex x).accepted upTo <+: (ofIndex x).accepted upTo'
  /-- It shows its own batches from when they are taken. -/
  ownWrites : ∀ n before batch fate later count, calls = before ++ .submit n batch fate :: later →
    (((ofIndex x).after before).ask (.submit n batch fate)).1 = .submitted (.ok count) →
    ∃ upTo, (ofIndex x).upToLook n calls = some upTo ∧ before ++ [.submit n batch fate] <+: upTo ∧
      (ofIndex x).accepted before ++ [batch] <+: (ofIndex x).accepted upTo

theorem took_of_ok {d : IndexDirectory} {n count : Nat} {batch : List Request} {fate : Fate}
    (h : (d.ask (.submit n batch fate)).1 = .submitted (.ok count)) :
    d.took (.submit n batch fate) = some batch := by
  have hok : (d.submitWith n batch fate).1 = .ok count := Answer.submitted.inj h
  rw [took, hok]

/-- A batch that is taken is a look of its engine. -/
theorem looks_of_ok {d : IndexDirectory} {n count : Nat} {batch : List Request} {fate : Fate}
    (h : (d.ask (.submit n batch fate)).1 = .submitted (.ok count)) :
    d.looks n (.submit n batch fate) = true := by
  rw [looks, took_of_ok h, beq_self_eq_true]
  rfl

theorem submitWith_of_mayWrite {d : IndexDirectory} {n : Nat} (h : d.writeFailure? n = none)
    (batch : List Request) (fate : Fate) : (d.submitWith n batch fate).1 = fate.answer batch := by
  rw [submitWith, h]
  cases fate <;> rfl

/-- **Engines share an index in an orderly way whatever they are asked**, in any order, where each is
    opened with memory enough. -/
theorem coordinated_after (x : Index) (calls : List Call)
    (hm : ∀ memory processors, .opening memory processors ∈ calls →
      memoryFault? processors memory = none) :
    Coordinated x calls ((ofIndex x).after calls) := by
  have h := kept_after x hm
  exact {
    holder_iff := h.holder
    holder_open := h.holder_open
    holder_unique := fun n m hn hm => by
      have hboth := ((h.holder n).mpr hn).symm.trans ((h.holder m).mpr hm)
      exact Option.some.inj hboth
    shutOut := fun n m batch fate hholder hne hopen => by
      obtain ⟨e, he⟩ := Option.isSome_iff_exists.mp hopen
      have hw : ((ofIndex x).after calls).writeFailure? n = some (writerFailure lockMessage) := by
        rw [writeFailure?, he, hholder]
        exact if_neg (Ne.symm hne)
      rw [ask, submitWith_of_writeFailure hw]
    written := fun n batch fate hfree hopen => by
      have hw := (writeFailure?_eq_none_iff h.fault n).mpr ⟨hopen, hfree⟩
      rw [ask, submitWith_of_mayWrite hw]
    published := by
      rw [h.published]
      exact Index.writtenOver_written x _
    shown := fun n hopen => by
      obtain ⟨e, he⟩ := Option.isSome_iff_exists.mp hopen
      obtain ⟨upTo, hup, hview⟩ := h.view n e he
      have hp := prefix_of_upToLook hup
      have hkept := kept_after x fun memory processors hmem =>
        hm memory processors (hp.subset hmem)
      have hover : x.WrittenOver ((ofIndex x).accepted upTo) ((ofIndex x).after upTo).published := by
        rw [hkept.published]
        exact Index.writtenOver_written x _
      refine ⟨upTo, hup, hp, accepted_prefix hp _, hover, ?_⟩
      have hseen : ((ofIndex x).after calls).view n = ((ofIndex x).after upTo).published := by
        rw [IndexDirectory.view, he]
        exact hview
      rw [← hseen]
      exact shows_view _ n
    neverOlder := fun n before later upTo hcalls hup => by
      obtain ⟨upTo', hup', hp⟩ := upToLook_mono hup later
      rw [← hcalls] at hup'
      exact ⟨upTo', hup', hp, accepted_prefix hp _⟩
    ownWrites := fun n before batch fate later count hcalls hok => by
      have hup : (ofIndex x).upToLook n (before ++ [.submit n batch fate]) =
          some (before ++ [.submit n batch fate]) := by
        rw [upToLook_snoc, if_pos (looks_of_ok hok)]
      obtain ⟨upTo', hup', hp⟩ := upToLook_mono hup later
      rw [List.append_assoc, List.singleton_append, ← hcalls] at hup'
      have htaken := accepted_prefix hp (ofIndex x)
      rw [accepted_snoc, took_of_ok hok] at htaken
      exact ⟨upTo', hup', hp, htaken⟩ }

/-- Two engines on two machines: the one writes while the other is shut out, a batch is lost half
    written, and the other writes once the first is closed. -/
def sharedCalls : List Call :=
  let project (id name : String) : Request := ⟨"mc", .project, id, .obj [("name", .str name)]⟩
  [.opening leastThreadMemory, .opening 2000000000 1, .submit 0 [project "p-1" "alloy"] .taken,
    .submit 1 [project "p-2" "coupon"] .taken, .numDocs 1,
    .submit 0 [project "p-1" "lost", project "p-3" "lost"] (.refused 3 (.bulkSubmit "no space")),
    .refresh 1, .close 0, .submit 1 [project "p-2" "coupon", project "p-1" "weld"] .taken,
    .search 1 "weld" none 10]

theorem coordinated_sharedCalls :
    (∀ memory processors, .opening memory processors ∈ sharedCalls →
        memoryFault? processors memory = none) ∧
      ((ofIndex []).accepted sharedCalls).map List.length = [1, 2] ∧
      Coordinated [] sharedCalls ((ofIndex []).after sharedCalls) := by
  have hm : ∀ memory processors, .opening memory processors ∈ sharedCalls →
      memoryFault? processors memory = none := by
    intro memory processors h
    have hopened : (memory = leastThreadMemory ∧ processors = mostThreads) ∨
        (memory = 2000000000 ∧ processors = 1) := by
      simpa [sharedCalls] using h
    rcases hopened with ⟨rfl, rfl⟩ | ⟨rfl, rfl⟩ <;> decide
  exact ⟨hm, by decide, coordinated_after [] sharedCalls hm⟩

end IndexDirectory

end LabIndex.Search
