import LabIndex.Search.Words
import Mathlib.Data.List.Basic

/-!
# The words of a document

A document mentions a word where one of its strings or numbers holds a run of letters and digits
that is the word in lower case, with no letter or digit before it or after it. The words that are
found by walking over the text of a document, where its strings and numbers stand one a line, are
the ones that it mentions: no run goes on over a line's end.

* `MaximalRun`, `mem_runs_iff`: the runs of a text, by where they stand in it;
* `runs_append`: what is no letter or digit parts a text in two, and `runs_intercalate` many;
* `Leaf`, `mem_leaves_iff`: the strings and numbers of a value;
* `Mentions`, `mentions_iff`: the words of a document.
-/

namespace LabIndex.Search

/-! ## 1. Runs -/

/-- A run of letters and digits that no letter or digit stands beside. -/
def MaximalRun (run cs : List Char) : Prop :=
  ∃ before after, cs = before ++ run ++ after ∧ run ≠ [] ∧
    (∀ c ∈ run, Text.isWordChar c = true) ∧
    (∀ c ∈ before.getLast?, Text.isWordChar c = false) ∧
    (∀ c ∈ after.head?, Text.isWordChar c = false)

section Runs

variable {c : Char} {run cs xs ys : List Char}

theorem runs_cons_of_not (h : Text.isWordChar c = false) (rest : List Char) :
    runs (c :: rest) = runs rest := by
  rw [runs, if_neg (by rw [h]; exact Bool.false_ne_true)]

theorem runs_singleton (h : Text.isWordChar c = true) : runs [c] = [[c]] := by simp [runs, h]

/-- A letter or digit in front begins a run. -/
theorem exists_runs_cons (h : Text.isWordChar c = true) (rest : List Char) :
    ∃ run more, runs (c :: rest) = run :: more := by
  rw [runs, if_pos h]
  split <;> exact ⟨_, _, rfl⟩

/-- A letter or digit before another lengthens its run. -/
theorem runs_cons_cons {d : Char} (hc : Text.isWordChar c = true) (hd : Text.isWordChar d = true)
    {rest run : List Char} {more : List (List Char)} (h : runs (d :: rest) = run :: more) :
    runs (c :: d :: rest) = (c :: run) :: more := by
  rw [runs, if_pos hc, h, List.head?_cons, Option.map_some, hd]

/-- A letter or digit before anything else is a run of its own. -/
theorem runs_cons_cons_of_not {d : Char} (hc : Text.isWordChar c = true)
    (hd : Text.isWordChar d = false) (rest : List Char) :
    runs (c :: d :: rest) = [c] :: runs rest := by
  rw [runs, if_pos hc, runs_cons_of_not hd, List.head?_cons, Option.map_some, hd]

/-- **What is no letter or digit parts a text in two.** -/
theorem runs_append (h : Text.isWordChar c = false) (xs ys : List Char) :
    runs (xs ++ c :: ys) = runs xs ++ runs ys := by
  induction xs with
  | nil => exact runs_cons_of_not h ys
  | cons x rest ih =>
      rw [List.cons_append]
      by_cases hx : Text.isWordChar x = true
      · cases rest with
        | nil => rw [List.nil_append, runs_cons_cons_of_not hx h, runs_singleton hx]; rfl
        | cons y more =>
            rw [List.cons_append] at ih ⊢
            by_cases hy : Text.isWordChar y = true
            · obtain ⟨run, others, hruns⟩ := exists_runs_cons hy more
              rw [hruns, List.cons_append] at ih
              rw [runs_cons_cons hx hy ih, runs_cons_cons hx hy hruns, List.cons_append]
            · rw [Bool.not_eq_true] at hy
              rw [runs_cons_of_not hy, runs_cons_of_not hy] at ih
              rw [runs_cons_cons_of_not hx hy, runs_cons_cons_of_not hx hy, ih, List.cons_append]
      · rw [Bool.not_eq_true] at hx
        rw [runs_cons_of_not hx, runs_cons_of_not hx, ih]

/-- A text of letters and digits alone is one run. -/
theorem runs_of_forall (hne : cs ≠ []) (h : ∀ c ∈ cs, Text.isWordChar c = true) : runs cs = [cs] := by
  induction cs with
  | nil => exact absurd rfl hne
  | cons c rest ih =>
      have hc := h c List.mem_cons_self
      cases rest with
      | nil => exact runs_singleton hc
      | cons d more =>
          have hrest := ih (List.cons_ne_nil d more) fun x hx => h x (List.mem_cons_of_mem c hx)
          exact runs_cons_cons hc (h d (by simp)) hrest

theorem maximalRun_of_forall (h : ∀ c ∈ cs, Text.isWordChar c = true) :
    MaximalRun run cs ↔ run = cs ∧ cs ≠ [] := by
  constructor
  · rintro ⟨before, after, rfl, hne, -, hbefore, hafter⟩
    -- a letter or digit beside the run would be one of the text
    have hb : before = [] := List.getLast?_eq_none_iff.mp <| Option.eq_none_iff_forall_not_mem.mpr
      fun c hc => by
        have hword := h c (by simp [List.mem_of_getLast? hc])
        rw [hbefore c hc] at hword
        cases hword
    have ha : after = [] := List.head?_eq_none_iff.mp <| Option.eq_none_iff_forall_not_mem.mpr
      fun c hc => by
        have hword := h c (by simp [List.mem_of_head? hc])
        rw [hafter c hc] at hword
        cases hword
    subst hb ha
    simpa using hne
  · rintro ⟨rfl, hne⟩
    exact ⟨[], [], by simp, hne, h, by simp, by simp⟩

/-- A run stands on one side of what is no letter or digit. -/
theorem maximalRun_append (h : Text.isWordChar c = false) :
    MaximalRun run (xs ++ c :: ys) ↔ MaximalRun run xs ∨ MaximalRun run ys := by
  constructor
  · rintro ⟨before, after, heq, hne, hall, hbefore, hafter⟩
    have hc : c ∉ run := fun hmem => by
      rw [hall c hmem] at h
      cases h
    rw [List.append_assoc, eq_comm, List.append_eq_append_iff] at heq
    rcases heq with ⟨between, rfl, hright⟩ | ⟨between, rfl, hright⟩
    · -- the run begins in `xs`, and cannot go beyond it
      rw [List.append_eq_append_iff] at hright
      rcases hright with ⟨rest, rfl, rfl⟩ | ⟨rest, rfl, hout⟩
      · refine .inl ⟨before, rest, by simp, hne, hall, hbefore, fun d hd => hafter d ?_⟩
        rw [List.head?_append, Option.mem_def.mp hd]
        rfl
      · cases rest with
        | nil => exact .inl ⟨before, [], by simp, hne, hall, hbefore, by simp⟩
        | cons d more =>
            cases hout
            exact absurd (List.mem_append_right between List.mem_cons_self) hc
    · -- it begins behind `xs`, and so behind what parts the two
      cases between with
      | nil =>
          obtain ⟨d, more, rfl⟩ := List.exists_cons_of_ne_nil hne
          cases hright
          exact absurd List.mem_cons_self hc
      | cons d more =>
          cases hright
          refine .inr ⟨more, after, by simp, hne, hall, fun e he => hbefore e ?_, hafter⟩
          rw [List.getLast?_append, List.getLast?_cons, Option.mem_def.mp he]
          rfl
  · rintro (⟨before, after, rfl, hne, hall, hbefore, hafter⟩ |
      ⟨before, after, rfl, hne, hall, hbefore, hafter⟩)
    · refine ⟨before, after ++ c :: ys, by simp, hne, hall, hbefore, fun d hd => ?_⟩
      cases after with
      | nil =>
          obtain rfl := Option.some.inj hd
          exact h
      | cons e more => exact hafter d hd
    · refine ⟨xs ++ c :: before, after, by simp, hne, hall, fun d hd => ?_, hafter⟩
      rw [List.getLast?_append, List.getLast?_cons, Option.some_or] at hd
      cases hlast : before.getLast? with
      | none =>
          rw [hlast] at hd
          obtain rfl := Option.some.inj hd
          exact h
      | some e =>
          rw [hlast] at hd
          obtain rfl := Option.some.inj hd
          exact hbefore _ hlast

/-- **The runs that are found are the ones that stand in the text.** -/
theorem mem_runs_iff : run ∈ runs cs ↔ MaximalRun run cs := by
  induction hn : cs.length using Nat.strongRecOn generalizing cs with
  | ind n ih =>
    by_cases hall : ∀ c ∈ cs, Text.isWordChar c = true
    · rw [maximalRun_of_forall hall]
      by_cases hne : cs = []
      · subst hne
        simp [runs]
      · rw [runs_of_forall hne hall, List.mem_singleton, and_iff_left hne]
    · simp only [not_forall] at hall
      obtain ⟨c, hc, hnot⟩ := hall
      rw [Bool.not_eq_true] at hnot
      obtain ⟨xs, ys, rfl⟩ := List.append_of_mem hc
      have hlength : xs.length < n ∧ ys.length < n := by
        simp only [List.length_append, List.length_cons] at hn
        omega
      rw [runs_append hnot, List.mem_append, maximalRun_append hnot, ih _ hlength.1 rfl,
        ih _ hlength.2 rfl]

/-- The runs of lines are those of each line. -/
theorem runs_intercalate (lines : List (List Char)) :
    runs (['\n'].intercalate lines) = lines.flatMap runs := by
  have hbreak : Text.isWordChar '\n' = false := by decide
  induction lines with
  | nil => rfl
  | cons line rest ih =>
      cases rest with
      | nil => simp
      | cons next more =>
          rw [List.intercalate_cons_cons, List.append_assoc, List.singleton_append,
            runs_append hbreak, ih]
          rfl

end Runs

/-! ## 2. Words -/

/-- The words of a text are its runs in lower case, but for those too long. -/
theorem mem_words_iff {s w : String} :
    w ∈ (words s).map (·.text) ↔
      ∃ run ∈ runs s.toList, Text.byteLength run < longRun ∧ String.ofList (Text.lower run) = w := by
  simp only [words, List.mem_map, List.mem_filterMap, Prod.exists]
  constructor
  · rintro ⟨word, ⟨run, position, hmem, hword⟩, rfl⟩
    rw [wordOfRun] at hword
    split at hword
    · rename_i hshort
      cases hword
      exact ⟨run, (List.mem_zipIdx' hmem).2 ▸ List.getElem_mem _, hshort, rfl⟩
    · cases hword
  · rintro ⟨run, hmem, hshort, rfl⟩
    obtain ⟨position, hlt, rfl⟩ := List.mem_iff_getElem.mp hmem
    exact ⟨⟨position, _⟩, ⟨_, position, List.mk_mem_zipIdx_iff_getElem?.mpr
      (List.getElem?_eq_getElem hlt), if_pos hshort⟩, rfl⟩

/-! ## 3. Documents -/

/-- The texts of the strings, as far as they are not empty, and of the numbers in a value. -/
inductive Leaf : Json → String → Prop where
  | text {s : String} (h : s ≠ "") : Leaf (.str s) s
  | number (n : Number) : Leaf (.num n) n.text
  | item {items : List Json} {v : Json} {leaf : String} (hv : v ∈ items) (h : Leaf v leaf) :
      Leaf (.arr items) leaf
  | field {fields : Fields} {key : String} {v : Json} {leaf : String} (hv : (key, v) ∈ fields)
      (h : Leaf v leaf) : Leaf (.obj fields) leaf

mutual

/-- **The leaves of a document are its strings and numbers.** -/
theorem mem_leaves_iff : ∀ (v : Json) (leaf : String), leaf ∈ leaves v ↔ Leaf v leaf
  | .null, leaf => ⟨nofun, nofun⟩
  | .bool b, leaf => ⟨nofun, nofun⟩
  | .num n, leaf => by
      rw [leaves, List.mem_singleton]
      constructor
      · rintro rfl
        exact .number n
      · rintro ⟨⟩
        rfl
  | .str s, leaf => by
      rw [leaves]
      constructor
      · intro h
        split at h
        · cases h
        · rename_i hne
          rw [List.mem_singleton.mp h]
          exact .text hne
      · rintro ⟨hne⟩
        rw [if_neg hne]
        exact List.mem_singleton_self s
  | .arr items, leaf => by
      rw [leaves, mem_itemLeaves_iff items leaf]
      constructor
      · rintro ⟨v, hv, h⟩
        exact .item hv h
      · rintro (_ | _ | ⟨hv, h⟩)
        exact ⟨_, hv, h⟩
  | .obj fields, leaf => by
      rw [leaves, mem_fieldLeaves_iff fields leaf]
      constructor
      · rintro ⟨key, v, hv, h⟩
        exact .field hv h
      · rintro (_ | _ | _ | ⟨hv, h⟩)
        exact ⟨_, _, hv, h⟩

theorem mem_itemLeaves_iff : ∀ (items : List Json) (leaf : String),
    leaf ∈ itemLeaves items ↔ ∃ v ∈ items, Leaf v leaf
  | [], leaf => by simp [itemLeaves]
  | v :: rest, leaf => by
      rw [itemLeaves, List.mem_append, mem_leaves_iff v leaf, mem_itemLeaves_iff rest leaf]
      simp

theorem mem_fieldLeaves_iff : ∀ (fields : Fields) (leaf : String),
    leaf ∈ fieldLeaves fields ↔ ∃ key v, (key, v) ∈ fields ∧ Leaf v leaf
  | [], leaf => by simp [fieldLeaves]
  | (key, v) :: rest, leaf => by
      rw [fieldLeaves, List.mem_append, mem_leaves_iff v leaf, mem_fieldLeaves_iff rest leaf]
      simp only [List.mem_cons, Prod.mk.injEq]
      constructor
      · rintro (h | ⟨k, u, hu, h⟩)
        · exact ⟨key, v, .inl ⟨rfl, rfl⟩, h⟩
        · exact ⟨k, u, .inr hu, h⟩
      · rintro ⟨k, u, ⟨rfl, rfl⟩ | hu, h⟩
        · exact .inl h
        · exact .inr ⟨k, u, hu, h⟩

end

/-- **A document mentions a word.** Some string or number in it holds a run of fewer than forty bytes
    that is the word in lower case, with no letter or digit beside it. -/
def Mentions (document : Json) (w : String) : Prop :=
  ∃ leaf, Leaf document leaf ∧ ∃ run, MaximalRun run leaf.toList ∧
    Text.byteLength run < longRun ∧ String.ofList (Text.lower run) = w

/-- **The words of a document's text are the ones that it mentions.** -/
theorem mentions_iff {document : Json} {w : String} :
    Mentions document w ↔ w ∈ (words (searchText document)).map (·.text) := by
  have htext : (searchText document).toList =
      ['\n'].intercalate ((leaves document).map String.toList) := by
    rw [searchText, String.toList_intercalate]
    rfl
  rw [mem_words_iff, htext, runs_intercalate]
  simp only [Mentions, List.mem_flatMap, List.mem_map, mem_runs_iff, ← mem_leaves_iff]
  constructor
  · rintro ⟨leaf, hleaf, run, hrun, hw⟩
    exact ⟨run, ⟨_, ⟨leaf, hleaf, rfl⟩, hrun⟩, hw⟩
  · rintro ⟨run, ⟨_, ⟨leaf, hleaf, rfl⟩, hrun⟩, hw⟩
    exact ⟨leaf, hleaf, run, hrun, hw⟩

instance (document : Json) (w : String) : Decidable (Mentions document w) :=
  decidable_of_iff _ mentions_iff.symm

end LabIndex.Search
