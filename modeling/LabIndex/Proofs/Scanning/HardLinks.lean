import LabIndex.FileTree.Scan
import LabIndex.Proofs.Classes
import LabIndex.Proofs.Scanning.Files
import Mathlib.Data.List.Nodup
import Mathlib.Data.List.Induction
import Mathlib.Data.List.Pairwise
import Mathlib.Data.List.Sort

/-!
# Hard links that a scan groups

Listed files come in whatever order the workers finish, and each is added to the group that its file
has by then. Whatever the order, there is one group for each file of which several names were
listed, and it holds just these.

* `Scanner.linksTo`: the listed names of one file;
* `Scanner.Grouped`: what groups have to do with the files that were listed so far, with its step
  `Scanner.Grouped.group` and its run `Scanner.grouped_foldl`;
* `Scanner.hardLinkGroups_perm`: the order of the files makes no difference to the groups, and
  `Scanner.hardLinkGroups_scanUnder`: nor does the order in which threads move;
* `Scanner.hardLinkGroups_are_classes`: **the groups are the classes of files that are the same.**
-/

namespace LabIndex.Scanner

/-! ## 1. Names of one file -/

/-- What a listed file is told by, if it has several links. -/
def Listed.shared? (f : Listed) : Option FileNode := if 1 < f.links then f.node else none

/-- The listed names of one file, in the order in which they were listed. -/
def linksTo (n : FileNode) (files : List Listed) : List Listed :=
  files.filter fun f => f.shared? == some n

variable {files files' : List Listed} {f : Listed} {n : FileNode} {path : Path}
  {groups : List (FileNode × List Path)}

/-- One more listed file is one more name of what it is told by, and of nothing else. -/
theorem linksTo_concat (files : List Listed) (f : Listed) :
    linksTo n (files ++ [f]) = linksTo n files ++ if f.shared? = some n then [f] else [] := by
  rw [linksTo, List.filter_append, List.filter_cons, List.filter_nil]
  by_cases h : f.shared? = some n <;> simp [linksTo, h]

theorem linksTo_concat_of_ne (h : f.shared? ≠ some n) : linksTo n (files ++ [f]) = linksTo n files := by
  rw [linksTo_concat, if_neg h, List.append_nil]

/-! ## 2. Grouping -/

/-- A path that is added makes no second group for its file. -/
theorem map_fst_addToGroup (n : FileNode) (path : Path) (groups : List (FileNode × List Path)) :
    (addToGroup n path groups).map (·.1) =
      if n ∈ groups.map (·.1) then groups.map (·.1) else groups.map (·.1) ++ [n] := by
  induction groups with
  | nil => rfl
  | cons g rest ih =>
      obtain ⟨m, paths⟩ := g
      by_cases hm : m = n
      · simp [addToGroup, hm]
      · by_cases hmem : n ∈ rest.map (·.1)
        · rw [if_pos hmem] at ih
          simp only [addToGroup, hm, if_false, List.map_cons, ih, List.mem_cons, hmem, or_true,
            if_true]
        · rw [if_neg hmem] at ih
          simp only [addToGroup, hm, if_false, List.map_cons, ih, List.mem_cons, hmem,
            Ne.symm hm, or_self, List.cons_append]

/-- A group after a path was added: one of before, or that of the file with the path at its end. -/
theorem mem_addToGroup (h : (groups.map (·.1)).Nodup) {g : FileNode × List Path}
    (hg : g ∈ addToGroup n path groups) : g.1 ≠ n ∧ g ∈ groups ∨
      g.1 = n ∧ ((∃ paths, (n, paths) ∈ groups ∧ g.2 = paths ++ [path]) ∨
        n ∉ groups.map (·.1) ∧ g.2 = [path]) := by
  induction groups with
  | nil =>
      obtain rfl := List.mem_singleton.mp hg
      exact .inr ⟨rfl, .inr ⟨List.not_mem_nil, rfl⟩⟩
  | cons first rest ih =>
      obtain ⟨m, paths⟩ := first
      obtain ⟨hfirst, hrest⟩ := List.nodup_cons.mp h
      rw [addToGroup] at hg
      split at hg
      · rename_i hm
        subst hm
        rcases List.mem_cons.mp hg with rfl | hg
        · exact .inr ⟨rfl, .inl ⟨paths, List.mem_cons_self, rfl⟩⟩
        · -- no other group is this file's
          have hne : g.1 ≠ m := fun e => hfirst (e ▸ List.mem_map_of_mem (f := (·.1)) hg)
          exact .inl ⟨hne, List.mem_cons_of_mem _ hg⟩
      · rename_i hm
        rcases List.mem_cons.mp hg with rfl | hg
        · exact .inl ⟨hm, List.mem_cons_self⟩
        · rcases ih hrest hg with ⟨hne, hmem⟩ | ⟨heq, ⟨old, hold, hpaths⟩ | ⟨hnew, hpaths⟩⟩
          · exact .inl ⟨hne, List.mem_cons_of_mem _ hmem⟩
          · exact .inr ⟨heq, .inl ⟨old, List.mem_cons_of_mem _ hold, hpaths⟩⟩
          · refine .inr ⟨heq, .inr ⟨?_, hpaths⟩⟩
            simpa [Ne.symm hm] using hnew

/-- **Groups of the files that were listed so far**: no two for one file, one for each that several
    links were seen of, and in each the paths of all names that were listed. -/
structure Grouped (files : List Listed) (groups : List (FileNode × List Path)) : Prop where
  nodup : (groups.map (·.1)).Nodup
  mem_iff : ∀ n, n ∈ groups.map (·.1) ↔ linksTo n files ≠ []
  paths : ∀ g ∈ groups, g.2 = (linksTo g.1 files).map (·.path)

theorem group_of_none (h : f.shared? = none) (groups : List (FileNode × List Path)) :
    group groups f = groups := by
  rw [group]
  split
  · rename_i m hm
    have hlinks : ¬ 1 < f.links := fun hlinks => by simp [Listed.shared?, hlinks, hm] at h
    exact if_neg hlinks
  · rfl

theorem group_of_some (h : f.shared? = some n) (groups : List (FileNode × List Path)) :
    group groups f = addToGroup n f.path groups := by
  rw [Listed.shared?, Option.ite_none_right_eq_some] at h
  simp only [group, h.2, if_pos h.1]

namespace Grouped

/-- **One more listed file** finds the group that its file has, or opens it. -/
theorem group (h : Grouped files groups) (f : Listed) :
    Grouped (files ++ [f]) (group groups f) := by
  cases hf : f.shared? with
  | none =>
      have hsame : ∀ n, linksTo n (files ++ [f]) = linksTo n files := fun n =>
        linksTo_concat_of_ne (by simp [hf])
      rw [group_of_none hf]
      exact ⟨h.nodup, fun n => by rw [hsame, h.mem_iff], fun g hg => by rw [hsame, h.paths g hg]⟩
  | some n =>
      have hself : linksTo n (files ++ [f]) = linksTo n files ++ [f] := by
        rw [linksTo_concat, if_pos hf]
      have hother : ∀ m, m ≠ n → linksTo m (files ++ [f]) = linksTo m files := fun m hm =>
        linksTo_concat_of_ne fun e => hm (Option.some.inj (e.symm.trans hf))
      rw [group_of_some hf]
      refine ⟨?_, fun m => ?_, fun g hg => ?_⟩
      · rw [map_fst_addToGroup]
        split
        · exact h.nodup
        · rename_i hnew
          rw [← List.concat_eq_append]
          exact h.nodup.concat hnew
      · have hmem : m ∈ (addToGroup n f.path groups).map (·.1) ↔
            m = n ∨ m ∈ groups.map (·.1) := by
          rw [map_fst_addToGroup]
          split
          · rename_i hn
            exact ⟨.inr, fun hm => hm.elim (fun e => e ▸ hn) id⟩
          · rw [List.mem_append, List.mem_singleton, or_comm]
        rw [hmem, h.mem_iff]
        by_cases hm : m = n
        · subst hm
          simp [hself]
        · simp [hm, hother m hm]
      · rcases mem_addToGroup h.nodup hg with ⟨hne, hmem⟩ | ⟨heq, ⟨paths, hold, hpaths⟩ | ⟨hnew, hpaths⟩⟩
        · rw [hother _ hne, h.paths g hmem]
        · have hbefore : paths = (linksTo n files).map (·.path) := h.paths _ hold
          rw [hpaths, heq, hself, List.map_append, hbefore]
          rfl
        · have hnone : linksTo n files = [] := by simpa [h.mem_iff] using hnew
          rw [hpaths, heq, hself, hnone]
          rfl

/-- The groups are fixed by the files that they are for. -/
theorem eq_map (h : Grouped files groups) :
    groups = (groups.map (·.1)).map fun n => (n, (linksTo n files).map (·.path)) := by
  rw [List.map_map]
  refine (List.map_id' groups).symm.trans (List.map_congr_left fun g hg => ?_)
  exact Prod.ext rfl (h.paths g hg)

end Grouped

theorem grouped_foldl (files : List Listed) : Grouped files (files.foldl group []) := by
  induction files using List.reverseRecOn with
  | nil => exact ⟨List.nodup_nil, by simp [linksTo], by simp⟩
  | append_singleton files f ih =>
      rw [List.foldl_append]
      exact ih.group f

/-! ## 3. The groups -/

/-- **There is a group for each file of which several names were listed**, with the paths of these in
    order. -/
theorem exists_nodes (files : List Listed) : ∃ nodes : List FileNode, nodes.Nodup ∧
    (∀ n, n ∈ nodes ↔ 2 ≤ (linksTo n files).length) ∧
    hardLinkGroups files =
      nodes.map fun n => ((linksTo n files).map (·.path)).mergeSort (· ≤ ·) := by
  have hgrouped := grouped_foldl files
  refine ⟨((files.foldl group []).map (·.1)).filter fun n => 2 ≤ (linksTo n files).length,
    hgrouped.nodup.filter _, fun n => ?_, ?_⟩
  · rw [List.mem_filter, hgrouped.mem_iff, decide_eq_true_eq, and_iff_right_iff_imp]
    intro h hnil
    rw [hnil] at h
    cases h
  · rw [hardLinkGroups, hgrouped.eq_map, List.filter_map, List.map_map, List.map_map]
    simp [Function.comp_def, Nat.succ_le_iff]

/-- Paths are put in the same order, however they come. -/
theorem mergeSort_eq_of_perm {paths paths' : List Path} (h : paths.Perm paths') :
    paths.mergeSort (· ≤ ·) = paths'.mergeSort (· ≤ ·) :=
  ((List.mergeSort_perm _ _).trans (h.trans (List.mergeSort_perm _ _).symm)).eq_of_pairwise
    (fun _ _ _ _ => String.le_antisymm) (List.pairwise_mergeSort' _ _) (List.pairwise_mergeSort' _ _)

/-- **The groups do not depend on the order in which files are listed.** -/
theorem hardLinkGroups_perm (h : files.Perm files') :
    (hardLinkGroups files).Perm (hardLinkGroups files') := by
  obtain ⟨nodes, hnodup, hmem, heq⟩ := exists_nodes files
  obtain ⟨nodes', hnodup', hmem', heq'⟩ := exists_nodes files'
  have hlinks : ∀ n, (linksTo n files).Perm (linksTo n files') := fun n => h.filter _
  have hnodes : nodes.Perm nodes' := (List.perm_ext_iff_of_nodup hnodup hnodup').mpr fun n => by
    rw [hmem, hmem', (hlinks n).length_eq]
  rw [heq, heq']
  refine (hnodes.map _).trans (List.Perm.of_eq (List.map_congr_left fun n _ => ?_))
  exact mergeSort_eq_of_perm ((hlinks n).map _)

section Threads

variable (s : Scanner) (t : FileTree) (root : Path) (cancelled : Bool)

/-- Nor do they depend on the order in which the walker and the workers of a scan move. -/
theorem hardLinkGroups_scanUnder {schedule : List Move}
    (h : (s.scanUnder t root cancelled (listed t) schedule).ended = true) :
    (hardLinkGroups (s.scanUnder t root cancelled (listed t) schedule).results).Perm
      (hardLinkGroups (s.scan t root cancelled (listed t)).results) := by
  rw [scan_results]
  exact hardLinkGroups_perm (s.perm_of_scanUnder_ended t root cancelled (listed t) h)

end Threads

/-- A listed file is one of several names of a file that were listed. -/
def Listed.isGrouped (files : List Listed) (f : Listed) : Bool :=
  f.shared?.any fun n => 2 ≤ (linksTo n files).length

/-- The groups together have the paths of the files that are grouped, each as often as it was
    listed. -/
theorem flatten_hardLinkGroups_perm (files : List Listed) :
    (hardLinkGroups files).flatten.Perm ((files.filter (·.isGrouped files)).map (·.path)) := by
  obtain ⟨nodes, hnodup, hmem, heq⟩ := exists_nodes files
  have hgrouped : (files.filter fun f => nodes.any fun n => f.shared? == some n) =
      files.filter (·.isGrouped files) := by
    refine List.filter_congr fun f _ => ?_
    cases hf : f.shared? with
    | none => simp [Listed.isGrouped, hf]
    | some m =>
        rw [Bool.eq_iff_iff]
        simp [Listed.isGrouped, hf, hmem]
  calc (hardLinkGroups files).flatten
      = nodes.flatMap fun n => ((linksTo n files).map (·.path)).mergeSort (· ≤ ·) := by
        rw [heq, List.flatMap_def]
    _ |>.Perm (nodes.flatMap fun n => (linksTo n files).map (·.path)) :=
        List.Perm.flatMap_left nodes fun n _ => List.mergeSort_perm _ _
    _ = (nodes.flatMap fun n => linksTo n files).map (·.path) := List.map_flatMap.symm
    _ |>.Perm ((files.filter (·.isGrouped files)).map (·.path)) := by
        rw [← hgrouped]
        exact (flatMap_filter_any_perm hnodup Listed.shared? files).map _

/-- **The groups are the classes of listed files that are the same.** They are those of the files that
    the system tells apart and says that they have several links: one group for each of which two
    names at least were listed, with the paths of these and no others, in order. Listing the files in
    another order gives the same groups. Each path of such a file is there as often as it was listed;
    so where no path was listed twice it is there once, in one group. -/
theorem hardLinkGroups_are_classes (files : List Listed) :
    (∀ files', files.Perm files' → (hardLinkGroups files).Perm (hardLinkGroups files')) ∧
    (∃ nodes : List FileNode, nodes.Nodup ∧
      (∀ n, n ∈ nodes ↔ 2 ≤ (linksTo n files).length) ∧
      List.Forall₂ (fun n g => g.Perm ((linksTo n files).map (·.path)) ∧ g.Pairwise (· ≤ ·))
        nodes (hardLinkGroups files)) ∧
    (hardLinkGroups files).flatten.Perm ((files.filter (·.isGrouped files)).map (·.path)) ∧
    ((files.map (·.path)).Nodup → ∀ f ∈ files, f.isGrouped files = true →
      (hardLinkGroups files).flatten.count f.path = 1 ∧
        ∃! g, g ∈ hardLinkGroups files ∧ f.path ∈ g) := by
  have hflat := flatten_hardLinkGroups_perm files
  refine ⟨fun files' h => hardLinkGroups_perm h, ?_, hflat, fun hpaths f hf hgrouped => ?_⟩
  · obtain ⟨nodes, hnodup, hmem, heq⟩ := exists_nodes files
    refine ⟨nodes, hnodup, hmem, ?_⟩
    rw [heq, List.forall₂_map_right_iff]
    exact List.forall₂_same.mpr fun n _ =>
      ⟨List.mergeSort_perm _ _, List.pairwise_mergeSort' _ _⟩
  · have hnodup : (hardLinkGroups files).flatten.Nodup :=
      hflat.nodup_iff.mpr (hpaths.sublist (List.filter_sublist.map _))
    have hmem : f.path ∈ (hardLinkGroups files).flatten :=
      hflat.mem_iff.mpr (List.mem_map_of_mem (List.mem_filter.mpr ⟨hf, hgrouped⟩))
    refine ⟨List.count_eq_one_of_mem hnodup hmem, ?_⟩
    obtain ⟨g, hg, hpath⟩ := List.mem_flatten.mp hmem
    refine ⟨g, ⟨hg, hpath⟩, fun g' ⟨hg', hpath'⟩ => ?_⟩
    -- two groups have no path in common
    by_contra hne
    have hsymm : Std.Symm (@List.Disjoint Path) := ⟨fun _ _ h path ha hb => h hb ha⟩
    exact (List.nodup_flatten.mp hnodup).2.forall hg' hg hne hpath' hpath

/-- Listed files: a file with two names below the root and one elsewhere, one whose other name is
    elsewhere, one with a single name, and one with three links that the system does not tell apart. -/
def linkedFiles : List Listed :=
  [⟨"d/z", 1, 3, some ⟨1, 7⟩⟩, ⟨"d/b", 2, 2, some ⟨1, 8⟩⟩, ⟨"d/c", 3, 1, some ⟨1, 9⟩⟩,
    ⟨"d/a", 1, 3, some ⟨1, 7⟩⟩, ⟨"d/e", 4, 3, none⟩]

theorem hardLinkGroups_are_classes_linkedFiles :
    linkedFiles.Perm linkedFiles.reverse ∧
      (hardLinkGroups linkedFiles).Perm (hardLinkGroups linkedFiles.reverse) ∧
      (linkedFiles.map (·.path)).Nodup ∧
      (⟨"d/z", 1, 3, some ⟨1, 7⟩⟩ : Listed) ∈ linkedFiles ∧
      Listed.isGrouped linkedFiles ⟨"d/z", 1, 3, some ⟨1, 7⟩⟩ = true ∧
      (hardLinkGroups linkedFiles).flatten.count "d/z" = 1 ∧
        ∃! g, g ∈ hardLinkGroups linkedFiles ∧ "d/z" ∈ g := by
  obtain ⟨horder, -, -, honce⟩ := hardLinkGroups_are_classes linkedFiles
  have hreverse : linkedFiles.Perm linkedFiles.reverse := linkedFiles.reverse_perm.symm
  exact ⟨hreverse, horder _ hreverse, by decide, by decide, by decide,
    honce (by decide) ⟨"d/z", 1, 3, some ⟨1, 7⟩⟩ (by decide) (by decide)⟩

/-- Only the two names of one file are grouped, in order. -/
example : hardLinkGroups linkedFiles = [["d/a", "d/z"]] := by cbv

end LabIndex.Scanner
