import LabIndex.Proofs.Scanning.Workers
import LabIndex.Proofs.Serving.Containment
import Mathlib.Data.List.Nodup

/-!
# The files that a scan finds

A walk goes through a directory entry by entry, and into what is not left out; so whether a file is
found depends on all the directories on the way to it. Here what lies below a directory is first told
by the names that lead there, without any walk, and then the walk is shown to come to just those files
that no pattern leaves out, each once. With workers that lose nothing and take nothing twice this is
what a scan delivers.

* `Node.Holds`: what lies below a directory; `Node.placesIn` lists it, `Node.mem_placesIn_iff` and
  `Node.nodup_placesIn` say that the list has everything once;
* `Scanner.LeftOut`, `Scanner.exists_make`: what patterns leave out;
* `Scanner.filesIn_eq`: the walk of a directory, `FileTree.find_unfollowed`: the link that the root may
  be, and `Scanner.walk_eq`: the walk below a root;
* `Scanner.scan_processes_each_file_once`: **a scan has one result for each file**, whatever the order
  in which its threads move.
-/

namespace LabIndex

/-! ## 1. What lies below a directory -/

namespace Node

/-- **An entry lies below a directory**: the names are those of the directories on the way and its
    own. Nothing lies behind a symbolic link. -/
inductive Holds : Entries → List String → Node → Prop where
  | entry {entries : Entries} {name : String} {node : Node} (h : (name, node) ∈ entries) :
      Holds entries [name] node
  | inside {entries inner : Entries} {name : String} {names : List String} {node : Node}
      (h : (name, .directory inner) ∈ entries) (more : Holds inner names node) :
      Holds entries (name :: names) node

mutual

/-- An entry and all that lies in it, by the names that lead on from it. -/
def placesOf : Node → List (List String × Node)
  | .directory entries => ([], .directory entries) :: placesIn entries
  | node => [([], node)]

/-- All that lies below a directory, by names. -/
def placesIn : List (String × Node) → List (List String × Node)
  | [] => []
  | (name, node) :: rest => (placesOf node).map (fun p => (name :: p.1, p.2)) ++ placesIn rest

end

mutual

/-- The entries inside have names, and no two of one directory the same. -/
def isNamed : Node → Bool
  | .directory entries => areNamed entries
  | _ => true

/-- The entries of a directory have names, no two the same, and so have those inside them. -/
def areNamed : List (String × Node) → Bool
  | [] => true
  | (name, node) :: rest =>
    name ≠ "" && rest.all (fun e => e.1 ≠ name) && node.isNamed && areNamed rest

end

theorem Holds.mono {entries more : Entries} {names : List String} {node : Node}
    (h : Holds entries names node) (hsub : entries ⊆ more) : Holds more names node := by
  cases h with
  | entry h => exact .entry (hsub h)
  | inside h rest => exact .inside (hsub h) rest

/-- Nothing is left out of the list. -/
theorem mem_placesIn_of_mem {entries : Entries} {name : String} {node : Node}
    (h : (name, node) ∈ entries) {names : List String} {inner : Node}
    (hp : (names, inner) ∈ placesOf node) : (name :: names, inner) ∈ placesIn entries := by
  induction entries with
  | nil => exact absurd h List.not_mem_nil
  | cons e rest ih =>
      obtain ⟨n, other⟩ := e
      rw [placesIn, List.mem_append]
      rcases List.mem_cons.mp h with heq | hrest
      · cases heq
        exact .inl (List.mem_map.mpr ⟨(names, inner), hp, rfl⟩)
      · exact .inr (ih hrest)

theorem self_mem_placesOf (node : Node) : ([], node) ∈ placesOf node := by
  cases node <;> simp [placesOf]

theorem Holds.mem_placesIn {entries : Entries} {names : List String} {node : Node}
    (h : Holds entries names node) : (names, node) ∈ placesIn entries := by
  induction h with
  | entry h => exact mem_placesIn_of_mem h (self_mem_placesOf _)
  | inside h _ ih => exact mem_placesIn_of_mem h (List.mem_cons_of_mem _ ih)

mutual

/-- What is in the list of an entry is the entry or lies in it. -/
theorem eq_or_holds_of_mem_placesOf : ∀ {node inner : Node} {names : List String},
    (names, inner) ∈ placesOf node →
      (names = [] ∧ inner = node) ∨ ∃ entries, node = .directory entries ∧ Holds entries names inner
  | .directory entries, inner, names, h => by
      rcases List.mem_cons.mp h with heq | hin
      · cases heq
        exact .inl ⟨rfl, rfl⟩
      · exact .inr ⟨entries, rfl, holds_of_mem_placesIn hin⟩
  | .file _, _, _, h | .symlink _, _, _, h | .special, _, _, h => by
      cases List.mem_singleton.mp h
      exact .inl ⟨rfl, rfl⟩

/-- What is in the list lies below the directory. -/
theorem holds_of_mem_placesIn : ∀ {entries : List (String × Node)} {inner : Node}
    {names : List String}, (names, inner) ∈ placesIn entries → Holds entries names inner
  | [], _, _, h => absurd h List.not_mem_nil
  | (name, node) :: rest, inner, names, h => by
      rw [placesIn, List.mem_append, List.mem_map] at h
      rcases h with ⟨⟨tail, found⟩, hp, heq⟩ | hrest
      · cases heq
        rcases eq_or_holds_of_mem_placesOf hp with ⟨rfl, rfl⟩ | ⟨entries, rfl, hin⟩
        · exact .entry List.mem_cons_self
        · exact .inside List.mem_cons_self hin
      · exact (holds_of_mem_placesIn hrest).mono (List.subset_cons_self _ _)

end

/-- **The list has all that lies below a directory, and nothing else.** -/
theorem mem_placesIn_iff {entries : Entries} {names : List String} {node : Node} :
    (names, node) ∈ placesIn entries ↔ Holds entries names node :=
  ⟨holds_of_mem_placesIn, Holds.mem_placesIn⟩

/-- What lies below a directory is come to by the name of an entry. -/
theorem Holds.exists_name {entries : Entries} {names : List String} {node : Node}
    (h : Holds entries names node) : ∃ e ∈ entries, ∃ tail, names = e.1 :: tail := by
  cases h with
  | entry h => exact ⟨_, h, [], rfl⟩
  | inside h _ => exact ⟨_, h, _, rfl⟩

mutual

theorem nodup_placesOf : ∀ {node : Node}, node.isNamed = true → (placesOf node).Nodup
  | .directory entries, h => by
      rw [placesOf, List.nodup_cons]
      refine ⟨fun hself => ?_, nodup_placesIn h⟩
      obtain ⟨_, _, _, hname⟩ := (holds_of_mem_placesIn hself).exists_name
      cases hname
  | .file _, _ | .symlink _, _ | .special, _ => List.nodup_singleton _

/-- **The list has nothing twice.** -/
theorem nodup_placesIn : ∀ {entries : List (String × Node)}, areNamed entries = true →
    (placesIn entries).Nodup
  | [], _ => List.nodup_nil
  | (name, node) :: rest, h => by
      simp only [areNamed, Bool.and_eq_true] at h
      obtain ⟨⟨⟨-, hother⟩, hnode⟩, hrest⟩ := h
      rw [placesIn]
      refine List.Nodup.append ((nodup_placesOf hnode).map fun p q hpq => ?_)
        (nodup_placesIn hrest) ?_
      · cases p
        cases q
        cases hpq
        rfl
      · -- the names in the two parts begin with different names
        intro p hp hmore
        obtain ⟨q, -, rfl⟩ := List.mem_map.mp hp
        obtain ⟨e, he, tail, htail⟩ := (holds_of_mem_placesIn hmore).exists_name
        have hne : e.1 ≠ name := by simpa using List.all_eq_true.mp hother e he
        exact hne (List.cons.inj htail).1.symm

end

end Node

/-! ## 2. What patterns leave out -/

/-- A text as a whole fits the pattern that another one spells. -/
def Glob.Matches (pattern text : String) : Prop :=
  ∃ tokens, Glob.parse pattern = .ok tokens ∧ Glob.fits tokens text.toList = true

namespace Scanner

/-- A pattern fits an entry below a root: its path from there, its whole path, or its name. -/
def LeftOut (patterns : List String) (root : Path) (names : List String) : Prop :=
  ∃ pattern ∈ patterns, Glob.Matches pattern ("/".intercalate names) ∨
    Glob.Matches pattern (Path.under root names) ∨
    ∃ name ∈ names.getLast?, Glob.Matches pattern name

section Patterns

variable {patterns : List String} {s : Scanner}

/-- Patterns that all make sense are read, each as what it spells. -/
theorem exists_readPatterns (h : ∀ p ∈ patterns, ∃ tokens, Glob.parse p = .ok tokens) :
    ∃ read, readPatterns patterns = .ok read ∧
      ∀ tokens, tokens ∈ read ↔ ∃ p ∈ patterns, Glob.parse p = .ok tokens := by
  induction patterns with
  | nil => exact ⟨[], rfl, by simp⟩
  | cons p rest ih =>
      obtain ⟨⟨first, hfirst⟩, hrest⟩ := List.forall_mem_cons.mp h
      obtain ⟨read, hread, hmem⟩ := ih hrest
      refine ⟨first :: read, by rw [readPatterns, hfirst, hread], fun tokens => ?_⟩
      rw [List.mem_cons, hmem, List.exists_mem_cons_iff, hfirst, Except.ok.injEq, eq_comm]

/-- Only patterns that make sense are read. -/
theorem forall_parse_of_readPatterns {read : List (List Glob.Token)}
    (h : readPatterns patterns = .ok read) : ∀ p ∈ patterns, ∃ tokens, Glob.parse p = .ok tokens := by
  induction patterns generalizing read with
  | nil => simp
  | cons p rest ih =>
      rw [readPatterns] at h
      split at h
      · cases h
      · rename_i tokens hparse
        split at h
        · cases h
        · rename_i more hmore
          exact List.forall_mem_cons.mpr ⟨⟨tokens, hparse⟩, ih hmore⟩

/-- **A scanner over patterns that make sense leaves out what they fit.** -/
theorem exists_make {workers : Nat} (hworkers : 0 < workers)
    (h : ∀ p ∈ patterns, ∃ tokens, Glob.parse p = .ok tokens) :
    ∃ s, make workers patterns = .ok s ∧ s.workers = workers ∧
      ∀ relative path name : String, s.excludes relative path name = true ↔
        ∃ p ∈ patterns, Glob.Matches p relative ∨ Glob.Matches p path ∨ Glob.Matches p name := by
  obtain ⟨read, hread, hmem⟩ := exists_readPatterns h
  refine ⟨⟨workers, read, hworkers⟩, by rw [make, dif_pos hworkers, hread], rfl, ?_⟩
  intro relative path name
  simp only [excludes, List.any_eq_true, Bool.or_eq_true, hmem, Glob.Matches]
  constructor
  · rintro ⟨tokens, ⟨p, hp, hparse⟩, hfits⟩
    exact ⟨p, hp, by simpa [hparse, or_assoc] using hfits⟩
  · rintro ⟨p, hp, hfits⟩
    obtain ⟨tokens, hparse⟩ := h p hp
    exact ⟨tokens, ⟨p, hp, hparse⟩, by simpa [hparse, or_assoc] using hfits⟩

end Patterns

/-- Nothing that a way on leads past is left out. -/
def passes (s : Scanner) (root : Path) : List String → List String → Bool
  | _, [] => true
  | way, name :: rest =>
    let here := way ++ [name]
    !s.excludes ("/".intercalate here) (Path.under root here) name && s.passes root here rest

/-- A file is kept, unless it or something on the way to it is left out. -/
def kept? (s : Scanner) (root : Path) (way : List String) :
    List String × Node → Option (List String × Nat)
  | (names, .file n) => if s.passes root way names then some (way ++ names, n) else none
  | _ => none

/-- A file below a root as a scan finds it. -/
def foundAt (root : Path) (f : List String × Nat) : Found := ⟨Path.under root f.1, f.2⟩

section Walking

variable {s : Scanner} {root : Path} {way : List String}

theorem passes_iff {names : List String} :
    s.passes root way names = true ↔ ∀ front name back, names = front ++ name :: back →
      s.excludes ("/".intercalate (way ++ front ++ [name]))
        (Path.under root (way ++ front ++ [name])) name = false := by
  induction names generalizing way with
  | nil => simp [passes]
  | cons name rest ih =>
      rw [passes, Bool.and_eq_true, Bool.not_eq_true', ih]
      constructor
      · rintro ⟨hname, hrest⟩ front last back heq
        cases front with
        | nil =>
            cases heq
            simpa using hname
        | cons first front =>
            cases heq
            simpa using hrest front last back rfl
      · intro h
        exact ⟨by simpa using h [] name rest rfl,
          fun front last back heq => by simpa using h (name :: front) last back (by rw [heq]; rfl)⟩

theorem kept?_cons (name : String) (p : List String × Node) :
    s.kept? root way (name :: p.1, p.2) =
      if s.excludes ("/".intercalate (way ++ [name])) (Path.under root (way ++ [name])) name
      then none else s.kept? root (way ++ [name]) p := by
  obtain ⟨names, node⟩ := p
  cases node with
  | file n => cases hout : s.excludes _ _ name <;> simp [kept?, passes, hout]
  | directory | symlink | special => simp [kept?]

theorem filterMap_kept?_cons (name : String) (places : List (List String × Node)) :
    (places.map fun p => (name :: p.1, p.2)).filterMap (s.kept? root way) =
      if s.excludes ("/".intercalate (way ++ [name])) (Path.under root (way ++ [name])) name then []
      else places.filterMap (s.kept? root (way ++ [name])) := by
  rw [List.filterMap_map]
  refine (List.filterMap_congr fun p _ => kept?_cons name p).trans ?_
  split
  · exact List.filterMap_none places
  · rfl

theorem below_intercalate (hway : ∀ n ∈ way, n ≠ "") (name : String) :
    below ("/".intercalate way) name = "/".intercalate (way ++ [name]) := by
  cases way with
  | nil => rfl
  | cons first rest =>
      have hne : "/".intercalate (first :: rest) ≠ "" := by
        have hfirst := hway first List.mem_cons_self
        cases rest with
        | nil => simpa using hfirst
        | cons => simp [String.intercalate_cons_cons, hfirst]
      have hempty : ("/".intercalate (first :: rest)).isEmpty = false := by simpa using hne
      rw [below, hempty, if_neg Bool.false_ne_true,
        String.intercalate_append_of_ne_nil (List.cons_ne_nil _ _) (List.cons_ne_nil _ _),
        String.intercalate_singleton]

/-- The place can be looked up. -/
def Readable (path : Path) : Prop := Text.byteLength path.toList ≤ FileTree.maxPathBytes

instance (path : Path) : Decidable (Readable path) := inferInstanceAs (Decidable (_ ≤ _))

theorem opening_of_readable {path : Path} (h : Readable path) (inside : Walked) :
    Walked.opening path inside = inside := if_neg (Nat.not_lt.mpr h)

mutual

theorem filesOf_eq : ∀ {node : Node} {way : List String}, node.isNamed = true →
    (∀ n ∈ way, n ≠ "") → (∀ p ∈ Node.placesOf node, Readable (Path.under root (way ++ p.1))) →
    s.filesOf ("/".intercalate way) (Path.under root way) node =
      ⟨((Node.placesOf node).filterMap (s.kept? root way)).map (foundAt root), none⟩
  | .file n, way, _, _, hread => by
      have hself := hread _ (Node.self_mem_placesOf _)
      rw [List.append_nil] at hself
      rw [filesOf, opening_of_readable hself]
      simp [Node.placesOf, kept?, passes, foundAt]
  | .directory entries, way, hnamed, hway, hread => by
      have hself := hread _ (Node.self_mem_placesOf _)
      rw [List.append_nil] at hself
      rw [filesOf, opening_of_readable hself,
        filesIn_eq hnamed hway fun p hp => hread p (List.mem_cons_of_mem _ hp), Node.placesOf]
      rfl
  | .symlink _, _, _, _, _ | .special, _, _, _, _ => rfl

theorem filesIn_eq : ∀ {entries : List (String × Node)} {way : List String},
    Node.areNamed entries = true → (∀ n ∈ way, n ≠ "") →
    (∀ p ∈ Node.placesIn entries, Readable (Path.under root (way ++ p.1))) →
    s.filesIn ("/".intercalate way) (Path.under root way) entries =
      ⟨((Node.placesIn entries).filterMap (s.kept? root way)).map (foundAt root), none⟩
  | [], _, _, _, _ => rfl
  | (name, node) :: rest, way, hnamed, hway, hread => by
      simp only [Node.areNamed, Bool.and_eq_true, decide_eq_true_eq] at hnamed
      obtain ⟨⟨⟨hname, -⟩, hnode⟩, hrest⟩ := hnamed
      simp only [Node.placesIn, List.forall_mem_append, List.forall_mem_map] at hread
      have hjoin : Path.join (Path.under root way) name = Path.under root (way ++ [name]) := by
        rw [Path.under, Path.under, List.foldl_append]
        rfl
      rw [filesIn, hjoin, below_intercalate hway, filesIn_eq hrest hway hread.2, Node.placesIn,
        List.filterMap_append, filterMap_kept?_cons]
      split
      · rw [List.nil_append]
      · have hway' : ∀ n ∈ way ++ [name], n ≠ "" :=
          List.forall_mem_append.mpr ⟨hway, List.forall_mem_singleton.mpr hname⟩
        rw [filesOf_eq hnode hway' (by simpa using hread.1), List.map_append]
        rfl

end

end Walking

end Scanner

/-! ## 3. What is at the root -/

namespace FileTree

variable {t : FileTree} {p : Path} {node : Node}

/-- Unless a link at the very end is followed, the way is the same. -/
theorem walk_unfollowed {links : Nat} {way found : Way} {todo : List Path.Component}
    (h : walk true links way todo = .ok found) :
    walk false links way todo = .ok found ∨
      ∃ name target outer, walk false links way todo = .ok ((name, .symlink target) :: outer) := by
  fun_induction walk true links way todo with
  | case1 | case6 | case8 | case11 => cases h
  | case2 links last outer =>
      cases h
      exact .inl (by rw [walk])
  | case3 links here outer rest entries ih | case4 links here outer rest entries ih =>
      rw [walk]
      exact ih h
  | case5 links here outer rest entries ih =>
      rw [walk]
      simpa using ih h
  | case7 links here outer rest entries s target hchild hlast => simp at hlast
  | case9 here outer rest entries s target hchild hlast links ih =>
      simp only [walk, hchild]
      split
      · exact .inr ⟨_, _, _, rfl⟩
      · exact ih h
  | case10 links here outer rest entries s inner hlink hchild ih =>
      simp only [walk, hchild]
      exact ih h

/-- What is found is found at a path that can be looked up. -/
theorem admissible_of_find {follow : Bool} (h : t.find follow p = .ok node) : Admissible p := by
  by_cases hp : Admissible p
  · exact hp
  · have hway : ∃ f, t.wayTo follow p = .error f := by
      simp only [wayTo]
      split_ifs with hnul hempty hlong
      · exact ⟨_, rfl⟩
      · exact ⟨_, rfl⟩
      · exact ⟨_, rfl⟩
      · exact absurd ⟨by simpa using hempty, by simpa using hnul, Nat.not_lt.mp hlong⟩ hp
    obtain ⟨f, hf⟩ := hway
    rw [find, hf] at h
    cases h

/-- **What a path leads to is there itself, or a link is.** -/
theorem find_unfollowed (h : t.find true p = .ok node) :
    t.find false p = .ok node ∨ ∃ target, t.find false p = .ok (.symlink target) := by
  have hp := admissible_of_find h
  rw [find, wayTo_of_admissible hp] at h ⊢
  split at h
  case h_2 | h_3 => cases h
  case h_1 hway =>
    cases h
    rcases walk_unfollowed hway with hsame | ⟨_, target, _, hlink⟩
    · rw [hsame]
      exact .inl rfl
    · rw [hlink]
      exact .inr ⟨target, rfl⟩

end FileTree

/-! ## 4. Scans -/

namespace Scanner

/-- **A walk comes to the files that are kept**, and to its end. -/
theorem walk_eq {s : Scanner} {t : FileTree} {root : Path} {entries : Entries}
    (hroot : t.find true root = .ok (.directory entries)) (hnamed : Node.areNamed entries = true)
    (hread : ∀ p ∈ Node.placesIn entries, Readable (Path.under root p.1)) :
    s.walk t root =
      ⟨((Node.placesIn entries).filterMap (s.kept? root [])).map (foundAt root), none⟩ := by
  have hin : s.filesIn "" root entries = _ := @filesIn_eq s root entries [] hnamed (by simp) hread
  rw [← hin, walk]
  rcases FileTree.find_unfollowed hroot with hsame | ⟨target, hlink⟩
  · rw [hsame]
    show s.filesOf "" root (.directory entries) = s.filesIn "" root entries
    rw [filesOf, opening_of_readable (FileTree.admissible_of_find hroot).2.2]
  · simp only [hlink, hroot]

section Threads

variable {β : Type} (s : Scanner) (t : FileTree) (root : Path) (cancelled : Bool)
  (process : Found → β)

/-- When all threads have ended each file that the walk came to was processed once. -/
theorem perm_of_scanUnder_ended {schedule : List Move}
    (h : (s.scanUnder t root cancelled process schedule).ended = true) :
    (s.scanUnder t root cancelled process schedule).results.Perm
      ((s.walkOf t root cancelled).files.map process) :=
  ((Pool.accounts_start process _ s.workers).run schedule).perm_of_ended s.workers_pos h

/-- Wherever the threads are, all can end. -/
theorem exists_scanUnder_ended (schedule : List Move) :
    ∃ more, (s.scanUnder t root cancelled process (schedule ++ more)).ended = true := by
  have hbooks := (Pool.accounts_start process (s.walkOf t root cancelled).files s.workers).run schedule
  obtain ⟨more, hmore⟩ := hbooks.exists_ended s.workers_pos
  exact ⟨more, by rw [scanUnder, Pool.run_append]; exact hmore⟩

/-- A scan delivers the results in the order of the walk. -/
theorem scan_results : (s.scan t root cancelled process).results =
    (s.walkOf t root cancelled).files.map process := by
  rw [scan, scanUnder, Pool.run_inTurn s.workers_pos]

end Threads

section Kept

variable {patterns : List String} {s : Scanner} {root : Path} {entries : Entries}
  (hout : ∀ relative path name : String, s.excludes relative path name = true ↔
    ∃ p ∈ patterns, Glob.Matches p relative ∨ Glob.Matches p path ∨ Glob.Matches p name)
include hout

/-- A way is passed if nothing on it is left out. -/
theorem passes_iff_not_leftOut {names : List String} :
    s.passes root [] names = true ↔
      ∀ front, front ≠ [] → front <+: names → ¬ LeftOut patterns root front := by
  have hlast : ∀ front name, LeftOut patterns root (front ++ [name]) ↔
      s.excludes ("/".intercalate (front ++ [name])) (Path.under root (front ++ [name])) name =
        true := by
    intro front name
    rw [hout, LeftOut]
    simp
  rw [passes_iff]
  constructor
  · rintro h front hne ⟨back, rfl⟩ hleft
    obtain ⟨front, name, rfl⟩ := (List.eq_nil_or_concat' front).resolve_left hne
    have hkept := h front name back (by simp)
    rw [hlast] at hleft
    exact absurd hleft (by simpa using hkept)
  · rintro h front name back rfl
    have hkept := h (front ++ [name]) (by simp) ⟨back, by simp⟩
    simpa [hlast] using hkept

/-- **The files that are kept**: each once those below the root that nothing on the way to them
    leaves out. -/
theorem exists_kept (hnamed : Node.areNamed entries = true) :
    ∃ files : List (List String × Nat),
      files = (Node.placesIn entries).filterMap (s.kept? root []) ∧ files.Nodup ∧
        ∀ names n, (names, n) ∈ files ↔ Node.Holds entries names (.file n) ∧
          ∀ front, front ≠ [] → front <+: names → ¬ LeftOut patterns root front := by
  have hkept : ∀ p names n, s.kept? root [] p = some (names, n) ↔
      p = (names, .file n) ∧ s.passes root [] names = true := by
    rintro ⟨names, node⟩ names' n
    cases node with
    | file m =>
        rw [kept?, Option.ite_none_right_eq_some]
        constructor
        · rintro ⟨hpass, ⟨⟩⟩
          exact ⟨rfl, hpass⟩
        · rintro ⟨⟨⟩, hpass⟩
          exact ⟨hpass, rfl⟩
    | directory | symlink | special => simp [kept?]
  refine ⟨_, rfl, (Node.nodup_placesIn hnamed).filterMap fun p q file hp hq => ?_, fun names n => ?_⟩
  · rw [((hkept p file.1 file.2).mp hp).1, ((hkept q file.1 file.2).mp hq).1]
  · rw [List.mem_filterMap, ← passes_iff_not_leftOut hout, ← Node.mem_placesIn_iff]
    simp [hkept]

end Kept

section Scans

variable {workers : Nat} {patterns : List String} {t : FileTree} {root : Path} {entries : Entries}

/-- **A scan processes every file once.** Below a root that is a directory, a scanner with workers
    and with patterns that make sense comes, whatever the order in which the walker and the workers
    move, to one result for each regular file that lies there, not behind a link, with neither itself
    nor a directory on the way left out by a pattern; and to nothing else, once all have ended, which
    they can from wherever they are. -/
theorem scan_processes_each_file_once (hworkers : 0 < workers)
    (hpatterns : ∀ p ∈ patterns, ∃ tokens, Glob.parse p = .ok tokens)
    (hroot : t.find true root = .ok (.directory entries)) (hnamed : Node.areNamed entries = true)
    (hread : ∀ names node, Node.Holds entries names node → Readable (Path.under root names)) :
    ∃ s, make workers patterns = .ok s ∧ ∃ files : List (List String × Nat), files.Nodup ∧
      (∀ names n, (names, n) ∈ files ↔ Node.Holds entries names (.file n) ∧
        ∀ front, front ≠ [] → front <+: names → ¬ LeftOut patterns root front) ∧
      ∀ {β : Type} (process : Found → β),
        (s.scan t root false process).failure = none ∧
        (s.scan t root false process).results.Perm
          (files.map fun f => process (foundAt root f)) ∧
        ∀ schedule,
          (∃ more, (s.scanUnder t root false process (schedule ++ more)).ended = true) ∧
          ((s.scanUnder t root false process schedule).ended = true →
            (s.scanUnder t root false process schedule).results.Perm
              (files.map fun f => process (foundAt root f))) := by
  obtain ⟨s, hmake, rfl, hout⟩ := exists_make hworkers hpatterns
  obtain ⟨files, hfiles, hnodup, hmem⟩ := @exists_kept patterns s root entries hout hnamed
  have hwalk : s.walkOf t root false = ⟨files.map (foundAt root), none⟩ := by
    rw [hfiles]
    exact walk_eq hroot hnamed fun p hp => hread _ _ (Node.mem_placesIn_iff.mp hp)
  refine ⟨s, hmake, files, hnodup, hmem, fun process => ?_⟩
  have hfound : (s.walkOf t root false).files.map process =
      files.map fun f => process (foundAt root f) := by
    rw [hwalk, List.map_map]
    rfl
  refine ⟨by rw [scan, hwalk], ?_, fun schedule =>
    ⟨s.exists_scanUnder_ended t root false process schedule, ?_⟩⟩
  · rw [scan_results, hfound]
  · rw [← hfound]
    exact s.perm_of_scanUnder_ended t root false process

end Scans

/-! ## 5. A directory with everything in it -/

/-- Files with two names for one of them, what is left out, a link and a pipe. -/
def mixedEntries : Entries :=
  [("a.txt", .file 0), (".git", .directory [("config", .file 1)]),
    ("sub", .directory [("b.tmp", .file 2), ("c", .file 0), ("up", .symlink "..")]), ("pipe", .special)]

theorem scan_processes_each_file_of_mixed :
    let t : FileTree := ⟨[("d", .directory mixedEntries)], [], []⟩
    let patterns := [".git", "*.tmp"]
    0 < 2 ∧ (∀ p ∈ patterns, ∃ tokens, Glob.parse p = .ok tokens) ∧
      t.find true "d" = .ok (.directory mixedEntries) ∧ Node.areNamed mixedEntries = true ∧
      (∀ names node, Node.Holds mixedEntries names node → Readable (Path.under "d" names)) ∧
      ∃ s, make 2 patterns = .ok s ∧ ∃ files : List (List String × Nat), files.Nodup ∧
        (∀ names n, (names, n) ∈ files ↔ Node.Holds mixedEntries names (.file n) ∧
          ∀ front, front ≠ [] → front <+: names → ¬ LeftOut patterns "d" front) ∧
        ∀ {β : Type} (process : Found → β),
          (s.scan t "d" false process).failure = none ∧
          (s.scan t "d" false process).results.Perm
            (files.map fun f => process (foundAt "d" f)) ∧
          ∀ schedule,
            (∃ more, (s.scanUnder t "d" false process (schedule ++ more)).ended = true) ∧
            ((s.scanUnder t "d" false process schedule).ended = true →
              (s.scanUnder t "d" false process schedule).results.Perm
                (files.map fun f => process (foundAt "d" f))) := by
  intro t patterns
  have hpatterns : ∀ p ∈ patterns, ∃ tokens, Glob.parse p = .ok tokens := by
    simp only [patterns, List.forall_mem_cons]
    exact ⟨⟨_, rfl⟩, ⟨_, rfl⟩, by simp⟩
  have hsteps : FileTree.steps "d" = ["d"].map .name := by decide
  have hroot : t.find true "d" = .ok (.directory mixedEntries) :=
    FileTree.find_of_along (by decide) hsteps rfl fun target h => by cases h
  have hread : ∀ p ∈ Node.placesIn mixedEntries, Readable (Path.under "d" p.1) := by
    decide +kernel
  have hread' : ∀ names node, Node.Holds mixedEntries names node → Readable (Path.under "d" names) :=
    fun names node h => hread (names, node) h.mem_placesIn
  exact ⟨by decide, hpatterns, hroot, by decide, hread',
    scan_processes_each_file_once (by decide) hpatterns hroot (by decide) hread'⟩

/-- Two names of one file are two files that are found. -/
example : (make 2 [".git", "*.tmp"]).toOption.map (fun s => (s.filesIn "" "d" mixedEntries).files) =
    some [⟨"d/a.txt", 0⟩, ⟨"d/sub/c", 0⟩] := by decide +kernel

end Scanner

end LabIndex
