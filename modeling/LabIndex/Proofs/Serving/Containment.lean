import LabIndex.Proofs.Serving.Places

/-!
# What stays below a content root

The places of a file are made by joining parts to a root: the two directories that its identifier
names, and the identifier itself, as it is or with an extension. Joining goes on where the root ends
as long as a part is relative; a part from the top of the file system stands for all before it, and two
dots in a part lead back. Identifiers are any texts, so both can happen, in the directories as well as
in the name.

* `Path.moves_join`: joining goes on where the first path ends;
* `Path.moves_under`, `Path.under_of_absolute`: parts below a root, relative and absolute ones;
* `Path.below_under`, `Path.descends_of_below`: the parts that stay below a root;
* `ContentStore.paths_below_iff`: the identifiers whose places stay below the roots, whatever these
  are, and `ContentStore.resolvePath_not_below`: not all identifiers are such.
-/

namespace LabIndex

namespace Path

/-! ## 1. Steps that lead somewhere -/

/-- The steps of a path that lead somewhere; a dot does not. -/
def moves (p : Path) : List Component := p.components.filter (· ≠ .current)

/-- The steps that pieces behind a slash stand for. -/
def stepsOf (pieces : List String) : List Component := pieces.filterMap (componentOf false)

theorem componentOf_ne_root (isFirst : Bool) (piece : String) :
    componentOf isFirst piece ≠ some .root := by
  simp only [componentOf]
  split_ifs <;> simp

theorem componentOf_ne_current (piece : String) : componentOf false piece ≠ some .current := by
  simp only [componentOf]
  split_ifs <;> simp_all

theorem componentOf_eq_parent_iff {isFirst : Bool} {piece : String} :
    componentOf isFirst piece = some .parent ↔ piece = ".." := by
  simp only [componentOf]
  split_ifs <;> simp_all

/-- Where a dot stands does not matter to the steps that lead somewhere. -/
theorem filter_componentOf (isFirst : Bool) (piece : String) :
    (componentOf isFirst piece).toList.filter (· ≠ .current) = (componentOf false piece).toList := by
  by_cases hdot : piece = "."
  · subst hdot
    cases isFirst <;> rfl
  · have hsame : componentOf isFirst piece = componentOf false piece := by
      simp only [componentOf, if_neg hdot]
    rw [hsame]
    cases hc : componentOf false piece with
    | none => rfl
    | some c =>
        have hne : c ≠ .current := fun e => componentOf_ne_current piece (hc.trans (congrArg some e))
        simp [hne]

theorem filter_stepsOf (pieces : List String) :
    (stepsOf pieces).filter (· ≠ .current) = stepsOf pieces := by
  rw [List.filter_eq_self]
  intro c hc
  obtain ⟨piece, -, hpiece⟩ := List.mem_filterMap.mp hc
  rw [decide_eq_true_iff]
  rintro rfl
  exact componentOf_ne_current piece hpiece

section Moves

variable {base part root p : Path} {parts : List String}

theorem components_of_split {first : String} {rest : List String}
    (h : Text.split '/' p = first :: rest) :
    p.components = (if p.isAbsolute then some .root else componentOf true first).toList ++
      stepsOf rest := by
  rw [components, h]
  rfl

theorem split_append (p q : String) :
    Text.split '/' (p ++ "/" ++ q) = Text.split '/' p ++ Text.split '/' q := by
  have hchars : (p ++ "/" ++ q).toList = p.toList ++ '/' :: q.toList := by
    simp [String.toList_append]
  rw [Text.split, hchars, Text.pieces_append, List.map_append]
  rfl

theorem split_slash (p : String) : Text.split '/' (p ++ "/") = Text.split '/' p ++ [""] := by
  have h := split_append p ""
  rwa [String.append_empty] at h

theorem isAbsolute_append (h : base ≠ "") (q : String) : isAbsolute (base ++ q) = base.isAbsolute := by
  have hne : base.toList ≠ [] := by simpa using h
  obtain ⟨c, cs, hc⟩ := List.exists_cons_of_ne_nil hne
  rw [isAbsolute, isAbsolute, String.toList_append, hc, List.cons_append, List.head?_cons,
    List.head?_cons]

/-- **A path moves to the root if it is absolute, and on by its pieces.** -/
theorem moves_eq (p : Path) :
    p.moves = (if p.isAbsolute then [.root] else []) ++ stepsOf (Text.split '/' p) := by
  obtain ⟨first, rest, hpieces⟩ := List.exists_cons_of_ne_nil (Text.pieces_ne_nil '/' p.toList)
  have hsplit : Text.split '/' p = String.ofList first :: rest.map String.ofList := by
    rw [Text.split, hpieces, List.map_cons]
  have hsteps : ∀ piece rest, stepsOf (piece :: rest) =
      (componentOf false piece).toList ++ stepsOf rest := by
    intro piece rest
    rw [stepsOf, stepsOf, List.filterMap_cons]
    cases componentOf false piece <;> rfl
  rw [moves, components_of_split hsplit, hsplit, List.filter_append, hsteps, filter_stepsOf]
  cases habs : p.isAbsolute with
  | false => rw [if_neg Bool.false_ne_true, if_neg Bool.false_ne_true, filter_componentOf,
      List.nil_append]
  | true =>
      -- nothing stands before the first slash
      have hfirst : first = [] := by
        obtain ⟨cs, hcs⟩ := List.head?_eq_some_iff.mp (by simpa [isAbsolute] using habs)
        rw [hcs, Text.pieces, if_pos rfl] at hpieces
        exact (List.cons.inj hpieces).1.symm
      rw [hfirst]
      rfl

/-- Behind a slash a path goes on by its pieces. -/
theorem moves_slash_append (base part : String) :
    moves (base ++ "/" ++ part) = moves (base ++ "/") ++ stepsOf (Text.split '/' part) := by
  have hne : base ++ "/" ≠ "" := by simp
  rw [moves_eq, moves_eq (base ++ "/"), isAbsolute_append hne, split_append, split_slash]
  simp only [stepsOf, List.filterMap_append, List.append_assoc]
  rfl

/-- A slash at the end is no step. -/
theorem moves_slash (h : base ≠ "") : moves (base ++ "/") = base.moves := by
  rw [moves_eq, moves_eq base, isAbsolute_append h, split_slash]
  simp only [stepsOf, List.filterMap_append]
  exact congrArg _ (List.append_nil _)

/-- **Joining goes on where the first path ends.** -/
theorem moves_join (h : part.isAbsolute = false) :
    (base.join part).moves = base.moves ++ part.moves := by
  have hpart : part.moves = stepsOf (Text.split '/' part) := by
    rw [moves_eq, h]
    rfl
  rw [join, h, if_neg Bool.false_ne_true]
  by_cases hempty : base = ""
  · subst hempty
    exact congrArg moves String.empty_append
  · by_cases hlast : base.toList.getLast? = some '/'
    · obtain ⟨cs, hcs⟩ := List.getLast?_eq_some_iff.mp hlast
      have hbase : base = String.ofList cs ++ "/" := by
        rw [← String.toList_inj, String.toList_append, String.toList_ofList, hcs]
        rfl
      rw [if_pos (by simp [hlast]), hbase, moves_slash_append, hpart]
    · rw [if_neg (by simp [hempty, hlast]), moves_slash_append, moves_slash hempty, hpart]

/-- Only an absolute path moves to the root. -/
theorem root_mem_moves_iff : .root ∈ p.moves ↔ p.isAbsolute = true := by
  have hsteps : .root ∉ stepsOf (Text.split '/' p) := by
    intro hroot
    obtain ⟨piece, -, hpiece⟩ := List.mem_filterMap.mp hroot
    exact componentOf_ne_root false piece hpiece
  rw [moves_eq]
  cases p.isAbsolute <;> simp [hsteps]

/-- A path moves back where one of its pieces is two dots. -/
theorem parent_mem_moves_iff : .parent ∈ p.moves ↔ ".." ∈ Text.split '/' p := by
  have hsteps : .parent ∈ stepsOf (Text.split '/' p) ↔ ".." ∈ Text.split '/' p := by
    rw [stepsOf, List.mem_filterMap]
    simp only [componentOf_eq_parent_iff, exists_eq_right]
  rw [moves_eq]
  cases p.isAbsolute <;> simp [hsteps]

theorem isAbsolute_join (base part : Path) :
    (base.join part).isAbsolute = (base.isAbsolute || part.isAbsolute) := by
  cases hpart : part.isAbsolute with
  | true => rw [join_absolute hpart, hpart, Bool.or_true]
  | false =>
      have hmoves : .root ∈ (base.join part).moves ↔ .root ∈ base.moves := by
        rw [moves_join hpart, List.mem_append, root_mem_moves_iff (p := part), hpart]
        simp
      rw [root_mem_moves_iff, root_mem_moves_iff] at hmoves
      rw [Bool.or_false, Bool.eq_iff_iff, hmoves]

/-! ## 2. Parts below a root -/

/-- Parts joined to a root, one below the other. -/
def under (root : Path) (parts : List String) : Path := parts.foldl join root

theorem under_cons (root : Path) (part : String) (rest : List String) :
    under root (part :: rest) = under (root.join part) rest := rfl

/-- **Relative parts add their steps.** -/
theorem moves_under (h : ∀ part ∈ parts, isAbsolute part = false) :
    (under root parts).moves = root.moves ++ parts.flatMap moves := by
  induction parts generalizing root with
  | nil => simp [under]
  | cons part rest ih =>
      rw [List.forall_mem_cons] at h
      rw [under_cons, ih h.2, moves_join h.1, List.flatMap_cons, List.append_assoc]

/-- **An absolute part stands for all before it**, the root among them. -/
theorem under_of_absolute (h : isAbsolute part = true) (before after : List String) :
    under root (before ++ part :: after) = under part after := by
  rw [under, List.foldl_append, List.foldl_cons, join_absolute h]
  rfl

theorem isAbsolute_under (root : Path) (parts : List String) :
    (under root parts).isAbsolute = (root.isAbsolute || parts.any isAbsolute) := by
  induction parts generalizing root with
  | nil => simp [under]
  | cons part rest ih => rw [under_cons, ih, isAbsolute_join, List.any_cons, Bool.or_assoc]

/-- A path is below another: it goes on from it, neither back nor to the root. -/
def Below (root p : Path) : Prop :=
  ∃ steps, p.moves = root.moves ++ steps ∧ .root ∉ steps ∧ .parent ∉ steps

/-- Whether a path is below another shows in what it adds. -/
theorem below_iff : Below root p ↔ root.moves <+: p.moves ∧
    .root ∉ p.moves.drop root.moves.length ∧ .parent ∉ p.moves.drop root.moves.length := by
  constructor
  · rintro ⟨steps, hmoves, hsteps⟩
    rw [hmoves, List.drop_left]
    exact ⟨⟨steps, rfl⟩, hsteps⟩
  · rintro ⟨⟨steps, hmoves⟩, hsteps⟩
    rw [← hmoves, List.drop_left] at hsteps
    exact ⟨steps, hmoves.symm, hsteps⟩

instance (root p : Path) : Decidable (Below root p) := decidable_of_iff _ below_iff.symm

/-- A part leads down from wherever it is joined: it is relative, and no piece of it is two dots. -/
def Descends (part : String) : Prop := isAbsolute part = false ∧ ".." ∉ Text.split '/' part

instance (part : String) : Decidable (Descends part) := inferInstanceAs (Decidable (_ ∧ _))

/-- **Parts that lead down stay below the root.** -/
theorem below_under (root : Path) (h : ∀ part ∈ parts, Descends part) :
    Below root (under root parts) := by
  refine ⟨parts.flatMap moves, moves_under fun part hpart => (h part hpart).1, ?_, ?_⟩
  · intro hroot
    obtain ⟨part, hpart, hmem⟩ := List.mem_flatMap.mp hroot
    rw [root_mem_moves_iff, (h part hpart).1] at hmem
    cases hmem
  · intro hparent
    obtain ⟨part, hpart, hmem⟩ := List.mem_flatMap.mp hparent
    exact (h part hpart).2 (parent_mem_moves_iff.mp hmem)

/-- **No other parts stay below a relative root.** Under an absolute one some do, by naming it. -/
theorem descends_of_below (hroot : root.isAbsolute = false) (h : Below root (under root parts)) :
    ∀ part ∈ parts, Descends part := by
  obtain ⟨steps, hmoves, hnoRoot, hnoParent⟩ := h
  have hrelative : (under root parts).isAbsolute = false := by
    rw [Bool.eq_false_iff, Ne, ← root_mem_moves_iff, hmoves, List.mem_append, not_or,
      root_mem_moves_iff, hroot]
    exact ⟨Bool.false_ne_true, hnoRoot⟩
  rw [isAbsolute_under, hroot, Bool.false_or, List.any_eq_false] at hrelative
  simp only [Bool.not_eq_true] at hrelative
  rw [moves_under hrelative, List.append_cancel_left_eq] at hmoves
  intro part hpart
  refine ⟨hrelative part hpart, fun hdots => hnoParent ?_⟩
  rw [← hmoves]
  exact List.mem_flatMap.mpr ⟨part, hpart, parent_mem_moves_iff.mpr hdots⟩

/-- A part that leads down does so with an extension too. -/
theorem Descends.append {ext : String} (h : Descends part) (hne : part ≠ "")
    (hslash : '/' ∉ ext.toList) (hlong : 2 < ext.toList.length) : Descends (part ++ ext) := by
  obtain ⟨before, last, hpart, hall⟩ := Text.exists_pieces_append hslash part.toList
  refine ⟨(isAbsolute_append hne ext).trans h.1, fun hdots => ?_⟩
  rw [Text.split, String.toList_append, hall, List.map_append, List.mem_append] at hdots
  rcases hdots with hdots | hdots
  · refine h.2 ?_
    rw [Text.split, hpart, List.map_append]
    exact List.mem_append_left _ hdots
  · -- the last piece has become too long to be two dots
    have hlast := congrArg (fun s => s.toList.length) (List.mem_singleton.mp hdots)
    simp at hlast
    omega

end Moves

end Path

/-! ## 3. Places -/

theorem ne_empty_of_shards? {id : String} {names : String × String} (h : shards? id = some names) :
    id ≠ "" := by
  rintro rfl
  cases h

namespace ContentStore

open LabIndex.Path

/-- The place of parts below the directory of an identifier. -/
def placeOf (root : Path) (id : String) (behind : List String) : Except Failure Path :=
  (shardDirectory root id).map fun directory => under directory behind

/-- The parts that the identifier puts in a place all lead down. -/
def Contained (id : String) (behind : List String) : Prop :=
  ∀ names ∈ shards? id, ∀ part ∈ names.1 :: names.2 :: behind, Descends part

instance (id : String) (behind : List String) : Decidable (Contained id behind) :=
  inferInstanceAs (Decidable (∀ names ∈ shards? id, _))

section Containment

variable {s : ContentStore} {root : Path} {id : String} {behind : List String} {p : Path}

theorem placeOf_eq_ok_iff : placeOf root id behind = .ok p ↔
    ∃ names ∈ shards? id, p = under root (names.1 :: names.2 :: behind) := by
  rw [placeOf, shardDirectory]
  cases shards? id with
  | none => simp [Except.map]
  | some names => simp [Except.map, under_cons, eq_comm]

/-- **What is contained stays below every root.** -/
theorem Contained.below (h : Contained id behind) (hp : placeOf root id behind = .ok p) :
    Below root p := by
  obtain ⟨names, hnames, rfl⟩ := placeOf_eq_ok_iff.mp hp
  exact below_under root (h names hnames)

/-- What stays below one relative root is contained. -/
theorem contained_of_below (hroot : root.isAbsolute = false)
    (h : ∀ p, placeOf root id behind = .ok p → Below root p) : Contained id behind :=
  fun names hnames =>
    descends_of_below hroot (h _ (placeOf_eq_ok_iff.mpr ⟨names, hnames, rfl⟩))

/-- The preview of what is contained is so, too. -/
theorem Contained.rendition (h : Contained id [id]) {ext : String} (hslash : '/' ∉ ext.toList)
    (hlong : 2 < ext.toList.length) : Contained id [conversionDirectory, id ++ ext] := by
  intro names hnames
  have hparts := h names hnames
  simp only [List.forall_mem_cons] at hparts ⊢
  obtain ⟨hfirst, hsecond, hid, hnone⟩ := hparts
  exact ⟨hfirst, hsecond, by decide,
    hid.append (ne_empty_of_shards? hnames) hslash hlong, hnone⟩

/-- Bytes are looked for at their place on one of the roots. -/
theorem exists_root_of_locate {isThere : Path → Bool} {identity : FileIdentity}
    (h : s.locate isThere identity = .ok p) :
    ∃ root ∈ s.roots, placeOf root identity.effective [identity.effective] = .ok p := by
  cases hshards : shards? identity.effective with
  | none =>
      rw [locate, roots, locateIn, shardDirectory, hshards] at h
      cases h
  | some names =>
      obtain ⟨first, second⟩ := names
      have hplace : ∀ root, placeOf root identity.effective [identity.effective] =
          .ok (placeIn first second identity.effective root) :=
        fun root => placeOf_eq_ok_iff.mpr ⟨_, hshards, rfl⟩
      rw [locate_eq hshards] at h
      rw [← Except.ok.inj h]
      cases hfound : (s.roots.map (placeIn first second identity.effective)).find? isThere with
      | none => exact ⟨s.primary, List.mem_cons_self, hplace _⟩
      | some q =>
          obtain ⟨root, hroot, rfl⟩ := List.mem_map.mp (List.mem_of_find?_eq_some hfound)
          exact ⟨root, hroot, hplace root⟩

/-- What is served lies at the place of the bytes or at that of their preview. -/
theorem placeOf_of_resolvePath {mediaType usesId : String} {asStored : Bool} {r : ResolvedPath}
    (h : s.resolvePath id mediaType usesId asStored = .ok r) :
    let effective := (FileIdentity.of id usesId).effective
    placeOf s.primary effective [effective] = .ok r.path ∨
      placeOf s.primary effective [conversionDirectory, effective ++ ".jpg"] = .ok r.path := by
  rw [resolvePath] at h
  split at h
  · obtain ⟨p, hp, rfl⟩ := exists_of_map_eq_ok h
    exact .inr hp
  · obtain ⟨p, hp, rfl⟩ := exists_of_map_eq_ok h
    exact .inl hp

/-- A store with one root of its own, and no previews. -/
def plain : ContentStore := ⟨"data", [], []⟩

theorem contained_of_plain (h : ∀ p, placeOf plain.primary id behind = .ok p → Below plain.primary p) :
    Contained id behind := contained_of_below (by decide) h

end Containment

/-- **The identifiers whose places stay below the root** are those that put only relative parts
    without two dots into them. For these every place that is found, of the bytes, of a preview or of a
    PDF rendition, to be served or for text to be taken from, is below a root of the store, whatever the
    roots are; for every other identifier there is a store where it is not. -/
theorem paths_below_iff (id usesId mediaType : String) (asStored : Bool) :
    let effective := (FileIdentity.of id usesId).effective
    ((∀ (s : ContentStore) p, s.filePath id = .ok p → Below s.primary p) ↔ Contained id [id]) ∧
      ((∀ (s : ContentStore) p, s.conversionPath id = .ok p → Below s.primary p) ↔
        Contained id [conversionDirectory, id ++ ".jpg"]) ∧
      ((∀ (s : ContentStore) p, s.conversionPdfPath id = .ok p → Below s.primary p) ↔
        Contained id [conversionDirectory, id ++ ".pdf"]) ∧
      ((∀ (s : ContentStore) r, s.resolvePath id mediaType usesId asStored = .ok r →
        Below s.primary r.path) ↔ Contained effective [effective]) ∧
      ((∀ (s : ContentStore) isThere p, s.locate isThere (.of id usesId) = .ok p →
        ∃ root ∈ s.roots, Below root p) ↔ Contained effective [effective]) := by
  intro effective
  refine ⟨⟨fun h => contained_of_plain (h plain), fun h s p => h.below⟩,
    ⟨fun h => contained_of_plain (h plain), fun h s p => h.below⟩,
    ⟨fun h => contained_of_plain (h plain), fun h s p => h.below⟩,
    ⟨fun h => contained_of_plain fun p hp => ?_, fun h s r hr => ?_⟩,
    ⟨fun h => contained_of_plain fun p hp => ?_, fun h s isThere p hp => ?_⟩⟩
  · -- without previews the bytes themselves are served
    have hresolve : plain.resolvePath id mediaType usesId asStored = .ok ⟨p, mediaType⟩ := by
      have hfile : plain.filePath effective = .ok p := hp
      rw [resolvePath, isConvertible, plain, List.contains_nil, Bool.false_and,
        if_neg Bool.false_ne_true]
      exact congrArg (Except.map _) hfile
    exact h plain _ hresolve
  · rcases placeOf_of_resolvePath hr with hplace | hplace
    · exact h.below hplace
    · exact (h.rendition (by decide) (by decide)).below hplace
  · obtain ⟨root, hroot, hbelow⟩ := h plain (fun _ => true) p (locate_of_primary hp rfl)
    rwa [List.mem_singleton.mp hroot] at hbelow
  · obtain ⟨root, hroot, hplace⟩ := exists_root_of_locate hp
    exact ⟨root, hroot, h.below hplace⟩

example : Contained "abc-defg-456" ["abc-defg-456"] := by decide +kernel

/-- **An identifier can lead out of the root**: by two dots in the directories, by an alias from the top
    of the file system, or by two dots in the name, previews included. -/
theorem resolvePath_not_below :
    let s : ContentStore := ⟨"/mcdir", [], ["image/tiff"]⟩
    let leaves (id mediaType usesId : String) (asStored : Bool) (p : Path) : Prop :=
      (s.resolvePath id mediaType usesId asStored).map (·.path) = .ok p ∧ ¬ Below s.primary p
    leaves "a-....-b" "text/plain" "" true "/mcdir/../../a-....-b" ∧
      leaves "abc-defg-456" "text/plain" "/x-abcd-y" true "/x-abcd-y" ∧
      leaves "../x-abcd-y" "image/tiff" "" false "/mcdir/ab/cd/.conversion/../x-abcd-y.jpg" := by
  decide +kernel

end ContentStore

end LabIndex
