import LabIndex.Proofs.Serving.Answering

/-!
# Files that lie apart

For an identifier the store has up to three places below the root, two or more directories deep: that
of the bytes, that of a preview and that of a rendition; and for an upload it has a directory. Which of
them a path is can be told from the steps behind the root, as long as no identifier has a slash in it:
an upload is at most two steps away, the bytes are three and what is made from them is four, and the
last step is the identifier, with what has been put behind it. The directories of an identifier may
be two dots, so that places can lie outside the root, but a step back is a step.

* `Path.moves_of_noSlash`: a part without a slash is one step at most;
* `ContentStore.Leads`: the steps to each place, `ContentStore.leads_of_place`;
* `ContentStore.Leads.eq_or_uploads`: the steps tell what it is;
* `ContentStore.places_apart`: **two files lie in two places**, compared step by step.
-/

namespace LabIndex

open LabIndex.Path

/-! ## 1. Parts without a slash -/

/-- Pieces are made of what the text is made of. -/
theorem Text.mem_of_mem_pieces {sep c : Char} {piece cs : List Char} (h : piece ∈ Text.pieces sep cs)
    (hc : c ∈ piece) : c ∈ cs := by
  induction cs generalizing piece with
  | nil =>
      obtain rfl : piece = [] := List.mem_singleton.mp h
      exact hc
  | cons d rest ih =>
      obtain ⟨first, others, hpieces⟩ := List.exists_cons_of_ne_nil (Text.pieces_ne_nil sep rest)
      rw [hpieces] at ih
      by_cases hd : d = sep
      · rw [Text.pieces, if_pos hd, hpieces] at h
        rcases List.mem_cons.mp h with rfl | h
        · exact absurd hc List.not_mem_nil
        · exact List.mem_cons_of_mem _ (ih h hc)
      · rw [Text.pieces, if_neg hd, hpieces] at h
        rcases List.mem_cons.mp h with rfl | h
        · rcases List.mem_cons.mp hc with rfl | hc
          · exact List.mem_cons_self
          · exact List.mem_cons_of_mem _ (ih List.mem_cons_self hc)
        · exact List.mem_cons_of_mem _ (ih (List.mem_cons_of_mem _ h) hc)

namespace Path

section Parts

variable {part : Path} (h : '/' ∉ part.toList)
include h

theorem isAbsolute_of_noSlash : part.isAbsolute = false := by
  rw [isAbsolute, beq_eq_false_iff_ne]
  exact fun hhead => h (List.mem_of_mem_head? hhead)

/-- A part without a slash is the step that it stands for. -/
theorem moves_of_noSlash : part.moves = (componentOf false part).toList := by
  rw [moves_eq, isAbsolute_of_noSlash h, if_neg Bool.false_ne_true, List.nil_append, Text.split,
    Text.pieces_of_not_mem h, List.map_singleton, String.ofList_toList, stepsOf, List.filterMap_cons]
  cases componentOf false part <;> rfl

theorem moves_of_noSlash_of_dash (hdash : '-' ∈ part.toList) : part.moves = [.name part] := by
  have hne : ∀ other : String, '-' ∉ other.toList → part ≠ other := by
    rintro other hother rfl
    exact hother hdash
  rw [moves_of_noSlash h, componentOf, if_neg (hne "" (by decide)), if_neg (hne "." (by decide)),
    if_neg (hne ".." (by decide))]
  rfl

/-- Two bytes are a step, though it may be one back. -/
theorem exists_moves_of_twoBytes (hlen : Text.byteLength part.toList = 2) :
    ∃ step, part.moves = [step] := by
  have hne : ∀ other : String, Text.byteLength other.toList ≠ 2 → part ≠ other := by
    rintro other hother rfl
    exact hother hlen
  rw [moves_of_noSlash h, componentOf, if_neg (hne "" (by decide)), if_neg (hne "." (by decide))]
  split
  · exact ⟨_, rfl⟩
  · exact ⟨_, rfl⟩

end Parts

end Path

/-- The directories of an identifier without slashes have none, and the identifier has a dash. -/
theorem Sharded.noSlash {id first second : String} (h : Sharded id first second)
    (hslash : '/' ∉ id.toList) : '/' ∉ first.toList ∧ '/' ∉ second.toList := by
  obtain ⟨segment, rest, hsegment, rfl, -, -⟩ := h
  obtain ⟨piece, hpiece, hof⟩ := List.mem_map.mp (List.mem_of_getElem? hsegment)
  have hall : ∀ c ∈ (first ++ second ++ rest).toList, c ∈ id.toList := by
    intro c hc
    rw [← hof, String.toList_ofList] at hc
    exact Text.mem_of_mem_pieces hpiece hc
  constructor
  · intro hc
    exact hslash (hall _ (by simp [hc]))
  · intro hc
    exact hslash (hall _ (by simp [hc]))

theorem Sharded.dash {id first second : String} (h : Sharded id first second) : '-' ∈ id.toList := by
  obtain ⟨segment, rest, hsegment, -⟩ := h
  by_contra hdash
  rw [Text.split, Text.pieces_of_not_mem hdash] at hsegment
  cases hsegment

namespace ContentStore

/-! ## 2. Places and the steps to them -/

/-- What a content store has a place for. -/
inductive Stored where
  /-- The bytes of a file. -/
  | original (id : String)
  /-- A preview picture made from them. -/
  | preview (id : String)
  /-- A PDF rendition made from them. -/
  | rendition (id : String)
  /-- An upload in flight. -/
  | upload (id : String)
deriving DecidableEq, Repr

namespace Stored

/-- The identifier of a file or of an upload. -/
def id : Stored → String
  | original id | preview id | rendition id | upload id => id

/-- An upload, not a file. -/
def isUpload : Stored → Bool
  | upload _ => true
  | _ => false

end Stored

/-- The place of what is stored, on the primary root. -/
def place (s : ContentStore) : Stored → Except Failure Path
  | .original id => s.filePath id
  | .preview id => s.conversionPath id
  | .rendition id => s.conversionPdfPath id
  | .upload id => .ok (s.uploadDirectory id)

/-- The steps from the root to the place of what is stored. -/
inductive Leads : Stored → List Component → Prop where
  | original (id : String) (first second : Component) :
      Leads (.original id) [first, second, .name id]
  | preview (id : String) (first second : Component) :
      Leads (.preview id) [first, second, .name conversionDirectory, .name (id ++ ".jpg")]
  | rendition (id : String) (first second : Component) :
      Leads (.rendition id) [first, second, .name conversionDirectory, .name (id ++ ".pdf")]
  | upload (id : String) (rest : List Component) (short : rest.length ≤ 1) :
      Leads (.upload id) (.name "upload" :: rest)

/-- A preview has another name than a rendition. -/
theorem append_jpg_ne_append_pdf (id id' : String) : id ++ ".jpg" ≠ id' ++ ".pdf" := by
  intro h
  have hlast := congrArg (fun t => t.toList.getLast?) h
  simp [List.getLast?_append] at hlast

/-- **The steps tell what it is that lies there**, unless it is an upload. -/
theorem Leads.eq_or_uploads {x y : Stored} {steps steps' : List Component} (hx : Leads x steps)
    (hy : Leads y steps') (h : steps = steps') : x = y ∨ (x.isUpload ∧ y.isUpload) := by
  cases hx with
  | original id first second =>
      cases hy with
      | original =>
          cases h
          exact .inl rfl
      | preview | rendition => cases h
      | upload id' rest short =>
          cases h
          simp at short
  | preview id first second =>
      cases hy with
      | original => cases h
      | preview id' first' second' =>
          have hid : id ++ ".jpg" = id' ++ ".jpg" := by
            simpa using congrArg List.getLast? h
          exact .inl (congrArg _ ((String.append_left_inj _).mp hid))
      | rendition id' first' second' =>
          have hid : id ++ ".jpg" = id' ++ ".pdf" := by
            simpa using congrArg List.getLast? h
          exact absurd hid (append_jpg_ne_append_pdf id id')
      | upload id' rest short =>
          cases h
          simp at short
  | rendition id first second =>
      cases hy with
      | original => cases h
      | preview id' first' second' =>
          have hid : id ++ ".pdf" = id' ++ ".jpg" := by
            simpa using congrArg List.getLast? h
          exact absurd hid.symm (append_jpg_ne_append_pdf id' id)
      | rendition id' first' second' =>
          have hid : id ++ ".pdf" = id' ++ ".pdf" := by
            simpa using congrArg List.getLast? h
          exact .inl (congrArg _ ((String.append_left_inj _).mp hid))
      | upload id' rest short =>
          cases h
          simp at short
  | upload id rest short =>
      cases hy with
      | original | preview | rendition =>
          cases h
          simp at short
      | upload => exact .inr ⟨rfl, rfl⟩

section Places

variable {s : ContentStore} {x y : Stored} {p q : Path}

/-- Behind the two directories of an identifier there is a step for each part. -/
theorem exists_moves_of_placeOf {root : Path} {id : String} {behind : List String}
    (hslash : '/' ∉ id.toList) (hbehind : ∀ part ∈ behind, '/' ∉ part.toList)
    (hp : placeOf root id behind = .ok p) : '-' ∈ id.toList ∧
      ∃ first second, p.moves = root.moves ++ first :: second :: behind.flatMap moves := by
  obtain ⟨⟨first, second⟩, hnames, rfl⟩ := placeOf_eq_ok_iff.mp hp
  have hshards : Sharded id first second := shards?_eq_some_iff.mp hnames
  obtain ⟨hfirst, hsecond⟩ := hshards.noSlash hslash
  have hparts : ∀ part ∈ first :: second :: behind, '/' ∉ part.toList :=
    List.forall_mem_cons.mpr ⟨hfirst, List.forall_mem_cons.mpr ⟨hsecond, hbehind⟩⟩
  obtain ⟨-, -, -, -, hlen, hlen'⟩ := hshards
  obtain ⟨step, hstep⟩ := exists_moves_of_twoBytes hfirst hlen
  obtain ⟨step', hstep'⟩ := exists_moves_of_twoBytes hsecond hlen'
  refine ⟨(shards?_eq_some_iff.mp hnames).dash, step, step', ?_⟩
  rw [moves_under fun part hpart => isAbsolute_of_noSlash (hparts part hpart), List.flatMap_cons,
    List.flatMap_cons, hstep, hstep']
  rfl

/-- What is made from the bytes is one directory deeper. -/
theorem exists_moves_of_made {root : Path} {id ext : String} (hslash : '/' ∉ id.toList)
    (hext : '/' ∉ ext.toList) (hp : placeOf root id [conversionDirectory, id ++ ext] = .ok p) :
    ∃ first second,
      p.moves = root.moves ++ [first, second, .name conversionDirectory, .name (id ++ ext)] := by
  have hname : '/' ∉ (id ++ ext).toList := by simpa using ⟨hslash, hext⟩
  obtain ⟨hdash, first, second, hmoves⟩ := exists_moves_of_placeOf hslash
    (List.forall_mem_cons.mpr ⟨by decide, List.forall_mem_singleton.mpr hname⟩) hp
  refine ⟨first, second, ?_⟩
  rw [hmoves, List.flatMap_cons, List.flatMap_singleton,
    moves_of_noSlash_of_dash hname (by simp [hdash])]
  rfl

/-- **The place of what is stored is so many steps behind the root.** -/
theorem leads_of_place (hslash : '/' ∉ x.id.toList) (hp : s.place x = .ok p) :
    ∃ steps, Leads x steps ∧ p.moves = s.primary.moves ++ steps := by
  cases x with
  | original id =>
      change '/' ∉ id.toList at hslash
      have hplace : placeOf s.primary id [id] = .ok p := hp
      obtain ⟨hdash, first, second, hmoves⟩ :=
        exists_moves_of_placeOf hslash (List.forall_mem_singleton.mpr hslash) hplace
      refine ⟨_, .original id first second, ?_⟩
      rw [hmoves, List.flatMap_singleton, moves_of_noSlash_of_dash hslash hdash]
  | preview id =>
      have hplace : placeOf s.primary id [conversionDirectory, id ++ ".jpg"] = .ok p := hp
      obtain ⟨first, second, hmoves⟩ := exists_moves_of_made hslash (by decide) hplace
      exact ⟨_, .preview id first second, hmoves⟩
  | rendition id =>
      have hplace : placeOf s.primary id [conversionDirectory, id ++ ".pdf"] = .ok p := hp
      obtain ⟨first, second, hmoves⟩ := exists_moves_of_made hslash (by decide) hplace
      exact ⟨_, .rendition id first second, hmoves⟩
  | upload id =>
      change '/' ∉ id.toList at hslash
      obtain rfl : under s.primary ["upload", id] = p := Except.ok.inj hp
      have hparts : ∀ part ∈ ["upload", id], '/' ∉ part.toList :=
        List.forall_mem_cons.mpr ⟨by decide, List.forall_mem_singleton.mpr hslash⟩
      refine ⟨_, .upload id (moves id) ?_, ?_⟩
      · rw [moves_of_noSlash hslash]
        exact Option.length_toList_le
      · rw [moves_under fun part hpart => isAbsolute_of_noSlash (hparts part hpart),
          List.flatMap_cons, List.flatMap_singleton]
        rfl

/-- **Two files lie in two places.** -/
theorem places_apart (hx : '/' ∉ x.id.toList) (hy : '/' ∉ y.id.toList) (hp : s.place x = .ok p)
    (hq : s.place y = .ok q) (hfile : x.isUpload = false ∨ y.isUpload = false) :
    p.components = q.components ↔ x = y := by
  constructor
  · intro hsame
    obtain ⟨steps, hsteps, hmoves⟩ := leads_of_place hx hp
    obtain ⟨steps', hsteps', hmoves'⟩ := leads_of_place hy hq
    have heq : steps = steps' := by
      have hall : p.moves = q.moves := by rw [moves, moves, hsame]
      rwa [hmoves, hmoves', List.append_cancel_left_eq] at hall
    rcases hsteps.eq_or_uploads hsteps' heq with h | h
    · exact h
    · simp [h.1, h.2] at hfile
  · rintro rfl
    rw [Except.ok.inj (hp.symm.trans hq)]

end Places

/-- The bytes and the preview of a file whose directories are two dots. -/
theorem places_apart_dotted :
    let s : ContentStore := ⟨"/mcdir", [], []⟩
    let x := Stored.original "a-....-b"
    let y := Stored.preview "a-....-b"
    let p := "/mcdir/../../a-....-b"
    let q := "/mcdir/../../.conversion/a-....-b.jpg"
    '/' ∉ x.id.toList ∧ '/' ∉ y.id.toList ∧ s.place x = .ok p ∧ s.place y = .ok q ∧
      (x.isUpload = false ∨ y.isUpload = false) ∧
      (Path.components p = Path.components q ↔ x = y) := by
  intro s x y p q
  have hx : '/' ∉ x.id.toList := by decide
  have hp : s.place x = .ok p := by decide +kernel
  have hq : s.place y = .ok q := by decide +kernel
  exact ⟨hx, hx, hp, hq, .inl rfl, places_apart hx hx hp hq (.inl rfl)⟩

/-- Two uploads can share a directory. -/
example (s : ContentStore) (hs : s.primary = "/mcdir") :
    Path.components (s.uploadDirectory "") = Path.components (s.uploadDirectory ".") := by
  rw [uploadDirectory, uploadDirectory, hs]
  decide +kernel

end ContentStore

end LabIndex
