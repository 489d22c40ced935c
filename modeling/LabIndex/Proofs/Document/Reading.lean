import LabIndex.Proofs.Document.Ids
import LabIndex.Proofs.Json.Fields
import Mathlib.Data.List.Forall2

/-!
# Rows without a column

A record looks at the fields that it declares. So a row that loses a column is read as before,
where the record does not need that column; and so is a row in which the lists that were attached
to it hold rows that have lost it.

* `Json.without`, `Json.Sheds`: a row without a column, and one with lists of such rows;
* `Shape.Record.fault_eq_none_of`: what a record takes;
* `Document.read_leads`: a document's row may lose its contents column, and the documents are the
  same once text is added to them.
-/

namespace LabIndex

open Shape

/-! ## 1. Losing a column -/

namespace Json

/-- A row without a column. What is no object has no columns. -/
def without (column : String) : Json → Json
  | .obj fs => .obj (Fields.erase column fs)
  | v => v

theorem get?_without {column c : String} (h : c ≠ column) (v : Json) :
    (v.without column).get? c = v.get? c := by
  cases v with
  | obj fs => exact Fields.get?_erase_of_ne h fs
  | _ => rfl

theorem key_without {column c : String} (h : c ≠ column) (v : Json) :
    (v.without column).key c = v.key c := by
  rw [key, key, get?_without h]

/-- **A row that has lost a column**, and so have the rows in some lists that it holds. -/
structure Sheds (column : String) (lists : List String) (fs fs' : Fields) : Prop where
  ordered : Fields.Ordered fs
  ordered' : Fields.Ordered fs'
  gone : Fields.get? column fs' = none
  others : ∀ c, c ≠ column → c ∉ lists → Fields.get? c fs' = Fields.get? c fs
  inLists : ∀ c ∈ lists, ∃ items, Fields.get? c fs = some (.arr items) ∧
    Fields.get? c fs' = some (.arr (items.map (without column)))

theorem sheds_erase {column : String} {fs : Fields} (h : Fields.Ordered fs) :
    Sheds column [] fs (Fields.erase column fs) where
  ordered := h
  ordered' := Fields.ordered_erase h column
  gone := by rw [Fields.get?_erase, if_pos rfl]
  others c hc _ := Fields.get?_erase_of_ne hc fs
  inLists := by simp

end Json

/-! ## 2. What a record takes -/

namespace Shape

namespace Record

variable {r : Record} {fs fs' : Fields}

theorem firstFault_eq_none_iff {slots : List Slot} :
    firstFault slots fs = none ↔ ∀ e ∈ fs, ∀ s, slots.find? (·.name == e.1) = some s →
      s.fault e.2 = none := by
  induction fs with
  | nil => simp [firstFault]
  | cons e rest ih =>
      obtain ⟨k, v⟩ := e
      rw [firstFault, List.forall_mem_cons]
      cases hs : slots.find? (·.name == k) with
      | none => simp [ih]
      | some s => cases hv : s.fault v <;> simp [hv, ih]

theorem firstMissing_eq_none_iff {slots : List Slot} :
    firstMissing fs slots = none ↔
      ∀ s ∈ slots, s.needed = true → (Fields.get? s.name fs).isSome := by
  induction slots with
  | nil => simp [firstMissing]
  | cons s rest ih =>
      rw [firstMissing, List.forall_mem_cons]
      cases hn : s.needed <;> cases hv : Fields.get? s.name fs <;> simp [ih]

/-- **A record takes fields** of which each is as good as one that it takes, if none that it needs
    is lost. -/
theorem fault_eq_none_of (h : r.fault (.obj fs) = none)
    (hgood : ∀ e ∈ fs', ∀ s ∈ r.slots, s.name = e.1 →
      ∃ v, (e.1, v) ∈ fs ∧ (s.fault v = none → s.fault e.2 = none))
    (hneeded : ∀ s ∈ r.slots, s.needed = true → (Fields.get? s.name fs).isSome →
      (Fields.get? s.name fs').isSome) : r.fault (.obj fs') = none := by
  rw [fault] at h ⊢
  split at h
  · cases h
  · rename_i hfirst
    rw [firstFault_eq_none_iff] at hfirst
    rw [firstMissing_eq_none_iff] at h
    have hfirst' : firstFault r.slots fs' = none := by
      rw [firstFault_eq_none_iff]
      intro e he s hs
      have hname : s.name = e.1 := by simpa using List.find?_some hs
      obtain ⟨v, hv, hsv⟩ := hgood e he s (List.mem_of_find?_eq_some hs) hname
      exact hsv (hfirst _ hv s hs)
    rw [hfirst', firstMissing_eq_none_iff]
    exact fun s hs hn => hneeded s hs hn (h s hs hn)

end Record

variable {α β : Type} {R : α → β → Prop} {r : Record}

/-- A record is built from what it takes. -/
theorem leads_record {build : Given → Except Mismatch α} {build' : Given → Except Mismatch β}
    {fs fs' : Fields} (hfault : r.fault (.obj fs) = none → r.fault (.obj fs') = none)
    (hbuild : Leads R (build (Fields.get? · fs)) (build' (Fields.get? · fs'))) :
    Leads R (record r build (.obj fs)) (record r build' (.obj fs')) := by
  intro x hx
  rw [record] at hx ⊢
  split at hx
  · cases hx
  · rename_i hnone
    obtain ⟨y, hy, hxy⟩ := hbuild x hx
    rw [hfault hnone]
    exact ⟨y, hy, hxy⟩

/-- **A record that does not need a column is read without it.** -/
theorem leads_record_without {column : String} {R : α → α → Prop}
    {build : Given → Except Mismatch α}
    (hslot : ∀ s ∈ r.slots, s.name = column → s.needed = false) (hrefl : ∀ x, R x x)
    (hbuild : ∀ fs : Fields, Leads R (build (Fields.get? · fs))
      (build (Fields.get? · (Fields.erase column fs)))) (v : Json) :
    Leads R (record r build v) (record r build (v.without column)) := by
  cases v with
  | obj fs =>
      refine leads_record (fun h => Record.fault_eq_none_of h ?_ ?_) (hbuild fs)
      · exact fun e he s _ _ => ⟨e.2, (List.mem_filter.mp he).1, id⟩
      · intro s hs hn hsome
        have hne : s.name ≠ column := fun e => by
          rw [hslot s hs e] at hn
          cases hn
        rwa [Fields.get?_erase_of_ne hne]
  | _ => exact fun x hx => ⟨x, hx, hrefl x⟩

/-- A list is read element by element. -/
theorem leads_elements {read : Reader α} {read' : Reader β} {g : Json → Json}
    (h : ∀ v, Leads R (read v) (read' (g v))) (items : List Json) :
    Leads (List.Forall₂ R) (elements read items) (elements read' (items.map g)) := by
  induction items with
  | nil => exact leads_ok .nil
  | cons v rest ih =>
      intro xs hxs
      rw [elements] at hxs
      split at hxs
      · cases hxs
      · rename_i x hx
        split at hxs
        · cases hxs
        · rename_i ys hys
          obtain ⟨x', hx', hxx⟩ := h v x hx
          obtain ⟨ys', hys', hyy⟩ := ih ys hys
          rw [← Except.ok.inj hxs]
          exact ⟨x' :: ys', by rw [List.map_cons, elements, hx', hys'], .cons hxx hyy⟩

theorem fault_eq_none_iff {read : Reader α} {v : Json} :
    Shape.fault read v = none ↔ ∃ x, read v = .ok x := by
  rw [Shape.fault]
  cases read v <;> simp

/-- What leads to a value is no fault. -/
theorem fault_eq_none_of_leads {read : Reader α} {read' : Reader β} {v v' : Json}
    (h : Leads R (read v) (read' v')) (hv : Shape.fault read v = none) :
    Shape.fault read' v' = none := by
  rw [fault_eq_none_iff] at hv ⊢
  obtain ⟨x, hx⟩ := hv
  obtain ⟨y, hy, -⟩ := h x hx
  exact ⟨y, hy⟩

/-- **A record takes a row that has lost a column**, where it does not need the column and takes
    the lists of such rows. -/
theorem fault_of_sheds {column : String} {lists : List String} {fs fs' : Fields}
    (hs : Json.Sheds column lists fs fs')
    (hslot : ∀ s ∈ r.slots, s.name = column → s.needed = false)
    (hlists : ∀ s ∈ r.slots.filter (·.name ∈ lists), ∀ items, s.fault (.arr items) = none →
      s.fault (.arr (items.map (Json.without column))) = none)
    (h : r.fault (.obj fs) = none) : r.fault (.obj fs') = none := by
  refine Record.fault_eq_none_of h ?_ ?_
  · intro e he s hmem hname
    have hget : Fields.get? e.1 fs' = some e.2 := Fields.get?_of_mem hs.ordered' he
    by_cases hl : e.1 ∈ lists
    · obtain ⟨items, hitems, hitems'⟩ := hs.inLists _ hl
      rw [hitems', Option.some.injEq] at hget
      refine ⟨_, Fields.mem_of_get? hitems, fun hf => ?_⟩
      rw [← hget]
      exact hlists s (by simpa [hmem, hname] using hl) items hf
    · have hne : e.1 ≠ column := fun hc => by
        rw [hc, hs.gone] at hget
        cases hget
      rw [hs.others _ hne hl] at hget
      exact ⟨e.2, Fields.mem_of_get? hget, id⟩
  · intro s hmem hn hsome
    by_cases hl : s.name ∈ lists
    · obtain ⟨items, -, hitems'⟩ := hs.inLists _ hl
      rw [hitems']
      rfl
    · have hne : s.name ≠ column := fun hc => by
        rw [hslot s hmem hc] at hn
        cases hn
      rwa [hs.others _ hne hl]

namespace Given

variable {g g' : Given} {name : String} {read : Reader α}

theorem leads_required (h : g' name = g name) :
    Leads Eq (g.required name read) (g'.required name read) :=
  leads_of_eq (by rw [required, required, h])

theorem leads_optional (h : g' name = g name) (default : α) :
    Leads Eq (g.optional name read default) (g'.optional name read default) :=
  leads_of_eq (by rw [optional, optional, h])

/-- A field that is gone has its default. -/
theorem leads_optional_gone (h : g' name = none) (default : α) :
    Leads (fun _ _ => True) (g.optional name read default) (g'.optional name read default) :=
  fun _ _ => ⟨default, by rw [optional, h], trivial⟩

/-- A list of rows without a column. -/
theorem leads_optional_list {column : String} {R : α → α → Prop} {items : List Json}
    (h : g name = some (.arr items)) (h' : g' name = some (.arr (items.map (Json.without column))))
    (hread : ∀ v, Leads R (read v) (read (v.without column))) :
    Leads (List.Forall₂ R) (g.optional name (listOf read) []) (g'.optional name (listOf read) []) := by
  rw [optional, optional, h, h']
  exact leads_elements hread items

end Given

end Shape

/-! ## 3. Documents and their parts -/

section Parts

variable (v : Json)

-- Of the fields that a record is built from one after the other none is the lost one.

theorem Tag.read_leads : Leads Eq (Tag.read v) (Tag.read (v.without "contents")) := by
  refine leads_record_without (by decide) (fun _ => rfl) (fun fs => ?_) v
  refine (Given.leads_required (Fields.get?_erase_of_ne (by decide) fs)).bind_eq fun _ => ?_
  exact leads_ok rfl

theorem Note.read_leads : Leads Eq (Note.read v) (Note.read (v.without "contents")) := by
  refine leads_record_without (by decide) (fun _ => rfl) (fun fs => ?_) v
  iterate 3
    refine (Given.leads_optional (Fields.get?_erase_of_ne (by decide) fs) _).bind_eq fun _ => ?_
  exact leads_ok rfl

theorem Property.read_leads : Leads Eq (Property.read v) (Property.read (v.without "contents")) := by
  refine leads_record_without (by decide) (fun _ => rfl) (fun fs => ?_) v
  iterate 2
    refine (Given.leads_optional (Fields.get?_erase_of_ne (by decide) fs) _).bind_eq fun _ => ?_
  exact leads_ok rfl

theorem SetupProperty.read_leads :
    Leads Eq (SetupProperty.read v) (SetupProperty.read (v.without "contents")) := by
  refine leads_record_without (by decide) (fun _ => rfl) (fun fs => ?_) v
  iterate 5
    refine (Given.leads_optional (Fields.get?_erase_of_ne (by decide) fs) _).bind_eq fun _ => ?_
  exact leads_ok rfl

/-- Two linked files are the same but for their text. -/
def SampleFile.SameButText (f f' : SampleFile) : Prop :=
  { f' with contents := "" } = { f with contents := "" }

theorem SampleFile.read_leads :
    Leads SameButText (SampleFile.read v) (SampleFile.read (v.without "contents")) := by
  refine leads_record_without (R := SameButText) (by decide) (fun _ => rfl) (fun fs => ?_) v
  refine (Given.leads_required (Fields.get?_erase_of_ne (by decide) fs)).bind_eq fun _ => ?_
  iterate 6
    refine (Given.leads_optional (Fields.get?_erase_of_ne (by decide) fs) _).bind_eq fun _ => ?_
  have hgone : Fields.get? "contents" (Fields.erase "contents" fs) = none := by
    rw [Fields.get?_erase, if_pos rfl]
  exact (Given.leads_optional_gone hgone "").bind fun _ _ _ => leads_ok rfl

/-- Text that is put in makes up for text that is not the same. -/
theorem SampleFile.map_textFor_eq (x : Extractor) {files files' : List SampleFile}
    (h : List.Forall₂ SampleFile.SameButText files files') :
    (files'.map fun f => { f with contents := x.textFor f.identity f.mediaType.mime f.size }) =
      files.map fun f =>
        { f with contents := x.textFor f.identity f.mediaType.mime f.size } := by
  induction h with
  | nil => rfl
  | @cons f f' rest rest' hf _ ih =>
      rw [List.map_cons, List.map_cons, ih]
      -- all that the text is found by is the same
      obtain ⟨_, _, _, _, _, _, _, _⟩ := f
      obtain ⟨_, _, _, _, _, _, _, _⟩ := f'
      simp only [SampleFile.SameButText, SampleFile.mk.injEq, and_true] at hf
      obtain ⟨rfl, rfl, rfl, rfl, rfl, rfl, rfl⟩ := hf
      rfl

end Parts

section Documents

variable {fs fs' : Fields}

theorem FileDocument.read_leads (h : Json.Sheds "contents" ["tags", "notes"] fs fs') :
    Leads (fun d d' => ∀ x, (Document.file d').withContents x = (Document.file d).withContents x)
      (FileDocument.read (.obj fs)) (FileDocument.read (.obj fs')) := by
  refine leads_record (fault_of_sheds h (by decide) ?_) ?_
  · have hslots : FileDocument.shape.slots.filter (·.name ∈ ["tags", "notes"]) =
        [slot "tags" (listOf Tag.read), slot "notes" (listOf Note.read)] := rfl
    rw [hslots, List.forall_mem_cons, List.forall_mem_singleton]
    exact ⟨fun items => fault_eq_none_of_leads (leads_elements Tag.read_leads items),
      fun items => fault_eq_none_of_leads (leads_elements Note.read_leads items)⟩
  · obtain ⟨tags, htags, htags'⟩ := h.inLists "tags" (by decide)
    obtain ⟨notes, hnotes, hnotes'⟩ := h.inLists "notes" (by decide)
    refine (Given.leads_required (h.others _ (by decide) (by decide))).bind_eq fun _ => ?_
    iterate 15
      refine (Given.leads_optional (h.others _ (by decide) (by decide)) _).bind_eq fun _ => ?_
    refine (Given.leads_optional_list htags htags' Tag.read_leads).bind fun _ _ ht => ?_
    refine (Given.leads_optional_list hnotes hnotes' Note.read_leads).bind fun _ _ hn => ?_
    rw [List.forall₂_eq_eq_eq] at ht hn
    subst ht hn
    exact (Given.leads_optional_gone h.gone "").bind fun _ _ _ => leads_ok fun _ => rfl

theorem SampleDocument.read_leads (h : Json.Sheds "contents" ["properties", "files"] fs fs') :
    Leads (fun d d' =>
        ∀ x, (Document.sample d').withContents x = (Document.sample d).withContents x)
      (SampleDocument.read (.obj fs)) (SampleDocument.read (.obj fs')) := by
  refine leads_record (fault_of_sheds h (by decide) ?_) ?_
  · have hslots : SampleDocument.shape.slots.filter (·.name ∈ ["properties", "files"]) =
        [slot "properties" (listOf Property.read), slot "files" (listOf SampleFile.read)] := rfl
    rw [hslots, List.forall_mem_cons, List.forall_mem_singleton]
    exact ⟨fun items => fault_eq_none_of_leads (leads_elements Property.read_leads items),
      fun items => fault_eq_none_of_leads (leads_elements SampleFile.read_leads items)⟩
  · obtain ⟨properties, hprops, hprops'⟩ := h.inLists "properties" (by decide)
    obtain ⟨files, hfiles, hfiles'⟩ := h.inLists "files" (by decide)
    iterate 2
      refine (Given.leads_optional (h.others _ (by decide) (by decide)) _).bind_eq fun _ => ?_
    refine (Given.leads_required (h.others _ (by decide) (by decide))).bind_eq fun _ => ?_
    iterate 6
      refine (Given.leads_optional (h.others _ (by decide) (by decide)) _).bind_eq fun _ => ?_
    refine (Given.leads_optional_list hprops hprops' Property.read_leads).bind fun _ _ hp => ?_
    rw [List.forall₂_eq_eq_eq] at hp
    subst hp
    refine (Given.leads_optional_list hfiles hfiles' SampleFile.read_leads).bind fun _ _ hf => ?_
    refine leads_ok fun x => ?_
    simp only [Document.withContents, SampleFile.map_textFor_eq x hf]

theorem ProcessDocument.read_leads (h : Json.Sheds "contents" ["setup"] fs fs') :
    Leads Eq (ProcessDocument.read (.obj fs)) (ProcessDocument.read (.obj fs')) := by
  refine leads_record (fault_of_sheds h (by decide) ?_) ?_
  · have hslots : ProcessDocument.shape.slots.filter (·.name ∈ ["setup"]) =
        [slot "setup" (listOf SetupProperty.read)] := rfl
    rw [hslots, List.forall_mem_singleton]
    exact fun items => fault_eq_none_of_leads (leads_elements SetupProperty.read_leads items)
  · obtain ⟨setup, hsetup, hsetup'⟩ := h.inLists "setup" (by decide)
    iterate 2
      refine (Given.leads_optional (h.others _ (by decide) (by decide)) _).bind_eq fun _ => ?_
    refine (Given.leads_required (h.others _ (by decide) (by decide))).bind_eq fun _ => ?_
    iterate 9
      refine (Given.leads_optional (h.others _ (by decide) (by decide)) _).bind_eq fun _ => ?_
    refine (Given.leads_optional_list hsetup hsetup' SetupProperty.read_leads).bind fun _ _ hp => ?_
    rw [List.forall₂_eq_eq_eq] at hp
    subst hp
    exact leads_ok rfl

theorem ProjectDocument.read_leads (v : Json) :
    Leads Eq (ProjectDocument.read v) (ProjectDocument.read (v.without "contents")) := by
  refine leads_record_without (by decide) (fun _ => rfl) (fun fs => ?_) v
  refine (Given.leads_required (Fields.get?_erase_of_ne (by decide) fs)).bind_eq fun _ => ?_
  iterate 7
    refine (Given.leads_optional (Fields.get?_erase_of_ne (by decide) fs) _).bind_eq fun _ => ?_
  exact leads_ok rfl

theorem UserDocument.read_leads (v : Json) :
    Leads Eq (UserDocument.read v) (UserDocument.read (v.without "contents")) := by
  refine leads_record_without (by decide) (fun _ => rfl) (fun fs => ?_) v
  refine (Given.leads_required (Fields.get?_erase_of_ne (by decide) fs)).bind_eq fun _ => ?_
  iterate 10
    refine (Given.leads_optional (Fields.get?_erase_of_ne (by decide) fs) _).bind_eq fun _ => ?_
  exact leads_ok rfl

end Documents

end LabIndex
