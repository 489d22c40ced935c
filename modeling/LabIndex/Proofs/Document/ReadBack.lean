import LabIndex.Proofs.Document.Reading
import LabIndex.Proofs.Timestamp.Writing

/-!
# Values read back from what is written of them

A value that was read from JSON is written as JSON from which it is read again. It need not be
written as it was given: defaults are filled in, lists become objects and dates are moved to UTC.

* `Shape.Restores`: a reader and a writer that fit, for the values that are read at all;
* `Shape.record_of_build`: an object is read as the record that is built from its fields;
* `Shape.restores_date`, `Tag.restores`, `SampleFile.restores`: the parts of documents. A tag is
  read back when its key has been renamed.
-/

namespace LabIndex

/-! ## 1. Changes inside a value -/

namespace Json

/-- An object with a key renamed. -/
def renamed (key name : String) : Json → Json
  | .obj fs =>
    match Fields.get? key fs with
    | some v => .obj ((Fields.erase key fs).put name v)
    | none => .obj fs
  | v => v

/-- A list with each element changed. -/
def eachItem (f : Json → Json) : Json → Json
  | .arr items => .arr (items.map f)
  | v => v

/-- An object with the value of one field changed. -/
def inField (name : String) (f : Json → Json) : Json → Json
  | .obj fs => .obj (fs.map fun e => if e.1 = name then (e.1, f e.2) else e)
  | v => v

/-- The fields of an object. -/
def fields : Json → Fields
  | .obj fs => fs
  | _ => []

/-- The keys stay when the value of a field is changed. -/
theorem ordered_inField {v : Json} (h : Fields.Ordered v.fields) (name : String)
    (f : Json → Json) : Fields.Ordered (v.inField name f).fields := by
  cases v with
  | obj fs =>
      have hkeys : Fields.keys (inField name f (.obj fs)).fields = Fields.keys fs := by
        rw [inField, fields, Fields.keys, Fields.keys, List.map_map]
        refine List.map_congr_left fun e _ => ?_
        rw [Function.comp_apply]
        split <;> rfl
      rw [Fields.Ordered, hkeys]
      exact h
  | _ => exact h

end Json

namespace Shape

variable {α : Type} {read : Reader α} {write : α → Json} {g : Given} {name : String} {x : α}

/-! ## 2. Reading back -/

/-- What was read is read again from what is written of it. -/
def Restores (read : Reader α) (write : α → Json) : Prop :=
  ∀ v x, read v = .ok x → read (write x) = .ok x

theorem restores_text : Restores text .str := fun _ _ _ => rfl

theorem restores_truth : Restores truth .bool := fun _ _ _ => rfl

theorem restores_size : Restores size .ofInt := by
  intro v n h
  rw [size, wholeNumber.eq_def] at h
  split at h
  · rename_i m
    split at h
    · rename_i hm
      cases h
      exact if_pos hm
    · cases h
  · cases h

theorem date_str_eq_ok_iff {s : String} {t : Option Timestamp} :
    date (.str s) = .ok t ↔ ∃ u, Timestamp.parse s = .ok u ∧ t = some u := by
  rw [date]
  cases Timestamp.parse s with
  | error e => simp
  | ok u => simp [eq_comm]

/-- **A date is read back**, whatever text it was read from. -/
theorem restores_date : Restores date dateJson := by
  intro v t h
  cases v with
  | null => cases h; rfl
  | str s =>
      obtain ⟨u, hu, rfl⟩ := date_str_eq_ok_iff.mp h
      exact date_str_eq_ok_iff.mpr ⟨u, (Timestamp.restates_of_parse hu).again, rfl⟩
  | _ => cases h

theorem restores_elements (h : Restores read write) {items : List Json} {xs : List α}
    (hxs : elements read items = .ok xs) : elements read (xs.map write) = .ok xs := by
  induction items generalizing xs with
  | nil => cases hxs; rfl
  | cons v rest ih =>
      rw [elements] at hxs
      split at hxs
      · cases hxs
      · rename_i x hx
        split at hxs
        · cases hxs
        · rename_i ys hys
          cases hxs
          rw [List.map_cons, elements, h v x hx, ih hys]

/-- A list is read back where its elements are. -/
theorem restores_listOf (h : Restores read write) :
    Restores (listOf read) fun xs => .arr (xs.map write) := by
  intro v xs hxs
  cases v with
  | arr items => exact restores_elements h hxs
  | _ => cases hxs

/-- A list whose elements are changed before they are read back. -/
theorem restores_eachItem {f : Json → Json} (h : Restores read fun x => f (write x)) :
    Restores (listOf read) fun xs => .eachItem f (.arr (xs.map write)) := by
  intro v xs hxs
  have hlist : listOf read (.arr (xs.map fun x => f (write x))) = .ok xs :=
    restores_listOf h v xs hxs
  rwa [← Function.comp_def f write, ← List.map_map] at hlist

theorem Restores.required (h : Restores read write) (hx : g.required name read = .ok x) :
    read (write x) = .ok x := by
  rw [Given.required] at hx
  split at hx
  · exact h _ _ hx
  · cases hx

/-- A field with a default is read back, if the default is. -/
theorem Restores.optional {default : α} (h : Restores read write)
    (hd : read (write default) = .ok default) (hx : g.optional name read default = .ok x) :
    read (write x) = .ok x := by
  rw [Given.optional] at hx
  split at hx
  · exact h _ _ hx
  · cases hx
    exact hd

/-! ## 3. Objects -/

/-- A field takes what is given for it. -/
def Slot.Takes (s : Slot) (g : Given) : Prop :=
  (∀ v, g s.name = some v → s.fault v = none) ∧ (s.needed = true → (g s.name).isSome = true)

theorem takes_need (h : g.required name read = .ok x) : (need name read).Takes g := by
  rw [Given.required] at h
  split at h
  · rename_i v hv
    refine ⟨fun w hw => fault_eq_none_iff.mpr ⟨x, ?_⟩, fun _ => by rw [need, hv]; rfl⟩
    rw [need, hv] at hw
    rw [← Option.some.inj hw, h]
  · cases h

theorem takes_slot {default : α} (h : g.optional name read default = .ok x) :
    (slot name read).Takes g := by
  refine ⟨fun v hv => fault_eq_none_iff.mpr ⟨x, ?_⟩, nofun⟩
  rw [Given.optional] at h
  rw [slot] at hv
  rwa [hv] at h

/-- A record takes an object when each of its fields takes what the object has for it. -/
theorem Record.fault_eq_none_of_takes {r : Record} {fs : Fields} (ho : Fields.Ordered fs)
    (h : ∀ s ∈ r.slots, s.Takes (Fields.get? · fs)) : r.fault (.obj fs) = none := by
  have hfirst : firstFault r.slots fs = none := by
    rw [firstFault_eq_none_iff]
    intro e he s hs
    have hname : s.name = e.1 := by simpa using List.find?_some hs
    refine (h s (List.mem_of_find?_eq_some hs)).1 e.2 ?_
    rw [hname]
    exact Fields.get?_of_mem ho he
  rw [fault, hfirst]
  exact firstMissing_eq_none_iff.mpr fun s hs => (h s hs).2

/-- **An object is read as the record that is built from its fields**, for a record that is built
    of values that its fields take. -/
theorem record_of_build {r : Record} {build : Given → Except Mismatch α} {v : Json}
    (htakes : ∀ {g x}, build g = .ok x → ∀ s ∈ r.slots, s.Takes g) (hv : v = .obj v.fields)
    (ho : Fields.Ordered v.fields) (h : build (Fields.get? · v.fields) = .ok x) :
    record r build v = .ok x := by
  rw [hv, record, Record.fault_eq_none_of_takes ho (htakes h)]
  exact h

end Shape

open Shape

/-! ## 4. Parts -/

theorem MediaType.restores : Restores MediaType.read MediaType.toJson := fun _ _ _ => rfl

theorem Note.restores : Restores Note.read Note.toJson := fun _ _ _ => rfl

theorem Property.restores : Restores Property.read Property.toJson := fun _ _ _ => rfl

theorem SetupProperty.restores : Restores SetupProperty.read SetupProperty.toJson :=
  fun _ _ _ => rfl

/-- A written tag with its key renamed to the one that is read. -/
def Tag.restore : Json → Json := Json.renamed "tag" "tag_id"

theorem Tag.restores : Restores Tag.read fun t => Tag.restore t.toJson := fun _ _ _ => rfl

namespace SampleFile

/-- A written file of a sample with the keys of its tags renamed. -/
def restore : Json → Json := Json.inField "tags" (Json.eachItem Tag.restore)

theorem takes_of_build {g : Given} {f : SampleFile} (h : build g = .ok f) :
    ∀ s ∈ shape.slots, s.Takes g := by
  simp only [build, bind_eq_ok_iff] at h
  obtain ⟨_, hid, _, hname, _, hmediaType, _, hsize, _, husesId, _, htags, _, hnotes, _,
    hcontents, -⟩ := h
  simp only [shape, List.forall_mem_cons]
  exact ⟨takes_need hid, takes_slot hname, takes_slot hmediaType, takes_slot hsize,
    takes_slot husesId, takes_slot htags, takes_slot hnotes, takes_slot hcontents,
    fun _ hs => absurd hs List.not_mem_nil⟩

theorem ordered_toJson (f : SampleFile) : Fields.Ordered f.toJson.fields := by
  simp only [toJson, Json.fields, Fields.Ordered, Fields.keys, List.map_cons, List.map_nil]
  decide

theorem restores : Restores SampleFile.read fun f => restore f.toJson := by
  intro v f h
  have hbuild := build_of_record h
  simp only [build, bind_eq_ok_iff] at hbuild
  obtain ⟨_, hid, _, hname, _, hmediaType, _, hsize, _, husesId, _, htags, _, hnotes, _,
    hcontents, hf⟩ := hbuild
  cases hf
  refine record_of_build takes_of_build rfl (Json.ordered_inField (ordered_toJson _) _ _) ?_
  simp only [build, bind_eq_ok_iff]
  exact ⟨_, restores_text.required hid, _, restores_text.optional rfl hname, _,
    MediaType.restores.optional rfl hmediaType, _, restores_size.optional rfl hsize, _,
    restores_text.optional rfl husesId, _, (restores_eachItem Tag.restores).optional rfl htags, _,
    (restores_listOf Note.restores).optional rfl hnotes, _, restores_text.optional rfl hcontents,
    rfl⟩

end SampleFile

end LabIndex
