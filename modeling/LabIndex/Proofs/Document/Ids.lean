import LabIndex.Indexing.Kinds
import LabIndex.Proofs.Answers

/-!
# The ids of documents

A document that was read from an object has the id that the object has in the kind's id column,
where it is a text, and text added to it later leaves that id alone.

* `Document.id_of_read`: the id is in the row;
* `Document.id_withContents`: added text does not change it.
-/

namespace LabIndex

open Shape

/-! ## 1. Records -/

namespace Shape

/-- A record that was read was built from the values given for its fields. -/
theorem build_of_record {α : Type} {r : Record} {build : Given → Except Mismatch α} {v : Json}
    {x : α} (h : record r build v = .ok x) : build (r.value? v) = .ok x := by
  rw [record] at h
  split at h
  · cases h
  · exact h

/-- A record is read from an object or a list. -/
theorem exists_obj_or_arr_of_record {α : Type} {r : Record} {build : Given → Except Mismatch α}
    {v : Json} {x : α} (h : record r build v = .ok x) :
    (∃ fs, v = .obj fs) ∨ ∃ items, v = .arr items := by
  cases v with
  | obj fs => exact .inl ⟨fs, rfl⟩
  | arr items => exact .inr ⟨items, rfl⟩
  | _ => cases h

theorem text_eq_ok_iff {v : Json} {s : String} : text v = .ok s ↔ v = .str s := by
  cases v <;> simp [text]

theorem Given.required_text {g : Given} {name s : String} (h : g.required name text = .ok s) :
    g name = some (.str s) := by
  rw [Given.required] at h
  cases hv : g name with
  | none => rw [hv] at h; cases h
  | some v => rw [hv] at h; rw [text_eq_ok_iff.mp h]

end Shape

/-! ## 2. The five kinds -/

section Kinds

variable {g : Given}

-- Every `obtain` takes one field off the record; the last one leaves the record itself for `d`.

theorem FileDocument.id_of_build {d : FileDocument} (h : FileDocument.build g = .ok d) :
    g "id" = some (.str d.id) := by
  simp only [FileDocument.build, bind_eq_ok_iff] at h
  obtain ⟨id, hid, h⟩ := h
  repeat obtain ⟨_, _, h⟩ := h
  exact Given.required_text hid

theorem SampleDocument.sampleId_of_build {d : SampleDocument}
    (h : SampleDocument.build g = .ok d) : g "sample_id" = some (.str d.sampleId) := by
  simp only [SampleDocument.build, bind_eq_ok_iff] at h
  obtain ⟨_, _, _, _, id, hid, h⟩ := h
  repeat obtain ⟨_, _, h⟩ := h
  exact Given.required_text hid

theorem ProcessDocument.processId_of_build {d : ProcessDocument}
    (h : ProcessDocument.build g = .ok d) : g "process_id" = some (.str d.processId) := by
  simp only [ProcessDocument.build, bind_eq_ok_iff] at h
  obtain ⟨_, _, _, _, id, hid, h⟩ := h
  repeat obtain ⟨_, _, h⟩ := h
  exact Given.required_text hid

theorem ProjectDocument.id_of_build {d : ProjectDocument} (h : ProjectDocument.build g = .ok d) :
    g "id" = some (.str d.id) := by
  simp only [ProjectDocument.build, bind_eq_ok_iff] at h
  obtain ⟨id, hid, h⟩ := h
  repeat obtain ⟨_, _, h⟩ := h
  exact Given.required_text hid

theorem UserDocument.id_of_build {d : UserDocument} (h : UserDocument.build g = .ok d) :
    g "id" = some (.str d.id) := by
  simp only [UserDocument.build, bind_eq_ok_iff] at h
  obtain ⟨id, hid, h⟩ := h
  repeat obtain ⟨_, _, h⟩ := h
  exact Given.required_text hid

end Kinds

/-! ## 3. Documents -/

/-- The column of a kind's rows that its documents are keyed by. -/
def Kind.idColumn : Kind → String
  | .sample => "sample_id"
  | .process => "process_id"
  | _ => "id"

namespace Document

/-- **A document read from an object has the id that the object has.** -/
theorem id_of_read {k : Kind} {fs : Fields} {d : Document} (h : read k (.obj fs) = .ok d) :
    Fields.get? k.idColumn fs = some (.str d.id) := by
  cases k with
  | file =>
      obtain ⟨f, hf, rfl⟩ := exists_of_map_eq_ok h
      exact FileDocument.id_of_build (build_of_record hf)
  | sample =>
      obtain ⟨s, hs, rfl⟩ := exists_of_map_eq_ok h
      exact SampleDocument.sampleId_of_build (build_of_record hs)
  | process =>
      obtain ⟨p, hp, rfl⟩ := exists_of_map_eq_ok h
      exact ProcessDocument.processId_of_build (build_of_record hp)
  | project =>
      obtain ⟨p, hp, rfl⟩ := exists_of_map_eq_ok h
      exact ProjectDocument.id_of_build (build_of_record hp)
  | user =>
      obtain ⟨u, hu, rfl⟩ := exists_of_map_eq_ok h
      exact UserDocument.id_of_build (build_of_record hu)

/-- A document is read from an object or a list. -/
theorem exists_obj_or_arr_of_read {k : Kind} {v : Json} {d : Document} (h : read k v = .ok d) :
    (∃ fs, v = .obj fs) ∨ ∃ items, v = .arr items := by
  cases k <;> obtain ⟨_, hr, -⟩ := exists_of_map_eq_ok h <;> exact exists_obj_or_arr_of_record hr

@[simp] theorem id_withContents (x : Extractor) (d : Document) :
    (d.withContents x).id = d.id := by
  cases d <;> rfl

end Document

end LabIndex
