import LabIndex.Proofs.Json.RoundTrip

/-!
# What is nested too deep

A value can be written however deep it is nested, and its text is read only where it is not nested
deeper than the reader goes. So of values whose numbers are read back the text is read exactly where
the nesting allows it.

* `Json.readValue_deep`: the text of a value that is nested deeper than allowed is not read;
* `Json.isSome_parse?_text_iff`: which texts are read.
-/

namespace LabIndex.Json

mutual

/-- **A value nested deeper than allowed is not read**, whatever follows it. -/
theorem readValue_deep : ∀ (v : Json) (fuel depth : Nat) (rest : List Char), v.Sorted →
    v.NumbersReadBack → depth < v.depth → 2 * v.text.toList.length ≤ fuel →
    readValue fuel depth (v.text.toList ++ rest) = none
  | .null | .bool _ | .num _ | .str _ => by
      intro fuel depth rest _ _ hd
      simp [Json.depth] at hd
  | .arr items => by
      intro fuel depth rest hs hn hd hf
      rw [toList_text_arr] at hf ⊢
      obtain ⟨fuel, rfl⟩ : ∃ f, fuel = f + 1 := ⟨fuel - 1, by simp at hf; omega⟩
      rw [List.cons_append, List.append_assoc, List.singleton_append]
      cases depth with
      | zero => rw [readValue]
      | succ depth =>
          rw [readValue]
          have hdeep : depth < itemsDepth items := by simpa [Json.depth] using hd
          cases items with
          | nil => simp [itemsDepth] at hdeep
          | cons v more =>
              have hitems := readItems_deep (v :: more) fuel depth rest hs hn hdeep
                (by simp at hf; omega)
              obtain ⟨c, t, ht, hc, hne⟩ := head_itemsText hn.1 more
              rw [ht, List.cons_append] at hitems ⊢
              simp only [skipSpace_cons hc]
              split
              · rename_i heq
                exact absurd (List.cons.inj heq).1 hne
              · rw [hitems]
                rfl
  | .obj fields => by
      intro fuel depth rest hs hn hd hf
      rw [toList_text_obj] at hf ⊢
      obtain ⟨fuel, rfl⟩ : ∃ f, fuel = f + 1 := ⟨fuel - 1, by simp at hf; omega⟩
      rw [List.cons_append, List.append_assoc, List.singleton_append]
      cases depth with
      | zero => rw [readValue]
      | succ depth =>
          rw [readValue]
          have hdeep : depth < fieldsDepth fields := by simpa [Json.depth] using hd
          cases fields with
          | nil => simp [fieldsDepth] at hdeep
          | cons f more =>
              have hfields := readFields_deep (f :: more) [] fuel depth rest hs.2 hn hdeep
                (by simp at hf; omega)
              obtain ⟨t, ht⟩ := head_fieldsText f more
              rw [ht, List.cons_append] at hfields ⊢
              simp only [skipSpace_cons (c := '"') (by decide)]
              split
              · rename_i heq
                exact absurd (List.cons.inj heq).1 (by decide)
              · rw [hfields]
                rfl

/-- Elements are not read where one is nested too deep: those before it are, and then it is not. -/
theorem readItems_deep : ∀ (items : List Json) (fuel depth : Nat) (rest : List Char),
    SortedItems items → ItemsReadBack items → depth < itemsDepth items →
    2 * (itemsText items).toList.length + 1 ≤ fuel →
    readItems fuel depth ((itemsText items).toList ++ ']' :: rest) = none
  | [] => by
      intro fuel depth rest _ _ hd
      simp [itemsDepth] at hd
  | [v] => by
      intro fuel depth rest hs hn hd hf
      obtain ⟨fuel, rfl⟩ := exists_succ hf
      have hv := readValue_deep v fuel depth (']' :: rest) hs.1 hn.1
        (by simpa [itemsDepth] using hd) (by rw [itemsText] at hf; omega)
      rw [itemsText, readItems, skipSpace_text hn.1, hv]
  | v :: w :: more => by
      intro fuel depth rest hs hn hd hf
      obtain ⟨fuel, rfl⟩ := exists_succ hf
      rw [toList_itemsText_cons] at hf
      rw [toList_itemsText_cons, List.append_assoc, List.cons_append, readItems,
        skipSpace_text hn.1]
      by_cases hv : depth < v.depth
      · rw [readValue_deep v fuel depth _ hs.1 hn.1 hv (by simp at hf ⊢; omega)]
      · have hmore : depth < itemsDepth (w :: more) := by
          rw [itemsDepth] at hd; omega
        rw [readValue_text v fuel depth _ hs.1 hn.1 (by omega) (by simp at hf ⊢; omega)
          (ends_cons (by decide) _)]
        simp only [skipSpace_cons (c := ',') (by decide),
          readItems_deep (w :: more) fuel depth rest hs.2 hn.2 hmore (by simp at hf ⊢; omega)]
        rfl

/-- Fields are not read where the value of one is nested too deep. -/
theorem readFields_deep : ∀ (fields acc : Fields) (fuel depth : Nat) (rest : List Char),
    SortedFields fields → FieldsReadBack fields → depth < fieldsDepth fields →
    2 * (fieldsText fields).toList.length + 1 ≤ fuel →
    readFields fuel depth acc ((fieldsText fields).toList ++ '\x7d' :: rest) = none
  | [] => by
      intro acc fuel depth rest _ _ hd
      simp [fieldsDepth] at hd
  | [(k, v)] => by
      intro acc fuel depth rest hs hn hd hf
      obtain ⟨fuel, rfl⟩ := exists_succ hf
      rw [toList_fieldsText_singleton] at hf ⊢
      have hv := readValue_deep v fuel depth ('\x7d' :: rest) hs.1 hn.1
        (by simpa [fieldsDepth] using hd) (by simp at hf ⊢; omega)
      simp only [List.cons_append, List.append_assoc, readFields,
        skipSpace_cons (c := '"') (by decide), readString_escape,
        skipSpace_cons (c := ':') (by decide), skipSpace_text hn.1, hv]
  | (k, v) :: f :: more => by
      intro acc fuel depth rest hs hn hd hf
      obtain ⟨fuel, rfl⟩ := exists_succ hf
      rw [toList_fieldsText_cons] at hf ⊢
      simp only [List.cons_append, List.append_assoc, readFields,
        skipSpace_cons (c := '"') (by decide), readString_escape,
        skipSpace_cons (c := ':') (by decide), skipSpace_text hn.1]
      by_cases hv : depth < v.depth
      · rw [readValue_deep v fuel depth _ hs.1 hn.1 hv (by simp at hf ⊢; omega)]
      · have hmore : depth < fieldsDepth (f :: more) := by
          rw [fieldsDepth] at hd; omega
        rw [readValue_text v fuel depth _ hs.1 hn.1 (by omega) (by simp at hf ⊢; omega)
          (ends_cons (by decide) _)]
        simp only [skipSpace_cons (c := ',') (by decide),
          readFields_deep (f :: more) _ fuel depth rest hs.2 hn.2 hmore (by simp at hf ⊢; omega)]

end

/-- **The text of a value is read exactly where the value is not nested too deep.** -/
theorem isSome_parse?_text_iff {v : Json} (hs : v.Sorted) (hn : v.NumbersReadBack) :
    (parse? v.text).isSome = true ↔ v.depth ≤ maxDepth := by
  constructor
  · intro hsome
    by_contra hdeep
    have hv := readValue_deep v (2 * v.text.toList.length + 2) maxDepth [] hs hn (by omega)
      (by omega)
    have hskip := skipSpace_text hn []
    rw [List.append_nil] at hv hskip
    simp only [parse?, hskip, hv] at hsome
    cases hsome
  · intro hd
    rw [parse?_text hs hn hd]
    rfl

end LabIndex.Json
