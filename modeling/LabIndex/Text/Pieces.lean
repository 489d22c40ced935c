/-!
# Pieces of a text

A text cut at every place where a separator stands. There is one piece more than there are
separators, so the empty text has one piece, and separators at the ends or side by side leave
empty pieces.

* `intercalate_pieces`: the pieces with separators between them are the text again;
* `not_mem_of_mem_pieces`: no piece holds a separator;
* `pieces_append`, `exists_pieces_append`: the pieces of two texts put together.
-/

namespace LabIndex.Text

/-- The pieces between separators. -/
def pieces (sep : Char) : List Char → List (List Char)
  | [] => [[]]
  | c :: rest =>
    if c = sep then [] :: pieces sep rest
    else
      match pieces sep rest with
      | [] => [[c]]
      | piece :: others => (c :: piece) :: others

theorem pieces_ne_nil (sep : Char) (cs : List Char) : pieces sep cs ≠ [] := by
  cases cs with
  | nil => simp [pieces]
  | cons c rest =>
    unfold pieces
    split
    · simp
    · split <;> simp

theorem intercalate_pieces (sep : Char) (cs : List Char) :
    [sep].intercalate (pieces sep cs) = cs := by
  induction cs with
  | nil => simp [pieces]
  | cons c rest ih =>
    obtain ⟨piece, others, h⟩ := List.exists_cons_of_ne_nil (pieces_ne_nil sep rest)
    rw [h] at ih
    by_cases hc : c = sep
    · subst hc
      rw [pieces, if_pos rfl, h, List.intercalate_cons_cons, ih]
      rfl
    · rw [pieces, if_neg hc, h]
      cases others with
      | nil => simpa using ih
      | cons next others =>
        rw [List.intercalate_cons_cons] at ih ⊢
        simp [← ih]

theorem not_mem_of_mem_pieces {sep : Char} {piece cs : List Char} (h : piece ∈ pieces sep cs) :
    sep ∉ piece := by
  induction cs generalizing piece with
  | nil => simp_all [pieces]
  | cons c rest ih =>
    obtain ⟨first, others, hp⟩ := List.exists_cons_of_ne_nil (pieces_ne_nil sep rest)
    rw [hp] at ih
    by_cases hc : c = sep
    · rw [pieces, if_pos hc, hp] at h
      rcases List.mem_cons.mp h with rfl | h
      · simp
      · exact ih h
    · rw [pieces, if_neg hc, hp] at h
      rcases List.mem_cons.mp h with rfl | h
      · intro hs
        rcases List.mem_cons.mp hs with hs | hs
        · exact hc hs.symm
        · exact ih List.mem_cons_self hs
      · exact ih (List.mem_cons_of_mem first h)

/-- A separator parts a text in two. -/
theorem pieces_append (sep : Char) (xs ys : List Char) :
    pieces sep (xs ++ sep :: ys) = pieces sep xs ++ pieces sep ys := by
  induction xs with
  | nil => simp [pieces]
  | cons c rest ih =>
    obtain ⟨piece, others, h⟩ := List.exists_cons_of_ne_nil (pieces_ne_nil sep rest)
    rw [h] at ih
    by_cases hc : c = sep
    · rw [List.cons_append, pieces, if_pos hc, ih, pieces, if_pos hc, h]
      rfl
    · rw [List.cons_append, pieces, if_neg hc, ih, pieces, if_neg hc, h]
      rfl

/-- Without separators there is one piece. -/
theorem pieces_of_not_mem {sep : Char} {cs : List Char} (h : sep ∉ cs) : pieces sep cs = [cs] := by
  induction cs with
  | nil => rfl
  | cons c rest ih =>
    rw [List.mem_cons, not_or] at h
    rw [pieces, if_neg (Ne.symm h.1), ih h.2]

/-- What holds no separator lengthens the last piece. -/
theorem exists_pieces_append {sep : Char} {ys : List Char} (h : sep ∉ ys) (xs : List Char) :
    ∃ before last, pieces sep xs = before ++ [last] ∧
      pieces sep (xs ++ ys) = before ++ [last ++ ys] := by
  induction xs with
  | nil => exact ⟨[], [], rfl, pieces_of_not_mem h⟩
  | cons c rest ih =>
    obtain ⟨before, last, hxs, hall⟩ := ih
    by_cases hc : c = sep
    · refine ⟨[] :: before, last, ?_, ?_⟩
      · rw [pieces, if_pos hc, hxs]
        rfl
      · rw [List.cons_append, pieces, if_pos hc, hall]
        rfl
    · cases before with
      | nil =>
        refine ⟨[], c :: last, ?_, ?_⟩
        · rw [pieces, if_neg hc, hxs]
          rfl
        · rw [List.cons_append, pieces, if_neg hc, hall]
          rfl
      | cons piece others =>
        refine ⟨(c :: piece) :: others, last, ?_, ?_⟩
        · rw [pieces, if_neg hc, hxs]
          rfl
        · rw [List.cons_append, pieces, if_neg hc, hall]
          rfl

/-- The pieces of a text between separators. -/
def split (sep : Char) (s : String) : List String := (pieces sep s.toList).map String.ofList

end LabIndex.Text
