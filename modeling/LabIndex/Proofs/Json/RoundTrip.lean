import LabIndex.Json.Printer
import LabIndex.Json.Reader
import LabIndex.Proofs.Json.Fields
import Mathlib.Data.List.TakeDrop
import Mathlib.Data.List.TakeWhile

/-!
# Reading back what was written

The compact text of a value is read as that value, wherever its numbers are read back one by one
and it is not nested too deep. Whole numbers of the format are always read back; a double is when
its shortest digits happen to name it to the reader, which rounds twice.

* `Number.read_append`: what follows a number does not change how it is read;
* `Number.readsBack_int`: whole numbers are read back;
* `readString_escape`: so is every string;
* `Json.readValue_text`: a value in front of anything is read, and the rest is left;
* `Json.parse?_text`: the text of a value is read as the value.
-/

namespace LabIndex

/-! ## 1. Numbers -/

namespace Number

/-- What may stand after a number: nothing that could be a part of it. -/
def Ends (rest : List Char) : Prop :=
  ∀ c ∈ rest.head?, c.isDigit = false ∧ c ≠ '.' ∧ c ≠ 'e' ∧ c ≠ 'E' ∧ c ≠ '+' ∧ c ≠ '-'

theorem ends_nil : Ends [] := by simp [Ends]

/-- A number is read back from its text. -/
def ReadsBack (n : Number) : Prop := Number.read n.text.toList = some (n, [])

section Appending

variable {cs rest r : List Char}

theorem span_append (h : Ends rest) (cs : List Char) :
    (cs ++ rest).span Char.isDigit =
      ((cs.span Char.isDigit).1, (cs.span Char.isDigit).2 ++ rest) := by
  simp only [List.span_eq_takeWhile_dropWhile]
  induction cs with
  | nil =>
      cases rest with
      | nil => rfl
      | cons c tail =>
          have hc : c.isDigit = false := (h c rfl).1
          simp [hc]
  | cons c cs ih =>
      by_cases hc : c.isDigit
      · simpa [hc] using ih
      · simp [hc]

theorem fractionPart_point (t : List Char) :
    fractionPart ('.' :: t) =
      if (t.span Char.isDigit).1 = [] then none
      else some (some (t.span Char.isDigit).1, (t.span Char.isDigit).2) := by
  simp only [fractionPart]
  generalize t.span Char.isDigit = p
  obtain ⟨ds, u⟩ := p
  cases ds <;> rfl

theorem fractionPart_of_head_ne (h : ∀ c ∈ cs.head?, c ≠ '.') :
    fractionPart cs = some (none, cs) := by
  unfold fractionPart
  split
  · exact absurd rfl (h '.' rfl)
  · rfl

theorem fractionPart_append (h : Ends rest) {fraction : Option (List Char)}
    (hr : fractionPart cs = some (fraction, r)) :
    fractionPart (cs ++ rest) = some (fraction, r ++ rest) := by
  by_cases hp : cs.head? = some '.'
  · obtain ⟨t, rfl⟩ := List.head?_eq_some_iff.mp hp
    rw [List.cons_append, fractionPart_point, span_append h]
    rw [fractionPart_point] at hr
    split at hr
    · cases hr
    · rename_i hne
      rw [if_neg hne]
      cases hr
      rfl
  · rw [fractionPart_of_head_ne (fun c hc e => hp (by rw [← e]; exact hc))] at hr
    cases hr
    refine fractionPart_of_head_ne fun c hc => ?_
    cases cs with
    | nil => exact (h c hc).2.1
    | cons d t => exact fun e => hp (by simpa [e] using hc)

theorem exponentSign_append (hne : cs ≠ []) (rest : List Char) :
    exponentSign (cs ++ rest) = ((exponentSign cs).1, (exponentSign cs).2 ++ rest) := by
  cases cs with
  | nil => exact absurd rfl hne
  | cons c t =>
      rw [List.cons_append]
      by_cases hp : c = '+'
      · subst hp; rfl
      · by_cases hm : c = '-'
        · subst hm; rfl
        · simp [exponentSign, hp, hm]

theorem exponentPart_mark {c : Char} (hc : c = 'e' ∨ c = 'E') (t : List Char) :
    exponentPart (c :: t) =
      if ((exponentSign t).2.span Char.isDigit).1 = [] then none
      else
        let n : Int := ((exponentSign t).2.span Char.isDigit).1.foldl
          (fun acc d => acc * 10 + digitValue d) 0
        some (some (if (exponentSign t).1 then -n else n),
          ((exponentSign t).2.span Char.isDigit).2) := by
  simp only [exponentPart, if_pos hc]
  generalize exponentSign t = s
  generalize s.2.span Char.isDigit = p
  obtain ⟨ds, u⟩ := p
  cases ds <;> rfl

theorem exponentPart_of_head_ne (h : ∀ c ∈ cs.head?, c ≠ 'e' ∧ c ≠ 'E') :
    exponentPart cs = some (none, cs) := by
  cases cs with
  | nil => rfl
  | cons c t =>
      have hc : ¬ (c = 'e' ∨ c = 'E') := not_or.mpr (h c rfl)
      simp only [exponentPart, if_neg hc]

theorem exponentPart_append (h : Ends rest) {exponent : Option Int}
    (hr : exponentPart cs = some (exponent, r)) :
    exponentPart (cs ++ rest) = some (exponent, r ++ rest) := by
  cases cs with
  | nil =>
      cases hr
      exact exponentPart_of_head_ne fun c hc => ⟨(h c hc).2.2.1, (h c hc).2.2.2.1⟩
  | cons c t =>
      by_cases hc : c = 'e' ∨ c = 'E'
      · rw [exponentPart_mark hc] at hr
        split at hr
        · cases hr
        · rename_i hd
          have ht : t ≠ [] := fun e => hd (by rw [e]; rfl)
          rw [List.cons_append, exponentPart_mark hc, exponentSign_append ht, span_append h,
            if_neg hd]
          cases hr
          rfl
      · have hn : ∀ d ∈ (c :: t).head?, d ≠ 'e' ∧ d ≠ 'E' := by
          rintro d ⟨⟩
          exact not_or.mp hc
        rw [exponentPart_of_head_ne hn] at hr
        cases hr
        exact exponentPart_of_head_ne hn

theorem sign_append (hne : cs ≠ []) (rest : List Char) :
    sign (cs ++ rest) = ((sign cs).1, (sign cs).2 ++ rest) := by
  cases cs with
  | nil => exact absurd rfl hne
  | cons c t =>
      rw [List.cons_append]
      by_cases hm : c = '-'
      · subst hm; rfl
      · simp [sign, hm]

/-- **What follows a number does not change how it is read.** -/
theorem read_append (h : Ends rest) {n : Number} (hr : read cs = some (n, r)) :
    read (cs ++ rest) = some (n, r ++ rest) := by
  have hne : cs ≠ [] := by rintro rfl; cases hr
  simp only [read, sign_append hne, span_append h] at hr ⊢
  split at hr
  · cases hr
  · rename_i hd
    rw [if_neg hd]
    obtain ⟨⟨fraction, u⟩, hf, hr⟩ := Option.bind_eq_some_iff.mp hr
    obtain ⟨⟨exponent, v⟩, he, hr⟩ := Option.bind_eq_some_iff.mp hr
    obtain ⟨m, hm, hr⟩ := Option.bind_eq_some_iff.mp hr
    simp only [Option.pure_def, Option.some.injEq, Prod.mk.injEq] at hr
    obtain ⟨rfl, rfl⟩ := hr
    simp only at he hm
    simp only [fractionPart_append h hf, exponentPart_append h he, hm, Option.bind_eq_bind,
      Option.bind_some, Option.pure_def]

end Appending

/-! ## 2. Whole numbers -/

theorem head?_toDigits_ne_zero {n : Nat} (h : 0 < n) : (Nat.toDigits 10 n).head? ≠ some '0' := by
  induction n using Nat.strongRecOn with
  | ind n ih =>
      by_cases hn : n < 10
      · have hall : ∀ m, m < 10 → 0 < m → ([m.digitChar] : List Char).head? ≠ some '0' := by decide
        rw [Nat.toDigits_of_lt_base hn]
        exact hall n hn h
      · have hne : Nat.toDigits 10 (n / 10) ≠ [] := Nat.toDigits_ne_nil
        rw [Nat.toDigits_of_base_le (by decide) (Nat.le_of_not_lt hn), List.head?_append,
          List.head?_eq_some_head hne, Option.some_or, ← List.head?_eq_some_head hne]
        exact ih (n / 10) (by omega) (by omega)

theorem foldl_digitValue_toDigits (n : Nat) :
    (Nat.toDigits 10 n).foldl (fun acc d => acc * 10 + digitValue d) 0 = n := by
  have h : Nat.ofDigitChars 10 (Nat.toDigits 10 n) 0 = n := Nat.ofDigitChars_ten_toDigits
  rw [Nat.ofDigitChars_eq_foldl] at h
  simpa only [digitValue, Nat.mul_comm] using h

/-- Digits that are not preceded by needless zeros are read as a whole number of the format. -/
theorem read_toDigits (negative : Bool) {n : Nat} {x : Number} (h : whole negative n = some x) :
    read ((if negative then ['-'] else []) ++ Nat.toDigits 10 n) = some (x, []) := by
  have hd : ∀ c ∈ Nat.toDigits 10 n, c.isDigit = true := fun c hc =>
    Nat.isDigit_of_mem_toDigits (by decide) (by decide) hc
  have hsign : sign ((if negative then ['-'] else []) ++ Nat.toDigits 10 n) =
      (negative, Nat.toDigits 10 n) := by
    cases negative with
    | true => rfl
    | false =>
        cases hc : Nat.toDigits 10 n with
        | nil => exact absurd hc Nat.toDigits_ne_nil
        | cons c t =>
            have hm : c ≠ '-' := by
              rintro rfl
              exact absurd (hd '-' (by rw [hc]; exact List.mem_cons_self)) (by decide)
            simp [sign, hm]
  have hspan : (Nat.toDigits 10 n).span Char.isDigit = (Nat.toDigits 10 n, []) := by
    rw [List.span_eq_takeWhile_dropWhile, List.takeWhile_eq_self_iff.mpr hd,
      List.dropWhile_eq_nil_iff.mpr hd]
  have hok : ((Nat.toDigits 10 n).isEmpty || ((Nat.toDigits 10 n).head? == some '0' &&
      (Nat.toDigits 10 n).length != 1)) = false := by
    have hne : (Nat.toDigits 10 n).isEmpty = false := by simp [Nat.toDigits_ne_nil]
    rcases Nat.eq_zero_or_pos n with rfl | hpos
    · decide
    · rw [hne, beq_eq_false_iff_ne.mpr (head?_toDigits_ne_zero hpos)]
      rfl
  simp only [read, hsign, hspan, hok]
  simp [fractionPart, exponentPart, ofParts, foldl_digitValue_toDigits, h]

/-- **Whole numbers of the format are read back.** -/
theorem readsBack_int {n : Int} (hl : -0x8000000000000000 ≤ n) (hu : n < 0x10000000000000000) :
    ReadsBack (.int n) := by
  rw [ReadsBack, text, Int.toString_eq_repr, Int.repr_eq_if]
  split
  · rename_i hn
    have hw : whole false n.toNat = some (.int n) := by
      have hlt : n.toNat < 0x10000000000000000 := by omega
      simp [whole, hlt, Int.toNat_of_nonneg hn]
    rw [Nat.toList_repr]
    exact read_toDigits false hw
  · rename_i hn
    have hw : whole true (-n).toNat = some (.int n) := by
      have hle : (-n).toNat ≤ 0x8000000000000000 := by omega
      have hne : (-n).toNat ≠ 0 := by omega
      have hnat : -((-n).toNat : Int) = n := by omega
      simp only [whole, if_true, if_neg hne, if_pos hle, hnat]
    rw [String.toList_append, Nat.toList_repr]
    exact read_toDigits true hw

end Number

namespace Json

/-! ## 3. Strings -/

/-- The two digits of a control's escape name its code. -/
theorem hexFour_control : ∀ n, n < 32 →
    (match (if n < 16 then ['0'] else []) ++ Text.hexDigits n with
      | [a, b] => hexFour '0' '0' a b
      | _ => none) = some n := by decide

/-- A control is read back from the escape with its code. -/
theorem readString_control {c : Char} (h : c.toNat < 32) (rest : List Char) :
    readString (['\\', 'u', '0', '0'] ++ (if c.toNat < 16 then ['0'] else []) ++
      Text.hexDigits c.toNat ++ rest) = (readString rest).map fun (s, r) => (c :: s, r) := by
  have hx := hexFour_control c.toNat h
  split at hx
  · rename_i a b hab
    have hlow : ¬ (0xD800 ≤ c.toNat ∧ c.toNat < 0xDC00) := by omega
    have hhigh : ¬ (0xDC00 ≤ c.toNat ∧ c.toNat < 0xE000) := by omega
    rw [List.append_assoc ['\\', 'u', '0', '0'], hab]
    simp only [List.cons_append, List.nil_append]
    rw [readString]
    simp only [hx, if_neg hlow, if_neg hhigh, Char.ofNat_toNat]
  · cases hx

/-- A character that stands for itself is read as itself. -/
theorem readString_plain {c : Char} (hq : c ≠ '"') (hb : c ≠ '\\') (h : ¬ c.toNat < 32)
    (rest : List Char) : readString (c :: rest) = (readString rest).map fun (s, r) => (c :: s, r) := by
  have hc : ¬ (c = '\\' ∨ c.toNat < 32) := not_or.mpr ⟨hb, h⟩
  rw [readString.eq_def]
  split
  case h_5 =>
    rename_i heq
    obtain ⟨rfl, rfl⟩ := List.cons.inj heq
    rw [if_neg hc]
  case h_1 heq => cases heq
  all_goals
    rename_i heq
    obtain ⟨rfl, -⟩ := List.cons.inj heq
    first | exact absurd rfl hq | exact absurd rfl hb

theorem readString_escapeChar (c : Char) (rest : List Char) :
    readString (escapeChar c ++ rest) = (readString rest).map fun (s, r) => (c :: s, r) := by
  unfold escapeChar
  split
  · subst_vars; simp [readString, shortEscape]
  split
  · subst_vars; simp [readString, shortEscape]
  split
  · subst_vars; simp [readString, shortEscape]
  split
  · subst_vars; simp [readString, shortEscape]
  split
  · subst_vars; simp [readString, shortEscape]
  split
  · rename_i h
    have hc : c = '\x08' := by rw [← Char.ofNat_toNat c, h]
    subst hc; simp [readString, shortEscape]
  split
  · rename_i h
    have hc : c = '\x0c' := by rw [← Char.ofNat_toNat c, h]
    subst hc; simp [readString, shortEscape]
  split
  · rename_i h
    exact readString_control h rest
  · rename_i hq hb _ _ _ _ _ hc
    exact readString_plain hq hb hc rest

/-- **A string is read back up to its closing quote.** -/
theorem readString_escape (s rest : List Char) :
    readString (s.flatMap escapeChar ++ '"' :: rest) = some (s, rest) := by
  induction s with
  | nil => simp [readString]
  | cons c s ih =>
      rw [List.flatMap_cons, List.append_assoc, readString_escapeChar, ih]
      rfl

/-! ## 4. Values -/

mutual

/-- Every whole number in the value lies in the range of the format, and every double is read
    back. -/
def NumbersReadBack : Json → Prop
  | .num (.int n) => -0x8000000000000000 ≤ n ∧ n < 0x10000000000000000
  | .num (.double x) => Number.ReadsBack (.double x)
  | .arr items => ItemsReadBack items
  | .obj fields => FieldsReadBack fields
  | _ => True

/-- `NumbersReadBack` of every element. -/
def ItemsReadBack : List Json → Prop
  | [] => True
  | v :: rest => v.NumbersReadBack ∧ ItemsReadBack rest

/-- `NumbersReadBack` of every field's value. -/
def FieldsReadBack : List (String × Json) → Prop
  | [] => True
  | (_, v) :: rest => v.NumbersReadBack ∧ FieldsReadBack rest

end

theorem readsBack_of_numbersReadBack {n : Number} (h : (Json.num n).NumbersReadBack) :
    n.ReadsBack := by
  cases n with
  | int n => exact Number.readsBack_int h.1 h.2
  | double x => exact h

theorem toList_stringText (s : String) :
    (stringText s).toList = '"' :: (s.toList.flatMap escapeChar ++ ['"']) := by
  simp [stringText]

theorem toList_text_arr (items : List Json) :
    (Json.arr items).text.toList = '[' :: ((itemsText items).toList ++ [']']) := by
  simp [text]

theorem toList_text_obj (fields : Fields) :
    (Json.obj fields).text.toList = '\x7b' :: ((fieldsText fields).toList ++ ['\x7d']) := by
  simp [text]

/-- A number starts with its sign or a digit. -/
theorem head_of_readsBack {n : Number} (h : n.ReadsBack) :
    ∃ c t, n.text.toList = c :: t ∧ (c = '-' ∨ c.isDigit) := by
  unfold Number.ReadsBack at h
  cases ht : n.text.toList with
  | nil => rw [ht] at h; cases h
  | cons c t =>
      refine ⟨c, t, rfl, ?_⟩
      by_contra hc
      obtain ⟨hm, hd⟩ := not_or.mp hc
      have hs : Number.sign (c :: t) = (false, c :: t) := by simp [Number.sign, hm]
      have hspan : (c :: t).span Char.isDigit = ([], c :: t) := by simp [hd]
      rw [ht] at h
      simp only [Number.read, hs, hspan] at h
      cases h

/-- A value's text starts with neither a blank nor a closing bracket. -/
theorem head_text {v : Json} (h : v.NumbersReadBack) :
    ∃ c t, v.text.toList = c :: t ∧ isSpace c = false ∧ c ≠ ']' := by
  cases v with
  | null => exact ⟨'n', ['u', 'l', 'l'], by decide, by decide, by decide⟩
  | bool b =>
      cases b with
      | true => exact ⟨'t', ['r', 'u', 'e'], by decide, by decide, by decide⟩
      | false => exact ⟨'f', ['a', 'l', 's', 'e'], by decide, by decide, by decide⟩
  | num n =>
      obtain ⟨c, t, ht, hc⟩ := head_of_readsBack (readsBack_of_numbersReadBack h)
      refine ⟨c, t, ht, ?_, ?_⟩
      · cases hs : isSpace c with
        | false => rfl
        | true =>
            simp only [isSpace, Bool.or_eq_true, decide_eq_true_eq] at hs
            rcases hs with ((rfl | rfl) | rfl) | rfl <;> exact absurd hc (by decide)
      · rintro rfl
        exact absurd hc (by decide)
  | str s => exact ⟨'"', _, toList_stringText s, by decide, by decide⟩
  | arr items => exact ⟨'[', _, toList_text_arr items, by decide, by decide⟩
  | obj fields => exact ⟨'\x7b', _, toList_text_obj fields, by decide, by decide⟩

theorem skipSpace_text {v : Json} (h : v.NumbersReadBack) (rest : List Char) :
    skipSpace (v.text.toList ++ rest) = v.text.toList ++ rest := by
  obtain ⟨c, t, ht, hc, -⟩ := head_text h
  rw [ht, List.cons_append, skipSpace, List.dropWhile_cons_of_neg (by rw [hc]; decide)]

theorem readValue_number {n : Number} (h : n.ReadsBack) {rest : List Char}
    (hr : Number.Ends rest) (fuel depth : Nat) :
    readValue (fuel + 1) depth (n.text.toList ++ rest) = some (.num n, rest) := by
  obtain ⟨c, t, ht, hc⟩ := head_of_readsBack h
  have hread : Number.read (n.text.toList ++ rest) = some (n, rest) := Number.read_append hr h
  rw [ht, List.cons_append] at hread ⊢
  unfold readValue
  split
  case h_7 => rw [hread]; rfl
  all_goals
    rename_i heq
    obtain ⟨rfl, -⟩ := List.cons.inj heq
    exact absurd hc (by decide)

/-! ## 5. Reading back -/

/-- A separator or a closing bracket ends a number. -/
theorem ends_cons {c : Char} (h : c = ',' ∨ c = ']' ∨ c = '\x7d') (rest : List Char) :
    Number.Ends (c :: rest) := by
  rintro d ⟨⟩
  rcases h with rfl | rfl | rfl <;> decide

theorem skipSpace_cons {c : Char} (h : isSpace c = false) (rest : List Char) :
    skipSpace (c :: rest) = c :: rest :=
  List.dropWhile_cons_of_neg (by rw [h]; decide)

theorem toList_itemsText_cons (v w : Json) (more : List Json) :
    (itemsText (v :: w :: more)).toList =
      v.text.toList ++ ',' :: (itemsText (w :: more)).toList := by
  simp [itemsText]

theorem toList_fieldsText_singleton (k : String) (v : Json) :
    (fieldsText [(k, v)]).toList =
      '"' :: (k.toList.flatMap escapeChar ++ '"' :: ':' :: v.text.toList) := by
  simp [fieldsText, toList_stringText]

theorem toList_fieldsText_cons (k : String) (v : Json) (f : String × Json) (more : Fields) :
    (fieldsText ((k, v) :: f :: more)).toList =
      '"' :: (k.toList.flatMap escapeChar ++ '"' :: ':' :: (v.text.toList ++
        ',' :: (fieldsText (f :: more)).toList)) := by
  simp [fieldsText, toList_stringText]

/-- Elements start with neither a blank nor a closing bracket. -/
theorem head_itemsText {v : Json} (h : v.NumbersReadBack) (more : List Json) :
    ∃ c t, (itemsText (v :: more)).toList = c :: t ∧ isSpace c = false ∧ c ≠ ']' := by
  obtain ⟨c, t, ht, hc⟩ := head_text h
  cases more with
  | nil => exact ⟨c, t, ht, hc⟩
  | cons w more => exact ⟨c, _, by rw [toList_itemsText_cons, ht, List.cons_append], hc⟩

/-- Fields start with a quote. -/
theorem head_fieldsText (f : String × Json) (more : Fields) :
    ∃ t, (fieldsText (f :: more)).toList = '"' :: t := by
  cases more with
  | nil => exact ⟨_, toList_fieldsText_singleton f.1 f.2⟩
  | cons g more => exact ⟨_, toList_fieldsText_cons f.1 f.2 g more⟩

/-- The reader has a step left wherever a text of some length is to be read. -/
theorem exists_succ {fuel n : Nat} (h : n + 1 ≤ fuel) : ∃ f, fuel = f + 1 := ⟨fuel - 1, by omega⟩

mutual

/-- **A value in front of anything is read, and the rest is left.** -/
theorem readValue_text : ∀ (v : Json) (fuel depth : Nat) (rest : List Char), v.Sorted →
    v.NumbersReadBack → v.depth ≤ depth → 2 * v.text.toList.length ≤ fuel → Number.Ends rest →
    readValue fuel depth (v.text.toList ++ rest) = some (v, rest)
  | .null => by
      intro fuel depth rest _ _ _ hf _
      obtain ⟨fuel, rfl⟩ : ∃ f, fuel = f + 1 := exists_succ (n := 7) hf
      simp [text, readValue]
  | .bool b => by
      intro fuel depth rest _ _ _ hf _
      obtain ⟨fuel, rfl⟩ : ∃ f, fuel = f + 1 :=
        ⟨fuel - 1, by cases b <;> simp [text] at hf <;> omega⟩
      cases b <;> simp [text, readValue]
  | .num n => by
      intro fuel depth rest _ hn _ hf hr
      have hback := readsBack_of_numbersReadBack hn
      obtain ⟨c, t, ht, -⟩ := head_of_readsBack hback
      have ht' : (Json.num n).text.toList = c :: t := ht
      obtain ⟨fuel, rfl⟩ : ∃ f, fuel = f + 1 := ⟨fuel - 1, by rw [ht'] at hf; simp at hf; omega⟩
      exact readValue_number hback hr fuel depth
  | .str s => by
      intro fuel depth rest _ _ _ hf _
      obtain ⟨fuel, rfl⟩ : ∃ f, fuel = f + 1 :=
        ⟨fuel - 1, by rw [text, toList_stringText] at hf; simp at hf; omega⟩
      rw [text, toList_stringText, List.cons_append, List.append_assoc, List.singleton_append,
        readValue, readString_escape]
      simp
  | .arr items => by
      intro fuel depth rest hs hn hd hf _
      rw [toList_text_arr] at hf ⊢
      obtain ⟨fuel, rfl⟩ : ∃ f, fuel = f + 1 := ⟨fuel - 1, by simp at hf; omega⟩
      obtain ⟨depth, rfl⟩ : ∃ d, depth = d + 1 := ⟨depth - 1, by simp [Json.depth] at hd; omega⟩
      rw [List.cons_append, List.append_assoc, List.singleton_append, readValue]
      cases items with
      | nil => simp [itemsText, skipSpace, isSpace]
      | cons v more =>
          have hitems := readItems_text (v :: more) fuel depth rest (List.cons_ne_nil _ _) hs hn
            (by simpa [Json.depth] using hd) (by simp at hf; omega)
          obtain ⟨c, t, ht, hc, hne⟩ := head_itemsText hn.1 more
          rw [ht] at hitems ⊢
          rw [List.cons_append] at hitems ⊢
          simp only [skipSpace_cons hc]
          split
          · rename_i heq
            exact absurd (List.cons.inj heq).1 hne
          · rw [hitems]
            rfl
  | .obj fields => by
      intro fuel depth rest hs hn hd hf _
      rw [toList_text_obj] at hf ⊢
      obtain ⟨fuel, rfl⟩ : ∃ f, fuel = f + 1 := ⟨fuel - 1, by simp at hf; omega⟩
      obtain ⟨depth, rfl⟩ : ∃ d, depth = d + 1 := ⟨depth - 1, by simp [Json.depth] at hd; omega⟩
      rw [List.cons_append, List.append_assoc, List.singleton_append, readValue]
      cases fields with
      | nil => simp [fieldsText, skipSpace, isSpace]
      | cons f more =>
          have hfields := readFields_text (f :: more) [] fuel depth rest (List.cons_ne_nil _ _)
            hs.1 hs.2 hn (by simpa [Json.depth] using hd) (by simp at hf; omega)
          obtain ⟨t, ht⟩ := head_fieldsText f more
          rw [ht] at hfields ⊢
          rw [List.cons_append] at hfields ⊢
          simp only [skipSpace_cons (c := '"') (by decide)]
          split
          · rename_i heq
            exact absurd (List.cons.inj heq).1 (by decide)
          · rw [hfields]
            rfl

/-- Elements are read up to the closing bracket. -/
theorem readItems_text : ∀ (items : List Json) (fuel depth : Nat) (rest : List Char), items ≠ [] →
    SortedItems items → ItemsReadBack items → itemsDepth items ≤ depth →
    2 * (itemsText items).toList.length + 1 ≤ fuel →
    readItems fuel depth ((itemsText items).toList ++ ']' :: rest) = some (items, rest)
  | [] => by
      intro fuel depth rest hne
      exact absurd rfl hne
  | [v] => by
      intro fuel depth rest _ hs hn hd hf
      obtain ⟨fuel, rfl⟩ := exists_succ hf
      have hv := readValue_text v fuel depth (']' :: rest) hs.1 hn.1
        (by simpa [itemsDepth] using hd) (by rw [itemsText] at hf; omega)
        (ends_cons (by decide) rest)
      rw [itemsText, readItems, skipSpace_text hn.1, hv]
      simp only [skipSpace_cons (c := ']') (by decide)]
  | v :: w :: more => by
      intro fuel depth rest _ hs hn hd hf
      obtain ⟨fuel, rfl⟩ := exists_succ hf
      rw [toList_itemsText_cons] at hf
      have hdv : v.depth ≤ depth ∧ itemsDepth (w :: more) ≤ depth := by
        rw [itemsDepth] at hd; omega
      have hv := readValue_text v fuel depth (',' :: ((itemsText (w :: more)).toList ++ ']' :: rest))
        hs.1 hn.1 hdv.1 (by simp at hf ⊢; omega) (ends_cons (by decide) _)
      have hmore := readItems_text (w :: more) fuel depth rest (List.cons_ne_nil _ _) hs.2 hn.2
        hdv.2 (by simp at hf ⊢; omega)
      rw [toList_itemsText_cons, List.append_assoc, List.cons_append, readItems,
        skipSpace_text hn.1, hv]
      simp only [skipSpace_cons (c := ',') (by decide), hmore]
      rfl

/-- Fields are read up to the closing brace, after those read before. -/
theorem readFields_text : ∀ (fields acc : Fields) (fuel depth : Nat) (rest : List Char),
    fields ≠ [] → Fields.Ordered (acc ++ fields) → SortedFields fields → FieldsReadBack fields →
    fieldsDepth fields ≤ depth → 2 * (fieldsText fields).toList.length + 1 ≤ fuel →
    readFields fuel depth acc ((fieldsText fields).toList ++ '\x7d' :: rest) =
      some (acc ++ fields, rest)
  | [] => by
      intro acc fuel depth rest hne
      exact absurd rfl hne
  | [(k, v)] => by
      intro acc fuel depth rest _ ho hs hn hd hf
      obtain ⟨fuel, rfl⟩ := exists_succ hf
      rw [toList_fieldsText_singleton] at hf ⊢
      have hv := readValue_text v fuel depth ('\x7d' :: rest) hs.1 hn.1
        (by simpa [fieldsDepth] using hd) (by simp at hf ⊢; omega) (ends_cons (by decide) rest)
      simp only [List.cons_append, List.append_assoc, readFields,
        skipSpace_cons (c := '"') (by decide), readString_escape,
        skipSpace_cons (c := ':') (by decide), skipSpace_text hn.1, hv,
        skipSpace_cons (c := '\x7d') (by decide), String.ofList_toList, ho.put_eq_append]
  | (k, v) :: f :: more => by
      intro acc fuel depth rest _ ho hs hn hd hf
      obtain ⟨fuel, rfl⟩ := exists_succ hf
      rw [toList_fieldsText_cons] at hf ⊢
      have hdv : v.depth ≤ depth ∧ fieldsDepth (f :: more) ≤ depth := by
        rw [fieldsDepth] at hd; omega
      have hv := readValue_text v fuel depth
        (',' :: ((fieldsText (f :: more)).toList ++ '\x7d' :: rest)) hs.1 hn.1 hdv.1
        (by simp at hf ⊢; omega) (ends_cons (by decide) _)
      have hmore := readFields_text (f :: more) (acc ++ [(k, v)]) fuel depth rest
        (List.cons_ne_nil _ _) (by simpa using ho) hs.2 hn.2 hdv.2 (by simp at hf ⊢; omega)
      simp only [List.cons_append, List.append_assoc, readFields,
        skipSpace_cons (c := '"') (by decide), readString_escape,
        skipSpace_cons (c := ':') (by decide), skipSpace_text hn.1, hv,
        skipSpace_cons (c := ',') (by decide), String.ofList_toList, ho.put_eq_append]
      simpa using hmore

end

/-- **The text of a value is read as the value.** -/
theorem parse?_text {v : Json} (hs : v.Sorted) (hn : v.NumbersReadBack)
    (hd : v.depth ≤ maxDepth) : parse? v.text = some v := by
  have hv := readValue_text v (2 * v.text.toList.length + 2) maxDepth [] hs hn hd (by omega)
    Number.ends_nil
  have hskip := skipSpace_text hn []
  rw [List.append_nil] at hv hskip
  simp only [parse?, hskip, hv]
  rfl

end Json

end LabIndex
